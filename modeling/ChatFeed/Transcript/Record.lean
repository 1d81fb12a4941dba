import ChatFeed.Report.Journal
import ChatFeed.Storage.Folder
import ChatFeed.Transcript.Entry

/-!
# Transcript/Record — writing messages down

A message is logged and, where there is a directory for transcripts, added as a line to its
stream's file.  The directory is made when it is missing.
-/

namespace ChatFeed.Transcript

/-- **Why a message could not be written down**, with the path concerned. -/
inductive WriteError
  | makeDirectory (path : String) (fault : StorageFault)
  | openFile (path : String) (fault : StorageFault)
  deriving DecidableEq, Repr

/-- The sentence that tells what was tried. -/
def WriteError.text : WriteError → String
  | .makeDirectory path _ => "Failed to create " ++ path
  | .openFile path _ => "Failed to open " ++ path

/-- What went wrong with the files. -/
def WriteError.fault : WriteError → StorageFault
  | .makeDirectory _ fault => fault
  | .openFile _ fault => fault

/-- The error as a chain of sentences, the outermost first. -/
def WriteError.chain (e : WriteError) : List String := [e.text, e.fault.text]

/-- **Write a message down** in a directory; a directory that was made for it stays. -/
def write (directory recordedAt : String) (m : Message) (f : Folder) :
    Option WriteError × Folder :=
  let file := path directory m.stream
  match f.makeDirectory directory with
  | .error e => (some (.makeDirectory (Storage.shownDirectory directory) e), f)
  | .ok f =>
    match f.append file (String.ofList (entry recordedAt m)) with
    | .error e => (some (.openFile file e), f)
    | .ok f => (none, f)

/-- Write a message down if there is a directory for it. -/
def record (directory : Option String) (recordedAt : String) (m : Message) (f : Folder) :
    Option WriteError × Folder :=
  match directory with
  | none => (none, f)
  | some d => write d recordedAt m f

/-- What is logged for a message. -/
def messageLine (m : Message) : Remark :=
  .info "Message" [("stream_id", .text m.stream), ("message_id", .text m.id),
    ("from", .text m.sender), ("body", .text m.body)]

end ChatFeed.Transcript
