import ChatFeed.Feed.ReadError
import ChatFeed.Feed.Wire
import ChatFeed.Number.Numeral
import ChatFeed.Storage.Folder
import ChatFeed.Text.Blank
import ChatFeed.Text.Lines

/-!
# Replay/Capture — a recorded feed

A capture is a text with one event in each line; blank lines do not count.  It is read like a feed:
a cursor is the numeral of the number of events before the position, and where no event is left
there is nothing to serve.
-/

namespace ChatFeed

/-- **A recorded feed.** -/
structure Capture where
  events : List Event
  deriving DecidableEq, Repr, Inhabited

/-- **A line that is no event**: its number, counted from one, and the fault in it. -/
structure LineFault where
  line : Nat
  cause : Json.Failure

/-- The sentence that tells which line it is. -/
def LineFault.text (f : LineFault) : String :=
  "line " ++ toString f.line ++ ": not a datafeed event"

namespace Capture

/-- The event that a line is. -/
def readLine (cs : List Char) : Json.Scan Event :=
  Json.readWhole (Event.typed.run Json.topDepth) cs

/-- The events of some lines, of which the first has number `n`. -/
def readLines (n : Nat) : List (List Char) → Except LineFault (List Event)
  | [] => .ok []
  | line :: lines =>
    let line := Text.trim line
    if line.isEmpty then readLines (n + 1) lines
    else match readLine line with
      | .error cause => .error ⟨n, cause⟩
      | .ok e => do .ok (e :: (← readLines (n + 1) lines))

/-- **The capture that a text is.** -/
def parse (cs : List Char) : Except LineFault Capture := do
  .ok ⟨← readLines 1 (Text.lines cs)⟩

/-! ## Opening a file -/

/-- **Why a file is no capture.** -/
inductive OpenError
  | unreadable (path : String) (fault : StorageFault)
  | invalid (path : String) (fault : LineFault)

/-- The sentence that tells it, without its causes. -/
def OpenError.text : OpenError → String
  | .unreadable path _ => "Failed to read capture " ++ path
  | .invalid path _ => "Invalid capture " ++ path

/-- **Read the capture in a file.** -/
def openFile (f : Folder) (path : String) : Except OpenError Capture :=
  match f.read path with
  | .error fault => .error (.unreadable path fault)
  | .ok s =>
    match parse s.toList with
    | .error fault => .error (.invalid path fault)
    | .ok c => .ok c

/-! ## Reading it like a feed -/

/-- How many events there are. -/
def size (c : Capture) : Nat := c.events.length

/-- **The position that a cursor means**, if it is one of this capture; none means the start. -/
def offset? (c : Capture) : Option Cursor → Option Nat
  | none => some 0
  | some cursor =>
    match Numeral.read Numeral.max64 cursor.token.toList with
    | .ok n => if n ≤ c.size then some n else none
    | .error _ => none

/-- The cursor of a position. -/
def cursorAt (n : Nat) : Cursor := ⟨Numeral.render n⟩

/-- The batch at a position: one event at least, and `max` at most unless that is zero. -/
def batchAt (c : Capture) (start max : Nat) : Batch :=
  let stop := min (start + Nat.max max 1) c.size
  ⟨(c.events.drop start).take (stop - start), some (cursorAt stop)⟩

/-- **What there is to serve at a cursor**: a batch, nothing when the end is reached, or a failure
when the cursor is none of this capture. -/
def serve (c : Capture) (cursor : Option Cursor) (max : Nat) : Except ReadError (Option Batch) :=
  match c.offset? cursor with
  | none => .error (.staleCursor (cursor.map (·.token)))
  | some start => .ok (if start = c.size then none else some (c.batchAt start max))

end Capture

end ChatFeed
