import ChatFeed.Command.Address
import ChatFeed.Command.Arguments
import ChatFeed.Replay.Playback
import ChatFeed.Report.Filter
import ChatFeed.Settings.Dotenv
import ChatFeed.Settings.Load

/-!
# Command/Run — running the command

`run` is the whole program as a function of its arguments, its environment and its files: it loads
the settings, plays the capture, and gives the files after that, the log and how it ended.
-/

namespace ChatFeed.Command

/-- **Where a log line comes from**: the command itself, or what it runs. -/
inductive Origin
  | command
  | inside
  deriving DecidableEq, Repr

/-- The name that filters have for an origin. -/
def Origin.part : Origin → String
  | .command => "symphony"
  | .inside => "symphony_core"

/-- **Why the command failed.** -/
inductive RunError
  | settings (cause : SettingsError)
  | logDirectory (path : String) (fault : StorageFault)
  | notAnAddress (address : String)
  | noExporter
  | capture (cause : Capture.OpenError)
  | polling (cause : PollError)

/-- The sentence that tells it, without its causes. -/
def RunError.text : RunError → String
  | .settings cause => cause.text
  | .logDirectory path _ => "Failed to create log directory " ++ path
  | .notAnAddress address => "metrics.prometheus_addr is not a socket address: " ++ address
  | .noExporter => "Failed to install Prometheus exporter"
  | .capture cause => cause.text
  | .polling _ => "Datafeed poller failed"

/-- **How the command ended**: the request, the error if it failed, the log as it is shown, whether
in JSON, the file that it is written to as well, and all files. -/
structure Result where
  request : Request
  error : Option RunError := none
  log : List (Origin × Line) := []
  json : Bool := false
  logFile : Option String := none
  folder : Folder

/-- The code with which the command ends. -/
def Result.code (r : Result) : Nat :=
  match r.request with
  | .usage => 2
  | _ => if r.error.isSome then 1 else 0

/-- Whether the command keeps waiting for more when it is done with the capture. -/
def Result.waits (r : Result) : Bool :=
  match r.request with
  | .replay p => p.follow && r.error.isNone
  | _ => false

/-- **The state of a run**: the files, the lines logged so far, and the file for them. -/
structure Progress where
  folder : Folder
  lines : List (Origin × Line) := []
  logFile : Option String := none

/-- A run that may fail; what was logged before that stays. -/
abbrev Job (α : Type) := ExceptT RunError (StateM Progress) α

/-- Log a line that informs. -/
def inform (message : String) (details : List (String × Detail)) : Job Unit :=
  modify fun p => { p with lines := p.lines ++ [(.command, ⟨.info, message, details⟩)] }

/-- Log what has been remarked inside. -/
def logInside (j : Journal) : Job Unit :=
  modify fun p => { p with lines := p.lines ++ j.lines.map fun l => (.inside, l) }

/-- The name of a log file of a day. -/
def logName (now : String) : String := "symphony.log." ++ String.ofList (now.toList.take 10)

/-- Make the directory of log files, with a file for today. -/
def openLog (e : Environment) (now : String) : Job Unit := do
  let directory := Places.logs e
  match (← get).folder.makeDirectory directory with
  | .error fault => throw (.logDirectory directory fault)
  | .ok folder =>
    let file := Storage.join directory (logName now)
    let folder := if folder.has file then folder else folder.plant file (.file (.text ""))
    modify fun p => { p with folder := folder, logFile := some file }

/-- Show measurements at an address, if there is one. -/
def openExporter (address : Option String) : Job Unit := do
  match address with
  | none => return ()
  | some s =>
    match Address.read s with
    | none => throw (.notAnAddress s)
    | some a =>
      if !a.isLocal then throw .noExporter
      inform "Prometheus exporter listening" [("addr", .text a.text)]

/-- **Play the capture.** -/
def play (s : Settings) (r : Replay) (now : String) : Job Unit := do
  inform "Configuration loaded" [("user_id", .text s.bot.userId),
    ("max_batch_size", .number s.feed.batch), ("read_timeout_secs", .number s.feed.timeoutSecs)]
  let folder := (← get).folder
  match Capture.openFile folder r.events with
  | .error cause => throw (.capture cause)
  | .ok c =>
    let k := (Playback.cast r.transcripts now).company Playback.depth
    let p : Playback := { capture := c, world := Playback.freshWorld s.bot.user folder }
    let ending := (p.remark (Playback.loaded r.events c)).play k s.feed.poll none
    logInside (ending.world.journal.take ending.remarks)
    inform "Capture drained" []
    logInside (ending.world.journal.drop ending.remarks)
    modify fun p => { p with folder := ending.world.folder }
    inform "Replay finished" [("chats", .number ending.world.directory.rooms.size)]
    match ending.stopped with
    | some cause => throw (.polling cause)
    | none => return ()

/-- Replay with settings that are loaded. -/
def replay (e : Environment) (now : String) (r : Replay) (s : Settings) : Job Unit := do
  if s.log.file then openLog e now
  openExporter s.metricsAddress
  play s r now

/-- The file of variables in the working directory. -/
def variablesFile : String := ".env"

/-- An environment with the variables of the file for them. -/
def environment (e : Environment) (f : Folder) : Environment :=
  Dotenv.extend e (f.front variablesFile)

/-- The settings file of a replay. -/
def settingsFile (r : Replay) (e : Environment) (f : Folder) : String :=
  r.settings.getD (Places.settings e f)

/-- **The files that a command reads**, given its environment and where its settings are. -/
def filesRead (arguments : List String) (e : Environment) (f : Folder) : List String :=
  match Request.ofArguments arguments with
  | .replay r => [settingsFile r e f, r.events]
  | _ => []

/-- **Run the command.** -/
def run (arguments : List String) (e : Environment) (folder : Folder) (now : String) : Result :=
  let e := environment e folder
  let request := Request.ofArguments arguments
  match request with
  | .replay r =>
    match Settings.load folder (settingsFile r e folder) e with
    | .error cause => { request := request, error := some (.settings cause), folder := folder }
    | .ok s =>
      let (outcome, p) := (replay e now r s).run.run { folder := folder }
      let filter := LogFilter.ofText (e.get? "RUST_LOG")
      { request := request
        error := match outcome with
          | .ok _ => none
          | .error cause => some cause
        log := p.lines.filter fun l => filter.shows l.1.part l.2.level
        json := r.json || s.log.json
        logFile := p.logFile
        folder := p.folder }
  | _ => { request := request, folder := folder }

end ChatFeed.Command
