import ChatFeed.Command.Run

/-!
# Command/Screen — what the command shows

The version and the help go to the screen as they are; a replay shows its log, a line of plain text
or a JSON object for each log line.  An error is told after the log, with its causes.
-/

namespace ChatFeed.Command

/-- The name and version of the program. -/
def versionText : String := "symphony 0.1.0\n"

/-- How the program is used. -/
def usageText : String :=
  "Usage: symphony replay [OPTIONS] <EVENTS>\n\n" ++
  "Arguments:\n" ++
  "  <EVENTS>  JSONL file with one datafeed event per line\n\n" ++
  "Options:\n" ++
  "  -c, --config <CONFIG>                  Path to configuration file\n" ++
  "      --transcript-dir <TRANSCRIPT_DIR>  Write per-stream transcripts to this directory\n" ++
  "      --follow                           Keep polling after the capture is drained\n" ++
  "      --json                             Emit JSON log lines\n" ++
  "  -h, --help                             Print help\n" ++
  "  -V, --version                          Print version\n"

/-! ## The log -/

/-- A detail as JSON text. -/
def detailJson : Detail → List Char
  | .text s => Json.printString s
  | .number n => Json.printInt n

/-- **A log line as a JSON object.** -/
def jsonLine (now : String) (origin : Origin) (l : Line) : String :=
  let fields := ("message", Json.printString l.message) ::
    l.details.map fun (name, d) => (name, detailJson d)
  String.ofList (Json.printObject [("timestamp", Json.printString now),
    ("level", Json.printString l.level.name), ("fields", Json.printObject fields),
    ("target", Json.printString origin.part)])

/-- **A log line as plain text.** -/
def plainLine (now : String) (origin : Origin) (l : Line) : String :=
  " ".intercalate ([now, l.level.name, origin.part ++ ":", l.message] ++
    l.details.map fun (name, d) => name ++ "=" ++ d.show)

/-- The log as plain text, a line for each. -/
def Result.plainLog (r : Result) (now : String) : List String :=
  r.log.map fun (origin, l) => plainLine now origin l

/-- The log as it is shown, a line for each. -/
def Result.shownLog (r : Result) (now : String) : List String :=
  if r.json then r.log.map fun (origin, l) => jsonLine now origin l else r.plainLog now

/-- The files, with the log added to the file that is for it. -/
def Result.filesWithLog (r : Result) (now : String) : Folder :=
  match r.logFile with
  | none => r.folder
  | some file => (r.plainLog now).foldl (fun f l => (f.append file l).toOption.getD f) r.folder

/-! ## Errors -/

/-- The sentence that tells what is wrong with a JSON text. -/
def failureText : Json.Failure → String
  | .ended => "the text ends inside a value"
  | .malformed => "the text is not JSON"
  | .mismatch cause => cause.message .compact

/-- The sentence that tells what is wrong with a text of settings. -/
def documentText : DocumentFault → String
  | .notToml => "the text is not TOML"
  | .mismatch cause => cause.message .fixed

/-- **The causes of an error**, the nearest first. -/
def RunError.causes : RunError → List String
  | .settings (.unreadable _ fault) => [fault.text]
  | .settings (.unparsable _ fault) => [documentText fault]
  | .settings (.badNumber _ _ fault) => [fault.message]
  | .settings _ => []
  | .logDirectory _ fault => [fault.text]
  | .notAnAddress _ => ["invalid socket address syntax"]
  | .noExporter => ["the address is not one of this machine"]
  | .capture (.unreadable _ fault) => [fault.text]
  | .capture (.invalid _ fault) => [fault.text, failureText fault.cause]
  | .polling cause => [cause.text]

/-- Causes as lines, numbered from zero when there are several. -/
def causeLines : List String → List String
  | [] => []
  | [cause] => ["", "Caused by:", "    " ++ cause]
  | causes =>
    "" :: "Caused by:" :: causes.mapIdx fun i cause => "    " ++ toString i ++ ": " ++ cause

/-- **The text of an error**, with its causes. -/
def RunError.report (e : RunError) : String :=
  "\n".intercalate (("Error: " ++ e.text) :: causeLines e.causes) ++ "\n"

/-- **What goes to the screen.** -/
def Result.output (r : Result) (now : String) : String :=
  match r.request with
  | .version => versionText
  | .help => usageText
  | .usage => ""
  | .replay _ => String.join ((r.shownLog now).map (· ++ "\n"))

/-- **What goes to the screen as a complaint.** -/
def Result.complaint (r : Result) : String :=
  match r.request, r.error with
  | .usage, _ => usageText
  | _, some e => e.report
  | _, none => ""

end ChatFeed.Command
