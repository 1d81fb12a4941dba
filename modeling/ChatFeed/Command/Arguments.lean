/-!
# Command/Arguments — what the command line asks for

The one thing to do is `replay`, with the file of events and some options.  An option with a value
takes it from the same argument or from the next one, which must not look like an option; every
option is given once at most; after two hyphens all arguments are files.
-/

namespace ChatFeed.Command

/-- **What to replay, and how.** -/
structure Replay where
  events : String
  settings : Option String := none
  transcripts : Option String := none
  follow : Bool := false
  json : Bool := false
  deriving DecidableEq, Repr

/-- **What a command line asks for.** -/
inductive Request
  | replay (r : Replay)
  | version
  | help
  | usage
  deriving DecidableEq, Repr

/-- The options that take a value. -/
inductive Valued
  | settings
  | transcripts
  deriving DecidableEq, Repr

/-- The options that do not. -/
inductive Switch
  | follow
  | json
  deriving DecidableEq, Repr

/-- What has been read of a command line. -/
structure Draft where
  files : List String := []
  settings : Option String := none
  transcripts : Option String := none
  follow : Bool := false
  json : Bool := false

/-- Set an option with a value: once, and not to nothing. -/
def Draft.setValue (d : Draft) (o : Valued) (value : String) : Option Draft :=
  if value = "" then none
  else match o with
    | .settings => if d.settings.isSome then none else some { d with settings := some value }
    | .transcripts =>
      if d.transcripts.isSome then none else some { d with transcripts := some value }

/-- Set an option without a value, once. -/
def Draft.setSwitch (d : Draft) : Switch → Option Draft
  | .follow => if d.follow then none else some { d with follow := true }
  | .json => if d.json then none else some { d with json := true }

/-- Add a file: one only, and not the empty path. -/
def Draft.addFile (d : Draft) (file : String) : Option Draft :=
  if file = "" ∨ d.files ≠ [] then none else some { d with files := [file] }

/-- **What one argument is.** -/
inductive Word
  | divider
  | help
  | valued (o : Valued) (value : Option String)
  | switch (s : Switch)
  | file (path : String)
  | unknown
  deriving DecidableEq, Repr

/-- A long option, with the value behind an equals sign if there is one. -/
def longWord (name : String) (value : Option String) : Word :=
  match name, value with
  | "config", v => .valued .settings v
  | "transcript-dir", v => .valued .transcripts v
  | "follow", none => .switch .follow
  | "json", none => .switch .json
  | "help", none => .help
  | _, _ => .unknown

/-- The text before the first equals sign, and the text behind it if there is one. -/
def splitEquals (cs : List Char) : String × Option String :=
  match cs.dropWhile (· ≠ '=') with
  | [] => (String.ofList cs, none)
  | _ :: value => (String.ofList (cs.takeWhile (· ≠ '=')), some (String.ofList value))

/-- **What an argument is**, before two hyphens have been seen. -/
def Word.ofText (s : String) : Word :=
  match s.toList with
  | ['-', '-'] => .divider
  | '-' :: '-' :: cs => longWord (splitEquals cs).1 (splitEquals cs).2
  | ['-'] => .file s
  | ['-', 'c'] => .valued .settings none
  | '-' :: 'c' :: '=' :: value => .valued .settings (some (String.ofList value))
  | '-' :: 'c' :: value => .valued .settings (some (String.ofList value))
  | '-' :: 'h' :: _ => .help
  | '-' :: _ => .unknown
  | _ => .file s

/-- Whether an argument can be the value of the option before it. -/
def isValue (s : String) : Bool :=
  match s.toList with
  | ['-'] => true
  | '-' :: _ => false
  | _ => true

/-- A draft as a request: the file has to be there. -/
def Draft.request (d : Draft) : Request :=
  match d.files with
  | [events] => .replay ⟨events, d.settings, d.transcripts, d.follow, d.json⟩
  | _ => .usage

/-- The arguments behind two hyphens. -/
def readFiles (d : Draft) : List String → Request
  | [] => d.request
  | file :: rest =>
    match d.addFile file with
    | some d => readFiles d rest
    | none => .usage

/-- **The arguments of a replay.** -/
def readArguments (d : Draft) : List String → Request
  | [] => d.request
  | arg :: rest =>
    let goOn : Option Draft → Request
      | some d => readArguments d rest
      | none => .usage
    match Word.ofText arg with
    | .divider => readFiles d rest
    | .help => .help
    | .valued o (some value) => goOn (d.setValue o value)
    | .valued o none =>
      match rest with
      | value :: rest =>
        if isValue value then
          match d.setValue o value with
          | some d => readArguments d rest
          | none => .usage
        else .usage
      | [] => .usage
    | .switch s => goOn (d.setSwitch s)
    | .file path => goOn (d.addFile path)
    | .unknown => .usage

/-- **What a command line asks for.** -/
def Request.ofArguments : List String → Request
  | "replay" :: rest => readArguments {} rest
  | "help" :: [] => .help
  | "help" :: "replay" :: [] => .help
  | "help" :: "help" :: [] => .help
  | "--version" :: _ => .version
  | "--help" :: _ => .help
  | arg :: _ =>
    match arg.toList with
    | '-' :: 'V' :: _ => .version
    | '-' :: 'h' :: _ => .help
    | _ => .usage
  | [] => .usage

end ChatFeed.Command
