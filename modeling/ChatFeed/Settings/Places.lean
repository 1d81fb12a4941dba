import ChatFeed.Settings.Environment
import ChatFeed.Storage.Folder

/-!
# Settings/Places — where the program keeps its files

Data and settings each have a directory of their own for the user at hand: below a directory that
the environment names, if that is an absolute path, or else below the user's home.  Data may be sent
elsewhere altogether, and a settings file may be named or lie in the working directory.
-/

namespace ChatFeed.Places

/-- The name under which the program keeps its files. -/
def project : String := "symphony-bot"

/-- The home of the user at hand: the one that the environment names, or else the account's. -/
def home? (e : Environment) : Option String := (e.given? "HOME").or e.accountHome

/-- A directory that a variable names by an absolute path, or else one below the home. -/
def userDirectory? (e : Environment) (name below : String) : Option String := do
  match (e.get? name).filter Storage.isAbsolute with
  | some d => some d
  | none => some (Storage.join (← home? e) below)

/-- **The directory of data.** -/
def data (e : Environment) : String :=
  match e.given? "SYMPHONY_DATA_DIR" with
  | some d => d
  | none =>
    match userDirectory? e "XDG_DATA_HOME" ".local/share" with
    | some d => Storage.join d project
    | none => "data"

/-- The directory of log files. -/
def logs (e : Environment) : String := Storage.join (data e) "logs"

/-- The directory of transcripts. -/
def transcripts (e : Environment) : String := Storage.join (data e) "transcripts"

/-- The settings file of the user at hand. -/
def userSettings (e : Environment) : String :=
  match userDirectory? e "XDG_CONFIG_HOME" ".config" with
  | some d => Storage.join (Storage.join d project) "config.toml"
  | none => "config.toml"

/-- **The settings file to use**: the one named, the one in the working directory, or the user's. -/
def settings (e : Environment) (f : Folder) : String :=
  match e.get? "SYMPHONY_CONFIG_PATH" with
  | some path => path
  | none => if f.has "config.toml" then "config.toml" else userSettings e

end ChatFeed.Places
