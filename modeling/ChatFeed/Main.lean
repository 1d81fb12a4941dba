import ChatFeed.Command.Screen
import Std.Time.DateTime.Timestamp

/-!
# Main — the command line

Reads the files that a command looks at, has `Command.run` work on them, puts what it changed back
into the file system, and shows its output.
-/

namespace ChatFeed.Terminal

/-- How many directories upwards a file of variables is looked for. -/
def climb : Nat := 64

/-- What there is at a path of the file system. -/
def lookAt (path : String) : IO (Option Node) := do
  try
    let bytes ← IO.FS.readBinFile path
    return some (.file (.ofBytes bytes.data.toList))
  catch
    | .noFileOrDirectory .. => return none
    | .inappropriateType _ 20 _ => return none
    | _ => return some .directory

/-- A folder with what there is at some more paths. -/
def fetch (folder : Folder) (paths : List String) : IO Folder :=
  paths.foldlM (fun f path => do
    match ← lookAt path with
    | some node => return f.plant path node
    | none => return f) folder

/-- A folder with the file of variables, which is here or in the nearest directory above. -/
def fetchVariables (folder : Folder) : Nat → String → IO Folder
  | 0, _ => return folder
  | n + 1, path => do
    match ← lookAt path with
    | some (.file c) => return folder.plant Command.variablesFile (.file c)
    | _ => fetchVariables folder n ("../" ++ path)

/-- The text of a file, as far as it is text. -/
def readText (path : String) : IO String := do
  match ← lookAt path with
  | some (.file c) => return c.front
  | _ => return ""

/-- The environment that the program was started with. -/
def startEnvironment : IO Environment := do
  let texts ← readText "/proc/self/environ"
  let entries := (texts.splitOn "\x00").filterMap fun text =>
    match text.splitOn "=" with
    | name :: value :: more => some (name, "=".intercalate (value :: more))
    | _ => none
  let accounts ← readText "/etc/passwd"
  let number := Environment.accountNumber? (← readText "/proc/self/status")
  return ⟨entries, number.bind (Environment.homeOf? accounts)⟩

/-- The nodes of a folder that another one does not have. -/
def changes (before after : Folder) : List (String × Node) :=
  (after.nodes.filter fun (place, node) => before.at? place ≠ some node).map fun (place, node) =>
    (Storage.pathOf place, node)

/-- Put some nodes into the file system. -/
def store (nodes : List (String × Node)) : IO Unit :=
  nodes.forM fun
    | (path, .directory) => IO.FS.createDirAll path
    | (path, .file (.text s)) => IO.FS.writeFile path s
    | (path, .file (.binary bytes)) => IO.FS.writeBinFile path ⟨bytes.toArray⟩

/-- The time at hand as a text. -/
def now : IO String :=
  return Date.timeText (← Std.Time.Timestamp.now).toMillisecondsSinceUnixEpoch.toInt.toNat

/-- Wait until the program is stopped from outside. -/
partial def waitForever : IO Unit := do
  IO.sleep 1000
  waitForever

end ChatFeed.Terminal

open ChatFeed in
/-- **The command line.**  A first run tells which files are written, so that what they hold can be
read before the run that counts. -/
def main (arguments : List String) : IO UInt32 := do
  let now ← Terminal.now
  let start ← Terminal.startEnvironment
  let folder ← Terminal.fetchVariables {} Terminal.climb Command.variablesFile
  let folder ← Terminal.fetch folder ["config.toml"]
  let environment := Command.environment start folder
  let folder ← Terminal.fetch folder (Command.filesRead arguments environment folder)
  let rehearsal := (Command.run arguments start folder now).filesWithLog now
  let folder ← Terminal.fetch folder ((Terminal.changes folder rehearsal).map (·.1))
  let result := Command.run arguments start folder now
  Terminal.store (Terminal.changes folder (result.filesWithLog now))
  IO.print (result.output now)
  IO.eprint result.complaint
  if result.waits then Terminal.waitForever
  return result.code.toUInt32
