import ChatFeed.Storage.Path

/-!
# Storage/Folder — a tree of files

A folder holds, under the parts of their paths, files of text, files that are not text, and
directories.  Writing appends to a file, which is made when there is none; the directory it is in
has to be there.  What goes wrong is a `StorageFault`.
-/

namespace ChatFeed

/-- **Why a file or directory could not be read or made.** -/
inductive StorageFault
  | absent
  | present
  | notADirectory
  | isADirectory
  | nameTooLong
  | notText
  | badPath
  deriving DecidableEq, Repr

/-- The sentence that tells it. -/
def StorageFault.text : StorageFault → String
  | .absent => "No such file or directory (os error 2)"
  | .present => "File exists (os error 17)"
  | .notADirectory => "Not a directory (os error 20)"
  | .isADirectory => "Is a directory (os error 21)"
  | .nameTooLong => "File name too long (os error 36)"
  | .notText => "stream did not contain valid UTF-8"
  | .badPath => "file name contained an unexpected NUL byte"

/-- What a file holds: text, or bytes that are not text. -/
inductive Content
  | text (s : String)
  | binary (bytes : List UInt8)
  deriving DecidableEq, Repr, Inhabited

namespace Content

/-- The bytes up to the end of a line, and the bytes behind it. -/
def cutLine : List UInt8 → List UInt8 × List UInt8
  | [] => ([], [])
  | b :: bs => if b = 10 then ([b], bs) else (b :: (cutLine bs).1, (cutLine bs).2)

/-- The text of the lines before the first that is not text, of `n` lines at most. -/
def textLines : Nat → List UInt8 → String
  | 0, _ => ""
  | n + 1, bytes =>
    let (line, rest) := cutLine bytes
    match String.fromUTF8? ⟨line.toArray⟩ with
    | some s => if rest.isEmpty then s else s ++ textLines n rest
    | none => ""

/-- **The content that some bytes are.** -/
def ofBytes (bytes : List UInt8) : Content :=
  match String.fromUTF8? ⟨bytes.toArray⟩ with
  | some s => .text s
  | none => .binary bytes

/-- **The bytes of a content.** -/
def bytes : Content → List UInt8
  | .text s => s.toUTF8.data.toList
  | .binary bytes => bytes

/-- The lines up to the first that is not text. -/
def front : Content → String
  | .text s => s
  | .binary bytes => textLines bytes.length bytes

/-- The content with a line more. -/
def addLine (line : String) : Content → Content
  | .text s => .text (s ++ line ++ "\n")
  | .binary bytes => .ofBytes (bytes ++ (line ++ "\n").toUTF8.data.toList)

end Content

/-- What there is at a place. -/
inductive Node
  | file (content : Content)
  | directory
  deriving DecidableEq, Repr, Inhabited

/-- **A tree of files**, a node for each place at most. -/
structure Folder where
  nodes : List (List String × Node) := []
  deriving Repr, Inhabited

namespace Folder

/-- What there is at some parts; the start and the root are always there. -/
def at? (f : Folder) (place : List String) : Option Node :=
  if place = [] ∨ place = ["/"] then some .directory else f.nodes.lookup place

/-- The nodes with another one at a place. -/
def replace (place : List String) (node : Node) :
    List (List String × Node) → List (List String × Node)
  | [] => [(place, node)]
  | e :: es => if e.1 = place then (place, node) :: es else e :: replace place node es

/-- Put a node at a place. -/
def put (f : Folder) (place : List String) (node : Node) : Folder :=
  ⟨replace place node f.nodes⟩

/-- The places above a place, the highest first. -/
def above (place : List String) : List (List String) :=
  (List.range place.length).map fun n => place.take n

/-- **Put a node at a path**, with the directories above it. -/
def plant (f : Folder) (path : String) (node : Node) : Folder :=
  match Storage.parts path with
  | none => f
  | some place =>
    ((above place).foldl (fun f p => if (f.at? p).isSome then f else f.put p .directory) f).put
      place node

/-- What there is at a path. -/
def node? (f : Folder) (path : String) : Option Node := do
  let node ← f.at? (← Storage.parts path)
  if Storage.meansDirectory path ∧ node ≠ .directory then none else some node

/-- Whether there is anything at a path. -/
def has (f : Folder) (path : String) : Bool := (f.node? path).isSome

/-- **Read a file of text.** -/
def read (f : Folder) (path : String) : Except StorageFault String :=
  match f.node? path with
  | some (.file (.text s)) => .ok s
  | some (.file (.binary _)) => .error .notText
  | some .directory => .error .isADirectory
  | none => .error .absent

/-- The text that a file begins with; nothing when there is no file. -/
def front (f : Folder) (path : String) : String :=
  match f.node? path with
  | some (.file c) => c.front
  | _ => ""

/-- Make the directories at some places, each below the one before. -/
def makeAt (f : Folder) : List (List String) → Except StorageFault Folder
  | [] => .ok f
  | place :: places =>
    match f.at? place with
    | some .directory => f.makeAt places
    | some (.file _) => .error (if places.isEmpty then .present else .notADirectory)
    | none =>
      if place.getLast?.all Storage.nameFits then (f.put place .directory).makeAt places
      else .error .nameTooLong

/-- **Make a directory and those above it**; for the empty path there is nothing to make. -/
def makeDirectory (f : Folder) (path : String) : Except StorageFault Folder :=
  if path = "" then .ok f
  else match Storage.parts path with
    | none => .error .badPath
    | some place => f.makeAt (above place ++ [place])

/-- **Append a line to a file**, which is made when there is none. -/
def append (f : Folder) (path : String) (line : String) : Except StorageFault Folder :=
  match Storage.parts path with
  | none => .error .badPath
  | some place =>
    if !place.getLast?.all Storage.nameFits then .error .nameTooLong
    else match f.at? place, f.at? place.dropLast with
      | some .directory, _ => .error .isADirectory
      | some (.file c), _ => .ok (f.put place (.file (c.addLine line)))
      | none, some .directory => .ok (f.put place (.file ((Content.text "").addLine line)))
      | none, some (.file _) => .error .notADirectory
      | none, none => .error .absent

/-- The files and directories of a directory, by name; nothing when there is no such directory. -/
def children (f : Folder) (path : String) : List (String × Node) :=
  match Storage.parts path with
  | none => []
  | some place =>
    let below := f.nodes.filterMap fun e =>
      match e.1.getLast? with
      | some name => if e.1.dropLast = place then some (name, e.2) else none
      | none => none
    below.mergeSort fun a b => a.1 ≤ b.1

end Folder

end ChatFeed
