import ChatFeed.Toml.Number
import ChatFeed.Toml.Table

/-!
# Toml/Document — reading a whole text

A text is a sequence of lines: a key with a value, or the header of a table to which the lines
below belong.  `read` gives the table that the text denotes, or nothing if it is not TOML.
-/

namespace ChatFeed.Toml

open Data

/-! ## Values -/

/-- A word that stands for a value. -/
def scanWord (cs : List Char) : Option (Value × List Char) :=
  match cs with
  | 't' :: 'r' :: 'u' :: 'e' :: cs => some (.flag true, cs)
  | 'f' :: 'a' :: 'l' :: 's' :: 'e' :: cs => some (.flag false, cs)
  | _ => none

/-- A value that is no array and no table. -/
def scanSingle (cs : List Char) : Option (Value × List Char) :=
  match cs with
  | '"' :: _ => (scanString cs).map fun r => (.text r.1, r.2)
  | '\'' :: _ => (scanString cs).map fun r => (.text r.1, r.2)
  | _ => (scanDate cs).or ((scanNumber cs).or (scanWord cs))

/-- The elements of an array up to its bracket; `room` bounds their number. -/
def scanElements (value : List Char → Option (Value × List Char)) :
    Nat → List Char → Option (List Value × List Char)
  | 0, _ => none
  | room + 1, cs =>
    match skipTrivia cs with
    | ']' :: cs => some ([], cs)
    | cs => do
      let (v, cs) ← value cs
      match skipTrivia cs with
      | ']' :: cs => some ([v], cs)
      | ',' :: cs =>
        let (vs, cs) ← scanElements value room cs
        some (v :: vs, cs)
      | _ => none

/-- A key and its value. -/
def scanBinding (value : List Char → Option (Value × List Char)) (cs : List Char) :
    Option ((List String × Value) × List Char) := do
  let (key, cs) ← scanKey cs
  let cs ← expect '=' (skipSpace cs)
  let (v, cs) ← value (skipSpace cs)
  some ((key, v), cs)

/-- The entries of a table in braces up to its brace; `room` bounds their number. -/
def scanInline (value : List Char → Option (Value × List Char)) :
    Nat → Entries → List Char → Option (Entries × List Char)
  | 0, _, _ => none
  | room + 1, es, cs => do
    let ((key, v), cs) ← scanBinding value cs
    let es ← es.assign key v .header
    match skipSpace cs with
    | '\x7d' :: cs => some (es, cs)
    | ',' :: cs => scanInline value room es cs
    | _ => none

/-- **A value**, in which arrays and tables may nest so deep. -/
def scanValue : Nat → List Char → Option (Value × List Char)
  | 0, '[' :: _ => none
  | 0, '\x7b' :: _ => none
  | depth + 1, '[' :: cs => do
    let (vs, cs) ← scanElements (scanValue depth) (cs.length + 1) cs
    some (.list vs, cs)
  | depth + 1, '\x7b' :: cs =>
    match skipSpace cs with
    | '\x7d' :: cs => some (.table [], cs)
    | _ => do
      let (es, cs) ← scanInline (scanValue depth) (cs.length + 1) [] cs
      some (.table (entriesToValue es), cs)
  | _, cs => scanSingle cs

/-! ## Lines -/

/-- **What has been read so far**, and the path of the table to which the next line belongs. -/
structure Draft where
  root : Entries := []
  path : List String := []

/-- Read a header, from behind its brackets. -/
def scanHeader (many : Bool) (d : Draft) (cs : List Char) : Option (Draft × List Char) := do
  let (path, cs) ← scanKey cs
  let cs ← expect ']' (skipSpace cs)
  let cs ← if many then expect ']' cs else some cs
  some (⟨← d.root.follow many path, path⟩, cs)

/-- Read a key and its value. -/
def scanEntry (d : Draft) (cs : List Char) : Option (Draft × List Char) := do
  let ((key, v), cs) ← scanBinding (scanValue topDepth) cs
  let root ← Entries.change false (fun o es => es.assign key v o) d.path .header d.root
  some ({ d with root := root }, cs)

/-- Read what a line says, if it says anything. -/
def scanLine (d : Draft) (cs : List Char) : Option (Draft × List Char) :=
  match skipSpace cs with
  | [] => some (d, [])
  | '#' :: cs => some (d, '#' :: cs)
  | '\n' :: cs => some (d, '\n' :: cs)
  | '\r' :: cs => some (d, '\r' :: cs)
  | '[' :: '[' :: cs => scanHeader true d cs
  | '[' :: cs => scanHeader false d cs
  | cs => scanEntry d cs

/-- Read lines to the end of the text; `room` bounds their number. -/
def scanLines : Nat → Draft → List Char → Option Draft
  | 0, _, _ => none
  | room + 1, d, cs => do
    let (d, cs) ← scanLine d cs
    match ← endLine cs with
    | [] => some d
    | cs => scanLines room d cs

/-- A text without the mark that may stand in front of all. -/
def dropMark : List Char → List Char
  | '\ufeff' :: cs => cs
  | cs => cs

/-- **Read a text** as the table that it denotes. -/
def read (s : String) : Option Value := do
  let cs := dropMark s.toList
  let d ← scanLines (cs.length + 1) {} cs
  some (.table (entriesToValue d.root))

end ChatFeed.Toml
