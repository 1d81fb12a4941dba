import ChatFeed.Settings.Environment
import ChatFeed.Text.Blank

/-!
# Settings/Dotenv — variables from a file

A file of variables has a name, an equals sign and a value in each line.  A value may stand in
quotes, and then goes on over ends of lines; outside of single quotes, a dollar sign puts in another
variable and a backslash takes the special meaning of the character behind it.  Comments begin with
a hash.  Reading ends at the first line that is not of this form; the lines before it count.
-/

namespace ChatFeed.Dotenv

/-! ## Lines -/

/-- **What stands open** behind a character, as far as the end of the line goes. -/
inductive Pending
  | nothing
  | gap
  | escape
  | quote (mark : Char)
  | quotedEscape (mark : Char)
  | comment
  deriving DecidableEq, Repr

/-- What stands open behind one more character.  A blank opens a gap, in which a hash would begin a
comment, but a second blank closes it. -/
def Pending.next (p : Pending) (c : Char) : Pending :=
  match p with
  | .escape => .nothing
  | .quotedEscape mark => .quote mark
  | .quote mark =>
    if c = '\\' then .quotedEscape mark else if c = mark then .nothing else .quote mark
  | .comment => if c = '\n' then .nothing else .comment
  | _ =>
    if c = '\\' then .escape
    else if c = '"' ∨ c = '\'' then .quote c
    else if p = .nothing ∧ Text.isBlank c ∧ c ≠ '\n' ∧ c ≠ '\r' then .gap
    else .nothing

/-- **The lines of a file**, without comments: a line ends where nothing stands open.  What stands
open at the end of the file is no line.  The line so far is kept backwards. -/
def linesFrom (line : List Char) : Pending → List Char → List (Option (List Char))
  | .comment, [] => []
  | .nothing, [] => if line.isEmpty then [] else [some line.reverse]
  | _, [] => [none]
  | .comment, c :: cs => linesFrom [] (Pending.comment.next c) cs
  | p, c :: cs =>
    if c = '#' ∧ (p = .gap ∨ line.all Text.isBlank) then
      some line.reverse :: linesFrom [] .comment cs
    else if c = '\n' ∧ p.next c = .nothing then some line.reverse :: linesFrom [] .nothing cs
    else linesFrom (c :: line) (p.next c) cs

/-- The lines of a text, of which a byte order mark in front is no part. -/
def lines (s : String) : List (Option (List Char)) :=
  match s.toList with
  | '\ufeff' :: cs => linesFrom [] .nothing cs
  | cs => linesFrom [] .nothing cs

/-! ## Values -/

/-- What is put in for a variable: its value in the environment, or one that a line above gave. -/
def valueOf (e : Environment) (given : List (String × String)) (name : String) : String :=
  ((e.get? name).or (given.lookup name)).getD ""

/-- **How a value is being read.** -/
inductive Mode
  | plain
  | single
  | double
  | escaped (inQuotes : Bool)
  | named (inQuotes : Bool) (name : List Char)
  | braced (inQuotes : Bool) (name : List Char)
  | ended
  deriving DecidableEq, Repr

/-- The mode that a quote, or none, puts a value in. -/
def Mode.within (inQuotes : Bool) : Mode := if inQuotes then .double else .plain

/-- The character that a backslash and a character stand for. -/
def escaped? (c : Char) : Option Char :=
  if c = '\\' ∨ c = '\'' ∨ c = '"' ∨ c = '$' ∨ c = ' ' then some c
  else if c = 'n' then some '\n'
  else none

/-- A character that the name of a variable behind a dollar sign may hold. -/
def isNameChar (c : Char) : Bool := c.isAlphanum

/-- A character where nothing is being put in: the next mode, and what it adds to the value. -/
def readChar (inQuotes : Bool) (c : Char) : Mode × List Char :=
  if c = '$' then (.named inQuotes [], [])
  else if c = '\\' then (.escaped inQuotes, [])
  else if c = '"' then (.within !inQuotes, [])
  else if inQuotes then (.double, [c])
  else if c = '\'' then (.single, [])
  else if c = ' ' ∨ c = '\t' then (.ended, [])
  else (.plain, [c])

/-- Read on in a value; `value` is what has been read, backwards. -/
def readValue (lookup : String → String) (value : List Char) : Mode → List Char → Option String
  | .plain, [] => some (String.ofList value.reverse)
  | .ended, [] => some (String.ofList value.reverse)
  | .escaped false, [] => some (String.ofList value.reverse)
  | .named false name, [] =>
    some (String.ofList value.reverse ++ lookup (String.ofList name.reverse))
  | _, [] => none
  | .ended, c :: cs =>
    if c = ' ' ∨ c = '\t' then readValue lookup value .ended cs
    else if c = '#' then some (String.ofList value.reverse)
    else none
  | .escaped q, c :: cs => do readValue lookup ((← escaped? c) :: value) (.within q) cs
  | .single, c :: cs =>
    if c = '\'' then readValue lookup value .plain cs else readValue lookup (c :: value) .single cs
  | .braced q name, c :: cs =>
    if c = '\x7d' then
      let value := (lookup (String.ofList name.reverse)).toList.reverse ++ value
      readValue lookup value (.within q) cs
    else readValue lookup value (.braced q (c :: name)) cs
  | .named q name, c :: cs =>
    if isNameChar c then readValue lookup value (.named q (c :: name)) cs
    else if c = '\x7b' ∧ name = [] then readValue lookup value (.braced q []) cs
    else
      let value := (lookup (String.ofList name.reverse)).toList.reverse ++ value
      if c = '$' then readValue lookup value (.named q []) cs
      else readValue lookup (c :: value) (.within q) cs
  | .plain, c :: cs =>
    let (mode, more) := readChar false c
    readValue lookup (more ++ value) mode cs
  | .double, c :: cs =>
    let (mode, more) := readChar true c
    readValue lookup (more ++ value) mode cs

/-! ## Variables -/

/-- A name, and the text behind it. -/
def readName (cs : List Char) : Option (String × List Char) :=
  match cs with
  | c :: _ =>
    if c.isAlpha ∨ c = '_' then
      let ok (c : Char) : Bool := c.isAlphanum || c = '_' || c = '.'
      some (String.ofList (cs.takeWhile ok), cs.dropWhile ok)
    else none
  | [] => none

/-- The text behind an equals sign. -/
def behindEquals : List Char → Option (List Char)
  | '=' :: cs => some cs
  | _ => none

/-- **A line**: a variable, or nothing when the line is blank. -/
def readLine (lookup : String → String) (line : List Char) : Option (Option (String × String)) := do
  match Text.trim line with
  | [] => some none
  | cs =>
    let (name, cs) ← readName cs
    let cs := Text.trimStart cs
    let (name, cs) ← match behindEquals cs with
      | some cs => some (name, cs)
      | none =>
        if name = "export" then do
          let (name, cs) ← readName cs
          some (name, ← behindEquals (Text.trimStart cs))
        else none
    match Text.trimStart cs with
    | [] => some (some (name, ""))
    | '#' :: _ => some (some (name, ""))
    | cs => some (some (name, ← readValue lookup [] .plain cs))

/-- The variables of some lines, up to the first that is not of the form. -/
def readLines (e : Environment) (given : List (String × String)) :
    List (Option (List Char)) → List (String × String)
  | [] => given
  | none :: _ => given
  | some line :: lines =>
    match readLine (valueOf e given) line with
    | none => given
    | some none => readLines e given lines
    | some (some v) => readLines e (given ++ [v]) lines

/-- **An environment with the variables of a file**; what it has already, it keeps. -/
def extend (e : Environment) (file : String) : Environment :=
  e.extend (readLines e [] (lines file))

end ChatFeed.Dotenv
