/-!
# Toml/Scan — blanks, comments, strings and keys of TOML text

A scan takes the text that is left and gives a value with the text behind it, or nothing when the
text is not TOML.  No scan tells what is wrong: the notation is either kept or not.
-/

namespace ChatFeed.Toml

/-! ## Blanks and comments -/

/-- A blank within a line. -/
def isSpace (c : Char) : Bool := c = ' ' || c = '\t'

/-- The text behind the blanks in front. -/
def skipSpace (cs : List Char) : List Char := cs.dropWhile isSpace

/-- A character that a comment or a string may hold: a tab, or none of the control characters. -/
def isPrintable (c : Char) : Bool := c = '\t' || (0x20 ≤ c.toNat && c.toNat ≠ 0x7F)

/-- The text behind a line ending, if there is one. -/
def newline? : List Char → Option (List Char)
  | '\n' :: cs => some cs
  | '\r' :: '\n' :: cs => some cs
  | _ => none

/-- The text behind a comment, if there is one. -/
def skipComment : List Char → List Char
  | '#' :: cs => cs.dropWhile isPrintable
  | cs => cs

/-- **The end of a line**: blanks, perhaps a comment, and a line ending or the end of the text. -/
def endLine (cs : List Char) : Option (List Char) :=
  match skipComment (skipSpace cs) with
  | [] => some []
  | cs => newline? cs

/-- Drop blanks, comments and line endings; `room` bounds how many lines. -/
def skipLines : Nat → List Char → List Char
  | 0, cs => cs
  | room + 1, cs =>
    let cs := skipSpace cs
    match newline? (skipComment cs) with
    | some rest => skipLines room rest
    | none => cs

/-- **Drop all that means nothing between the elements of an array.** -/
def skipTrivia (cs : List Char) : List Char := skipLines (cs.length + 1) cs

/-! ## Strings -/

/-- The value of a digit of base sixteen. -/
def hexValue? (c : Char) : Option Nat :=
  if c.isDigit then some (c.toNat - '0'.toNat)
  else if 'a' ≤ c ∧ c ≤ 'f' then some (c.toNat - 'a'.toNat + 10)
  else if 'A' ≤ c ∧ c ≤ 'F' then some (c.toNat - 'A'.toNat + 10)
  else none

/-- The number that `n` digits of base sixteen write. -/
def scanHex (acc : Nat) : Nat → List Char → Option (Nat × List Char)
  | 0, cs => some (acc, cs)
  | _ + 1, [] => none
  | n + 1, c :: cs => do scanHex (16 * acc + (← hexValue? c)) n cs

/-- The character of a code point, which a surrogate is not. -/
def charOf? (n : Nat) : Option Char :=
  if h : n.isValidChar then some (Char.ofNatAux n h) else none

/-- **The character after a backslash.** -/
def scanEscape : List Char → Option (Char × List Char)
  | 'b' :: cs => some ('\x08', cs)
  | 't' :: cs => some ('\t', cs)
  | 'n' :: cs => some ('\n', cs)
  | 'f' :: cs => some ('\x0c', cs)
  | 'r' :: cs => some ('\r', cs)
  | '"' :: cs => some ('"', cs)
  | '\\' :: cs => some ('\\', cs)
  | 'u' :: cs => do
    let (n, cs) ← scanHex 0 4 cs
    some (← charOf? n, cs)
  | 'U' :: cs => do
    let (n, cs) ← scanHex 0 8 cs
    some (← charOf? n, cs)
  | _ => none

/-- A string of one line with escapes, from behind its quote; `room` bounds its length. -/
def scanBasic : Nat → List Char → Option (List Char × List Char)
  | 0, _ => none
  | _, [] => none
  | room + 1, c :: cs =>
    if c = '"' then some ([], cs)
    else if c = '\\' then do
      let (e, cs) ← scanEscape cs
      let (rest, cs) ← scanBasic room cs
      some (e :: rest, cs)
    else if isPrintable c then do
      let (rest, cs) ← scanBasic room cs
      some (c :: rest, cs)
    else none

/-- A string of one line as it stands, from behind its quote. -/
def scanLiteral : List Char → Option (List Char × List Char)
  | [] => none
  | c :: cs =>
    if c = '\'' then some ([], cs)
    else if isPrintable c then do
      let (rest, cs) ← scanLiteral cs
      some (c :: rest, cs)
    else none

/-- The text behind a backslash that ends a line: it takes all blanks and line endings with it. -/
def joinLines? (cs : List Char) : Option (List Char) := do
  let cs ← newline? (skipSpace cs)
  let rec go : Nat → List Char → List Char
    | 0, cs => cs
    | room + 1, cs =>
      match newline? (skipSpace cs) with
      | some cs => go room cs
      | none => skipSpace cs
  some (go cs.length cs)

/-- Quotes within a string of several lines: three of them end it, and two more may stand before
these.  Gives how many belong to the string, and whether it ends. -/
def closing (count : Nat) : Nat × Bool :=
  if count < 3 then (count, false) else (min (count - 3) 2, true)

/-- A string of several lines, from behind its quotes, which are `quote`; with `escapes`, a
backslash means something.  `room` bounds its length. -/
def scanLong (quote : Char) (escapes : Bool) : Nat → List Char → Option (List Char × List Char)
  | 0, _ => none
  | _, [] => none
  | room + 1, c :: cs =>
    if c = quote then
      let more := (cs.takeWhile (· = quote)).length
      let (kept, ends) := closing (more + 1)
      let own := List.replicate kept quote
      if ends then some (own, cs.drop (kept + 2))
      else do
        let (rest, cs) ← scanLong quote escapes room (cs.drop more)
        some (own ++ rest, cs)
    else if escapes ∧ c = '\\' then
      match joinLines? cs with
      | some cs => scanLong quote escapes room cs
      | none => do
        let (e, cs) ← scanEscape cs
        let (rest, cs) ← scanLong quote escapes room cs
        some (e :: rest, cs)
    else
      match newline? (c :: cs) with
      | some cs => do
        let (rest, cs) ← scanLong quote escapes room cs
        some ('\n' :: rest, cs)
      | none =>
        if isPrintable c then do
          let (rest, cs) ← scanLong quote escapes room cs
          some (c :: rest, cs)
        else none

/-- A string of several lines; a line ending right behind its first quotes does not count. -/
def scanLongString (quote : Char) (escapes : Bool) (cs : List Char) :
    Option (List Char × List Char) :=
  let cs := (newline? cs).getD cs
  scanLong quote escapes (cs.length + 1) cs

/-- **A string**, if the text begins with a quote. -/
def scanString (cs : List Char) : Option (String × List Char) := do
  let (s, cs) ← match cs with
    | '"' :: '"' :: '"' :: cs => scanLongString '"' true cs
    | '\'' :: '\'' :: '\'' :: cs => scanLongString '\'' false cs
    | '"' :: cs => scanBasic (cs.length + 1) cs
    | '\'' :: cs => scanLiteral cs
    | _ => none
  some (String.ofList s, cs)

/-! ## Keys -/

/-- A character that a key without quotes may hold. -/
def isBare (c : Char) : Bool := c.isAlphanum || c = '_' || c = '-'

/-- One part of a key: a word, or a string of one line. -/
def scanPart (cs : List Char) : Option (String × List Char) :=
  match cs with
  | '"' :: cs => (scanBasic (cs.length + 1) cs).map fun r => (String.ofList r.1, r.2)
  | '\'' :: cs => (scanLiteral cs).map fun r => (String.ofList r.1, r.2)
  | cs =>
    let word := cs.takeWhile isBare
    if word.isEmpty then none else some (String.ofList word, cs.dropWhile isBare)

/-- The parts of a key, separated by points; `room` bounds their number. -/
def scanParts : Nat → List Char → Option (List String × List Char)
  | 0, _ => none
  | room + 1, cs => do
    let (part, cs) ← scanPart (skipSpace cs)
    match skipSpace cs with
    | '.' :: cs =>
      let (parts, cs) ← scanParts room cs
      some (part :: parts, cs)
    | cs => some ([part], cs)

/-- How deep values may nest, and how many parts a key may have. -/
def topDepth : Nat := 79

/-- **A key**, with the blanks around it. -/
def scanKey (cs : List Char) : Option (List String × List Char) := scanParts topDepth cs

end ChatFeed.Toml
