import ChatFeed.Data.Mismatch

/-!
# Json/Scan — the single tokens of JSON text

Each scanner takes the text from its position on and gives what it read and the text behind it.
Three things can go wrong, and the **first from the left** is the one told: the text ends inside a
value, it is not JSON, or it is JSON of an unexpected form.
-/

namespace ChatFeed.Json

open Data

/-- **What is wrong with a JSON text.** -/
inductive Failure
  | ended
  | malformed
  | mismatch (cause : Mismatch)

/-- What a scanner gives, or what is wrong with the text. -/
abbrev Scan := Except Failure

/-- The four characters that may stand between tokens. -/
def isSpace (c : Char) : Bool := c = ' ' || c = '\n' || c = '\t' || c = '\r'

/-- The text from its next token on. -/
def skipSpace (cs : List Char) : List Char := cs.dropWhile isSpace

/-- The rest of a word whose first letter has been read. -/
def scanWord : List Char → List Char → Scan (List Char)
  | [], cs => .ok cs
  | _ :: _, [] => .error .ended
  | w :: ws, c :: cs => if w = c then scanWord ws cs else .error .malformed

/-! ## Strings -/

/-- The value of a hexadecimal digit. -/
def hexValue? (c : Char) : Option Nat :=
  if c.isDigit then some (c.toNat - '0'.toNat)
  else if 'a' ≤ c ∧ c ≤ 'f' then some (c.toNat - 'a'.toNat + 10)
  else if 'A' ≤ c ∧ c ≤ 'F' then some (c.toNat - 'A'.toNat + 10)
  else none

/-- The number that four hexadecimal digits write. -/
def hexQuad? (a b c d : Char) : Option Nat := do
  let a ← hexValue? a
  let b ← hexValue? b
  let c ← hexValue? c
  let d ← hexValue? d
  pure (((a * 16 + b) * 16 + c) * 16 + d)

/-- How many bytes a text takes in UTF-8. -/
def byteCount (cs : List Char) : Nat := cs.foldr (fun c n => c.utf8Size + n) 0

/-- **Four hexadecimal digits.**  A text of fewer than four bytes ends too early. -/
def scanQuad : List Char → Scan (Nat × List Char)
  | a :: b :: c :: d :: cs =>
    match hexQuad? a b c d with
    | some n => .ok (n, cs)
    | none => .error .malformed
  | cs => .error (if byteCount cs < 4 then .ended else .malformed)

/-- The first half of a surrogate pair. -/
def isLeading (n : Nat) : Bool := 0xD800 ≤ n && n ≤ 0xDBFF

/-- The second half of a surrogate pair. -/
def isTrailing (n : Nat) : Bool := 0xDC00 ≤ n && n ≤ 0xDFFF

/-- The character that a surrogate pair writes. -/
def pairChar (leading trailing : Nat) : Char :=
  Char.ofNat ((leading - 0xD800) * 0x400 + (trailing - 0xDC00) + 0x10000)

/-- **The character after `\u`**: a pair of surrogates takes two escapes, and none stands alone. -/
def scanUnicode (cs : List Char) : Scan (Char × List Char) := do
  let (n, cs) ← scanQuad cs
  if isTrailing n then .error .malformed
  else if !isLeading n then .ok (Char.ofNat n, cs)
  else
    match cs with
    | [] => .error .ended
    | ['\\'] => .error .ended
    | '\\' :: 'u' :: cs =>
      let (m, cs) ← scanQuad cs
      if isTrailing m then .ok (pairChar n m, cs) else .error .malformed
    | _ => .error .malformed

/-- The character that a one-letter escape writes. -/
def escaped? (c : Char) : Option Char :=
  if c = '"' ∨ c = '\\' ∨ c = '/' then some c
  else if c = 'b' then some '\x08'
  else if c = 'f' then some '\x0c'
  else if c = 'n' then some '\n'
  else if c = 'r' then some '\r'
  else if c = 't' then some '\t'
  else none

/-- **The character after a backslash.** -/
def scanEscape : List Char → Scan (Char × List Char)
  | [] => .error .ended
  | c :: cs =>
    if c = 'u' then scanUnicode cs
    else match escaped? c with
      | some e => .ok (e, cs)
      | none => .error .malformed

/-- A control character, which a string cannot hold as it is. -/
def isControl (c : Char) : Bool := c.toNat < 0x20

/-- The characters of a string up to its closing quote; `room` bounds how many are read. -/
def scanChars : Nat → List Char → Scan (List Char × List Char)
  | _, [] => .error .ended
  | 0, _ => .error .ended
  | room + 1, c :: cs =>
    if c = '"' then .ok ([], cs)
    else if c = '\\' then do
      let (e, cs) ← scanEscape cs
      let (rest, cs) ← scanChars room cs
      .ok (e :: rest, cs)
    else if isControl c then .error .malformed
    else do
      let (rest, cs) ← scanChars room cs
      .ok (c :: rest, cs)

/-- **A string**, from behind its opening quote. -/
def scanString (cs : List Char) : Scan (String × List Char) := do
  let (s, cs) ← scanChars cs.length cs
  .ok (String.ofList s, cs)

/-- What follows a backslash where the string is not kept: `\u` needs four digits of any value. -/
def skipEscape : List Char → Scan (List Char)
  | [] => .error .ended
  | c :: cs =>
    if c = 'u' then (scanQuad cs).map (·.2)
    else if (escaped? c).isSome then .ok cs
    else .error .malformed

/-- The text behind a string that is not kept. -/
def skipChars : Nat → List Char → Scan (List Char)
  | _, [] => .error .ended
  | 0, _ => .error .ended
  | room + 1, c :: cs =>
    if c = '"' then .ok cs
    else if c = '\\' then do skipChars room (← skipEscape cs)
    else if isControl c then .error .malformed
    else skipChars room cs

/-- **Pass over a string**, from behind its opening quote. -/
def skipString (cs : List Char) : Scan (List Char) := skipChars cs.length cs

end ChatFeed.Json
