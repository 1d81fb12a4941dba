import ChatFeed.Text.Hidden

/-!
# Text/Quoted — text shown between quotes

Quoted text is how an identifier is shown inside a sentence: between double quotes, with a backslash
before a quote or a backslash, short names for the commonest control characters, and the code point
in braces for every other hidden character.  All else, a single quote included, stands for itself.
-/

namespace ChatFeed.Text

/-- The digits of `n` in base sixteen, lower case and without leading zeros. -/
def hexDigits (n : Nat) : List Char := Nat.toDigits 16 n

/-- **One character of quoted text.** -/
def quotedChar (c : Char) : List Char :=
  if c = '"' ∨ c = '\\' then ['\\', c]
  else if c = '\n' then ['\\', 'n']
  else if c = '\r' then ['\\', 'r']
  else if c = '\t' then ['\\', 't']
  else if c.toNat = 0 then ['\\', '0']
  else if isHidden c then ['\\', 'u', '\x7b'] ++ hexDigits c.toNat ++ ['\x7d']
  else [c]

/-- **Text between quotes.** -/
def quoted (s : String) : String :=
  String.ofList ('"' :: s.toList.flatMap quotedChar ++ ['"'])

/-- An optional text, shown with the word that tells which case it is. -/
def quotedOption : Option String → String
  | none => "None"
  | some s => "Some(" ++ quoted s ++ ")"

end ChatFeed.Text
