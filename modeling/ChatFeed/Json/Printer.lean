/-!
# Json/Printer — writing JSON text

The text is compact: no spaces, the members of an object in the order given.  In a string the quote,
the backslash and the control characters are escaped, all other characters stand as they are.
-/

namespace ChatFeed.Json

/-- A digit of base sixteen, lower case. -/
def hexDigit (n : Nat) : Char := Nat.digitChar n

/-- **One character of a string.** -/
def escapeChar (c : Char) : List Char :=
  if c = '"' ∨ c = '\\' then ['\\', c]
  else if c = '\x08' then ['\\', 'b']
  else if c = '\x0c' then ['\\', 'f']
  else if c = '\n' then ['\\', 'n']
  else if c = '\r' then ['\\', 'r']
  else if c = '\t' then ['\\', 't']
  else if c.toNat < 0x20 then
    ['\\', 'u', '0', '0', hexDigit (c.toNat / 16), hexDigit (c.toNat % 16)]
  else [c]

/-- **A string**, with its quotes. -/
def printString (s : String) : List Char := '"' :: s.toList.flatMap escapeChar ++ ['"']

/-- Parts with a comma between any two. -/
def separated : List (List Char) → List Char
  | [] => []
  | [part] => part
  | part :: parts => part ++ ',' :: separated parts

/-- **An object** whose members are printed already. -/
def printObject (members : List (String × List Char)) : List Char :=
  '\x7b' :: separated (members.map fun m => printString m.1 ++ ':' :: m.2) ++ ['\x7d']

/-- An integer. -/
def printInt (n : Int) : List Char :=
  if n < 0 then '-' :: Nat.toDigits 10 n.natAbs else Nat.toDigits 10 n.natAbs

end ChatFeed.Json
