/-!
# Number/Numeral — decimal numerals of bounded natural numbers

A numeral is one or more ASCII digits, with at most one plus sign in front and any number of leading
zeros.  Reading it names the **first** trouble met from the left: a character that is no digit, or a
value that has grown beyond the bound.  `render` writes the shortest numeral.
-/

namespace ChatFeed.Numeral

/-- Why a text is not the numeral of a number within a bound. -/
inductive Fault
  | empty
  | notADigit
  | tooLarge
  deriving DecidableEq, Repr

/-- The sentence that tells a fault. -/
def Fault.message : Fault → String
  | .empty => "cannot parse integer from empty string"
  | .notADigit => "invalid digit found in string"
  | .tooLarge => "number too large to fit in target type"

/-- The value of an ASCII digit. -/
def digitValue (c : Char) : Nat := c.toNat - '0'.toNat

/-- Read on after the digits that gave `acc`. -/
def readDigits (bound acc : Nat) : List Char → Except Fault Nat
  | [] => .ok acc
  | c :: cs =>
    if c.isDigit then
      let next := 10 * acc + digitValue c
      if next ≤ bound then readDigits bound next cs else .error .tooLarge
    else .error .notADigit

/-- **Read a numeral** of a number that is at most `bound`. -/
def read (bound : Nat) : List Char → Except Fault Nat
  | [] => .error .empty
  | '+' :: c :: cs => readDigits bound 0 (c :: cs)
  | cs => readDigits bound 0 cs

/-- **The shortest numeral** of a number. -/
def render (n : Nat) : String := String.ofList (Nat.toDigits 10 n)

/-- The largest number of sixteen bits. -/
def max16 : Nat := 0xFFFF

/-- The largest number of thirty-two bits. -/
def max32 : Nat := 0xFFFF_FFFF

/-- The largest number of sixty-four bits. -/
def max64 : Nat := 0xFFFF_FFFF_FFFF_FFFF

end ChatFeed.Numeral
