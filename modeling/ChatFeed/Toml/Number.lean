import ChatFeed.Data.Value
import ChatFeed.Number.Numeral
import ChatFeed.Toml.Scan

/-!
# Toml/Number — numbers and dates of TOML text

An integer fits sixty-four bits with a sign.  A number with a fraction or an exponent is the nearest
double; beyond the largest finite one it is no number when it is positive and infinite when it is
negative.  An underscore may stand between two digits.  Dates are checked, but what they say is not
kept.
-/

namespace ChatFeed.Toml

open Data

/-! ## Digits -/

/-- More digits behind a digit, with underscores between; gives them backwards. -/
def digitsAfter (ok : Char → Bool) (found : List Char) : List Char → Option (List Char × List Char)
  | [] => some (found, [])
  | '_' :: c :: cs => if ok c then digitsAfter ok (c :: found) cs else none
  | c :: cs =>
    if ok c then digitsAfter ok (c :: found) cs
    else if c = '_' then none
    else some (found, c :: cs)

/-- **Digits**, at least one, with underscores between. -/
def scanDigits (ok : Char → Bool) : List Char → Option (List Char × List Char)
  | [] => none
  | c :: cs => do
    if !ok c then none
    let (found, cs) ← digitsAfter ok [c] cs
    some (found.reverse, cs)

/-- The number that digits write in a base. -/
def valueOf (base : Nat) (ds : List Char) : Nat :=
  ds.foldl (fun acc d => base * acc + (hexValue? d).getD 0) 0

/-- Digits of a base that is not ten, as an integer. -/
def scanBased (base : Nat) (cs : List Char) : Option (Value × List Char) := do
  let (ds, cs) ← scanDigits (fun c => (hexValue? c).any (· < base)) cs
  let n := valueOf base ds
  if n < 0x8000_0000_0000_0000 then some (.integer n, cs) else none

/-- A sign, if there is one: whether the number is negative. -/
def scanSign : List Char → Bool × List Char
  | '-' :: cs => (true, cs)
  | '+' :: cs => (false, cs)
  | cs => (false, cs)

/-- The whole part of a number: digits without a zero in front, or a single zero. -/
def scanWhole : List Char → Option (List Char × List Char)
  | '0' :: cs => some (['0'], cs)
  | cs => scanDigits Char.isDigit cs

/-! ## Numbers -/

/-- The fraction of a number, if there is one. -/
def scanFraction : List Char → Option (Option (List Char) × List Char)
  | '.' :: cs => (scanDigits Char.isDigit cs).map fun r => (some r.1, r.2)
  | cs => some (none, cs)

/-- The exponent of a number, if there is one. -/
def scanExponent : List Char → Option (Option Int × List Char)
  | c :: cs =>
    if c = 'e' ∨ c = 'E' then do
      let (negative, cs) := scanSign cs
      let (ds, cs) ← scanDigits Char.isDigit cs
      let n : Int := valueOf 10 ds
      some (some (if negative then -n else n), cs)
    else some (none, c :: cs)
  | [] => some (none, [])

/-- The largest size of an exponent that makes a difference to digits so many. -/
def exponentBound (digits : Nat) : Nat := digits + 1100

/-- The double of digits and an exponent of ten. -/
def doubleOf? (negative : Bool) (ds : List Char) (e : Int) : Option Double :=
  let bound : Int := exponentBound ds.length
  match Magnitude.ofDecimal (valueOf 10 ds) (max (-bound) (min bound e)) with
  | some size => some (.finite negative size)
  | none => if negative then some (.infinite true) else none

/-- The value of a number. -/
def numberOf? (negative : Bool) (whole : List Char) :
    Option (List Char) → Option Int → Option Value
  | none, none =>
    let n : Int := valueOf 10 whole
    let n := if negative then -n else n
    if -0x8000_0000_0000_0000 ≤ n ∧ n < 0x8000_0000_0000_0000 then some (.integer n) else none
  | fraction, e =>
    let fraction := fraction.getD []
    (doubleOf? negative (whole ++ fraction) (e.getD 0 - fraction.length)).map .real

/-- A number in base ten. -/
def scanDecimal (cs : List Char) : Option (Value × List Char) := do
  let (negative, cs) := scanSign cs
  match cs with
  | 'i' :: 'n' :: 'f' :: cs => some (.real (.infinite negative), cs)
  | 'n' :: 'a' :: 'n' :: cs => some (.real .undefined, cs)
  | cs =>
    let (whole, cs) ← scanWhole cs
    let (fraction, cs) ← scanFraction cs
    let (e, cs) ← scanExponent cs
    some (← numberOf? negative whole fraction e, cs)

/-- **A number.** -/
def scanNumber : List Char → Option (Value × List Char)
  | '0' :: 'x' :: cs => scanBased 16 cs
  | '0' :: 'o' :: cs => scanBased 8 cs
  | '0' :: 'b' :: cs => scanBased 2 cs
  | cs => scanDecimal cs

/-! ## Dates -/

/-- A numeral of `n` digits. -/
def scanFixed (n : Nat) (cs : List Char) : Option (Nat × List Char) :=
  let ds := cs.take n
  if ds.length = n ∧ ds.all Char.isDigit then some (valueOf 10 ds, cs.drop n) else none

/-- A numeral of two digits between two bounds. -/
def scanPair (low high : Nat) (cs : List Char) : Option (Nat × List Char) := do
  let (n, cs) ← scanFixed 2 cs
  if low ≤ n ∧ n ≤ high then some (n, cs) else none

/-- The text behind a character. -/
def expect (c : Char) : List Char → Option (List Char)
  | d :: cs => if d = c then some cs else none
  | [] => none

/-- The days of a month. -/
def monthDays (year month : Nat) : Nat :=
  if month = 2 then
    if year % 4 = 0 ∧ (year % 100 ≠ 0 ∨ year % 400 = 0) then 29 else 28
  else if month = 4 ∨ month = 6 ∨ month = 9 ∨ month = 11 then 30
  else 31

/-- The text behind a date. -/
def skipDate (cs : List Char) : Option (List Char) := do
  let (year, cs) ← scanFixed 4 cs
  let (month, cs) ← scanPair 1 12 (← expect '-' cs)
  let (_, cs) ← scanPair 1 (monthDays year month) (← expect '-' cs)
  some cs

/-- The text behind a fraction of a second, if there is one. -/
def skipFraction : List Char → List Char
  | '.' :: c :: cs => if c.isDigit then cs.dropWhile Char.isDigit else '.' :: c :: cs
  | cs => cs

/-- The text behind a time of the day. -/
def skipTime (cs : List Char) : Option (List Char) := do
  let (_, cs) ← scanPair 0 23 cs
  let (_, cs) ← scanPair 0 59 (← expect ':' cs)
  let (_, cs) ← scanPair 0 60 (← expect ':' cs)
  some (skipFraction cs)

/-- The text behind the distance from universal time, if there is one. -/
def skipOffset (cs : List Char) : Option (List Char) :=
  match cs with
  | c :: rest =>
    if c = 'Z' ∨ c = 'z' then some rest
    else if c = '+' ∨ c = '-' then do
      let (_, rest) ← scanPair 0 23 rest
      let (_, rest) ← scanPair 0 59 (← expect ':' rest)
      some rest
    else some cs
  | [] => some []

/-- The text behind a date with or without a time. -/
def skipDateTime (cs : List Char) : Option (List Char) := do
  let cs ← skipDate cs
  match cs with
  | c :: rest =>
    if c = 'T' ∨ c = 't' ∨ c = ' ' then
      match skipTime rest with
      | some rest => skipOffset rest
      | none => some cs
    else some cs
  | [] => some []

/-- What stands for a date or a time: a table with an entry that nobody asks for. -/
def dateValue : Value := .table [("date-time", .text "")]

/-- **A date or a time.** -/
def scanDate (cs : List Char) : Option (Value × List Char) :=
  match skipDateTime cs with
  | some cs => some (dateValue, cs)
  | none => (skipTime cs).map fun cs => (dateValue, cs)

end ChatFeed.Toml
