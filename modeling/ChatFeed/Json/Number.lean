import ChatFeed.Json.Scan
import ChatFeed.Number.Numeral

/-!
# Json/Number — the numbers of JSON text

A literal without fraction and exponent that fits sixty-four bits, signed or unsigned, is an
integer; `-0` and all others are doubles.  A double is made from the first digits that fit
sixty-four bits and a power of ten by **one rounded multiplication or division**, so it can differ
from the nearest double in the last place; beyond the largest finite double the literal is
malformed.
-/

namespace ChatFeed.Json

open Data

/-- The largest exponent of ten that one factor can have. -/
def topPower : Nat := 308

/-- `f / 10^n`, for an `n` that one factor can have. -/
def divideOnce (f : Magnitude) (n : Nat) : Magnitude :=
  (do f.div (← Magnitude.ofNat (Nat.pow 10 n))).getD Magnitude.zero

/-- Divide by `10^topPower` as many times as said, then by `10^last`; zero stays zero. -/
def divideDown (f : Magnitude) (last : Nat) : Nat → Magnitude
  | 0 => divideOnce f last
  | times + 1 => if f.mant = 0 then f else divideDown (divideOnce f topPower) last times

/-- `significand · 10^e`, none beyond the largest finite double. -/
def scale (significand : Nat) (e : Int) : Option Magnitude := do
  let f ← Magnitude.ofNat significand
  if e < 0 then
    let times := (e.natAbs - 1) / topPower
    some (divideDown f (e.natAbs - topPower * times) times)
  else if e.toNat ≤ topPower then f.mul (← Magnitude.ofNat (Nat.pow 10 e.toNat))
  else if f.mant = 0 then some f
  else none

/-- A double literal, behind which `cs` stands. -/
def realValue (negative : Bool) (significand : Nat) (e : Int) (cs : List Char) :
    Scan (Value × List Char) :=
  match scale significand e with
  | some size => .ok (.real (.finite negative size), cs)
  | none => .error .malformed

/-- The digits at the front, and the text behind them. -/
def spanDigits (cs : List Char) : List Char × List Char :=
  (cs.takeWhile Char.isDigit, cs.dropWhile Char.isDigit)

/-- Read digits as long as the value fits sixty-four bits; the rest of the digits is left. -/
def fitDigits (acc : Nat) : List Char → Nat × List Char
  | [] => (acc, [])
  | d :: ds =>
    let next := 10 * acc + Numeral.digitValue d
    if next ≤ Numeral.max64 then fitDigits next ds else (acc, d :: ds)

/-- The value of digits, none beyond thirty-one bits. -/
def smallExponent? (ds : List Char) : Option Nat :=
  match Numeral.readDigits 0x7FFF_FFFF 0 ds with
  | .ok n => some n
  | .error _ => none

/-- **From behind the sign of an exponent**, which may take the value down. -/
def scanPower (negative : Bool) (significand : Nat) (start : Int) (down : Bool)
    (cs : List Char) : Scan (Value × List Char) :=
  match spanDigits cs with
  | ([], []) => .error .ended
  | ([], _ :: _) => .error .malformed
  | (ds, cs) =>
    match smallExponent? ds with
    | some n => realValue negative significand (if down then start - n else start + n) cs
    | none =>
      if significand ≠ 0 ∧ !down then .error .malformed
      else .ok (.real (.finite negative Magnitude.zero), cs)

/-- **From behind the letter of an exponent.** -/
def scanExponent (negative : Bool) (significand : Nat) (start : Int) (cs : List Char) :
    Scan (Value × List Char) :=
  match cs with
  | '+' :: cs => scanPower negative significand start false cs
  | '-' :: cs => scanPower negative significand start true cs
  | cs => scanPower negative significand start false cs

/-- Whether the text goes on with an exponent, and the text behind its letter. -/
def exponentLetter? : List Char → Option (List Char)
  | 'e' :: cs => some cs
  | 'E' :: cs => some cs
  | _ => none

/-- **From behind a decimal point.** -/
def scanFraction (negative : Bool) (significand : Nat) (start : Int) (cs : List Char) :
    Scan (Value × List Char) :=
  match spanDigits cs with
  | ([], []) => .error .ended
  | ([], _ :: _) => .error .malformed
  | (ds, cs) =>
    let (significand, left) := fitDigits significand ds
    let e := start - (ds.length - left.length : Nat)
    match exponentLetter? cs with
    | some cs => scanExponent negative significand e cs
    | none => realValue negative significand e cs

/-- A literal without fraction and exponent, all digits of which fit sixty-four bits. -/
def wholeValue (negative : Bool) (n : Nat) : Value :=
  if !negative then .integer n
  else if n = 0 ∨ 0x8000_0000_0000_0000 < n then
    .real (.finite true ((Magnitude.ofNat n).getD Magnitude.zero))
  else .integer (-n)

/-- **From behind the first digits of a number.** -/
def scanDecimal (negative : Bool) (ds cs : List Char) : Scan (Value × List Char) :=
  let (significand, left) := fitDigits 0 ds
  match cs with
  | '.' :: cs => scanFraction negative significand left.length cs
  | _ =>
    match exponentLetter? cs with
    | some cs => scanExponent negative significand left.length cs
    | none =>
      if left.isEmpty then .ok (wholeValue negative significand, cs)
      else realValue negative significand left.length cs

/-- **A number**, from behind its sign. -/
def scanNumber (negative : Bool) (cs : List Char) : Scan (Value × List Char) :=
  match spanDigits cs with
  | ([], []) => .error .ended
  | ([], _ :: _) => .error .malformed
  | ('0' :: _ :: _, _) => .error .malformed
  | (ds, cs) => scanDecimal negative ds cs

/-- The text behind the exponent of a number that is not kept. -/
def skipExponent (cs : List Char) : Scan (List Char) :=
  let cs := match cs with
    | '+' :: cs => cs
    | '-' :: cs => cs
    | cs => cs
  match spanDigits cs with
  | ([], _) => .error .malformed
  | (_, cs) => .ok cs

/-- **Pass over a number** of any size, from behind its sign; cut short, it is malformed. -/
def skipNumber (cs : List Char) : Scan (List Char) :=
  match spanDigits cs with
  | ([], _) => .error .malformed
  | ('0' :: _ :: _, _) => .error .malformed
  | (_, '.' :: cs) =>
    match spanDigits cs with
    | ([], _) => .error .malformed
    | (_, cs) =>
      match exponentLetter? cs with
      | some cs => skipExponent cs
      | none => .ok cs
  | (_, cs) =>
    match exponentLetter? cs with
    | some cs => skipExponent cs
    | none => .ok cs

end ChatFeed.Json
