import ChatFeed.Number.Double

/-!
# Number/Shortest — the shortest decimal that reads back, and its layouts

Among the decimals that lie in the interval of numbers rounding to a given double, **the shortest**
has the fewest digits, and of those it is the nearest to the double.  A `Layout` says how such a
decimal is written: up to which exponents by position, and how an exponent is spelled.
-/

namespace ChatFeed

/-- A positive decimal `0.d₁d₂… · 10^point`, with `d₁ ≠ 0`. -/
structure Decimal where
  digits : List Char
  point : Int
  deriving DecidableEq, Repr

namespace Magnitude

/-- The largest `e` with `10^e ≤ num / den`, for positive `num` and `den`. -/
def decimalOrder (num den : Nat) : Int :=
  if den ≤ num then ((Nat.toDigits 10 (num / den)).length : Int) - 1
  else -((Nat.toDigits 10 ((den + num - 1) / num - 1)).length : Int)

/-- The interval of numbers that round to a magnitude, as numerators over one denominator. -/
def interval (a : Magnitude) : Nat × Nat × Nat :=
  let (up, down) := powerOfTwo (a.exp - 2)
  let below := if a.mant = normal ∧ a.exp ≠ -1074 then 1 else 2
  ((4 * a.mant - below) * up, (4 * a.mant + 2) * up, down)

/-- Whether `k · 10^e` rounds to the magnitude; the ends of the interval do when it is even. -/
def reads (a : Magnitude) (k : Nat) (e : Int) : Bool :=
  let (low, high, den) := a.interval
  let num := k * Nat.pow 10 e.toNat * den
  let low := low * Nat.pow 10 (-e).toNat
  let high := high * Nat.pow 10 (-e).toNat
  if a.mant % 2 = 0 then low ≤ num && num ≤ high else low < num && num < high

/-- The better of the two neighbours of the magnitude among the multiples of `10^e`, if one of them
reads back as the magnitude. -/
def onGrid (a : Magnitude) (e : Int) : Option Nat :=
  let (num, den) := a.quotient
  let num := num * Nat.pow 10 (-e).toNat
  let den := den * Nat.pow 10 e.toNat
  let k := num / den
  match a.reads k e, a.reads (k + 1) e with
  | true, true =>
    let twice := 2 * (num % den)
    if twice < den || (twice = den && k % 2 = 0) then some k else some (k + 1)
  | true, false => some k
  | false, true => some (k + 1)
  | false, false => none

/-- Drop the zeros at the end of a numeral. -/
def dropZeros (ds : List Char) : List Char := (ds.reverse.dropWhile (· = '0')).reverse

/-- Try `n` digits, then more, `tries` times in all. -/
def shortestFrom (a : Magnitude) (order : Int) (n : Nat) : Nat → Decimal
  | 0 => ⟨['0'], 0⟩
  | tries + 1 =>
    let e := order - n + 1
    match a.onGrid e with
    | some k =>
      let ds := Nat.toDigits 10 k
      ⟨dropZeros ds, e + ds.length⟩
    | none => shortestFrom a order (n + 1) tries

/-- **The shortest decimal that reads back** as a positive magnitude; seventeen digits always do. -/
def shortest (a : Magnitude) : Decimal :=
  let (num, den) := a.quotient
  shortestFrom a (decimalOrder num den) 1 17

end Magnitude

/-- **How a decimal is written.**  Values from `10^low` up to and without `10^high` stand by
position, all others with an exponent; `none` sets no bound. -/
structure Layout where
  low : Option Int
  high : Option Int

namespace Layout

/-- The exponent of ten, with its sign and two digits at least. -/
def exponentText (e : Int) : List Char :=
  let ds := Nat.toDigits 10 e.natAbs
  (if e < 0 then ['e', '-'] else ['e', '+']) ++ (if ds.length < 2 then '0' :: ds else ds)

/-- A decimal written by position, with one digit at least on either side of the point. -/
def positional (d : Decimal) : List Char :=
  if d.point ≤ 0 then ['0', '.'] ++ List.replicate (-d.point).toNat '0' ++ d.digits
  else
    let n := d.point.toNat
    let whole := d.digits.take n ++ List.replicate (n - d.digits.length) '0'
    let rest := d.digits.drop n
    whole ++ ['.'] ++ (if rest.isEmpty then ['0'] else rest)

/-- A decimal written with an exponent. -/
def scientific (d : Decimal) : List Char :=
  let rest := d.digits.drop 1
  d.digits.take 1 ++ (if rest.isEmpty then [] else '.' :: rest) ++ exponentText (d.point - 1)

/-- A positive decimal. -/
def decimal (l : Layout) (d : Decimal) : List Char :=
  let e := d.point - 1
  if l.low.all (· ≤ e) && l.high.all (e < ·) then positional d else scientific d

/-- **The text of a double.** -/
def text (l : Layout) : Double → String
  | .undefined => "NaN"
  | .infinite negative => if negative then "-inf" else "inf"
  | .finite negative size =>
    let body := if size.mant = 0 then ['0', '.', '0'] else l.decimal size.shortest
    String.ofList (if negative then '-' :: body else body)

/-- The layout that always writes by position. -/
def fixed : Layout := ⟨none, none⟩

/-- The layout that turns to exponents below `10^-4` and from `10^16` on. -/
def compact : Layout := ⟨some (-4), some 16⟩

end Layout

end ChatFeed
