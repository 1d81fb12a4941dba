/-!
# Number/Double — binary floating point in exact arithmetic

A finite double is `± m · 2^q` with `m < 2^53` and `q ≥ -1074`.  Every operation is the **nearest
double** of an exact quotient of natural numbers, a tie going to the even significand, so nothing
here depends on a machine's floating-point unit.
-/

namespace ChatFeed

/-- A magnitude `mant · 2^exp`; normal ones have `2^52 ≤ mant`, the others `exp = -1074`. -/
structure Magnitude where
  mant : Nat
  exp : Int
  deriving DecidableEq, Repr

/-- **A double.** -/
inductive Double
  | finite (negative : Bool) (size : Magnitude)
  | infinite (negative : Bool)
  | undefined
  deriving DecidableEq, Repr

namespace Magnitude

/-- The magnitude zero. -/
def zero : Magnitude := ⟨0, -1074⟩

/-- The smallest mantissa of a normal magnitude, `2^52`. -/
def normal : Nat := 0x10_0000_0000_0000

/-- `2^e` as a quotient. -/
def powerOfTwo (e : Int) : Nat × Nat := (Nat.pow 2 e.toNat, Nat.pow 2 (-e).toNat)

/-- The magnitude as a quotient of natural numbers. -/
def quotient (a : Magnitude) : Nat × Nat :=
  (a.mant * (powerOfTwo a.exp).1, (powerOfTwo a.exp).2)

/-- The integer nearest to `num / den`, a tie going to the even one. -/
def roundQuotient (num den : Nat) : Nat :=
  let floor := num / den
  let twice := 2 * (num % den)
  if twice < den then floor
  else if den < twice then floor + 1
  else floor + floor % 2

/-- The largest `e` with `2^e ≤ num / den`, for positive `num` and `den`. -/
def binaryOrder (num den : Nat) : Int :=
  let guess : Int := (Nat.log2 num : Int) - Nat.log2 den
  let (up, down) := powerOfTwo guess
  if den * up ≤ num * down then guess else guess - 1

/-- **The double nearest to `num / den`**; none when that is beyond the largest finite double. -/
def nearest (num den : Nat) : Option Magnitude :=
  if num = 0 then some zero
  else
    let q := max (binaryOrder num den - 52) (-1074)
    let (up, down) := powerOfTwo q
    let m := roundQuotient (num * down) (den * up)
    let (m, q) := if m = 2 * normal then (normal, q + 1) else (m, q)
    if 971 < q then none else some ⟨m, q⟩

/-- The double nearest to a natural number. -/
def ofNat (n : Nat) : Option Magnitude := nearest n 1

/-- The double nearest to a product. -/
def mul (a b : Magnitude) : Option Magnitude :=
  nearest (a.quotient.1 * b.quotient.1) (a.quotient.2 * b.quotient.2)

/-- The double nearest to a quotient, of which the second is not zero. -/
def div (a b : Magnitude) : Option Magnitude :=
  nearest (a.quotient.1 * b.quotient.2) (a.quotient.2 * b.quotient.1)

/-- The double nearest to `digits · 10^e`. -/
def ofDecimal (digits : Nat) (e : Int) : Option Magnitude :=
  nearest (digits * Nat.pow 10 e.toNat) (Nat.pow 10 (-e).toNat)

end Magnitude

end ChatFeed
