/-!
# Time/Span — bounded lengths of time

A span is a whole number of nanoseconds up to a little more than `2^64` seconds; arithmetic that
would go beyond stays at that bound.
-/

namespace ChatFeed

/-- The longest span, in nanoseconds. -/
def spanLimit : Nat := 0x1_0000_0000_0000_0000 * 1_000_000_000 - 1

/-- **A length of time.** -/
structure Span where
  nanos : Nat
  bounded : nanos ≤ spanLimit
  deriving DecidableEq, Repr

namespace Span

/-- The span of a number of nanoseconds, or the longest one. -/
def ofNanos (n : Nat) : Span := ⟨min n spanLimit, Nat.min_le_right _ _⟩

instance : Inhabited Span := ⟨ofNanos 0⟩

/-- The span of whole seconds and nanoseconds. -/
def ofParts (secs nanos : Nat) : Span := ofNanos (secs * 1_000_000_000 + nanos)

/-- The span of whole seconds. -/
def ofSecs (n : Nat) : Span := ofParts n 0

/-- The span of whole milliseconds. -/
def ofMillis (n : Nat) : Span := ofNanos (n * 1_000_000)

/-- The whole seconds of a span. -/
def secs (d : Span) : Nat := d.nanos / 1_000_000_000

/-- The nanoseconds of a span beyond its whole seconds. -/
def subNanos (d : Span) : Nat := d.nanos % 1_000_000_000

/-- The whole milliseconds of a span. -/
def millis (d : Span) : Nat := d.nanos / 1_000_000

/-- The milliseconds of a span, a part counted as a whole one. -/
def millisUp (d : Span) : Nat := (d.nanos + 999_999) / 1_000_000

/-- A span many times over. -/
def times (d : Span) (n : Nat) : Span := ofNanos (d.nanos * n)

/-- The shorter of two spans. -/
def shorter (a b : Span) : Span := if a.nanos ≤ b.nanos then a else b

/-- The longer of two spans. -/
def longer (a b : Span) : Span := if a.nanos < b.nanos then b else a

theorem ext_nanos {a b : Span} (h : a.nanos = b.nanos) : a = b := by
  cases a; cases b; simp_all

theorem nanos_ofNanos (n : Nat) : (ofNanos n).nanos = min n spanLimit := rfl

theorem nanos_times (d : Span) (n : Nat) : (d.times n).nanos = min (d.nanos * n) spanLimit := rfl

theorem nanos_shorter (a b : Span) : (a.shorter b).nanos = min a.nanos b.nanos := by
  unfold shorter; split <;> omega

theorem nanos_longer (a b : Span) : (a.longer b).nanos = max a.nanos b.nanos := by
  unfold longer; split <;> omega

end Span

end ChatFeed
