import ChatFeed.Number.Numeral
import ChatFeed.Time.Span

/-!
# Poll/Retry — how long to wait after a failed read

The wait grows by a constant factor with every failed read in a row, up to a ceiling, and starts
over after a good one.  A `RetryPolicy` fixes the schedule; a `Streak` counts the failures in a row.
A policy may also limit their number: beyond the limit there is no wait any more, only the end.
-/

namespace ChatFeed

/-- **How failed reads are tried again.**  A `limit` of zero is none. -/
structure RetryPolicy where
  initial : Span
  ceiling : Span
  factor : Nat
  limit : Nat
  deriving DecidableEq, Repr

/-- One second at first, doubled up to one minute, for ever. -/
def RetryPolicy.standard : RetryPolicy := ⟨.ofSecs 1, .ofSecs 60, 2, 0⟩

instance : Inhabited RetryPolicy := ⟨.standard⟩

/-- A power of the factor, as far as thirty-two bits go. -/
def RetryPolicy.growth (p : RetryPolicy) (n : Nat) : Nat :=
  if 1 < p.factor ∧ 32 ≤ n then Numeral.max32 else min (p.factor.pow n) Numeral.max32

/-- **The wait after `n` failures in a row and one more.** -/
def RetryPolicy.wait (p : RetryPolicy) (n : Nat) : Span :=
  (p.initial.times (p.growth n)).shorter p.ceiling

/-- **The number of failed reads in a row**, at most the largest number of thirty-two bits. -/
structure Streak where
  failed : Nat := 0
  deriving DecidableEq, Repr, Inhabited

namespace Streak

/-- A good read ends the streak. -/
def succeed (_ : Streak) : Streak := ⟨0⟩

/-- The streak with one failure more. -/
def next (s : Streak) : Streak := ⟨min (s.failed + 1) Numeral.max32⟩

/-- Whether a streak is longer than the policy allows. -/
def exhausted (s : Streak) (p : RetryPolicy) : Bool := 0 < p.limit && p.limit < s.failed

/-- **Count a failure**, and tell the wait before the next read: none beyond the limit. -/
def fail (s : Streak) (p : RetryPolicy) : Option Span × Streak :=
  (if s.next.exhausted p then none else some (p.wait s.failed), s.next)

/-- Count a failure for which the feed may have asked to wait longer. -/
def failAsked (s : Streak) (p : RetryPolicy) (asked : Option Span) : Option Span × Streak :=
  let (wait, s) := s.fail p
  (wait.map fun d => asked.elim d d.longer, s)

end Streak

end ChatFeed
