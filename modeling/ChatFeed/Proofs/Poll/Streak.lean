import ChatFeed.Poll.Retry
import Mathlib.Algebra.Group.Nat.Defs
import Mathlib.Data.List.DropRight
import Mathlib.Data.List.Induction

/-!
# Proofs/Poll/Streak — waits along a history of good and failed reads

A streak counts in thirty-two bits, and a power of the factor is kept within thirty-two bits; times
are kept within a bound of their own, and within the ceiling.  Counting too far is no matter
(`RetryPolicy.growth_min`), and a time that is too long is cut by the ceiling anyway
(`RetryPolicy.nanos_wait`).  What remains is the power: `Streak.on_schedule_iff` says when a wait
falls short of the schedule because of it.
-/

namespace ChatFeed

namespace RetryPolicy

variable (p : RetryPolicy) {m n : Nat}

/-- **The growth is the power of the factor**, cut at thirty-two bits. -/
theorem growth_eq (n : Nat) : p.growth n = min (p.factor ^ n) Numeral.max32 := by
  unfold growth
  by_cases hlarge : 1 < p.factor ∧ 32 ≤ n
  · have htwo : 2 ^ 32 ≤ p.factor ^ n :=
      (Nat.pow_le_pow_right Nat.zero_lt_two hlarge.2).trans (Nat.pow_le_pow_left hlarge.1 n)
    have hmax : Numeral.max32 ≤ p.factor ^ n := (by decide : Numeral.max32 ≤ 2 ^ 32).trans htwo
    rw [if_pos hlarge, Nat.min_eq_right hmax]
  · rw [if_neg hlarge]
    rfl

/-- Counting stops where the growth has stopped long before. -/
theorem growth_min (n : Nat) : p.growth (min n Numeral.max32) = p.growth n := by
  rcases Nat.le_total n Numeral.max32 with hn | hn
  · rw [Nat.min_eq_left hn]
  · rw [Nat.min_eq_right hn]
    have hmax : 32 ≤ Numeral.max32 := by decide
    by_cases hfactor : 1 < p.factor
    · rw [growth, growth, if_pos ⟨hfactor, hmax⟩, if_pos ⟨hfactor, hmax.trans hn⟩]
    · obtain hzero | hone : p.factor = 0 ∨ p.factor = 1 := by omega
      · rw [growth_eq, growth_eq, hzero, Nat.zero_pow (by omega), Nat.zero_pow (by omega)]
      · rw [growth_eq, growth_eq, hone, Nat.one_pow, Nat.one_pow]

/-- **How long a wait is**: the bound on all spans does not show, for the ceiling is within it. -/
theorem nanos_wait (n : Nat) : (p.wait n).nanos
    = min (p.initial.nanos * min (p.factor ^ n) Numeral.max32) p.ceiling.nanos := by
  have hceiling := p.ceiling.bounded
  rw [wait, Span.nanos_shorter, Span.nanos_times, growth_eq]
  omega

theorem wait_min (n : Nat) : p.wait (min n Numeral.max32) = p.wait n := by
  rw [wait, growth_min, wait]

/-- No wait is longer than the ceiling. -/
theorem wait_le_ceiling (n : Nat) : (p.wait n).nanos ≤ p.ceiling.nanos := by
  rw [nanos_wait]
  exact Nat.min_le_right _ _

variable {p}

/-- The first wait is the initial one, if the ceiling allows it. -/
theorem wait_zero (h : p.initial.nanos ≤ p.ceiling.nanos) : p.wait 0 = p.initial := by
  have hone : min (p.factor ^ 0) Numeral.max32 = 1 := by
    rw [Nat.pow_zero]
    rfl
  refine Span.ext_nanos ?_
  rw [nanos_wait, hone, Nat.mul_one, Nat.min_eq_left h]

/-- **Waits do not become shorter**, also where the power is cut. -/
theorem wait_mono (hfactor : 1 ≤ p.factor) (hmn : m ≤ n) :
    (p.wait m).nanos ≤ (p.wait n).nanos := by
  have hpow : p.factor ^ m ≤ p.factor ^ n := Nat.pow_le_pow_right hfactor hmn
  have hcut : min (p.factor ^ m) Numeral.max32 ≤ min (p.factor ^ n) Numeral.max32 := by omega
  have hproduct := Nat.mul_le_mul_left p.initial.nanos hcut
  rw [nanos_wait, nanos_wait]
  omega

/-- A product is cut by a ceiling alike whether or not its second factor was cut before, unless that
made it too small for the ceiling. -/
theorem min_mul_min_eq_iff (i x bound ceiling : Nat) :
    min (i * min x bound) ceiling = min (i * x) ceiling
      ↔ x ≤ bound ∨ i = 0 ∨ ceiling ≤ i * bound := by
  rcases Nat.lt_or_ge bound x with hx | hx
  · rw [Nat.min_eq_right (Nat.le_of_lt hx)]
    rcases Nat.eq_zero_or_pos i with rfl | hi
    · simp
    · have hless : i * bound < i * x := Nat.mul_lt_mul_of_pos_left hx hi
      omega
  · simp [hx]

/-- **When a wait is the one of the unbounded formula.** -/
theorem nanos_wait_eq_iff (p : RetryPolicy) (n : Nat) :
    (p.wait n).nanos = min (p.initial.nanos * p.factor ^ n) p.ceiling.nanos
      ↔ p.factor ^ n ≤ Numeral.max32 ∨ p.initial.nanos = 0
        ∨ p.ceiling.nanos ≤ p.initial.nanos * Numeral.max32 := by
  rw [nanos_wait, min_mul_min_eq_iff]

end RetryPolicy

/-! ## Histories -/

/-- **A failed read** as it is counted: with no regard to what the feed asks for, or with regard to
a wait that it may have asked for. -/
inductive Failure
  | plain
  | asking (asked : Option Span)

/-- The wait that the feed asked for. -/
def Failure.asked? : Failure → Option Span
  | .plain => none
  | .asking asked => asked

/-- **What comes to a streak**: a good read ends it, a failed one makes it longer. -/
inductive Outcome
  | good
  | failed (f : Failure)

/-- Whether a read failed. -/
def Outcome.isFailed : Outcome → Bool
  | .good => false
  | .failed _ => true

/-- **The number of failures in a row** at the end of a history. -/
def failuresInRow (past : List Outcome) : Nat := (past.rtakeWhile Outcome.isFailed).length

theorem failuresInRow_good (past : List Outcome) : failuresInRow (past ++ [.good]) = 0 := by
  rw [failuresInRow, List.rtakeWhile_concat_neg _ _ _ (by simp [Outcome.isFailed]), List.length_nil]

theorem failuresInRow_failed (past : List Outcome) (f : Failure) :
    failuresInRow (past ++ [.failed f]) = failuresInRow past + 1 := by
  rw [failuresInRow, List.rtakeWhile_concat_pos _ _ _ rfl, List.length_append, failuresInRow,
    List.length_singleton]

/-- Failures lengthen the row, one by one. -/
theorem failuresInRow_append (past : List Outcome) (fs : List Failure) :
    failuresInRow (past ++ fs.map .failed) = failuresInRow past + fs.length := by
  induction fs using List.reverseRecOn with
  | nil => simp
  | append_singleton fs f ih =>
    rw [List.map_append, List.map_singleton, ← List.append_assoc, failuresInRow_failed, ih,
      List.length_append, List.length_singleton, Nat.add_assoc]

namespace Streak

variable (p : RetryPolicy)

/-- Count a failure, and tell the wait before the next read. -/
def suffer (s : Streak) : Failure → Option Span × Streak
  | .plain => s.fail p
  | .asking asked => s.failAsked p asked

/-- The streak after one read more. -/
def meet (s : Streak) : Outcome → Streak
  | .good => s.succeed
  | .failed f => (s.suffer p f).2

/-- **The streak after a history**, from a fresh one. -/
def after (past : List Outcome) : Streak := past.foldl (meet p) {}

/-- **A failure and its wait**: none beyond the limit, and otherwise the longer one of what the
schedule says and what the feed asks for. -/
theorem suffer_eq (s : Streak) (f : Failure) : s.suffer p f
    = (if s.next.exhausted p then none
        else some (f.asked?.elim (p.wait s.failed) (p.wait s.failed).longer), s.next) := by
  cases f with
  | plain => rfl
  | asking asked =>
    rw [suffer, failAsked, fail]
    cases s.next.exhausted p <;> rfl

/-- **A streak counts the failures in a row**, as far as thirty-two bits go. -/
theorem after_failed (past : List Outcome) :
    (after p past).failed = min (failuresInRow past) Numeral.max32 := by
  induction past using List.reverseRecOn with
  | nil => rfl
  | append_singleton past x ih =>
    rw [after, List.foldl_append, List.foldl_cons, List.foldl_nil, ← after]
    cases x with
    | good =>
      rw [failuresInRow_good]
      rfl
    | failed f =>
      rw [meet, suffer_eq, failuresInRow_failed]
      change min ((after p past).failed + 1) Numeral.max32 = _
      omega

/-- The wait that comes next depends on the number of failures in a row alone. -/
theorem wait_after (past : List Outcome) :
    p.wait (after p past).failed = p.wait (failuresInRow past) := by
  rw [after_failed, p.wait_min]

variable {p}

/-- **When a wait is as long as the schedule says.**  Without a limit a failed read always leads to
a wait.  The failure after `n` others in a row waits for the initial time, times the factor to the
power of `n`, or for the ceiling if that is less, exactly if the power fits in thirty-two bits, or
there is nothing to be multiplied, or the ceiling is reached with thirty-two bits already. -/
theorem on_schedule_iff (unlimited : p.limit = 0) (past : List Outcome) :
    ∃ d, ((after p past).suffer p .plain).1 = some d
      ∧ (d.nanos = min (p.initial.nanos * p.factor ^ failuresInRow past) p.ceiling.nanos
        ↔ p.factor ^ failuresInRow past ≤ Numeral.max32 ∨ p.initial.nanos = 0
          ∨ p.ceiling.nanos ≤ p.initial.nanos * Numeral.max32) := by
  have hgoes : (after p past).next.exhausted p = false := by simp [exhausted, unlimited]
  refine ⟨p.wait (failuresInRow past), ?_, p.nanos_wait_eq_iff _⟩
  rw [suffer_eq, hgoes, wait_after]
  rfl

/-- Forty failures in a row under the standard policy, far beyond thirty-two bits: the wait is the
ceiling, as the schedule says. -/
theorem on_schedule_after_forty :
    let past : List Outcome := .good :: List.replicate 40 (.failed .plain)
    RetryPolicy.standard.limit = 0
      ∧ ((after .standard past).suffer .standard .plain).1 = some (.ofSecs 60)
      ∧ (Span.ofSecs 60).nanos = min (1_000_000_000 * 2 ^ 40) 60_000_000_000 := by
  intro past
  obtain ⟨d, hd, hiff⟩ := on_schedule_iff (p := .standard) rfl past
  have hrow : failuresInRow past = 40 := by decide
  have hnanos := hiff.mpr (.inr (.inr (by decide)))
  rw [hrow] at hnanos
  obtain rfl : d = .ofSecs 60 := Span.ext_nanos hnanos
  exact ⟨rfl, hd, hnanos⟩

/-- **A wait that falls short of the schedule**: one nanosecond at first, doubled with every failure
up to a ceiling of a hundred seconds.  After thirty-three failures in a row the next one should wait
for `2 ^ 33` nanoseconds, and waits for one less than `2 ^ 32`. -/
theorem short_of_schedule :
    let p : RetryPolicy := ⟨.ofNanos 1, .ofSecs 100, 2, 0⟩
    let past : List Outcome := List.replicate 33 (.failed .plain)
    failuresInRow past = 33
      ∧ ((after p past).suffer p .plain).1 = some (.ofNanos 4_294_967_295)
      ∧ min (p.initial.nanos * p.factor ^ 33) p.ceiling.nanos = 8_589_934_592 := by
  decide +kernel

end Streak

end ChatFeed
