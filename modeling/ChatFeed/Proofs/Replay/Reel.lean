import ChatFeed.Proofs.Replay.Position
import Mathlib.Algebra.Order.Floor.Div

/-!
# Proofs/Replay/Reel — a capture read batch by batch

Read a capture again and again, each time at the cursor to which the answers so far lead.  A cursor
that is none of the capture is refused once, and then it is read from its beginning.  From there on
every read takes up where the one before has ended (`Capture.offset?_cursorAfter`), so the batches
are the rest of the capture, cut into pieces (`Capture.take_append_replies`), and its end is reached
after as many reads as there are pieces (`Capture.atEnd_cursorAfter_iff`).
-/

namespace ChatFeed

namespace Capture

variable (c : Capture) (batch : Nat) (start : Option Cursor)

/-- **The cursor after some reads**, the first of which is made at a given one. -/
def cursorAfter : Nat → Option Cursor
  | 0 => start
  | k + 1 => Answer.after (cursorAfter k) (c.reply (cursorAfter k) batch)

/-- **The answers to some reads.** -/
def replies (k : Nat) : List Answer :=
  (List.range k).map fun i => c.reply (c.cursorAfter batch start i) batch

/-- **The position where reading begins**: the one that the cursor means, or else the first one. -/
def first : Nat := (c.offset? start).getD 0

/-- How many reads are refused before: one, if the cursor is none of the capture. -/
def refusals : Nat := if c.offset? start = none then 1 else 0

/-- The position after some reads. -/
def reached (k : Nat) : Nat := min (c.first start + (k - c.refusals start) * max batch 1) c.size

/-- Whether a cursor means the end of the capture. -/
def atEnd (cursor : Option Cursor) : Bool := c.offset? cursor = some c.size

/-- How many reads there are before the one that finds nothing left. -/
def length : Nat := c.refusals start + (c.size - c.first start) ⌈/⌉ max batch 1

variable {c batch start} {k i : Nat} {cursor : Option Cursor}

@[simp] theorem replies_zero : c.replies batch start 0 = [] := rfl

theorem replies_succ (k : Nat) : c.replies batch start (k + 1)
    = c.replies batch start k ++ [c.reply (c.cursorAfter batch start k) batch] := by
  simp [replies, List.range_succ]

/-- **The answers lead to the cursor after them.** -/
theorem position_replies (k : Nat) :
    Answer.position start (c.replies batch start k) = c.cursorAfter batch start k := by
  induction k with
  | zero => rfl
  | succ k ih => rw [replies_succ, Answer.position_concat, ih, cursorAfter]

theorem first_le (c : Capture) (start : Option Cursor) : c.first start ≤ c.size := by
  unfold first
  cases hstart : c.offset? start with
  | none => exact Nat.zero_le _
  | some n => exact offset?_le hstart

theorem refusals_le (c : Capture) (start : Option Cursor) : c.refusals start ≤ 1 := by
  unfold refusals
  split <;> omega

/-- A read is refused exactly if the cursor is none of the capture. -/
theorem refusals_pos_iff : 0 < c.refusals start ↔ c.offset? start = none := by
  unfold refusals
  split <;> simp_all

theorem first_eq_zero (h : 0 < c.refusals start) : c.first start = 0 := by
  simp [first, refusals_pos_iff.mp h]

theorem first_le_reached (c : Capture) (batch : Nat) (start : Option Cursor) (k : Nat) :
    c.first start ≤ c.reached batch start k :=
  Nat.le_min.mpr ⟨Nat.le_add_right _ _, c.first_le start⟩

theorem reached_le (c : Capture) (batch : Nat) (start : Option Cursor) (k : Nat) :
    c.reached batch start k ≤ c.size := Nat.min_le_right _ _

theorem reached_of_le (h : k ≤ c.refusals start) :
    c.reached batch start k = c.first start := by
  rw [reached, Nat.sub_eq_zero_of_le h, Nat.zero_mul, Nat.add_zero,
    Nat.min_eq_left (c.first_le start)]

/-- One read more goes on by a batch, as far as there are events. -/
theorem reached_succ (h : c.refusals start ≤ k) :
    c.reached batch start (k + 1) = min (c.reached batch start k + max batch 1) c.size := by
  rw [reached, reached, Nat.sub_add_comm h, Nat.add_mul, Nat.one_mul]
  omega

/-- How an answer moves the cursor. -/
theorem cursorAfter_succ (k : Nat) : c.cursorAfter batch start (k + 1)
    = Answer.after (c.cursorAfter batch start k)
      (c.reply (c.cursorAfter batch start k) batch) := rfl

/-- **Where the cursor is after some reads**: it is refused at first, if it is none of the capture,
and means the position reached from then on. -/
theorem offset?_cursorAfter (countable : c.size ≤ Numeral.max64) (batch : Nat)
    (start : Option Cursor) (k : Nat) :
    c.offset? (c.cursorAfter batch start k)
      = if k < c.refusals start then none else some (c.reached batch start k) := by
  have hone := c.refusals_le start
  induction k with
  | zero =>
    rw [cursorAfter, reached_of_le (Nat.zero_le _)]
    unfold refusals first
    cases hstart : c.offset? start <;> simp
  | succ k ih =>
    rw [if_neg (by omega), cursorAfter_succ]
    rcases c.reply_cases (c.cursorAfter batch start k) batch with ⟨hnone, hreply⟩
      | ⟨hend, hreply⟩ | ⟨n, hn, hpos, hreply⟩
    · -- the cursor was refused, so this is where reading begins
      have hfirst : k < c.refusals start := by
        by_contra hk
        rw [if_neg hk, hnone] at ih
        cases ih
      rw [hreply, reached_of_le (by omega), first_eq_zero (by omega)]
      rfl
    · have hk : c.refusals start ≤ k := by
        by_contra hk
        rw [if_pos (by omega), hend] at ih
        cases ih
      have hreached : c.size = c.reached batch start k := by
        rw [if_neg (by omega), hend] at ih
        exact Option.some.inj ih
      rw [hreply, reached_succ hk, ← hreached, Nat.min_eq_right (Nat.le_add_right _ _)]
      exact hend
    · have hk : c.refusals start ≤ k := by
        by_contra hk
        rw [if_pos (by omega), hpos] at ih
        cases ih
      have hreached : n = c.reached batch start k := by
        rw [if_neg (by omega), hpos] at ih
        exact Option.some.inj ih
      rw [hreply, reached_succ hk, ← hreached]
      exact offset?_cursorAt_eq (Nat.min_le_right _ _) countable

/-- **What a read brings** where the position is known: nothing at the end, and a batch before. -/
theorem reply_cursorAfter (countable : c.size ≤ Numeral.max64) (h : c.refusals start ≤ k) :
    c.reply (c.cursorAfter batch start k) batch = if c.reached batch start k = c.size
      then .ok .empty else .ok (c.batchAt (c.reached batch start k) batch) := by
  have hpos := offset?_cursorAfter countable batch start k
  rw [if_neg (by omega)] at hpos
  rw [reply, serve, hpos]
  by_cases hend : c.reached batch start k = c.size <;> simp [hend]

/-- A cursor that is none of the capture is refused. -/
theorem reply_of_lt_refusals (h : k < c.refusals start) (batch : Nat) :
    ∃ rejected, c.reply (c.cursorAfter batch start k) batch = .error (.staleCursor rejected) := by
  obtain rfl : k = 0 := by
    have hone := c.refusals_le start
    omega
  have hnone := refusals_pos_iff.mp h
  exact ⟨_, by rw [cursorAfter, reply, serve, hnone]⟩

/-- **The batches are the rest of the capture**, as far as it has been read. -/
theorem take_append_replies (countable : c.size ≤ Numeral.max64) (batch : Nat)
    (start : Option Cursor) (k : Nat) :
    c.events.take (c.first start) ++ (c.replies batch start k).flatMap Answer.events
      = c.events.take (c.reached batch start k) := by
  induction k with
  | zero => rw [reached_of_le (Nat.zero_le _), replies_zero, List.flatMap_nil, List.append_nil]
  | succ k ih =>
    rw [replies_succ, List.flatMap_append, ← List.append_assoc, ih, List.flatMap_singleton]
    rcases Nat.lt_or_ge k (c.refusals start) with hk | hk
    · obtain ⟨rejected, hreply⟩ := reply_of_lt_refusals hk batch
      rw [hreply, reached_of_le (Nat.le_of_lt hk), reached_of_le hk]
      exact List.append_nil _
    · rw [reply_cursorAfter countable hk, reached_succ hk]
      by_cases hend : c.reached batch start k = c.size
      · rw [if_pos hend, hend, Nat.min_eq_right (Nat.le_add_right _ _)]
        exact List.append_nil _
      · obtain ⟨stop, hstop, hnext, htake⟩ :=
          take_append_batchAt (c.reached_le batch start k) batch
        obtain rfl := cursorAt_injective (Option.some.inj hnext)
        rw [if_neg hend]
        exact htake

/-- **All batches before the end bring an event**, and none brings more than was asked for. -/
theorem length_events_reply (countable : c.size ≤ Numeral.max64) {b : Batch}
    (h : c.reply (c.cursorAfter batch start k) batch = .ok b)
    (early : c.atEnd (c.cursorAfter batch start k) = false) :
    1 ≤ b.events.length ∧ b.events.length ≤ max batch 1 := by
  rcases Nat.lt_or_ge k (c.refusals start) with hk | hk
  · obtain ⟨rejected, hreply⟩ := reply_of_lt_refusals hk batch
    rw [hreply] at h
    cases h
  · have hpos := offset?_cursorAfter countable batch start k
    rw [if_neg (by omega)] at hpos
    have hbefore : c.reached batch start k ≠ c.size := by simpa [atEnd, hpos] using early
    rw [reply_cursorAfter countable hk, if_neg hbefore] at h
    obtain rfl := Except.ok.inj h
    have hle := c.reached_le batch start k
    change 1 ≤ ((c.events.drop _).take (min (_ + max batch 1) c.size - _)).length
      ∧ ((c.events.drop _).take (min (_ + max batch 1) c.size - _)).length ≤ _
    have hsize : c.events.length = c.size := rfl
    rw [List.length_take, List.length_drop, hsize]
    omega

/-- **The end is reached after all batches.** -/
theorem atEnd_cursorAfter_iff (c : Capture) (batch : Nat) (start : Option Cursor) (k : Nat)
    (countable : c.size ≤ Numeral.max64) :
    c.atEnd (c.cursorAfter batch start k) = true ↔ c.length batch start ≤ k := by
  have hpage : 0 < max batch 1 := by omega
  have hfirst := c.first_le start
  rw [atEnd, decide_eq_true_iff, offset?_cursorAfter countable batch start, length]
  rcases Nat.lt_or_ge k (c.refusals start) with hk | hk
  · rw [if_pos hk]
    exact iff_of_false nofun (by omega)
  · have hceil : (c.size - c.first start) ⌈/⌉ max batch 1 ≤ k - c.refusals start
        ↔ c.size - c.first start ≤ max batch 1 * (k - c.refusals start) :=
      ceilDiv_le_iff_le_mul hpage
    rw [if_neg (by omega), Option.some.injEq, ← Nat.le_sub_iff_add_le' hk, hceil, reached,
      Nat.mul_comm]
    omega

/-- At the end all has been reached. -/
theorem reached_eq_size (countable : c.size ≤ Numeral.max64) (h : c.length batch start ≤ k) :
    c.reached batch start k = c.size := by
  have hend := (c.atEnd_cursorAfter_iff batch start k countable).mpr h
  have hrefused : ¬ k < c.refusals start := by
    have := Nat.le_add_right (c.refusals start) ((c.size - c.first start) ⌈/⌉ max batch 1)
    rw [length] at h
    omega
  rw [atEnd, decide_eq_true_iff, offset?_cursorAfter countable batch start, if_neg hrefused] at hend
  exact Option.some.inj hend

/-- The cursor from which reading goes on: none, if the first one was refused. -/
def opening (c : Capture) (start : Option Cursor) : Option Cursor :=
  if c.offset? start = none then none else start

/-- **The cursor after some reads**, spelled out: as long as no event has come it is the one from
which reading goes on, and then it is that of the position reached. -/
theorem cursorAfter_eq (countable : c.size ≤ Numeral.max64) (h : c.refusals start ≤ k) :
    c.cursorAfter batch start k = if c.first start < c.reached batch start k
      then some (cursorAt (c.reached batch start k)) else c.opening start := by
  induction k with
  | zero =>
    have hopening : c.opening start = start :=
      if_neg fun hnone => absurd (refusals_pos_iff.mpr hnone) (by omega)
    rw [reached_of_le (Nat.zero_le _), if_neg (Nat.lt_irrefl _), hopening]
    rfl
  | succ k ih =>
    rw [cursorAfter_succ]
    rcases Nat.lt_or_ge k (c.refusals start) with hk | hk
    · obtain ⟨rejected, hreply⟩ := reply_of_lt_refusals hk batch
      have hnone : c.offset? start = none := refusals_pos_iff.mp (by omega)
      rw [hreply, reached_of_le hk, if_neg (Nat.lt_irrefl _), opening, if_pos hnone]
      rfl
    · rw [reply_cursorAfter countable hk, reached_succ hk]
      by_cases hend : c.reached batch start k = c.size
      · have hstays := ih hk
        rw [hend] at hstays
        rw [if_pos hend, hend, Nat.min_eq_right (Nat.le_add_right _ _), ← hstays]
        rfl
      · have hle := c.reached_le batch start k
        have hmore := c.first_le_reached batch start k
        rw [if_neg hend, if_pos (by omega)]
        rfl

/-- **A cursor is refused once at most**, at the first read. -/
theorem countP_isStale_replies (countable : c.size ≤ Numeral.max64) (k : Nat) :
    (c.replies batch start k).countP Answer.isStale = min k (c.refusals start) := by
  have hone := c.refusals_le start
  induction k with
  | zero => simp
  | succ k ih =>
    rw [replies_succ, List.countP_append, ih]
    rcases Nat.lt_or_ge k (c.refusals start) with hk | hk
    · obtain ⟨rejected, hreply⟩ := reply_of_lt_refusals hk batch
      rw [hreply]
      change min k _ + 1 = _
      omega
    · have hgood : Answer.isStale (c.reply (c.cursorAfter batch start k) batch) = false := by
        rw [reply_cursorAfter countable hk]
        split <;> rfl
      rw [List.countP_singleton, hgood]
      change min k _ + 0 = _
      omega

end Capture

end ChatFeed
