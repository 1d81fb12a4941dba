import ChatFeed.Proofs.Number.Numeral
import ChatFeed.Proofs.Poll.Course
import ChatFeed.Replay.Playback

/-!
# Proofs/Replay/Position — what a capture answers at a position

`Capture.reply` is the answer to a read, without the time that it takes.  Three things can happen
(`reply_cases`): the cursor is none of the capture, the end is reached, or a batch is served.  A
batch takes up the events where its position is and its cursor is the position behind it
(`take_append_batchAt`), so positions of the capture lead to positions of the capture.
-/

namespace ChatFeed

namespace Capture

variable {c : Capture}

/-- The position that a cursor of the capture means is one of its own. -/
theorem offset?_le {cursor : Option Cursor} {k : Nat} (h : c.offset? cursor = some k) :
    k ≤ c.size := by
  cases cursor with
  | none =>
    obtain rfl := Option.some.inj h
    exact Nat.zero_le _
  | some cursor =>
    unfold offset? at h
    cases hread : Numeral.read Numeral.max64 cursor.token.toList with
    | error fault => simp [hread] at h
    | ok n =>
      by_cases hn : n ≤ c.size
      · obtain rfl : n = k := by simpa [hread, hn] using h
        exact hn
      · simp [hread, hn] at h

/-- **The cursor of a position means that position**, if it means any. -/
theorem offset?_cursorAt {n k : Nat} (h : c.offset? (some (cursorAt n)) = some k) : k = n := by
  simp only [offset?, cursorAt, Numeral.read_render] at h
  by_cases hmax : n ≤ Numeral.max64
  · by_cases hn : n ≤ c.size
    · exact (by simpa [hmax, hn] using h : n = k).symm
    · simp [hmax, hn] at h
  · simp [hmax] at h

/-- **The cursor of a position of the capture means that position**, when positions can be
counted. -/
theorem offset?_cursorAt_eq {n : Nat} (hn : n ≤ c.size) (countable : c.size ≤ Numeral.max64) :
    c.offset? (some (cursorAt n)) = some n := by
  simp [offset?, cursorAt, Numeral.read_render, hn, hn.trans countable]

/-- **Different positions have different cursors.** -/
theorem cursorAt_injective {m n : Nat} (h : cursorAt m = cursorAt n) : m = n :=
  Numeral.render_injective (congrArg Cursor.token h)

/-- **The answer to a read**: a batch without events when nothing is left. -/
def reply (c : Capture) (cursor : Option Cursor) (max : Nat) : Answer :=
  match c.serve cursor max with
  | .error e => .error e
  | .ok none => .ok .empty
  | .ok (some b) => .ok b

/-- **The ways in which a capture answers.** -/
theorem reply_cases (c : Capture) (cursor : Option Cursor) (max : Nat) :
    (c.offset? cursor = none ∧ c.reply cursor max = .error (.staleCursor (cursor.map (·.token))))
      ∨ (c.offset? cursor = some c.size ∧ c.reply cursor max = .ok .empty)
      ∨ ∃ start < c.size, c.offset? cursor = some start
        ∧ c.reply cursor max = .ok (c.batchAt start max) := by
  unfold reply serve
  cases hstart : c.offset? cursor with
  | none => exact .inl ⟨rfl, rfl⟩
  | some start =>
    by_cases hend : start = c.size
    · exact .inr (.inl ⟨by rw [hend], by simp [hend]⟩)
    · have hlt : start < c.size := Nat.lt_of_le_of_ne (offset?_le hstart) hend
      exact .inr (.inr ⟨start, hlt, rfl, by simp [hend]⟩)

/-- **A batch that brings an event is the answer** to whoever asks for its position. -/
theorem reply_eq_batchAt {cursor : Option Cursor} {start max : Nat}
    (hstart : c.offset? cursor = some start) (hne : (c.batchAt start max).events ≠ []) :
    c.reply cursor max = .ok (c.batchAt start max) := by
  rcases c.reply_cases cursor max with ⟨hnone, -⟩ | ⟨hend, -⟩ | ⟨start', -, hstart', hreply⟩
  · simp [hstart] at hnone
  · obtain rfl := Option.some.inj (hstart.symm.trans hend)
    exact absurd (by simp [batchAt, size]) hne
  · obtain rfl := Option.some.inj (hstart.symm.trans hstart')
    exact hreply

/-- **A batch goes on from its position**, and its cursor is the position behind it. -/
theorem take_append_batchAt {start : Nat} (h : start ≤ c.size) (max : Nat) :
    ∃ stop ≤ c.size, (c.batchAt start max).next = some (cursorAt stop)
      ∧ c.events.take start ++ (c.batchAt start max).events = c.events.take stop := by
  refine ⟨min (start + Nat.max max 1) c.size, Nat.min_le_right _ _, rfl, ?_⟩
  have hstop : start + (min (start + Nat.max max 1) c.size - start)
      = min (start + Nat.max max 1) c.size := by omega
  conv_rhs => rw [← hstop, List.take_add]
  rfl

/-- **A batch brings an event**, unless the end is reached. -/
theorem batchAt_ne_nil {start : Nat} (h : start < c.size) (max : Nat) :
    (c.batchAt start max).events ≠ [] := by
  have hmax : 0 < Nat.max max 1 := Nat.lt_of_lt_of_le Nat.zero_lt_one (Nat.le_max_right max 1)
  intro hnil
  have hlength := congrArg List.length hnil
  simp only [batchAt, List.length_take, List.length_drop, List.length_nil] at hlength
  change min (min (start + Nat.max max 1) c.size - start) (c.size - start) = 0 at hlength
  omega

end Capture

/-- **A playback answers as its capture does**, at once or after the patience of a read. -/
theorem Playback.ask_reply (config : PollConfig) (cursor : Option Cursor) (p : Playback) :
    (p.ask config cursor).1 = .now (p.capture.reply cursor config.batch)
      ∨ (p.ask config cursor).1 = .later config.patience (p.capture.reply cursor config.batch) := by
  unfold ask Capture.reply
  cases p.capture.serve cursor config.batch with
  | error e => exact .inl rfl
  | ok b =>
    cases b with
    | none => exact .inr rfl
    | some b => exact .inl rfl

end ChatFeed
