import ChatFeed.Proofs.Poll.Course
import Mathlib.Algebra.Group.Nat.Defs
import Mathlib.Data.List.Infix

/-!
# Proofs/Poll/Bulletin — the states that a loop publishes, and how it ends

What a loop publishes can be read from the answers to its reads.  Every passing failure is followed
by a pause, whose number is that of the failures in a row, and after the pause the loop is running
again (`Answer.states`); a fatal failure, or one failure too many, ends the run (`Answer.Ends`).

* `Reaction.tells` — every reaction keeps the published states as the answers say.
* `Course.publishes_pauses_then_end` — they are so at every moment of a course, and at its end.
-/

namespace ChatFeed

namespace Answer

/-- Whether a read was good. -/
def isGood : Answer → Bool
  | .ok _ => true
  | .error _ => false

/-- Whether a read failed for now. -/
def isPassing : Answer → Bool
  | .error (.transient _ _) => true
  | _ => false

/-- **The failures in a row** that some answers end with: the passing ones since the last good read.
A cursor that is refused neither counts nor ends the row. -/
def failures (answers : List Answer) : Nat :=
  (answers.rtakeWhile fun a => !a.isGood).countP isPassing

/-- Whether a policy allows no more than fewer failures in a row. -/
def IsTooMany (p : RetryPolicy) (n : Nat) : Prop := 0 < p.limit ∧ p.limit < n

instance (p : RetryPolicy) (n : Nat) : Decidable (IsTooMany p n) :=
  inferInstanceAs (Decidable (0 < p.limit ∧ p.limit < n))

/-- **The pause after some answers**, when the last one is a passing failure and not one too many:
its number is that of the failures in a row, and it takes as long as the schedule says for that
number or as the feed has asked for, whichever is longer. -/
def pause? (p : RetryPolicy) (answers : List Answer) : Option (Nat × Span) :=
  match answers.getLast? with
  | some (.error (.transient _ asked)) =>
    let n := failures answers
    let wait := p.wait (n - 1)
    if IsTooMany p n then none else some (n, asked.elim wait wait.longer)
  | _ => none

/-- **All pauses** on the way through some answers, in order. -/
def pauses (p : RetryPolicy) (answers : List Answer) : List (Nat × Span) :=
  answers.inits.filterMap (pause? p)

/-- **The states on the way through some answers**: running, and for every pause backing off and
running again. -/
def states (p : RetryPolicy) (answers : List Answer) : List PollState :=
  .running :: (pauses p answers).flatMap fun pause => [.backingOff pause.1 pause.2, .running]

/-- **How answers end a run**: the last one is a fatal failure, or a passing one that is the first
in a row beyond the limit, if there is a limit. -/
def Ends (p : RetryPolicy) (answers : List Answer) (e : PollError) : Prop :=
  (∃ message, answers.getLast? = some (.error (.fatal message)) ∧ e = .fatal (.fatal message))
    ∨ ∃ message asked, answers.getLast? = some (.error (.transient message asked))
      ∧ 0 < p.limit ∧ failures answers = p.limit + 1
      ∧ e = .exhausted (p.limit + 1) (.transient message asked)

/-- **Nothing has ended a run yet**: the answers did not, at no time. -/
def Spares (p : RetryPolicy) (answers : List Answer) : Prop :=
  ∀ part, part <+: answers → ∀ e, ¬ Ends p part e

/-- **No row of failures is too long to be counted** in thirty-two bits. -/
def AreCountable (answers : List Answer) : Prop :=
  ∀ part, part <+: answers → failures part < 2 ^ 32

variable {p : RetryPolicy} {answers : List Answer} {a : Answer} {e : PollError}

@[simp] theorem failures_nil : failures [] = 0 := rfl

/-- **One answer more** ends the row, or adds to it at most itself. -/
theorem failures_concat (answers : List Answer) (a : Answer) : failures (answers ++ [a])
    = if a.isGood then 0 else failures answers + if a.isPassing then 1 else 0 := by
  unfold failures
  rw [List.rtakeWhile_concat]
  cases a.isGood with
  | true => rfl
  | false => simp [List.countP_append, List.countP_singleton]

/-- The pauses grow by that after the last answer. -/
theorem pauses_concat (p : RetryPolicy) (answers : List Answer) (a : Answer) :
    pauses p (answers ++ [a]) = pauses p answers ++ (pause? p (answers ++ [a])).toList := by
  have hinits : (answers ++ [a]).inits = answers.inits ++ [answers ++ [a]] := by
    simp [List.inits_append]
  have hlast : [answers ++ [a]].filterMap (pause? p) = (pause? p (answers ++ [a])).toList := by
    cases h : pause? p (answers ++ [a]) <;> simp [h]
  rw [pauses, hinits, List.filterMap_append, hlast, pauses]

/-- An answer without a pause brings no state, -/
theorem states_concat_of_none (h : pause? p (answers ++ [a]) = none) :
    states p (answers ++ [a]) = states p answers := by
  rw [states, pauses_concat, h, Option.toList_none, List.append_nil, states]

/-- and a pause brings two. -/
theorem states_concat_of_some {n : Nat} {d : Span} (h : pause? p (answers ++ [a]) = some (n, d)) :
    states p (answers ++ [a]) = states p answers ++ [.backingOff n d] ++ [.running] := by
  rw [states, pauses_concat, h]
  simp [states]

/-- Only a passing failure is followed by a pause. -/
theorem states_concat_of_not_isPassing (h : a.isPassing = false) :
    states p (answers ++ [a]) = states p answers := by
  refine states_concat_of_none ?_
  unfold pause?
  rw [List.getLast?_concat]
  cases a with
  | ok b => rfl
  | error e => cases e <;> simp_all [isPassing]

/-- **The states end with running.** -/
theorem states_eq_concat (p : RetryPolicy) (answers : List Answer) :
    ∃ before, states p answers = before ++ [.running] := by
  induction answers using List.reverseRecOn with
  | nil => exact ⟨[], rfl⟩
  | append_singleton answers a ih =>
    obtain ⟨before, hbefore⟩ := ih
    cases hpause : pause? p (answers ++ [a]) with
    | none => exact ⟨before, (states_concat_of_none hpause).trans hbefore⟩
    | some pause => exact ⟨_, states_concat_of_some hpause⟩

theorem dropLast_states (p : RetryPolicy) (answers : List Answer) :
    (states p answers).dropLast ++ [.running] = states p answers := by
  obtain ⟨before, hbefore⟩ := states_eq_concat p answers
  rw [hbefore, List.dropLast_concat]

theorem spares_nil (p : RetryPolicy) : Spares p [] := by
  intro part hpart e hends
  obtain rfl := List.prefix_nil.mp hpart
  simp [Ends] at hends

/-- Answers that end nothing may go on with one that does not either. -/
theorem Spares.concat (spares : Spares p answers) (h : ∀ e, ¬ Ends p (answers ++ [a]) e) :
    Spares p (answers ++ [a]) := by
  intro part hpart
  rcases List.prefix_concat_iff.mp hpart with rfl | hpart
  · exact h
  · exact spares part hpart

/-- Neither a good read nor a cursor that is refused ends a run. -/
theorem not_ends_of_mild (h : a.isGood = true ∨ a.isStale = true) (e : PollError) :
    ¬ Ends p (answers ++ [a]) e := by
  unfold Ends
  rw [List.getLast?_concat]
  cases a with
  | ok b => simp
  | error e => cases e <;> simp_all [isGood, isStale]

/-- Answers end a run in one way only. -/
theorem Ends.unique {e' : PollError} (h : Ends p answers e) (h' : Ends p answers e') : e = e' := by
  rcases h with ⟨message, hlast, rfl⟩ | ⟨message, asked, hlast, -, -, rfl⟩
  all_goals
    rcases h' with ⟨message', hlast', rfl⟩ | ⟨message', asked', hlast', -, -, rfl⟩
    all_goals simp_all

/-- **The run ends at the last answer**, when those before it have ended nothing. -/
theorem Ends.eq_of_spares {part : List Answer} {e' : PollError} (h : Ends p answers e)
    (spares : Spares p answers.dropLast) (hpart : part <+: answers) (h' : Ends p part e') :
    e' = e := by
  have hnil : answers ≠ [] := by
    rintro rfl
    simp [Ends] at h
  rw [← List.dropLast_append_getLast hnil] at hpart
  rcases List.prefix_concat_iff.mp hpart with rfl | hbefore
  · rw [List.dropLast_append_getLast hnil] at h'
    exact h'.unique h
  · exact absurd h' (spares part hbefore e')

/-- **As long as nothing has ended the run the row is within its limit.** -/
theorem Spares.failures_le (spares : Spares p answers) (limited : 0 < p.limit) :
    failures answers ≤ p.limit := by
  induction answers using List.reverseRecOn with
  | nil => exact Nat.zero_le _
  | append_singleton answers a ih =>
    have hbefore := ih fun part hpart => spares part (hpart.trans (List.prefix_append _ _))
    by_contra hover
    cases a with
    | ok b => exact hover (by simp [failures_concat, isGood])
    | error e =>
      cases e with
      | transient message asked =>
        have hone : failures (answers ++ [.error (.transient message asked)])
            = failures answers + 1 := by rw [failures_concat]; rfl
        exact spares _ List.prefix_rfl _
          (.inr ⟨message, asked, List.getLast?_concat, limited, by omega, rfl⟩)
      | _ => exact hover (by simpa [failures_concat, isGood, isPassing] using hbefore)

theorem AreCountable.mono {part : List Answer} (h : AreCountable answers)
    (hpart : part <+: answers) : AreCountable part := fun more hmore => h more (hmore.trans hpart)

/-- Fewer than that many answers have no such row. -/
theorem areCountable_of_length_lt (h : answers.length < 2 ^ 32) : AreCountable answers := by
  intro part hpart
  have hrow : failures part ≤ part.length :=
    List.countP_le_length.trans (List.rtakeWhile_suffix _ _).length_le
  exact (hrow.trans hpart.length_le).trans_lt h

end Answer

/-! ## What is published -/

namespace Deed

/-- The state that is published. -/
def state? : Deed → Option PollState
  | .publish state => some state
  | _ => none

end Deed

namespace Moment

/-- The state that is published. -/
def state? : Moment → Option PollState
  | .did deed => deed.state?
  | _ => none

/-- Whether a rest begins, with a passing failure, or is out of the question: it has ended, or
something else has been answered. -/
def rest? : Moment → Option Bool
  | .came (.answer a) => some (Answer.isPassing a)
  | .came .rested => some false
  | _ => none

end Moment

/-- **The states published in some time**, in order. -/
def published (past : List Moment) : List PollState := past.filterMap Moment.state?

/-- **Whether the loop rests**, or rested when it was asked to stop. -/
def isAsleep (past : List Moment) : Bool :=
  ((past.takeWhile fun x => !x.isHalt).filterMap Moment.rest?).getLast?.getD false

/-- The states published up to now: while the loop rests, the last running is still to come. -/
def bulletin (p : RetryPolicy) (answers : List Answer) (asleep : Bool) : List PollState :=
  if asleep then (Answer.states p answers).dropLast else Answer.states p answers

/-- The state that is published at the end. -/
def closing : Option PollError → PollState
  | none => .stopped
  | some e => .failed e.text

theorem published_step (past : List Moment) (s : Signal) (deeds : List Deed) :
    published (past ++ .came s :: deeds.map .did)
      = published past ++ deeds.filterMap Deed.state? := by
  have hdeeds : (deeds.map Moment.did).filterMap Moment.state? = deeds.filterMap Deed.state? := by
    rw [List.filterMap_map]
    rfl
  rw [published, List.filterMap_append, List.filterMap_cons, hdeeds]
  rfl

/-- Only an answer or the end of a rest tells whether the loop rests, and only until it is asked to
stop. -/
theorem isAsleep_step (past : List Moment) (s : Signal) (deeds : List Deed) :
    isAsleep (past ++ .came s :: deeds.map .did)
      = if halted past then isAsleep past
        else ((Moment.came s).rest?).getD (isAsleep past) := by
  have hdeeds : ((deeds.map Moment.did).takeWhile fun x => !x.isHalt).filterMap Moment.rest?
      = [] := by
    refine List.filterMap_eq_nil_iff.mpr fun x hx => ?_
    obtain ⟨y, -, rfl⟩ := List.mem_map.mp ((List.takeWhile_prefix _).subset hx)
    rfl
  cases hh : halted past with
  | true => rw [isAsleep, takeWhile_append_of_halted hh, if_pos rfl, isAsleep]
  | false =>
    have hfirst : ((Moment.came s :: deeds.map .did).takeWhile fun x => !x.isHalt).filterMap
        Moment.rest? = (Moment.came s).rest?.toList := by
      cases s <;> simp_all [Moment.isHalt, Moment.rest?]
    rw [isAsleep, takeWhile_append_of_not_halted hh, List.filterMap_append, hfirst,
      if_neg (by simp), isAsleep]
    cases (Moment.came s).rest? <;> simp

namespace Phase

/-- Whether a loop is at its work: about to read, reading, or handing over. -/
def isWorking : Phase → Bool
  | .checking => true
  | .reading => true
  | .handing _ _ _ => true
  | _ => false

/-- Whether a loop rests. -/
def isResting : Phase → Bool
  | .resting _ => true
  | _ => false

/-- **What has been published** when a loop is where it is. -/
def shown (p : RetryPolicy) (answers : List Answer) (asleep : Bool) : Phase → List PollState
  | .starting => []
  | .finished none => bulletin p answers asleep ++ [closing none]
  | .finished (some e) => Answer.states p answers ++ [closing (some e)]
  | _ => bulletin p answers asleep

theorem shown_of_isWorking {phase : Phase} (h : phase.isWorking = true) (p : RetryPolicy)
    (answers : List Answer) (asleep : Bool) : phase.shown p answers asleep
      = bulletin p answers asleep := by
  cases phase <;> simp [isWorking] at h <;> rfl

end Phase

namespace PollLoop

variable {source : String} {c : PollConfig} {d : Desk} {l : PollLoop} {s : Signal} {r : LoopStep}

/-- Handing over publishes nothing and leaves the streak, and the loop is at its work then. -/
theorem handNext_works (events : List Event) (next : Option Cursor) :
    (handNext d l events next).deeds.filterMap Deed.state? = []
      ∧ (handNext d l events next).loop.streak = l.streak
      ∧ (handNext d l events next).loop.phase.isWorking = true := by
  cases events <;> cases next <;> exact ⟨rfl, rfl, rfl⟩

/-- A report publishes nothing. -/
theorem report_publishes (b : Batch) : (report l b).filterMap Deed.state? = [] := by
  refine List.filterMap_eq_nil_iff.mpr fun x hx => ?_
  rcases List.mem_append.mp hx with hx | hx
  · unfold recovery at hx
    split at hx
    · simp at hx
    · obtain rfl := List.mem_singleton.mp hx
      rfl
  · obtain ⟨m, -, rfl⟩ := List.mem_map.mp hx
    rfl

/-- **A good read** publishes nothing and ends the row of failures. -/
theorem onBatch_works (b : Batch) : (onBatch d l b).deeds.filterMap Deed.state? = []
    ∧ (onBatch d l b).loop.streak.failed = 0 ∧ (onBatch d l b).loop.phase.isWorking = true := by
  obtain ⟨hstates, hstreak, hworks⟩ := handNext_works (d := d) (l := l.recovered) b.events b.next
  refine ⟨?_, congrArg Streak.failed hstreak, hworks⟩
  rw [onBatch_deeds, List.filterMap_append, report_publishes, hstates, List.append_nil]

/-- A passing failure is one more in the row, as long as the row can be counted. -/
theorem next_failed {n : Streak} (h : n.failed + 1 < 2 ^ 32) : n.next.failed = n.failed + 1 :=
  Nat.min_eq_left (Nat.le_of_lt_succ h)

/-- How long a loop rests after a passing failure. -/
def pauseOf (c : PollConfig) (l : PollLoop) (asked : Option Span) : Span :=
  asked.elim (c.retry.wait l.streak.failed) (c.retry.wait l.streak.failed).longer

/-- **One failure too many** ends the loop. -/
theorem onTransient_of_isTooMany (e : ReadError) (hcount : l.streak.failed + 1 < 2 ^ 32)
    (htoo : Answer.IsTooMany c.retry (l.streak.failed + 1)) :
    (onTransient c d l e).deeds.filterMap Deed.state?
        = [closing (some (.exhausted (l.streak.failed + 1) e))]
      ∧ (onTransient c d l e).loop.streak.failed = l.streak.failed + 1
      ∧ (onTransient c d l e).loop.phase
        = .finished (some (.exhausted (l.streak.failed + 1) e)) := by
  have hexhausted : l.streak.next.exhausted c.retry = true := by
    simpa [Streak.exhausted, next_failed hcount, Answer.IsTooMany] using htoo
  have hfinish : (onTransient c d l e).deeds.filterMap Deed.state?
        = [closing (some (.exhausted l.streak.next.failed e))]
      ∧ (onTransient c d l e).loop.streak.failed = l.streak.next.failed
      ∧ (onTransient c d l e).loop.phase
        = .finished (some (.exhausted l.streak.next.failed e)) := by
    unfold onTransient Streak.failAsked Streak.fail
    rw [hexhausted]
    exact ⟨rfl, rfl, rfl⟩
  rwa [next_failed hcount] at hfinish

/-- **A passing failure** that is not one too many makes the loop rest. -/
theorem onTransient_of_not_isTooMany (e : ReadError) (hcount : l.streak.failed + 1 < 2 ^ 32)
    (hfew : ¬ Answer.IsTooMany c.retry (l.streak.failed + 1)) :
    (onTransient c d l e).deeds.filterMap Deed.state?
        = [.backingOff (l.streak.failed + 1) (pauseOf c l e.retryAfter?)]
      ∧ (onTransient c d l e).loop.streak.failed = l.streak.failed + 1
      ∧ (onTransient c d l e).loop.phase = .resting (pauseOf c l e.retryAfter?) := by
  have hexhausted : l.streak.next.exhausted c.retry = false := by
    simpa [Streak.exhausted, next_failed hcount, Answer.IsTooMany] using hfew
  have hrest : (onTransient c d l e).deeds.filterMap Deed.state?
        = [.backingOff l.streak.next.failed (pauseOf c l e.retryAfter?)]
      ∧ (onTransient c d l e).loop.streak.failed = l.streak.next.failed
      ∧ (onTransient c d l e).loop.phase = .resting (pauseOf c l e.retryAfter?) := by
    unfold onTransient Streak.failAsked Streak.fail
    rw [hexhausted]
    exact ⟨rfl, rfl, rfl⟩
  rwa [next_failed hcount] at hrest

/-- **What a loop has told**: its streak, the states that it has published and its end are as the
answers say that have reached it. -/
structure Tells (p : RetryPolicy) (answers : List Answer) (asleep : Bool) (past : List PollState)
    (l : PollLoop) : Prop where
  streak : l.streak.failed = Answer.failures answers
  rests : l.isOver = false → asleep = l.phase.isResting
  shown : past = l.phase.shown p answers asleep
  fresh : l.phase = .starting → answers = []
  calm : ∀ words, l.phase ≠ .crashed words
  spares : (∀ e, l.phase ≠ .finished (some e)) → Answer.Spares p answers
  ended : ∀ e, l.phase = .finished (some e) → Answer.Ends p answers e
    ∧ Answer.Spares p answers.dropLast
  stopped : l.phase = .finished none → l.stopping = true

variable {p : RetryPolicy} {answers : List Answer} {asleep asleep' : Bool} {past : List PollState}

/-- A loop at its work has published all states of the answers. -/
theorem tells_of_isWorking (hworks : l.phase.isWorking = true)
    (hstreak : l.streak.failed = Answer.failures answers) (hspares : Answer.Spares p answers) :
    l.Tells p answers false (Answer.states p answers) where
  streak := hstreak
  rests := fun _ => by cases hp : l.phase <;> simp_all [Phase.isWorking, Phase.isResting]
  shown := (Phase.shown_of_isWorking hworks p answers false).symm
  fresh := fun hp => by simp [hp, Phase.isWorking] at hworks
  calm := fun words hp => by simp [hp, Phase.isWorking] at hworks
  spares := fun _ => hspares
  ended := fun e hp => by simp [hp, Phase.isWorking] at hworks
  stopped := fun hp => by simp [hp, Phase.isWorking] at hworks

theorem Tells.of_isWorking (tells : l.Tells p answers asleep past)
    (hworks : l.phase.isWorking = true) :
    asleep = false ∧ past = Answer.states p answers ∧ Answer.Spares p answers := by
  have hasleep : asleep = false := by
    rw [tells.rests (by cases hp : l.phase <;> simp_all [Phase.isWorking, isOver])]
    cases hp : l.phase <;> simp_all [Phase.isWorking, Phase.isResting]
  refine ⟨hasleep, ?_, tells.spares fun e hp => by simp [hp, Phase.isWorking] at hworks⟩
  rw [tells.shown, Phase.shown_of_isWorking hworks, hasleep]
  rfl

/-- **From work to work**: nothing is published, and the answers bring no states. -/
theorem Tells.work (tells : l.Tells p answers asleep past) (more : List Answer)
    (hworks : l.phase.isWorking = true) {deeds : List Deed} {l' : PollLoop}
    (hworks' : l'.phase.isWorking = true)
    (hsilent : deeds.filterMap Deed.state? = [])
    (hstates : Answer.states p (answers ++ more) = Answer.states p answers)
    (hstreak : l'.streak.failed = Answer.failures (answers ++ more))
    (hspares : Answer.Spares p (answers ++ more)) :
    l'.Tells p (answers ++ more) false (past ++ deeds.filterMap Deed.state?) := by
  obtain ⟨-, hpast, -⟩ := tells.of_isWorking hworks
  rw [hsilent, List.append_nil, hpast, ← hstates]
  exact tells_of_isWorking hworks' hstreak hspares

/-- **A good read, or a cursor refused,** publishes nothing, and the loop goes on with its work. -/
theorem Tells.mild (tells : l.Tells p answers asleep past) (hworks : l.phase.isWorking = true)
    {a : Answer} (hmild : a.isGood = true ∨ a.isStale = true) :
    (onAnswer c d l a).loop.Tells p (answers ++ [a]) false
      (past ++ (onAnswer c d l a).deeds.filterMap Deed.state?) := by
  obtain ⟨-, -, hspares⟩ := tells.of_isWorking hworks
  have hspares' := hspares.concat (Answer.not_ends_of_mild hmild)
  have hfailures := Answer.failures_concat answers a
  cases a with
  | ok b =>
    obtain ⟨hsilent, hstreak, hworks'⟩ := onBatch_works (d := d) (l := l) b
    exact tells.work _ hworks hworks' hsilent (Answer.states_concat_of_not_isPassing rfl)
      (hstreak.trans hfailures.symm) hspares'
  | error e =>
    cases e with
    | staleCursor rejected =>
      exact tells.work _ hworks rfl rfl (Answer.states_concat_of_not_isPassing rfl)
        (tells.streak.trans hfailures.symm) hspares'
    | _ => simp [Answer.isGood, Answer.isStale] at hmild

/-- **A fatal failure** ends the loop. -/
theorem Tells.fatal (tells : l.Tells p answers asleep past) (hworks : l.phase.isWorking = true)
    (message : String) :
    (finish d l (some (.fatal (.fatal message)))).loop.Tells p
      (answers ++ [.error (.fatal message)]) asleep'
      (past ++ (finish d l (some (.fatal (.fatal message)))).deeds.filterMap Deed.state?) := by
  obtain ⟨-, hpast, hspares⟩ := tells.of_isWorking hworks
  refine ⟨?_, fun h => by simp [finish, isOver] at h, ?_, fun h => by simp [finish] at h,
    fun words h => by simp [finish] at h, fun h => absurd rfl (h _), fun e h => ?_,
    fun h => by simp [finish] at h⟩
  · exact tells.streak.trans (Answer.failures_concat answers (.error (.fatal message))).symm
  · rw [hpast]
    change _ = Answer.states p (answers ++ [_]) ++ _
    rw [Answer.states_concat_of_not_isPassing rfl]
    rfl
  · obtain rfl := Option.some.inj (Phase.finished.inj h)
    exact ⟨.inl ⟨message, List.getLast?_concat, rfl⟩, by rwa [List.dropLast_concat]⟩

/-- **A passing failure** makes the loop rest, or ends it when it is one too many. -/
theorem Tells.passing (tells : l.Tells c.retry answers asleep past)
    (hworks : l.phase.isWorking = true) (message : String) (asked : Option Span)
    (hcount : Answer.AreCountable (answers ++ [.error (.transient message asked)])) :
    (onTransient c d l (.transient message asked)).loop.Tells c.retry
      (answers ++ [.error (.transient message asked)]) true
      (past ++ (onTransient c d l (.transient message asked)).deeds.filterMap Deed.state?) := by
  obtain ⟨-, hpast, hspares⟩ := tells.of_isWorking hworks
  have hfailures : Answer.failures (answers ++ [.error (.transient message asked)])
      = l.streak.failed + 1 := by
    rw [Answer.failures_concat, tells.streak]
    rfl
  have hlt : l.streak.failed + 1 < 2 ^ 32 := hfailures ▸ hcount _ List.prefix_rfl
  have hpause : Answer.pause? c.retry (answers ++ [.error (.transient message asked)])
      = if Answer.IsTooMany c.retry (l.streak.failed + 1) then none
        else some (l.streak.failed + 1, pauseOf c l asked) := by
    unfold Answer.pause?
    rw [List.getLast?_concat]
    dsimp only
    rw [hfailures]
    rfl
  by_cases htoo : Answer.IsTooMany c.retry (l.streak.failed + 1)
  · obtain ⟨hstates, hstreak, hphase⟩ :=
      onTransient_of_isTooMany (d := d) (.transient message asked) hlt htoo
    have hlimit : l.streak.failed = c.retry.limit := by
      have hle := hspares.failures_le htoo.1
      have hlt := htoo.2
      rw [← tells.streak] at hle
      omega
    rw [if_pos htoo] at hpause
    refine ⟨hstreak.trans hfailures.symm, fun h => by simp [isOver, hphase] at h, ?_,
      fun h => by simp [hphase] at h, fun words h => by simp [hphase] at h,
      fun h => absurd hphase (h _), fun e h => ?_, fun h => by simp [hphase] at h⟩
    · rw [hstates, hphase, hpast, Phase.shown, Answer.states_concat_of_none hpause]
    · obtain rfl := Option.some.inj (Phase.finished.inj (hphase.symm.trans h))
      refine ⟨.inr ⟨message, asked, List.getLast?_concat, htoo.1, ?_, ?_⟩,
        by rwa [List.dropLast_concat]⟩
      · rw [hfailures, hlimit]
      · rw [hlimit]
  · obtain ⟨hstates, hstreak, hphase⟩ :=
      onTransient_of_not_isTooMany (d := d) (.transient message asked) hlt htoo
    rw [if_neg htoo] at hpause
    refine ⟨hstreak.trans hfailures.symm, fun h => by rw [hphase]; rfl, ?_,
      fun h => by simp [hphase] at h, fun words h => by simp [hphase] at h,
      fun _ => hspares.concat fun e => ?_, fun e h => by simp [hphase] at h,
      fun h => by simp [hphase] at h⟩
    · rw [hstates, hphase, hpast]
      change _ = (Answer.states c.retry (answers ++ [_])).dropLast
      rw [Answer.states_concat_of_some hpause, List.dropLast_concat]
      rfl
    · rintro (⟨fatal, hlast, -⟩ | ⟨_, _, -, limited, hlast, -⟩)
      · simp at hlast
      · exact htoo ⟨limited, by omega⟩

/-- **Every reaction tells what it should**, as long as the handler returns and the failures can be
counted. -/
theorem Reaction.tells (h : Reaction source c d l s r)
    (tells : l.Tells c.retry answers asleep past) (calm : ∀ words, s ≠ .panic words)
    (hcount : Answer.AreCountable (answers ++ l.accepts s)) :
    r.loop.Tells c.retry (answers ++ l.accepts s)
      (if l.stopping then asleep else ((Moment.came s).rest?).getD asleep)
      (past ++ r.deeds.filterMap Deed.state?) := by
  cases h with
  | halt =>
    have hrest : (if l.stopping then asleep else asleep) = asleep := ite_self asleep
    change Tells _ (answers ++ []) (if l.stopping then asleep else asleep) (past ++ []) _
    rw [hrest, List.append_nil, List.append_nil]
    exact ⟨tells.streak, tells.rests, tells.shown, tells.fresh, tells.calm, tells.spares,
      tells.ended, fun _ => rfl⟩
  | begin phase =>
    have hasleep : asleep = false := by
      rw [tells.rests (by simp [isOver, phase]), phase]
      rfl
    have hpast : past = [] := by rw [tells.shown, phase, Phase.shown]
    obtain rfl := tells.fresh phase
    subst hasleep hpast
    change Tells _ [] (if l.stopping then false else false) [.running] _
    rw [ite_self]
    exact tells_of_isWorking rfl tells.streak (Answer.spares_nil _)
  | read phase going =>
    have hworks : l.phase.isWorking = true := by rw [phase]; rfl
    obtain ⟨rfl, -, hspares⟩ := tells.of_isWorking hworks
    rw [going]
    refine tells.work [] hworks rfl rfl ?_ ?_ ?_
    all_goals rw [List.append_nil]
    · exact tells.streak
    · exact hspares
  | heed heeds stopping =>
    have haccepts : l.accepts s = [] := by cases s <;> simp [accepts, stopping]
    have hshown : past = bulletin c.retry answers asleep := by
      rw [tells.shown]
      cases hp : l.phase <;> simp [hp, Phase.heeds] at heeds <;> rfl
    have hlive : ∀ e, l.phase ≠ .finished (some e) := by
      intro e hp
      simp [hp, Phase.heeds] at heeds
    rw [haccepts, List.append_nil, stopping, if_pos rfl, hshown]
    exact ⟨tells.streak, fun h => by simp [finish, isOver] at h, rfl,
      fun h => by simp [finish] at h, fun words h => by simp [finish] at h,
      fun _ => tells.spares hlive, fun e h => by simp [finish] at h, fun _ => stopping⟩
  | @answer result phase going =>
    have hworks : l.phase.isWorking = true := by rw [phase]; rfl
    have haccepts : l.accepts (.answer result) = [result] := by simp [accepts, going]
    rw [haccepts] at hcount ⊢
    rw [going, if_neg Bool.false_ne_true]
    cases result with
    | ok b => exact tells.mild hworks (.inl rfl)
    | error e =>
      cases e with
      | staleCursor rejected => exact tells.mild hworks (.inr rfl)
      | fatal message => exact tells.fatal hworks message
      | transient message asked => exact tells.passing hworks message asked hcount
  | @handled e rest next phase =>
    have hworks : l.phase.isWorking = true := by rw [phase]; rfl
    obtain ⟨rfl, -, hspares⟩ := tells.of_isWorking hworks
    obtain ⟨hsilent, hstreak, hworks'⟩ := handNext_works (d := d) (l := l) rest next
    change Tells _ (answers ++ []) (if l.stopping then false else false) _ _
    rw [ite_self]
    refine tells.work [] hworks hworks' hsilent ?_ ?_ ?_
    all_goals rw [List.append_nil]
    · rw [hstreak, tells.streak]
    · exact hspares
  | panic phase => exact absurd rfl (calm _)
  | rested phase going =>
    have hasleep : asleep = true := by
      rw [tells.rests (by simp [isOver, phase]), phase]
      rfl
    have hpast : past ++ [.running] = Answer.states c.retry answers := by
      rw [tells.shown, phase, hasleep]
      exact Answer.dropLast_states _ _
    rw [going]
    change Tells _ (answers ++ []) false (past ++ [.running]) _
    rw [List.append_nil, hpast]
    exact tells_of_isWorking rfl tells.streak (tells.spares fun e hp => by simp [phase] at hp)

end PollLoop

/-! ## The states along a course -/

namespace Course

variable {source : String} {config : PollConfig} {t u : Course} {s : Signal}

/-- **A loop has announced itself**: it has told what the answers say that have reached it, and
every read of it began when nothing had ended the run. -/
structure Announced (p : RetryPolicy) (t : Course) : Prop where
  tells : t.loop.Tells p (returned t.past) (isAsleep t.past) (published t.past)
  reads : ∀ before cursor after, t.past = before ++ .did (.read cursor) :: after →
    Answer.Spares p (returned before)

theorem announced_begin (p : RetryPolicy) (desk : Desk) : Announced p { desk := desk } where
  tells :=
    { streak := rfl
      rests := fun _ => rfl
      shown := rfl
      fresh := fun _ => rfl
      calm := by simp
      spares := fun _ => Answer.spares_nil p
      ended := by simp
      stopped := by simp }
  reads := by simp

/-- **Every step keeps a loop's announcements**, as long as the handler returns and the failures can
be counted. -/
theorem Announced.step (announced : t.Announced config.retry)
    (stopping : t.loop.stopping = halted t.past) (calm : ∀ words, s ≠ .panic words)
    (countable : Answer.AreCountable (returned u.past)) (h : t.step source config s = some u) :
    u.Announced config.retry := by
  obtain ⟨r, hr, -, hloop, hpast⟩ := step_cases h
  have hreturned : returned u.past = returned t.past ++ t.loop.accepts s := by
    rw [hpast, returned_step stopping]
  refine ⟨?_, at_reads_step h announced.reads fun hphase _ => ?_⟩
  · have tells := hr.tells announced.tells calm (hreturned ▸ countable)
    rwa [stopping, ← isAsleep_step _ _ r.deeds, ← published_step, ← hreturned, ← hpast,
      ← hloop] at tells
  · rw [returned_turn stopping]
    exact announced.tells.spares fun e hp => by simp [hp] at hphase

/-- **A loop announces itself along its course.** -/
theorem announced_run {desk : Desk} {signals : List Signal}
    (calm : ∀ words, Signal.panic words ∉ signals)
    (countable : Answer.AreCountable (returned t.past))
    (h : ({ desk := desk } : Course).run source config signals = some t) :
    t.Announced config.retry := by
  induction signals using List.reverseRecOn generalizing t with
  | nil =>
    obtain rfl := Option.some.inj h
    exact announced_begin _ _
  | append_singleton signals s ih =>
    obtain ⟨before, hbefore, hstep⟩ := foldlM_concat.mp h
    have calm' : ∀ words, Signal.panic words ∉ signals := fun words hw =>
      calm words (List.mem_append_left _ hw)
    have stopping := ((sound_begin desk).run calm' hbefore).stopping
    obtain ⟨r, -, -, -, hpast⟩ := step_cases hstep
    have hreturned : returned t.past = returned before.past ++ before.loop.accepts s := by
      rw [hpast, returned_step stopping]
    have announced := ih calm' (countable.mono (hreturned ▸ List.prefix_append _ _)) hbefore
    refine announced.step stopping ?_ countable hstep
    rintro words rfl
    exact calm words (by simp)

/-- A reaction of the loop is a step of its course. -/
theorem run_cons {r : LoopStep} (hr : PollLoop.Reaction source config t.desk t.loop s r)
    (signals : List Signal) : t.run source config (s :: signals)
      = ({ desk := r.desk, loop := r.loop, past := t.past ++ .came s :: r.deeds.map .did }
          : Course).run source config signals := by
  rw [run, List.foldlM_cons, step, hr.react_eq]
  rfl

variable (source config) in
/-- A loop that was asked to stop and is about to heed the request ends at its turn. -/
theorem run_turn (heeds : t.loop.phase.heeds .turn = true) (stopping : t.loop.stopping = true) :
    ∃ u : Course, t.run source config [.turn] = some u ∧ u.loop.phase = .finished none :=
  ⟨_, run_cons (.heed heeds stopping) [], rfl⟩

variable (source config) in
/-- **The calls that a loop owes** are those of the batch in hand: when they have ended, it is about
to look for a stop request. -/
theorem run_handled {e : Event} {rest : List Event} {next : Option Cursor}
    (hphase : t.loop.phase = .handing e rest next) (signals : List Signal) :
    ∃ u : Course, t.run source config (List.replicate (rest.length + 1) .handled ++ signals)
        = u.run source config signals
      ∧ u.loop.phase = .checking ∧ u.loop.stopping = t.loop.stopping := by
  induction rest generalizing t e with
  | nil =>
    refine ⟨_, run_cons (.handled hphase) signals, ?_, PollLoop.handNext_stopping [] next⟩
    cases next <;> rfl
  | cons e' rest ih =>
    obtain ⟨u, hu, hchecking, hstopping⟩ :=
      ih (t := ⟨t.desk, { t.loop with phase := .handing e' rest next }, _⟩) rfl
    exact ⟨u, (run_cons (.handled hphase) _).trans hu, hchecking, hstopping⟩

/-- **A loop that was asked to stop ends without an error**, when the calls that it owes have
returned and it has its turns. -/
theorem run_ends (stopping : t.loop.stopping = true) (hlive : t.loop.isOver = false) :
    ∃ signals u, (∀ s ∈ signals, s = .turn ∨ s = .handled)
      ∧ t.run source config signals = some u ∧ u.loop.phase = .finished none := by
  cases hp : t.loop.phase with
  | starting =>
    obtain ⟨u, hu, hend⟩ := run_turn source config
      (t := ⟨_, (PollLoop.begin source config t.desk t.loop).loop, _⟩) rfl stopping
    exact ⟨[.turn, .turn], u, by simp, (run_cons (.begin hp) [.turn]).trans hu, hend⟩
  | handing e rest next =>
    obtain ⟨v, hv, hchecking, hstopping⟩ := run_handled source config hp [.turn]
    obtain ⟨u, hu, hend⟩ := run_turn source config (t := v) (by rw [hchecking]; rfl)
      (hstopping.trans stopping)
    refine ⟨_, u, fun s hs => ?_, hv.trans hu, hend⟩
    rcases List.mem_append.mp hs with hs | hs
    · exact .inr (List.eq_of_mem_replicate hs)
    · exact .inl (List.mem_singleton.mp hs)
  | finished error => simp [PollLoop.isOver, hp] at hlive
  | crashed words => simp [PollLoop.isOver, hp] at hlive
  | _ =>
    obtain ⟨u, hu, hend⟩ := run_turn source config (t := t) (by rw [hp]; rfl) stopping
    exact ⟨[.turn], u, by simp, hu, hend⟩

/-- **A loop publishes its pauses and then its end**, for any answers of the feed and a stop request
at any time, as long as the handler returns and the failures in a row can be counted.

* While it goes on, it has published the states of the answers so far.
* When it is over, it has published one state more, which tells how it ended; only if it was stopped
  while it rested the last running is missing.
* It ends with an error exactly at the answer that ends the run, and with that error.
* No read begins after that answer.
* It ends without an error only when it was asked to stop, and it does when it was, once its calls
  have returned and it has its turns. -/
theorem publishes_pauses_then_end {desk : Desk} {signals : List Signal} {t : Course}
    (calm : ∀ words, Signal.panic words ∉ signals)
    (countable : Answer.AreCountable (returned t.past))
    (h : ({ desk := desk } : Course).run source config signals = some t) :
    (t.loop.isOver = false → t.loop.phase ≠ .starting →
        published t.past = bulletin config.retry (returned t.past) (isAsleep t.past))
      ∧ (t.loop.isOver = true → ∃ error, t.loop.phase = .finished error
        ∧ published t.past
          = bulletin config.retry (returned t.past) (error.isNone && isAsleep t.past)
            ++ [closing error])
      ∧ (∀ e, t.loop.phase = .finished (some e)
        ↔ ∃ part, part <+: returned t.past ∧ Answer.Ends config.retry part e)
      ∧ (∀ before cursor after, t.past = before ++ .did (.read cursor) :: after →
        ∀ part, part <+: returned before → ∀ e, ¬ Answer.Ends config.retry part e)
      ∧ (t.loop.phase = .finished none → halted t.past = true)
      ∧ (halted t.past = true → t.loop.isOver = false →
        ∃ more u, (∀ s ∈ more, s = .turn ∨ s = .handled)
          ∧ t.run source config more = some u ∧ u.loop.phase = .finished none) := by
  have stopping := ((sound_begin desk).run calm h).stopping
  obtain ⟨tells, reads⟩ := announced_run calm countable h
  refine ⟨fun hlive hstarted => ?_, fun hover => ?_, fun e => ⟨fun hend => ?_, ?_⟩, reads,
    fun hend => stopping ▸ tells.stopped hend, fun hhalted => run_ends (stopping.trans hhalted)⟩
  · rw [tells.shown]
    cases hp : t.loop.phase <;> simp_all [PollLoop.isOver, Phase.shown]
  · cases hp : t.loop.phase with
    | finished error =>
      refine ⟨error, rfl, ?_⟩
      rw [tells.shown, hp]
      cases error <;> rfl
    | crashed words => exact absurd hp (tells.calm words)
    | _ => simp [PollLoop.isOver, hp] at hover
  · exact ⟨_, List.prefix_rfl, (tells.ended e hend).1⟩
  · rintro ⟨part, hpart, hends⟩
    by_contra hother
    by_cases herror : ∃ e', t.loop.phase = .finished (some e')
    · obtain ⟨e', he'⟩ := herror
      obtain ⟨hends', hspares⟩ := tells.ended e' he'
      exact hother (hends'.eq_of_spares hspares hpart hends ▸ he')
    · exact tells.spares (fun e' he' => herror ⟨e', he'⟩) part hpart e hends

/-- One failure is allowed in a row, and asks for five seconds.  A cursor that is refused after it
does not end the row, so that the next failure is the second. -/
theorem publishes_pauses_then_end_after_two_in_a_row :
    let retry : RetryPolicy := ⟨.ofSecs 1, .ofSecs 60, 2, 1⟩
    let late : ReadError := .transient "late" (some (.ofSecs 5))
    let signals : List Signal := [.turn, .turn, .answer (.error late), .rested, .turn,
      .answer (.error (.staleCursor none)), .turn, .answer (.error late)]
    ∃ t, ({ desk := {} } : Course).run "feed" ⟨100, .ofSecs 30, retry⟩ signals = some t
      ∧ t.loop.phase = .finished (some (.exhausted 2 late))
      ∧ published t.past = [.running, .backingOff 1 (.ofSecs 5), .running,
        closing (some (.exhausted 2 late))] := by
  intro retry late signals
  have calm : ∀ words, Signal.panic words ∉ signals := by simp [signals]
  obtain ⟨t, hrun, hreturned, hphase⟩ : ∃ t : Course,
      ({ desk := {} } : Course).run "feed" ⟨100, .ofSecs 30, retry⟩ signals = some t
        ∧ returned t.past = [.error late, .error (.staleCursor none), .error late]
        ∧ t.loop.phase = .finished (some (.exhausted 2 late)) := ⟨_, rfl, rfl, rfl⟩
  have countable : Answer.AreCountable (returned t.past) :=
    Answer.areCountable_of_length_lt (by simp [hreturned])
  obtain ⟨-, hover, -, -, -, -⟩ := publishes_pauses_then_end calm countable hrun
  obtain ⟨error, herror, hpublished⟩ := hover (by simp [PollLoop.isOver, hphase])
  obtain rfl := Phase.finished.inj (hphase.symm.trans herror)
  have hstates : Answer.states retry [.error late, .error (.staleCursor none), .error late]
      = [.running, .backingOff 1 (.ofSecs 5), .running] := by decide +kernel
  refine ⟨t, hrun, hphase, ?_⟩
  rw [hpublished, hreturned, Option.isNone_some, Bool.false_and, bulletin,
    if_neg Bool.false_ne_true, hstates]
  rfl

end Course

end ChatFeed
