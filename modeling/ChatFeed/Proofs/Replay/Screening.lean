import ChatFeed.Proofs.Replay.Recital
import ChatFeed.Proofs.Replay.Reel

/-!
# Proofs/Replay/Screening — one run over a capture, stopped once it is drained

A `Screening` is a loop that reads a capture from some cursor on, with any handler that returns.
The answer to a read is the one that the playback gives, the playback is what the reads have made
of it, and a stop request comes only when the capture is drained.

How far a run has come is told by two numbers: the reads that were answered and the reads that were
made (`Paces`).  They say where the cursor is, what has been handed over and whether the capture is
drained (`Screening.Shows`), and as the batches are the pieces of `Capture.replies`, all that is
left to say is which piece is the last one.
-/

namespace ChatFeed

/-- The answer that a response brings, sooner or later. -/
def Response.answer? : Response → Option Answer
  | .now a => some a
  | .later _ a => some a
  | .never => none

/-! ## What reads do to a playback -/

namespace Playback

variable {config : PollConfig} {p : Playback} {cursor : Option Cursor}

/-- A deed of the loop as it reaches a playback: only a read does. -/
def meet (config : PollConfig) (p : Playback) : Deed → Playback
  | .read cursor => (p.ask config cursor).2
  | _ => p

/-- **What a playback answers** is its capture's reply, -/
theorem answer?_ask (config : PollConfig) (cursor : Option Cursor) (p : Playback) :
    (p.ask config cursor).1.answer? = some (p.capture.reply cursor config.batch) := by
  rcases p.ask_reply config cursor with h | h <;> rw [h] <;> rfl

/-- and it is drained by a read at the end of the capture. -/
theorem ask_snd (config : PollConfig) (cursor : Option Cursor) (p : Playback) :
    (p.ask config cursor).2 = { p with drained := p.drained || p.capture.atEnd cursor } := by
  unfold ask Capture.serve Capture.atEnd
  cases hpos : p.capture.offset? cursor with
  | none => simp
  | some n => by_cases hend : n = p.capture.size <;> simp [hend]

/-- Deeds without a read do not reach a playback. -/
theorem foldl_meet_of_not_read {deeds : List Deed} (h : ∀ cursor, Deed.read cursor ∉ deeds) :
    deeds.foldl (meet config) p = p := by
  induction deeds with
  | nil => rfl
  | cons d deeds ih =>
    have hrest := ih fun cursor hmem => h cursor (List.mem_cons_of_mem d hmem)
    cases d with
    | read cursor => exact absurd List.mem_cons_self (h cursor)
    | _ => exact hrest

end Playback

/-! ## What one reaction does -/

namespace Moment

/-- The cursor that a read sends. -/
def asks? : Moment → Option (Option Cursor)
  | .did d => d.asks?
  | .came _ => none

/-- Whether the cursor is given up. -/
def isReset : Moment → Bool
  | .did (.move none) => true
  | _ => false

end Moment

/-- **The cursors that reads have sent.** -/
def sent (past : List Moment) : List (Option Cursor) := past.filterMap Moment.asks?

/-- How many times the cursor was given up. -/
def resets (past : List Moment) : Nat := past.countP Moment.isReset

/-- The event that the handler has at the moment. -/
def Phase.inHand : Phase → List Event
  | .handing e _ _ => [e]
  | _ => []

/-- Whether the loop has begun, as a number. -/
def Phase.begun : Phase → Nat
  | .starting => 0
  | _ => 1

theorem Phase.inHand_of_not_isHanding {phase : Phase} (h : phase.isHanding = false) :
    phase.inHand = [] := by
  cases phase <;> simp_all [inHand, isHanding]

theorem sent_of_not_read {deeds : List Deed} (h : ∀ cursor, Deed.read cursor ∉ deeds) :
    sent (deeds.map .did) = [] := by
  refine List.filterMap_eq_nil_iff.mpr fun x hx => ?_
  obtain ⟨d, hd, rfl⟩ := List.mem_map.mp hx
  cases d with
  | read cursor => exact absurd hd (h cursor)
  | _ => rfl

namespace PollLoop

variable {source : String} {config : PollConfig} {d : Desk} {l : PollLoop} {s : Signal}
  {r : LoopStep}

/-- What is handed over next is what the handler has then. -/
theorem handNext_inHand (events : List Event) (next : Option Cursor) :
    handed ((handNext d l events next).deeds.map .did)
      = (handNext d l events next).loop.phase.inHand := by
  cases events with
  | nil => cases next <;> rfl
  | cons e rest => rfl

theorem onBatch_inHand (b : Batch) :
    handed ((onBatch d l b).deeds.map .did) = (onBatch d l b).loop.phase.inHand := by
  have hnone : handed ((report l b).map .did) = [] := (aside_report (d := d) b).handed_eq_nil
  rw [onBatch_deeds, List.map_append, handed_append, hnone, List.nil_append, onBatch_loop,
    handNext_inHand]

/-- **Every call to the handler returns before the next one**: an event that is handed over has been
heard, or the handler has it. -/
theorem Reaction.hears_inHand (h : Reaction source config d l s r)
    (calm : ∀ words, s ≠ .panic words) :
    l.phase.inHand ++ handed (r.deeds.map .did) = l.hears s ++ r.loop.phase.inHand := by
  cases h with
  | halt => simp [handed, hears]
  | begin phase => simp [phase, Phase.inHand, hears, handed, PollLoop.begin, Moment.hand?]
  | read phase => simp [phase, Phase.inHand, hears, handed, PollLoop.read, Moment.hand?]
  | heed heeds =>
    rw [(aside_finish _).handed_eq_nil, Phase.inHand_of_not_isHanding (aside_finish none).free]
    cases hp : l.phase <;> cases s <;> simp_all [Phase.heeds, Phase.inHand, hears]
  | @answer result phase =>
    cases result with
    | error e =>
      rw [(aside_onAnswer_error e).handed_eq_nil,
        Phase.inHand_of_not_isHanding (aside_onAnswer_error e).free]
      simp [phase, Phase.inHand, hears]
    | ok b =>
      rw [onAnswer_ok, onBatch_inHand]
      simp [phase, Phase.inHand, hears]
  | handled phase =>
    rw [handNext_inHand]
    simp [phase, Phase.inHand, hears]
  | panic => exact absurd rfl (calm _)
  | rested phase => simp [phase, Phase.inHand, hears, handed, Moment.hand?]

theorem handNext_resets (events : List Event) (next : Option Cursor) :
    resets ((handNext d l events next).deeds.map .did) = 0 := by
  cases events <;> cases next <;> rfl

theorem finish_resets (error : Option PollError) :
    resets ((finish d l error).deeds.map .did) = 0 := by
  cases error <;> rfl

theorem onBatch_resets (b : Batch) : resets ((onBatch d l b).deeds.map .did) = 0 := by
  have hnone : resets ((report l b).map .did) = 0 := by
    refine List.countP_eq_zero.mpr fun x hx => ?_
    obtain ⟨y, hy, rfl⟩ := List.mem_map.mp hx
    have hsilent := (aside_report (d := d) b).silent y hy
    unfold report recovery at hy
    split at hy <;> cases y <;> simp_all [Moment.isReset]
  rw [onBatch_deeds, List.map_append, resets, List.countP_append]
  exact (congrArg₂ (· + ·) hnone (handNext_resets _ _))

/-- **The cursor is given up when it was refused**, and then only. -/
theorem Reaction.gives_up (h : Reaction source config d l s r) :
    resets (r.deeds.map .did) = (l.accepts s).countP Answer.isStale := by
  cases h with
  | halt => rfl
  | begin => rfl
  | read => rfl
  | heed heeds stopping =>
    rw [finish_resets]
    cases s <;> simp [accepts, stopping]
  | @answer result phase going =>
    cases result with
    | ok b =>
      rw [onAnswer_ok, onBatch_resets]
      simp [accepts, going, Answer.isStale]
    | error e =>
      cases e with
      | fatal message => simp [onAnswer, accepts, going, Answer.isStale, finish_resets]
      | staleCursor rejected =>
        simp [onAnswer, onStale, accepts, going, Answer.isStale, resets, Moment.isReset]
      | transient message retryAfter =>
        have hnone : resets ((onTransient config d l (.transient message retryAfter)).deeds.map
            .did) = 0 := by
          unfold onTransient
          cases l.streak.failAsked config.retry _ with
          | mk delay streak => cases delay <;> rfl
        rw [onAnswer, hnone]
        simp [accepts, going, Answer.isStale]
  | handled => exact handNext_resets _ _
  | panic => rfl
  | rested => rfl

/-- A reaction reads at its cursor, or not at all. -/
theorem Reaction.read_or_not (h : Reaction source config d l s r) :
    (l.phase = .checking ∧ r = PollLoop.read d l) ∨ ∀ cursor, Deed.read cursor ∉ r.deeds := by
  by_cases hread : ∃ cursor, Deed.read cursor ∈ r.deeds
  · obtain ⟨cursor, hread⟩ := hread
    exact .inl (h.eq_read hread)
  · exact .inr fun cursor hmem => hread ⟨cursor, hmem⟩

end PollLoop

/-! ## A run over a capture -/

/-- **A run over a capture**: the loop on its course, the playback that it reads, and the events
whose handler calls have returned. -/
structure Screening where
  course : Course
  playback : Playback
  heard : List Event := []

namespace Screening

variable (source : String) (config : PollConfig)

/-- Whether a signal may come: the answer to a read is the playback's, the handler never panics, and
the stop request waits until the capture is drained. -/
def admits (t : Screening) : Signal → Bool
  | .answer a =>
    (t.playback.ask config ((sent t.course.past).getLastD none)).1.answer? = some a
  | .panic _ => false
  | .halt => t.playback.drained
  | _ => true

/-- The run after a reaction of its loop. -/
def reacted (t : Screening) (s : Signal) (r : LoopStep) : Screening where
  course := ⟨r.desk, r.loop, t.course.past ++ .came s :: r.deeds.map .did⟩
  playback := r.deeds.foldl (Playback.meet config) t.playback
  heard := t.heard ++ t.course.loop.hears s

/-- **A signal comes**; none if it may not, or does not come to where the loop is. -/
def step (t : Screening) (s : Signal) : Option Screening :=
  if t.admits config s then
    (t.course.loop.react source config t.course.desk s).map (t.reacted config s)
  else none

/-- **A run under some signals**, one after the other. -/
def run (signals : List Signal) (t : Screening) : Option Screening :=
  signals.foldlM (step source config) t

/-- **A run that begins** at a cursor of a capture. -/
def opened (c : Capture) (w : World) (desk : Desk) : Screening where
  course := { desk := desk }
  playback := { capture := c, world := w }

variable {source config} {c : Capture} {w : World} {desk : Desk} {start : Option Cursor}
  {t u : Screening} {s : Signal} {r : LoopStep} {phase : Phase} {length n k m : Nat}

/-- A step is a reaction to a signal that may come. -/
theorem step_cases (h : t.step source config s = some u) :
    t.admits config s = true ∧ ∃ r,
      PollLoop.Reaction source config t.course.desk t.course.loop s r
        ∧ t.course.step source config s = some u.course ∧ u = t.reacted config s r := by
  unfold step at h
  split at h
  · rename_i hadmits
    obtain ⟨r, hr, rfl⟩ := Option.map_eq_some_iff.mp h
    exact ⟨hadmits, r, PollLoop.react_iff.mp hr, by simp [Course.step, hr, reacted], rfl⟩
  · cases h

/-- **A signal that may come and is answered makes a step.** -/
theorem step_reacted (hadmits : t.admits config s = true)
    (hr : PollLoop.Reaction source config t.course.desk t.course.loop s r) :
    t.step source config s = some (t.reacted config s r) := by
  rw [step, if_pos hadmits, hr.react_eq]
  rfl

/-- **How far a loop has come** after some reads were answered and some were made, where the end is
found by the read after a certain number.  A batch is in hand only before that, and the loop is over
only after it. -/
inductive Paces (length : Nat) : Nat → Nat → Phase → Prop
  | starting : Paces length 0 0 .starting
  | checking {k : Nat} : Paces length k k .checking
  | reading {k : Nat} : Paces length k (k + 1) .reading
  | handing {k : Nat} {e : Event} {rest : List Event} {next : Option Cursor} (early : k ≤ length) :
      Paces length k k (.handing e rest next)
  | finished {k m : Nat} (le : k ≤ m) (all : m ≤ k + 1) (late : length < m) :
      Paces length k m (.finished none)

theorem Paces.le (h : Paces length k m phase) : k ≤ m := by
  cases h with
  | reading => exact Nat.le_succ _
  | finished le => exact le
  | _ => exact Nat.le_refl _

theorem Paces.le_succ (h : Paces length k m phase) : m ≤ k + 1 := by
  cases h with
  | reading => exact Nat.le_refl _
  | finished le all => exact all
  | _ => exact Nat.le_succ _

/-- **What holds at every moment** of a run from a cursor, after some signals came, some reads were
answered and some were made. -/
structure Shows (c : Capture) (batch : Nat) (start : Option Cursor) (t : Screening)
    (n k m : Nat) : Prop where
  sound : t.course.Sound start
  capture : t.playback.capture = c
  reads : sent t.course.past = (List.range m).map (c.cursorAfter batch start)
  answers : returned t.course.past = c.replies batch start k
  drained : t.playback.drained = true ↔ c.length batch start < m
  heard : t.heard ++ t.course.loop.phase.inHand = handed t.course.past
  refused : resets t.course.past = (returned t.course.past).countP Answer.isStale
  paces : Paces (c.length batch start) k m t.course.loop.phase
  stopping : t.course.loop.stopping = true → t.playback.drained = true
  signals : t.course.loop.stopping = false →
    n = t.course.loop.phase.begun + m + k + t.heard.length

/-- It holds when a run begins. -/
theorem shows_opened (c : Capture) (batch : Nat) (w : World) (desk : Desk) :
    Shows c batch desk.cursor (opened c w desk) 0 0 0 where
  sound := Course.sound_begin desk
  capture := rfl
  reads := rfl
  answers := rfl
  drained := iff_of_false nofun (Nat.not_lt_zero _)
  heard := rfl
  refused := rfl
  paces := .starting
  stopping := nofun
  signals := fun _ => rfl

/-- The cursor of the loop is the one after the answered reads, unless a batch is in hand. -/
theorem Shows.cursor (h : Shows c config.batch start t n k m)
    (hfree : t.course.loop.phase.held = none) :
    t.course.desk.cursor = c.cursorAfter config.batch start k := by
  have hcursor := h.sound.cursor
  rwa [hfree, Option.none_or, h.answers, Capture.position_replies] at hcursor

/-- **The answer that may come** is the capture's to the last cursor that was sent. -/
theorem Shows.admits_answer (h : Shows c config.batch start t n k (k + 1)) {a : Answer} :
    t.admits config (.answer a) = true
      ↔ c.reply (c.cursorAfter config.batch start k) config.batch = a := by
  have hlast : (sent t.course.past).getLastD none
      = c.cursorAfter config.batch start k := by
    rw [h.reads, List.range_succ, List.map_append]
    simp
  rw [admits, hlast, Playback.answer?_ask, h.capture, decide_eq_true_iff, Option.some.injEq]

/-- Handing over what is left of a batch keeps the pace. -/
theorem paces_handNext (early : k ≤ length) (d : Desk) (l : PollLoop) (events : List Event)
    (next : Option Cursor) :
    Paces length k k (PollLoop.handNext d l events next).loop.phase
      ∧ (PollLoop.handNext d l events next).loop.phase.begun = 1 := by
  cases events with
  | nil => cases next <;> exact ⟨.checking, rfl⟩
  | cons e rest => exact ⟨.handing early, rfl⟩

/-- **An answer keeps the pace**: what is found after the last piece brings no batch to hand. -/
theorem paces_onAnswer (countable : c.size ≤ Numeral.max64) (config : PollConfig)
    (start : Option Cursor) (k : Nat) (d : Desk) (l : PollLoop) :
    let r := PollLoop.onAnswer config d l
      (c.reply (c.cursorAfter config.batch start k) config.batch)
    Paces (c.length config.batch start) (k + 1) (k + 1) r.loop.phase ∧ r.loop.phase.begun = 1 := by
  rcases c.reply_cases (c.cursorAfter config.batch start k) config.batch with ⟨-, hreply⟩
    | ⟨-, hreply⟩ | ⟨position, hlt, hpos, hreply⟩
  · rw [hreply]
    exact ⟨.checking, rfl⟩
  · rw [hreply]
    exact ⟨.checking, rfl⟩
  · have hbefore : ¬ c.length config.batch start ≤ k := by
      rw [← c.atEnd_cursorAfter_iff config.batch start k countable, Capture.atEnd, hpos]
      simpa using Nat.ne_of_lt hlt
    rw [hreply]
    exact paces_handNext (by omega) _ _ _ _

/-- The reads made, one reaction later. -/
theorem sent_step (past : List Moment) (s : Signal) (deeds : List Deed) :
    sent (past ++ .came s :: deeds.map .did)
      = sent past ++ sent (deeds.map .did) := by
  rw [sent, List.filterMap_append]
  rfl

/-- **A reaction keeps all of it**, if it is known how many reads were answered and made then. -/
theorem Shows.reacted (h : Shows c config.batch start t n k m)
    (countable : c.size ≤ Numeral.max64) (hadmits : t.admits config s = true) {k' m' : Nat}
    (hr : PollLoop.Reaction source config t.course.desk t.course.loop s r)
    (hstep : t.course.step source config s = some (t.reacted config s r).course)
    (answered : k' = k ∧ t.course.loop.accepts s = [] ∨ k' = k + 1 ∧ t.course.loop.accepts s
      = [c.reply (c.cursorAfter config.batch start k) config.batch])
    (made : m' = m ∧ (∀ cursor, Deed.read cursor ∉ r.deeds)
      ∨ m' = m + 1 ∧ r.deeds = [.read (c.cursorAfter config.batch start m)])
    (paces : Paces (c.length config.batch start) k' m' r.loop.phase)
    (signals : r.loop.stopping = false →
      r.loop.phase.begun + m' + k' + (t.course.loop.hears s).length
        = t.course.loop.phase.begun + m + k + 1) :
    Shows c config.batch start (t.reacted config s r) (n + 1) k' m' := by
  have calm : ∀ words, s ≠ .panic words := by
    rintro words rfl
    cases hadmits
  have hreturned : returned (t.reacted config s r).course.past
      = returned t.course.past ++ t.course.loop.accepts s :=
    Course.returned_step h.sound.stopping s r.deeds
  have hplayback : (t.reacted config s r).playback.capture = c
      ∧ ((t.reacted config s r).playback.drained = true ↔ c.length config.batch start < m') := by
    rcases made with ⟨rfl, hnone⟩ | ⟨rfl, hread⟩
    · rw [Screening.reacted, Playback.foldl_meet_of_not_read hnone]
      exact ⟨h.capture, h.drained⟩
    · have hpos := c.atEnd_cursorAfter_iff config.batch start m countable
      have hmeet : (t.reacted config s r).playback
          = (t.playback.ask config (c.cursorAfter config.batch start m)).2 := by
        rw [Screening.reacted, hread]
        rfl
      rw [hmeet, Playback.ask_snd, h.capture]
      refine ⟨rfl, ?_⟩
      rw [Bool.or_eq_true, h.drained, hpos]
      omega
  refine ⟨h.sound.step calm hstep, hplayback.1, ?_, ?_, hplayback.2, ?_, ?_, paces, ?_, ?_⟩
  · rw [Screening.reacted, sent_step, h.reads]
    rcases made with ⟨rfl, hnone⟩ | ⟨rfl, hread⟩
    · rw [sent_of_not_read hnone, List.append_nil]
    · rw [hread, List.range_succ, List.map_append]
      rfl
  · rw [hreturned, h.answers]
    rcases answered with ⟨rfl, hnone⟩ | ⟨rfl, hone⟩
    · rw [hnone, List.append_nil]
    · rw [hone, Capture.replies_succ]
  · have hhanded : handed (t.reacted config s r).course.past
        = handed t.course.past ++ handed (r.deeds.map .did) := handed_append _ _
    rw [hhanded, ← h.heard, List.append_assoc, hr.hears_inHand calm, ← List.append_assoc]
    rfl
  · have hresets : resets (t.reacted config s r).course.past
        = resets t.course.past + resets (r.deeds.map .did) := by
      rw [resets, Screening.reacted, List.countP_append]
      rfl
    rw [hresets, hreturned, List.countP_append, h.refused, hr.gives_up]
  · have hle : m ≤ m' := by rcases made with ⟨rfl, -⟩ | ⟨rfl, -⟩ <;> omega
    intro hstopping
    rw [Screening.reacted, hr.stopping_eq, Bool.or_eq_true] at hstopping
    rw [hplayback.2]
    refine Nat.lt_of_lt_of_le (h.drained.mp ?_) hle
    rcases hstopping with hold | hhalt
    · exact h.stopping hold
    · cases s <;> first | exact hadmits | cases hhalt
  · intro hgoing
    have hsignals := signals hgoing
    rw [Screening.reacted, hr.stopping_eq, Bool.or_eq_false_iff] at hgoing
    have hold := h.signals hgoing.1
    rw [Screening.reacted, List.length_append]
    dsimp only
    omega

/-- **Every signal that may come keeps it**, with its reads counted. -/
theorem Shows.step (h : Shows c config.batch start t n k m) (countable : c.size ≤ Numeral.max64)
    (hstep : t.step source config s = some u) :
    ∃ k' m', Shows c config.batch start u (n + 1) k' m' := by
  obtain ⟨hadmits, r, hr, hcourse, rfl⟩ := step_cases hstep
  have hpaces := h.paces
  rcases hr.read_or_not with ⟨hchecking, rfl⟩ | hnone
  · -- a read begins, where all reads so far were answered
    rw [hchecking] at hpaces
    cases hpaces
    have hread : Deed.read t.course.desk.cursor
        ∈ (PollLoop.read t.course.desk t.course.loop).deeds := List.mem_cons_self
    obtain ⟨rfl, -⟩ := hr.reads hread
    refine ⟨k, k + 1, h.reacted countable hadmits hr hcourse (.inl ⟨rfl, rfl⟩)
      (.inr ⟨rfl, ?_⟩) .reading fun _ => ?_⟩
    · rw [PollLoop.read, h.cursor (by rw [hchecking]; rfl)]
    · simp [PollLoop.read, PollLoop.hears, hchecking, Phase.begun]
      omega
  · cases hr with
    | halt =>
      exact ⟨k, m, h.reacted countable hadmits .halt hcourse (.inl ⟨rfl, rfl⟩) (.inl ⟨rfl, hnone⟩)
        hpaces fun going => by cases going⟩
    | begin hstarting =>
      rw [hstarting] at hpaces
      cases hpaces
      exact ⟨0, 0, h.reacted countable hadmits (.begin hstarting) hcourse (.inl ⟨rfl, rfl⟩)
        (.inl ⟨rfl, hnone⟩) .checking fun _ => by
          simp [PollLoop.begin, PollLoop.hears, hstarting, Phase.begun]⟩
    | read => exact absurd List.mem_cons_self (hnone t.course.desk.cursor)
    | heed heeds stopping =>
      have hnothing : t.course.loop.accepts s = [] := by
        cases s <;> simp [PollLoop.accepts, stopping]
      have late := h.drained.mp (h.stopping stopping)
      refine ⟨k, m, h.reacted countable hadmits (.heed heeds stopping) hcourse
        (.inl ⟨rfl, hnothing⟩) (.inl ⟨rfl, hnone⟩) (.finished hpaces.le hpaces.le_succ late) fun going => ?_⟩
      rw [PollLoop.finish_stopping, stopping] at going
      cases going
    | answer hreading going =>
      rw [hreading] at hpaces
      cases hpaces
      obtain rfl := h.admits_answer.mp hadmits
      obtain ⟨hpaces, hbegun⟩ := paces_onAnswer countable config start k t.course.desk
        t.course.loop
      refine ⟨k + 1, k + 1, h.reacted countable hadmits (.answer hreading going) hcourse
        (.inr ⟨rfl, ?_⟩) (.inl ⟨rfl, hnone⟩) hpaces fun _ => ?_⟩
      · simp [PollLoop.accepts, going]
      · rw [hbegun, hreading]
        simp only [PollLoop.hears, Phase.begun, List.length_nil]
        omega
    | @handled e rest next hhanding =>
      rw [hhanding] at hpaces
      cases hpaces with
      | handing early =>
        obtain ⟨hpaces, hbegun⟩ := paces_handNext early t.course.desk t.course.loop rest next
        refine ⟨k, k, h.reacted countable hadmits (.handled hhanding) hcourse (.inl ⟨rfl, rfl⟩)
          (.inl ⟨rfl, hnone⟩) hpaces fun _ => ?_⟩
        rw [hbegun, hhanding]
        simp only [PollLoop.hears, hhanding, Phase.begun, List.length_singleton]
    | panic => cases hadmits
    | rested hresting =>
      rw [hresting] at hpaces
      cases hpaces

/-- **It holds along a whole run.** -/
theorem Shows.run {signals : List Signal} (h : Shows c config.batch start t n k m)
    (countable : c.size ≤ Numeral.max64) (hrun : t.run source config signals = some u) :
    ∃ k' m', Shows c config.batch start u (n + signals.length) k' m' := by
  induction signals generalizing t n k m with
  | nil =>
    obtain rfl := Option.some.inj hrun
    exact ⟨k, m, h⟩
  | cons s signals ih =>
    obtain ⟨v, hv, hrest⟩ := Option.bind_eq_some_iff.mp hrun
    obtain ⟨k', m', hstep⟩ := h.step countable hv
    obtain ⟨k'', m'', hshows⟩ := ih hstep hrest
    rw [List.length_cons, ← Nat.add_assoc, Nat.add_right_comm]
    exact ⟨k'', m'', hshows⟩

/-! ## What a run hands over -/

/-- **What was handed over is a beginning of what there is from the first position on.** -/
theorem Shows.handed_append_left (h : Shows c config.batch start t n k m)
    (countable : c.size ≤ Numeral.max64) :
    handed t.course.past ++ t.course.loop.phase.left
      = (c.events.take (c.reached config.batch start k)).drop (c.first start) := by
  have htake := Capture.take_append_replies countable config.batch start k
  have hlength : (c.events.take (c.first start)).length = c.first start :=
    List.length_take_of_le (c.first_le start)
  rw [h.sound.handed, h.answers, ← htake, List.drop_left' hlength]

theorem Shows.handed_isPrefix (h : Shows c config.batch start t n k m)
    (countable : c.size ≤ Numeral.max64) :
    handed t.course.past <+: c.events.drop (c.first start) := by
  refine (List.prefix_append _ t.course.loop.phase.left).trans ?_
  rw [h.handed_append_left countable]
  exact (List.take_prefix _ _).drop _

/-- **Once the capture is drained nothing is in hand**, and all pieces have been answered. -/
theorem Shows.idle_of_drained (h : Shows c config.batch start t n k m)
    (drained : t.playback.drained = true) :
    t.course.loop.phase.left = [] ∧ t.course.loop.phase.held = none
      ∧ t.course.loop.phase.inHand = [] ∧ c.length config.batch start ≤ k := by
  have late := h.drained.mp drained
  have hpaces := h.paces
  have hle := hpaces.le_succ
  generalize t.course.loop.phase = phase at hpaces
  refine ⟨?_, ?_, ?_, by omega⟩ <;> cases hpaces with
  | handing early => omega
  | _ => rfl

/-- **Once the capture is drained all events have been handed over and heard.** -/
theorem Shows.heard_of_drained (h : Shows c config.batch start t n k m)
    (countable : c.size ≤ Numeral.max64) (drained : t.playback.drained = true) :
    handed t.course.past = c.events.drop (c.first start)
      ∧ t.heard = c.events.drop (c.first start) := by
  obtain ⟨hleft, -, hinHand, hk⟩ := h.idle_of_drained drained
  have hall := h.handed_append_left countable
  have hheard := h.heard
  rw [hleft, List.append_nil, Capture.reached_eq_size countable hk, Capture.size,
    List.take_length] at hall
  rw [hinHand, List.append_nil, hall] at hheard
  exact ⟨hall, hheard⟩

/-- Before the capture is drained the loop was not asked to stop, -/
theorem Shows.going_of_early (h : Shows c config.batch start t n k m)
    (early : t.playback.drained = false) : t.course.loop.stopping = false := by
  by_contra hstopping
  exact absurd (h.stopping (by simpa using hstopping)) (by simp [early])

/-- and no read was made at the end. -/
theorem Shows.le_of_early (h : Shows c config.batch start t n k m)
    (early : t.playback.drained = false) : m ≤ c.length config.batch start := by
  rw [← Nat.not_lt, ← h.drained, early]
  exact nofun

/-- **Before the capture is drained the run goes on.** -/
theorem Shows.goes_on (h : Shows c config.batch start t n k m)
    (early : t.playback.drained = false) : ∃ s u, t.step source config s = some u := by
  have going := h.going_of_early early
  have hpaces := h.paces
  generalize hphase : t.course.loop.phase = phase at hpaces
  cases hpaces with
  | starting => exact ⟨.turn, _, step_reacted rfl (.begin hphase)⟩
  | checking => exact ⟨.turn, _, step_reacted rfl (.read hphase going)⟩
  | reading => exact ⟨.answer _, _, step_reacted (h.admits_answer.mpr rfl) (.answer hphase going)⟩
  | handing => exact ⟨.handled, _, step_reacted rfl (.handled hphase)⟩
  | finished le all late => exact absurd (h.drained.mpr late) (by simp [early])

/-- **Before the capture is drained only so many signals have come.** -/
theorem Shows.signals_le (h : Shows c config.batch start t n k m)
    (countable : c.size ≤ Numeral.max64) (early : t.playback.drained = false) :
    n ≤ 1 + 2 * c.length config.batch start + (c.size - c.first start) := by
  have going := h.going_of_early early
  have hm := h.le_of_early early
  have hbegun : t.course.loop.phase.begun ≤ 1 := by
    cases t.course.loop.phase <;> simp [Phase.begun]
  have hheard : t.heard.length ≤ c.size - c.first start := by
    have hlength := (h.handed_isPrefix countable).length_le
    rw [← h.heard, List.length_append, List.length_drop] at hlength
    exact (Nat.le_add_right _ _).trans hlength
  have hsignals := h.signals going
  have hle := h.paces.le
  omega

/-- **Before the capture is drained every batch brings an event**, and none brings more than was
asked for. -/
theorem Shows.length_batch (h : Shows c config.batch start t n k m)
    (countable : c.size ≤ Numeral.max64) (early : t.playback.drained = false) {b : Batch}
    (hb : .ok b ∈ returned t.course.past) :
    1 ≤ b.events.length ∧ b.events.length ≤ max config.batch 1 := by
  have hm := h.le_of_early early
  have hle := h.paces.le
  rw [h.answers, Capture.replies] at hb
  obtain ⟨i, hi, hreply⟩ := List.mem_map.mp hb
  have hi := List.mem_range.mp hi
  refine Capture.length_events_reply countable hreply ?_
  rw [Bool.eq_false_iff, Ne, c.atEnd_cursorAfter_iff config.batch start i countable]
  omega

/-- **A run that is over was asked to stop, and the capture is drained.** -/
theorem Shows.drained_of_isOver (h : Shows c config.batch start t n k m)
    (hover : t.course.loop.isOver = true) :
    t.playback.drained = true ∧ t.course.loop.phase = .finished none := by
  have hpaces := h.paces
  generalize hphase : t.course.loop.phase = phase at hpaces
  cases hpaces with
  | finished le all late => exact ⟨h.drained.mpr late, rfl⟩
  | _ => simp [PollLoop.isOver, hphase] at hover

/-- **The cursor that is left** once the capture is drained, and how often it was given up. -/
theorem Shows.cursor_of_drained (h : Shows c config.batch start t n k m)
    (countable : c.size ≤ Numeral.max64) (drained : t.playback.drained = true) :
    t.course.desk.cursor = (if c.first start < c.size then some (Capture.cursorAt c.size)
        else c.opening start)
      ∧ resets t.course.past = c.refusals start := by
  obtain ⟨-, hheld, -, hk⟩ := h.idle_of_drained drained
  have hrefused : c.refusals start ≤ k := (Nat.le_add_right _ _).trans hk
  refine ⟨?_, ?_⟩
  · rw [h.cursor hheld, Capture.cursorAfter_eq countable hrefused,
      Capture.reached_eq_size countable hk]
  · rw [h.refused, h.answers, Capture.countP_isStale_replies countable, Nat.min_eq_right hrefused]

/-- **Once the capture is drained a stop request ends the run at the next turn.** -/
theorem Shows.stops (h : Shows c config.batch start t n k m) (drained : t.playback.drained = true)
    (hover : t.course.loop.isOver = false) :
    ∃ u, t.run source config [.halt, .turn] = some u ∧ u.course.loop.isOver = true := by
  have hheeds : t.course.loop.phase.heeds .turn = true := by
    have late := h.drained.mp drained
    have hpaces := h.paces
    generalize hphase : t.course.loop.phase = phase at hpaces
    cases hpaces with
    | starting => cases late
    | checking => rfl
    | reading => rfl
    | handing early => omega
    | finished => simp [PollLoop.isOver, hphase] at hover
  let v := t.reacted config .halt
    ⟨t.course.desk, { t.course.loop with stopping := true }, []⟩
  have hhalt : t.step source config .halt = some v := step_reacted drained .halt
  let u := v.reacted config .turn (PollLoop.finish v.course.desk v.course.loop none)
  have hturn : v.step source config .turn = some u := step_reacted rfl (.heed hheeds rfl)
  refine ⟨u, ?_, rfl⟩
  rw [Screening.run, List.foldlM_cons, hhalt, Option.bind_eq_bind, Option.bind_some,
    List.foldlM_cons, hturn]
  rfl

/-- **A run over a capture hands over what there is from its cursor on**, each event once and in
order, whatever the size of a batch.  It begins at the position that the cursor means, or at the
first one if it is none of the capture.

* At every moment the events handed over are a beginning of these.
* The capture is drained exactly after so many reads, and all of them have been heard then.
* Before, the run goes on, but not forever, and no batch is empty or too large.
* A run that is over has given up a cursor that was refused, once, and leaves the cursor of the end,
  or if there was nothing to hand over, the one it had. -/
theorem hands_over_rest {signals : List Signal} {state : PollState}
    (countable : c.size ≤ Numeral.max64)
    (h : (opened c w ⟨start, state⟩).run source config signals = some t) :
    handed t.course.past <+: c.events.drop (c.first start)
      ∧ (t.playback.drained = true
        ↔ c.length config.batch start < (sent t.course.past).length)
      ∧ (t.playback.drained = true → handed t.course.past = c.events.drop (c.first start)
        ∧ t.heard = c.events.drop (c.first start)
        ∧ (t.course.loop.isOver = false →
          ∃ u, t.run source config [.halt, .turn] = some u ∧ u.course.loop.isOver = true))
      ∧ (t.playback.drained = false → (∃ s u, t.step source config s = some u)
        ∧ signals.length ≤ 1 + 2 * c.length config.batch start + (c.size - c.first start)
        ∧ ∀ b, .ok b ∈ returned t.course.past →
          1 ≤ b.events.length ∧ b.events.length ≤ max config.batch 1)
      ∧ (t.course.loop.isOver = true → t.playback.drained = true
        ∧ t.course.loop.phase = .finished none
        ∧ resets t.course.past = c.refusals start
        ∧ t.course.desk.cursor = if c.first start < c.size then some (Capture.cursorAt c.size)
          else c.opening start) := by
  obtain ⟨k, m, shows⟩ := (shows_opened c config.batch w ⟨start, state⟩).run countable h
  rw [Nat.zero_add] at shows
  refine ⟨shows.handed_isPrefix countable, ?_, fun drained => ?_, fun early => ?_, fun hover => ?_⟩
  · rw [shows.drained, shows.reads, List.length_map, List.length_range]
  · obtain ⟨hhanded, hheard⟩ := shows.heard_of_drained countable drained
    exact ⟨hhanded, hheard, shows.stops drained⟩
  · exact ⟨shows.goes_on early, shows.signals_le countable early,
      fun b => shows.length_batch countable early⟩
  · obtain ⟨drained, hphase⟩ := shows.drained_of_isOver hover
    obtain ⟨hcursor, hresets⟩ := shows.cursor_of_drained countable drained
    exact ⟨drained, hphase, hresets, hcursor⟩

/-- A cursor that is none of the capture: it is refused, and three events are handed over from the
first one on in batches of two. -/
theorem hands_over_rest_after_refusal :
    let config : PollConfig := { PollConfig.standard with batch := 2 }
    let c : Capture := ⟨[.other "a", .other "b", .other "c"]⟩
    let w := Playback.freshWorld (.bare "bot") {}
    let signals : List Signal := [.turn, .turn, .answer (.error (.staleCursor (some "4"))),
      .turn, .answer (.ok (c.batchAt 0 2)), .handled, .handled, .turn,
      .answer (.ok (c.batchAt 2 2)), .handled, .turn, .halt, .turn]
    ∃ t, (opened c w ⟨some ⟨"4"⟩, .stopped⟩).run "replay" config signals = some t
      ∧ t.heard = c.events ∧ resets t.course.past = 1 ∧ t.course.desk.cursor = some ⟨"3"⟩ := by
  intro config c w signals
  have hsome : ((opened c w ⟨some ⟨"4"⟩, .stopped⟩).run "replay" config signals).map
      (fun t => (t.course.loop.isOver)) = some true := by decide
  obtain ⟨t, hrun, hover⟩ := Option.map_eq_some_iff.mp hsome
  obtain ⟨-, -, hall, -, hend⟩ := hands_over_rest (by decide) hrun
  obtain ⟨drained, -, hresets, hcursor⟩ := hend hover
  have hthree : t.course.desk.cursor = some (Capture.cursorAt 3) := hcursor
  exact ⟨t, hrun, (hall drained).2.1, hresets, hthree.trans (by decide)⟩

end Screening

end ChatFeed
