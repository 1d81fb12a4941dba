import ChatFeed.Proofs.History
import ChatFeed.Proofs.Poll.Reaction
import Mathlib.Data.List.Chain
import Mathlib.Data.List.DropRight

/-!
# Proofs/Poll/Course — one loop from its start, under any signals

A `Course` is a loop with its desk and the whole past: every signal that came and every deed done.
Three conservation laws tie what a loop holds to what has come to it, one reaction at a time:

* `Reaction.hand_over` — events handed over and events still held are those of the accepted answers.
* `Reaction.moves` — the cursor, counting the one still held, moves as the accepted answers say.
* `Reaction.turnover` — a handler call is answered before the next call or read begins.

`Course.hands_over_whole_batches` puts them together along a course.
-/

namespace ChatFeed

/-- What a read brings. -/
abbrev Answer := Except ReadError Batch

namespace Answer

/-- The events that an answer brings. -/
def events : Answer → List Event
  | .ok b => b.events
  | .error _ => []

/-- The cursor that an answer brings. -/
def next? : Answer → Option Cursor
  | .ok b => b.next
  | .error _ => none

/-- Whether an answer says that the cursor was not accepted. -/
def isStale : Answer → Bool
  | .error (.staleCursor _) => true
  | _ => false

/-- The cursor after an answer. -/
def after (cursor : Option Cursor) (a : Answer) : Option Cursor :=
  if a.isStale then none else a.next?.or cursor

/-- **Where some answers lead**: to the last cursor that came since a cursor was refused for the
last time.  Where none came, a refusal leads to the tip, and otherwise the start stays. -/
def position (start : Option Cursor) (answers : List Answer) : Option Cursor :=
  match ((answers.rtakeWhile fun a => !a.isStale).filterMap next?).getLast? with
  | some cursor => some cursor
  | none => if answers.any isStale then none else start

@[simp] theorem position_nil (start : Option Cursor) : position start [] = start := rfl

/-- One answer more moves the position by that answer alone. -/
theorem position_concat (start : Option Cursor) (answers : List Answer) (a : Answer) :
    position start (answers ++ [a]) = after (position start answers) a := by
  unfold position after
  cases hs : a.isStale with
  | true => simp [hs]
  | false =>
    rw [List.rtakeWhile_concat_pos _ _ _ (by simpa using hs), List.filterMap_append]
    cases hn : a.next? with
    | none => simp [hn, hs]
    | some cursor => simp [hn]

end Answer

/-- **What happens at a loop**: a signal comes, or a deed is done. -/
inductive Moment
  | came (signal : Signal)
  | did (deed : Deed)

namespace Moment

/-- Whether the loop is asked to stop. -/
def isHalt : Moment → Bool
  | .came .halt => true
  | _ => false

/-- The answer to a read. -/
def answer? : Moment → Option Answer
  | .came (.answer a) => some a
  | _ => none

/-- The event that is handed over. -/
def hand? : Moment → Option Event
  | .did (.hand e) => some e
  | _ => none

/-- Whether a handler call begins or ends, or a read begins. -/
def isTurnover : Moment → Bool
  | .came .handled => true
  | .did (.hand _) => true
  | .did (.read _) => true
  | _ => false

/-- A call to the handler is followed by its end. -/
def EndsBefore (a b : Moment) : Prop := a.hand?.isSome → b = .came .handled

end Moment

/-- The events handed over in some time. -/
def handed (past : List Moment) : List Event := past.filterMap Moment.hand?

/-- **The answers that reached the loop**: those before it was asked to stop. -/
def returned (past : List Moment) : List Answer :=
  (past.takeWhile fun x => !x.isHalt).filterMap Moment.answer?

/-- Whether the loop was asked to stop. -/
def halted (past : List Moment) : Bool := past.any Moment.isHalt

theorem handed_append (past more : List Moment) :
    handed (past ++ more) = handed past ++ handed more := List.filterMap_append

/-- Once the loop was asked to stop, the time before that grows no more; -/
theorem takeWhile_append_of_halted {past : List Moment} (h : halted past = true)
    (more : List Moment) : (past ++ more).takeWhile (fun x => !x.isHalt)
      = past.takeWhile fun x => !x.isHalt := by
  obtain ⟨x, hx, hh⟩ := List.any_eq_true.mp h
  have hne : ¬ (past.takeWhile fun y => !y.isHalt).length = past.length := by
    intro hl
    have hall := List.takeWhile_eq_self_iff.mp (List.IsPrefix.eq_of_length
      (List.takeWhile_prefix _) hl) x hx
    simp [hh] at hall
  rw [List.takeWhile_append, if_neg hne]

/-- before, it is all the time. -/
theorem takeWhile_append_of_not_halted {past : List Moment} (h : halted past = false)
    (more : List Moment) : (past ++ more).takeWhile (fun x => !x.isHalt)
      = (past.takeWhile fun x => !x.isHalt) ++ more.takeWhile fun x => !x.isHalt := by
  have hall : ∀ x ∈ past, (!x.isHalt) = true := by
    intro x hx
    simpa using List.any_eq_false.mp h x hx
  rw [List.takeWhile_append_of_pos hall, List.takeWhile_eq_self_iff.mpr hall]

theorem returned_append_of_halted {past : List Moment} (h : halted past = true)
    (more : List Moment) : returned (past ++ more) = returned past := by
  rw [returned, takeWhile_append_of_halted h, returned]

theorem returned_append_of_not_halted {past : List Moment} (h : halted past = false)
    (more : List Moment) : returned (past ++ more) = returned past ++ returned more := by
  rw [returned, takeWhile_append_of_not_halted h, List.filterMap_append, returned, returned]

namespace Phase

/-- The events of the batch that are still to be handed over. -/
def left : Phase → List Event
  | .handing _ rest _ => rest
  | _ => []

/-- The cursor that is kept back until the batch is over. -/
def held : Phase → Option Cursor
  | .handing _ _ next => next
  | _ => none

/-- Whether a handler call is going on. -/
def isHanding : Phase → Bool
  | .handing _ _ _ => true
  | _ => false

end Phase

/-! ## What one reaction does

A step that stands **aside** of the batches neither reads nor hands anything over and leaves no
batch behind; most reactions are such steps. -/

/-- **A step that takes no part in reading and handing over.** -/
structure LoopStep.Aside (r : LoopStep) : Prop where
  silent : ∀ x ∈ r.deeds, (Moment.did x).isTurnover = false
  free : r.loop.phase.isHanding = false

namespace LoopStep.Aside

variable {r : LoopStep}

theorem handed_eq_nil (h : r.Aside) : handed (r.deeds.map .did) = [] := by
  refine List.filterMap_eq_nil_iff.mpr fun x hx => ?_
  obtain ⟨y, hy, rfl⟩ := List.mem_map.mp hx
  have hsilent := h.silent y hy
  cases y <;> simp_all [Moment.hand?, Moment.isTurnover]

theorem filter_eq_nil (h : r.Aside) : (r.deeds.map Moment.did).filter Moment.isTurnover = [] := by
  refine List.filter_eq_nil_iff.mpr fun x hx => ?_
  obtain ⟨y, hy, rfl⟩ := List.mem_map.mp hx
  simp [h.silent y hy]

theorem left_eq_nil (h : r.Aside) : r.loop.phase.left = [] := by
  have hfree := h.free
  cases hp : r.loop.phase <;> simp_all [Phase.left, Phase.isHanding]

theorem held_eq_none (h : r.Aside) : r.loop.phase.held = none := by
  have hfree := h.free
  cases hp : r.loop.phase <;> simp_all [Phase.held, Phase.isHanding]

theorem hand_over_eq_nil (h : r.Aside) : handed (r.deeds.map .did) ++ r.loop.phase.left = [] := by
  rw [h.handed_eq_nil, h.left_eq_nil, List.nil_append]

theorem not_read (h : r.Aside) (cursor : Option Cursor) : Deed.read cursor ∉ r.deeds := by
  intro hread
  have hsilent := h.silent _ hread
  simp [Moment.isTurnover] at hsilent

end LoopStep.Aside

namespace PollLoop

variable {source : String} {c : PollConfig} {d : Desk} {l : PollLoop} {s : Signal} {r : LoopStep}

theorem aside_begin : (begin source c d l).Aside where
  silent := by simp [begin, Moment.isTurnover]
  free := rfl

theorem aside_finish (error : Option PollError) : (finish d l error).Aside where
  silent := by cases error <;> simp [finish, Moment.isTurnover]
  free := by cases error <;> rfl

@[simp] theorem finish_cursor (error : Option PollError) :
    (finish d l error).desk.cursor = d.cursor := by cases error <;> rfl

@[simp] theorem finish_stopping (error : Option PollError) :
    (finish d l error).loop.stopping = l.stopping := by cases error <;> rfl

theorem aside_onStale (rejected : Option String) : (onStale d l rejected).Aside where
  silent := by simp [onStale, Moment.isTurnover]
  free := rfl

theorem aside_onTransient (e : ReadError) : (onTransient c d l e).Aside where
  silent := by
    unfold onTransient
    cases l.streak.failAsked c.retry e.retryAfter? with
    | mk delay streak =>
      cases delay with
      | none => simpa [Moment.isTurnover] using (aside_finish (some _)).silent
      | some delay => simp [Moment.isTurnover]
  free := by
    unfold onTransient
    cases l.streak.failAsked c.retry e.retryAfter? with
    | mk delay streak =>
      cases delay with
      | none => rfl
      | some delay => rfl

@[simp] theorem onTransient_cursor (e : ReadError) :
    (onTransient c d l e).desk.cursor = d.cursor := by
  unfold onTransient
  cases l.streak.failAsked c.retry e.retryAfter? with
  | mk delay streak =>
    cases delay with
    | none => exact finish_cursor _
    | some delay => rfl

@[simp] theorem onTransient_stopping (e : ReadError) :
    (onTransient c d l e).loop.stopping = l.stopping := by
  unfold onTransient
  cases l.streak.failAsked c.retry e.retryAfter? with
  | mk delay streak =>
    cases delay with
    | none => exact finish_stopping _
    | some delay => rfl

/-- **An error is never part of a batch.** -/
theorem aside_onAnswer_error (e : ReadError) : (onAnswer c d l (.error e)).Aside := by
  cases e with
  | transient message retryAfter => exact aside_onTransient _
  | fatal message => exact aside_finish (d := d) (l := l) (some (.fatal (.fatal message)))
  | staleCursor rejected => exact aside_onStale _

theorem onAnswer_error_cursor (e : ReadError) :
    (onAnswer c d l (.error e)).desk.cursor = Answer.after d.cursor (.error e) := by
  cases e with
  | transient message retryAfter => exact onTransient_cursor _
  | fatal message => exact finish_cursor _
  | staleCursor rejected => rfl

/-- Handing over the next event of some, or ending the batch, keeps all of them. -/
theorem handNext_hand_over (events : List Event) (next : Option Cursor) :
    handed ((handNext d l events next).deeds.map .did) ++ (handNext d l events next).loop.phase.left
      = events := by
  cases events with
  | nil => cases next <;> rfl
  | cons e rest => rfl

/-- The cursor of a batch is kept back or set. -/
theorem handNext_moves (events : List Event) (next : Option Cursor) :
    (handNext d l events next).loop.phase.held.or (handNext d l events next).desk.cursor
      = next.or d.cursor := by
  cases events with
  | nil => cases next <;> rfl
  | cons e rest => rfl

/-- A handler call begins exactly when an event is left. -/
theorem handNext_filter (events : List Event) (next : Option Cursor) :
    ((handNext d l events next).deeds.map Moment.did).filter Moment.isTurnover
        = (events.head?.map fun e => Moment.did (.hand e)).toList
      ∧ (handNext d l events next).loop.phase.isHanding = events.head?.isSome := by
  cases events with
  | nil => cases next <;> exact ⟨rfl, rfl⟩
  | cons e rest => exact ⟨rfl, rfl⟩

theorem handNext_not_read (events : List Event) (next cursor : Option Cursor) :
    Deed.read cursor ∉ (handNext d l events next).deeds := by
  cases events <;> cases next <;> simp [handNext, endBatch]

@[simp] theorem handNext_stopping (events : List Event) (next : Option Cursor) :
    (handNext d l events next).loop.stopping = l.stopping := by
  cases events <;> cases next <;> rfl

/-- What is reported of a batch before it is handed over. -/
def report (l : PollLoop) (b : Batch) : List Deed :=
  recovery l.streak ++ (Remark.batch b.events.length).map Deed.remark

/-- A report is made aside of the batch. -/
theorem aside_report (b : Batch) :
    LoopStep.Aside ⟨d, { l with phase := .checking }, report l b⟩ where
  silent := by
    intro x hx
    rcases List.mem_append.mp hx with hx | hx
    · unfold recovery at hx
      split at hx
      · simp at hx
      · obtain rfl := List.mem_singleton.mp hx
        rfl
    · obtain ⟨m, -, rfl⟩ := List.mem_map.mp hx
      rfl
  free := rfl

/-- The loop with nothing against the feed any more. -/
def recovered (l : PollLoop) : PollLoop := { l with streak := l.streak.succeed }

/-- A batch is reported, and then handed over. -/
theorem onBatch_deeds (b : Batch) :
    (onBatch d l b).deeds = report l b ++ (handNext d l.recovered b.events b.next).deeds := rfl

@[simp] theorem onBatch_loop (b : Batch) :
    (onBatch d l b).loop = (handNext d l.recovered b.events b.next).loop := rfl

@[simp] theorem onBatch_desk (b : Batch) :
    (onBatch d l b).desk = (handNext d l.recovered b.events b.next).desk := rfl

/-- All events of a batch are handed over or left. -/
theorem onBatch_hand_over (b : Batch) :
    handed ((onBatch d l b).deeds.map .did) ++ (onBatch d l b).loop.phase.left = b.events := by
  have hnone : handed ((report l b).map .did) = [] := (aside_report (d := d) b).handed_eq_nil
  rw [onBatch_deeds, List.map_append, handed_append, hnone, List.nil_append, onBatch_loop,
    handNext_hand_over]

/-- A handler call begins exactly when there is an event in the batch. -/
theorem onBatch_filter (b : Batch) :
    ((onBatch d l b).deeds.map Moment.did).filter Moment.isTurnover
        = (b.events.head?.map fun e => Moment.did (.hand e)).toList
      ∧ (onBatch d l b).loop.phase.isHanding = b.events.head?.isSome := by
  have hnone : ((report l b).map Moment.did).filter Moment.isTurnover = [] :=
    (aside_report (d := d) b).filter_eq_nil
  rw [onBatch_deeds, List.map_append, List.filter_append, hnone, List.nil_append, onBatch_loop]
  exact handNext_filter _ _

theorem onBatch_not_read (b : Batch) (cursor : Option Cursor) :
    Deed.read cursor ∉ (onBatch d l b).deeds := by
  rw [onBatch_deeds, List.mem_append]
  rintro (hread | hread)
  · exact (aside_report (d := d) b).not_read cursor hread
  · exact handNext_not_read _ _ cursor hread

theorem onAnswer_ok (b : Batch) : onAnswer c d l (.ok b) = onBatch d l b := rfl

/-- An answer asks no loop to stop. -/
@[simp] theorem onAnswer_stopping (result : Except ReadError Batch) :
    (onAnswer c d l result).loop.stopping = l.stopping := by
  cases result with
  | ok b =>
    have hhand := handNext_stopping (d := d) (l := l.recovered) b.events b.next
    exact hhand
  | error e =>
    cases e with
    | transient message retryAfter => exact onTransient_stopping _
    | fatal message => exact finish_stopping _
    | staleCursor rejected => rfl

/-- A loop that is over has nothing of a batch in hand. -/
theorem idle_of_isOver (hover : l.isOver = true) :
    l.phase.left = [] ∧ l.phase.held = none ∧ l.phase.isHanding = false := by
  unfold isOver at hover
  cases hp : l.phase <;> simp [hp] at hover <;> exact ⟨rfl, rfl, rfl⟩

/-- The answers that a signal brings to a loop that still goes on. -/
def accepts (l : PollLoop) : Signal → List Answer
  | .answer a => if l.stopping then [] else [a]
  | _ => []

/-- **No event is lost or handed over twice**: what was left of the batch and what the answer brings
is handed over or left. -/
theorem Reaction.hand_over (h : Reaction source c d l s r) (calm : ∀ words, s ≠ .panic words) :
    handed (r.deeds.map .did) ++ r.loop.phase.left
      = l.phase.left ++ (l.accepts s).flatMap Answer.events := by
  cases h with
  | halt => simp [handed, accepts]
  | begin phase =>
    rw [aside_begin.hand_over_eq_nil]
    simp [phase, Phase.left, accepts]
  | read phase going => simp [phase, handed, Phase.left, accepts, PollLoop.read, Moment.hand?]
  | heed heeds stopping =>
    rw [(aside_finish _).hand_over_eq_nil]
    cases hp : l.phase <;> cases s <;> simp_all [Phase.heeds, Phase.left, accepts]
  | @answer result phase going =>
    cases result with
    | error e =>
      rw [(aside_onAnswer_error e).hand_over_eq_nil]
      simp [phase, Phase.left, accepts, going, Answer.events]
    | ok b =>
      rw [onAnswer_ok, onBatch_hand_over]
      simp [phase, Phase.left, accepts, going, Answer.events]
  | handled phase => simpa [phase, Phase.left, accepts] using handNext_hand_over _ _
  | panic phase => exact absurd rfl (calm _)
  | rested phase going => simp [phase, handed, Phase.left, accepts, Moment.hand?]

/-- **The cursor moves as the answers say**, counting the cursor that is kept back until a batch is
over. -/
theorem Reaction.moves (h : Reaction source c d l s r) (calm : ∀ words, s ≠ .panic words) :
    r.loop.phase.held.or r.desk.cursor
      = (l.accepts s).foldl Answer.after (l.phase.held.or d.cursor) := by
  cases h with
  | halt => rfl
  | begin phase => simp [phase, Phase.held, accepts, PollLoop.begin]
  | read phase going => simp [phase, Phase.held, accepts, PollLoop.read]
  | heed heeds stopping =>
    rw [(aside_finish _).held_eq_none, finish_cursor]
    cases hp : l.phase <;> cases s <;> simp_all [Phase.heeds, Phase.held, accepts]
  | @answer result phase going =>
    cases result with
    | error e =>
      rw [(aside_onAnswer_error e).held_eq_none, onAnswer_error_cursor]
      simp [phase, Phase.held, accepts, going]
    | ok b =>
      rw [onAnswer_ok, onBatch_loop, onBatch_desk, handNext_moves]
      simp [phase, Phase.held, accepts, going, Answer.after, Answer.isStale, Answer.next?]
  | handled phase => simpa [phase, Phase.held, accepts] using handNext_moves _ _
  | panic phase => exact absurd rfl (calm _)
  | rested phase going => simp [phase, Phase.held, accepts]

/-- The calls and reads in a moment of a loop: the signal, then the deeds. -/
def turns (s : Signal) (r : LoopStep) : List Moment :=
  (Moment.came s :: r.deeds.map .did).filter Moment.isTurnover

theorem turns_eq_nil (h : r.Aside) (hs : s ≠ .handled) : turns s r = [] := by
  have hsignal : (Moment.came s).isTurnover = false := by
    cases s <;> simp_all [Moment.isTurnover]
  rw [turns, List.filter_cons_of_neg (by simp [hsignal]), h.filter_eq_nil]

/-- **How a reaction stands to calls and reads**: it stands aside of both, or it begins one from
outside of a call, or it is the end of a call and may begin the next. -/
def Turnover (l : PollLoop) (s : Signal) (r : LoopStep) : Prop :=
  (turns s r = [] ∧ (l.phase.isHanding = true → r.loop.phase.isHanding = true))
    ∨ (l.phase.isHanding = false ∧ ∃ x, turns s r = [x]
        ∧ (x.hand?.isSome = true → r.loop.phase.isHanding = true))
    ∨ (∃ rest, turns s r = .came .handled :: rest
        ∧ (rest = [] ∨ ∃ x, rest = [x] ∧ r.loop.phase.isHanding = true))

theorem turnover_of_aside (h : r.Aside) (hs : s ≠ .handled) (hfree : l.phase.isHanding = false) :
    Turnover l s r :=
  .inl ⟨turns_eq_nil h hs, by simp [hfree]⟩

/-- A batch begins a call when it has an event. -/
theorem turnover_onBatch (b : Batch) (hfree : l.phase.isHanding = false) :
    Turnover l (.answer (.ok b)) (onBatch d l b) := by
  obtain ⟨hfilter, hhanding⟩ := onBatch_filter (d := d) (l := l) b
  have hturns : turns (.answer (.ok b)) (onBatch d l b)
      = (b.events.head?.map fun e => Moment.did (.hand e)).toList := hfilter
  cases hevents : b.events with
  | nil =>
    rw [hevents] at hturns
    exact .inl ⟨hturns, by simp [hfree]⟩
  | cons e rest =>
    rw [hevents] at hturns hhanding
    exact .inr (.inl ⟨hfree, _, hturns, fun _ => hhanding⟩)

/-- The end of a call begins the next one when an event is left. -/
theorem turnover_handled (rest : List Event) (next : Option Cursor) :
    Turnover l .handled (handNext d l rest next) := by
  obtain ⟨hfilter, hhanding⟩ := handNext_filter (d := d) (l := l) rest next
  refine .inr (.inr ⟨_, congrArg (Moment.came .handled :: ·) hfilter, ?_⟩)
  cases rest with
  | nil => exact .inl rfl
  | cons e rest => exact .inr ⟨_, rfl, hhanding⟩

/-- **A reaction begins a call or a read only when no call is going on.** -/
theorem Reaction.turnover (h : Reaction source c d l s r) (calm : ∀ words, s ≠ .panic words) :
    Turnover l s r := by
  cases h with
  | halt => exact .inl ⟨rfl, fun h => h⟩
  | begin phase => exact turnover_of_aside aside_begin (by simp) (by simp [phase, Phase.isHanding])
  | read phase going =>
    exact .inr (.inl ⟨by simp [phase, Phase.isHanding], _, rfl, by simp [Moment.hand?]⟩)
  | heed heeds stopping =>
    refine turnover_of_aside (aside_finish _) ?_ ?_
    · rintro rfl
      cases hp : l.phase <;> simp [hp, Phase.heeds] at heeds
    · cases hp : l.phase <;> simp_all [Phase.heeds, Phase.isHanding]
  | @answer result phase going =>
    have hfree : l.phase.isHanding = false := by simp [phase, Phase.isHanding]
    cases result with
    | error e => exact turnover_of_aside (aside_onAnswer_error e) (by simp) hfree
    | ok b => exact turnover_onBatch b hfree
  | handled phase => exact turnover_handled _ _
  | panic phase => exact absurd rfl (calm _)
  | rested phase going => exact .inl ⟨rfl, by simp [phase, Phase.isHanding]⟩

/-- **A read begins at a turn of a loop that goes on**, and sends the cursor of the desk. -/
theorem Reaction.reads (h : Reaction source c d l s r) {cursor : Option Cursor}
    (reads : Deed.read cursor ∈ r.deeds) : s = .turn ∧ cursor = d.cursor
      ∧ l.phase = .checking ∧ l.stopping = false ∧ r.deeds = [.read cursor] := by
  cases h with
  | halt => simp at reads
  | begin phase => exact absurd reads (aside_begin.not_read cursor)
  | read phase going =>
    obtain rfl : cursor = d.cursor := by simpa [PollLoop.read] using reads
    exact ⟨rfl, rfl, phase, going, rfl⟩
  | heed heeds stopping => exact absurd reads ((aside_finish _).not_read cursor)
  | @answer result phase going =>
    cases result with
    | error e => exact absurd reads ((aside_onAnswer_error e).not_read cursor)
    | ok b => exact absurd reads (onBatch_not_read b cursor)
  | handled phase => exact absurd reads (handNext_not_read _ _ cursor)
  | panic phase => simp [goTo] at reads
  | rested phase going => simp at reads

/-- A loop is asked to stop by a halt alone. -/
theorem Reaction.stopping_eq (h : Reaction source c d l s r) :
    r.loop.stopping = (l.stopping || (Moment.came s).isHalt) := by
  cases h with
  | halt => simp [Moment.isHalt]
  | begin phase => simp [PollLoop.begin, Moment.isHalt]
  | read phase going => simp [PollLoop.read, Moment.isHalt]
  | heed heeds stopping => simp [stopping]
  | answer phase going => simp [Moment.isHalt]
  | handled phase => simp [Moment.isHalt]
  | panic phase => simp [goTo, Moment.isHalt]
  | rested phase going => simp [Moment.isHalt]

end PollLoop

/-! ## The whole course -/

/-- **A loop on its course**: its desk, itself, and all that has happened. -/
structure Course where
  desk : Desk
  loop : PollLoop := {}
  past : List Moment := []

namespace Course

variable (source : String) (config : PollConfig)

/-- A signal comes to the loop; none if it does not come to where the loop is. -/
def step (t : Course) (s : Signal) : Option Course := do
  let r ← t.loop.react source config t.desk s
  some ⟨r.desk, r.loop, t.past ++ .came s :: r.deeds.map .did⟩

/-- **A course under some signals**, one after the other. -/
def run (signals : List Signal) (t : Course) : Option Course :=
  signals.foldlM (step source config) t

variable {source config} {start : Option Cursor} {t u : Course} {s : Signal} {r : LoopStep}

/-- A step is a reaction, added to the past. -/
theorem step_cases (h : t.step source config s = some u) :
    ∃ r, PollLoop.Reaction source config t.desk t.loop s r ∧ u.desk = r.desk ∧ u.loop = r.loop
      ∧ u.past = t.past ++ .came s :: r.deeds.map .did := by
  obtain ⟨r, hr, hu⟩ := Option.bind_eq_some_iff.mp h
  obtain rfl := Option.some.inj hu
  exact ⟨r, PollLoop.react_iff.mp hr, rfl, rfl, rfl⟩

/-- **What holds at every moment** of a course that began at a cursor. -/
structure Sound (start : Option Cursor) (t : Course) : Prop where
  stopping : t.loop.stopping = halted t.past
  handed : handed t.past ++ t.loop.phase.left = (returned t.past).flatMap Answer.events
  cursor : t.loop.phase.held.or t.desk.cursor = Answer.position start (returned t.past)
  turns : (t.past.filter Moment.isTurnover).IsChain Moment.EndsBefore
  calling : ∀ x ∈ (t.past.filter Moment.isTurnover).getLast?,
    x.hand?.isSome = true → t.loop.phase.isHanding = true
  reads : ∀ before cursor after, t.past = before ++ .did (.read cursor) :: after →
    halted before = false ∧ cursor = Answer.position start (returned before)
      ∧ ChatFeed.handed before = (returned before).flatMap Answer.events

/-- Deeds bring no answer. -/
theorem returned_deeds (deeds : List Deed) : returned (deeds.map .did) = [] := by
  induction deeds with
  | nil => rfl
  | cons x deeds ih => simpa [returned, Moment.isHalt, Moment.answer?] using ih

/-- A signal brings its answer. -/
theorem returned_moment (s : Signal) (deeds : List Deed) :
    returned (.came s :: deeds.map .did) = (Moment.came s).answer?.toList := by
  have hdeeds := returned_deeds deeds
  cases s <;> simp_all [returned, Moment.isHalt, Moment.answer?]

/-- **The answers that have reached the loop, one reaction later.** -/
theorem returned_step (stopping : t.loop.stopping = halted t.past) (s : Signal)
    (deeds : List Deed) :
    returned (t.past ++ .came s :: deeds.map .did) = returned t.past ++ t.loop.accepts s := by
  cases hh : halted t.past with
  | true =>
    rw [returned_append_of_halted hh]
    cases s <;> simp [PollLoop.accepts, stopping, hh]
  | false =>
    rw [returned_append_of_not_halted hh, returned_moment]
    cases s <;> simp [PollLoop.accepts, stopping, hh, Moment.answer?]

/-- A course begins soundly. -/
theorem sound_begin (desk : Desk) : Sound desk.cursor { desk := desk } where
  stopping := rfl
  handed := rfl
  cursor := rfl
  turns := .nil
  calling := by simp
  reads := fun before cursor after h => by simp at h

/-- A chain of answers moves the position one by one. -/
theorem foldl_after (start : Option Cursor) (answers more : List Answer) :
    more.foldl Answer.after (Answer.position start answers)
      = Answer.position start (answers ++ more) := by
  induction more generalizing answers with
  | nil => simp
  | cons a more ih =>
    rw [List.foldl_cons, ← Answer.position_concat, ih, List.append_assoc, List.singleton_append]

theorem halted_step (past : List Moment) (s : Signal) (deeds : List Deed) :
    halted (past ++ .came s :: deeds.map .did) = (halted past || (Moment.came s).isHalt) := by
  have hdeeds : (deeds.map Moment.did).any Moment.isHalt = false := by simp [Moment.isHalt]
  rw [halted, List.any_append, List.any_cons, hdeeds, Bool.or_false, halted]

/-- Calls and reads stay in order when a reaction's are added. -/
theorem Sound.turns_step (sound : t.Sound start)
    (hr : PollLoop.Reaction source config t.desk t.loop s r) (calm : ∀ words, s ≠ .panic words) :
    (t.past.filter Moment.isTurnover ++ PollLoop.turns s r).IsChain Moment.EndsBefore
      ∧ ∀ x ∈ (t.past.filter Moment.isTurnover ++ PollLoop.turns s r).getLast?,
        x.hand?.isSome = true → r.loop.phase.isHanding = true := by
  rcases hr.turnover calm with ⟨hnil, hkeep⟩ | ⟨hfree, x, hone, hx⟩ | ⟨rest, hend, hrest⟩
  · rw [hnil, List.append_nil]
    exact ⟨sound.turns, fun x hx hh => hkeep (sound.calling x hx hh)⟩
  · rw [hone]
    refine ⟨List.isChain_append.mpr ⟨sound.turns, .singleton x, fun a ha b _ hh => ?_⟩, ?_⟩
    · rw [sound.calling a ha hh] at hfree
      exact absurd hfree (by simp)
    · simpa using hx
  · have hfirst : ∀ b ∈ (Moment.came .handled :: rest).head?, b = .came .handled := by simp
    rw [hend]
    refine ⟨List.isChain_append.mpr ⟨sound.turns, ?_, fun a _ b hb _ => hfirst b hb⟩, ?_⟩
    · rcases hrest with rfl | ⟨x, rfl, -⟩
      · exact .singleton _
      · exact .cons_cons (by simp [Moment.EndsBefore, Moment.hand?]) (.singleton x)
    · rcases hrest with rfl | ⟨x, rfl, hh⟩
      · simp [Moment.hand?]
      · simp [hh]

/-- **What holds at every read** of a course, and at the one that a step may begin, holds at every
read after that step. -/
theorem at_reads_step {P : List Moment → Option Cursor → Prop}
    (h : t.step source config s = some u)
    (hold : ∀ before cursor after, t.past = before ++ .did (.read cursor) :: after →
      P before cursor)
    (hnew : t.loop.phase = .checking → t.loop.stopping = false →
      P (t.past ++ [.came .turn]) t.desk.cursor) :
    ∀ before cursor after, u.past = before ++ .did (.read cursor) :: after → P before cursor := by
  intro before cursor after hsplit
  obtain ⟨r, hr, -, -, hpast⟩ := step_cases h
  rw [hpast] at hsplit
  rcases List.append_eq_append_iff.mp hsplit with ⟨more, rfl, hmore⟩ | ⟨old, hold', hmore⟩
  · cases more with
    | nil => simp at hmore
    | cons x more =>
      obtain ⟨rfl, hdeeds⟩ := List.cons.inj hmore
      have hmem : Deed.read cursor ∈ r.deeds := by
        have : Moment.did (.read cursor) ∈ r.deeds.map .did := by simp [hdeeds]
        simpa using this
      obtain ⟨rfl, rfl, hphase, hgoing, hread⟩ := hr.reads hmem
      obtain rfl : more = [] := by
        rw [hread] at hdeeds
        cases more with
        | nil => rfl
        | cons y more => simp at hdeeds
      exact hnew hphase hgoing
  · cases old with
    | nil => simp at hmore
    | cons x old =>
      obtain ⟨rfl, -⟩ := List.cons.inj hmore
      exact hold before cursor old hold'

/-- A turn brings no answer. -/
theorem returned_turn (stopping : t.loop.stopping = halted t.past) :
    returned (t.past ++ [.came .turn]) = returned t.past := by
  simpa [PollLoop.accepts] using returned_step stopping .turn []

/-- A read that a step begins comes after all that was returned has been handed over. -/
theorem Sound.read_begins (sound : t.Sound start) (hphase : t.loop.phase = .checking)
    (hgoing : t.loop.stopping = false) :
    halted (t.past ++ [.came .turn]) = false
      ∧ t.desk.cursor = Answer.position start (returned (t.past ++ [.came .turn]))
      ∧ ChatFeed.handed (t.past ++ [.came .turn])
        = (returned (t.past ++ [.came .turn])).flatMap Answer.events := by
  have hcursor := sound.cursor
  have hhanded := sound.handed
  rw [hphase] at hcursor hhanded
  refine ⟨?_, ?_, ?_⟩
  · simpa [Moment.isHalt, ← sound.stopping, hgoing] using halted_step t.past .turn []
  · rw [returned_turn sound.stopping, ← hcursor]
    rfl
  · rw [returned_turn sound.stopping, ← hhanded, handed_append]
    rfl

/-- **Every step keeps a course sound**, as long as the handler returns. -/
theorem Sound.step (sound : t.Sound start) (calm : ∀ words, s ≠ .panic words)
    (h : t.step source config s = some u) : u.Sound start := by
  obtain ⟨r, hr, hdesk, hloop, hpast⟩ := step_cases h
  have hreturned : returned u.past = returned t.past ++ t.loop.accepts s := by
    rw [hpast, returned_step sound.stopping]
  have hhanded : ChatFeed.handed u.past
      = ChatFeed.handed t.past ++ ChatFeed.handed (r.deeds.map .did) := by
    rw [hpast, handed_append]
    rfl
  have hturns : u.past.filter Moment.isTurnover
      = t.past.filter Moment.isTurnover ++ PollLoop.turns s r := by
    rw [hpast, List.filter_append, PollLoop.turns]
  refine ⟨?_, ?_, ?_, ?_, ?_, ?_⟩
  · rw [hloop, hr.stopping_eq, sound.stopping, hpast, halted_step]
  · rw [hhanded, hloop, List.append_assoc, hr.hand_over calm, ← List.append_assoc, sound.handed,
      hreturned, List.flatMap_append]
  · rw [hloop, hdesk, hr.moves calm, sound.cursor, foldl_after, hreturned]
  · rw [hturns]
    exact (sound.turns_step hr calm).1
  · rw [hturns, hloop]
    exact (sound.turns_step hr calm).2
  · exact at_reads_step (P := fun before cursor => halted before = false
      ∧ cursor = Answer.position start (returned before)
      ∧ ChatFeed.handed before = (returned before).flatMap Answer.events) h sound.reads
      sound.read_begins

/-- **A course stays sound** under signals among which no handler panics. -/
theorem Sound.run {signals : List Signal} (sound : t.Sound start)
    (calm : ∀ words, Signal.panic words ∉ signals) (h : t.run source config signals = some u) :
    u.Sound start := by
  refine foldlM_keeps (P := Sound start) ?_ sound h
  intro s hs v w hv hw
  have hcalm : ∀ words, s ≠ .panic words := by
    rintro words rfl
    exact calm words hs
  exact hv.step hcalm hw

/-- **A loop hands over whole batches in order and reads on from where they lead**, whatever the
feed answers and whenever it is asked to stop, as long as the handler returns.

* What was handed over, with what is left of the batch in hand, is what the answers brought.
* A handler call ends before the next call or read begins.
* A read begins only before the stop request, sends the position after the answers so far, and finds
  all of their events handed over.
* A loop that is over leaves no batch cut and no call open, and the next one reads on from there. -/
theorem hands_over_whole_batches {start : Option Cursor} {state : PollState}
    {signals : List Signal} {t : Course} (calm : ∀ words, Signal.panic words ∉ signals)
    (h : ({ desk := ⟨start, state⟩ } : Course).run source config signals = some t) :
    ChatFeed.handed t.past ++ t.loop.phase.left = (returned t.past).flatMap Answer.events
      ∧ (t.past.filter Moment.isTurnover).IsChain Moment.EndsBefore
      ∧ (∀ before cursor after, t.past = before ++ .did (.read cursor) :: after →
        halted before = false ∧ cursor = Answer.position start (returned before)
          ∧ ChatFeed.handed before = (returned before).flatMap Answer.events)
      ∧ (t.loop.isOver = true →
        ChatFeed.handed t.past = (returned t.past).flatMap Answer.events
          ∧ (∀ x ∈ (t.past.filter Moment.isTurnover).getLast?, x.hand? = none)
          ∧ t.desk.cursor = Answer.position start (returned t.past)
          ∧ ∃ u, ({ desk := t.desk } : Course).run source config [.turn, .turn] = some u
            ∧ u.past.getLast? = some (.did (.read t.desk.cursor))) := by
  have sound : t.Sound start := (sound_begin ⟨start, state⟩).run calm h
  refine ⟨sound.handed, sound.turns, sound.reads, fun hover => ?_⟩
  obtain ⟨hnil, hnone, hfree⟩ := PollLoop.idle_of_isOver hover
  refine ⟨?_, fun x hx => ?_, ?_, ?_⟩
  · simpa [hnil] using sound.handed
  · have hcall := sound.calling x hx
    rw [hfree] at hcall
    simpa using hcall
  · simpa [hnone] using sound.cursor
  · exact ⟨_, rfl, rfl⟩

/-- A stop request that comes within the first of two handler calls: the batch is handed over whole,
nothing is read after it, and the cursor moves behind it. -/
theorem hands_over_whole_batches_stopped_within :
    let signals : List Signal := [.turn, .turn,
      .answer (.ok ⟨[.other "a", .other "b"], some ⟨"1"⟩⟩), .halt, .handled, .handled, .turn]
    ∃ t, ({ desk := ⟨none, .stopped⟩ } : Course).run "feed" .standard signals = some t
      ∧ ChatFeed.handed t.past = [.other "a", .other "b"] ∧ t.desk.cursor = some ⟨"1"⟩ := by
  intro signals
  have calm : ∀ words, Signal.panic words ∉ signals := by simp [signals]
  obtain ⟨-, -, -, hover⟩ := hands_over_whole_batches calm rfl
  obtain ⟨hhanded, -, hcursor, -⟩ := hover rfl
  exact ⟨_, rfl, hhanded, hcursor⟩

end Course

end ChatFeed
