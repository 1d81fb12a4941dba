import ChatFeed.Proofs.Poll.Bulletin
import ChatFeed.Proofs.Poll.Office

/-!
# Proofs/Poll/Booth — one call after the other, and what is shown of the loop

A `Booth` is a poller whose calls come one after the other: while a stop waits for the loop that it
has taken, nobody starts or stops anything.  Two places say how the last loop fares, the published
state and the gauge of polling, and two write them, the loop at its end and the stop after a panic.

* `Booth.shows_end_iff_calm` — when no stop is under way and nothing is remembered, the state is
  right; the gauge is right at all times exactly when no handler panics.
* `Booth.gauge_after_panic` — the stop after a panic mends the state and leaves the gauge at one.
-/

namespace ChatFeed

namespace Deed

/-- What is noted. -/
def remark? : Deed → Option Remark
  | .remark r => some r
  | _ => none

end Deed

/-- **What some deeds note**, in order. -/
def noted (deeds : List Deed) : Journal := deeds.filterMap Deed.remark?

theorem noted_append (deeds more : List Deed) : noted (deeds ++ more) = noted deeds ++ noted more :=
  List.filterMap_append

namespace Phase

/-- **What the gauge of polling shows** of a loop: nothing before it begins, one from then on, zero
when it has come to its end by itself. -/
def gauge? : Phase → Option Nat
  | .starting => none
  | .finished _ => some 0
  | _ => some 1

/-- **What the state should be** when a loop is over. -/
def verdict? : Phase → Option PollState
  | .finished error => some (closing error)
  | .crashed words => some (.failed (Poller.crashReason words))
  | _ => none

theorem gauge?_of_isWorking {phase : Phase} (h : phase.isWorking = true) :
    phase.gauge? = some 1 := by
  cases phase <;> simp [isWorking] at h <;> rfl

end Phase

/-- **A step shows how the loop fares**: the gauge goes with the phase, and so does the state at an
end. -/
structure LoopStep.Shows (phase : Phase) (r : LoopStep) : Prop where
  gauge : ((noted r.deeds).last? .polling).or phase.gauge? = r.loop.phase.gauge?
  state : ∀ error, r.loop.phase = .finished error → r.desk.state = closing error

namespace PollLoop

variable {source : String} {c : PollConfig} {d : Desk} {l : PollLoop} {s : Signal} {r : LoopStep}

theorem shows_finish (phase : Phase) (error : Option PollError) :
    (finish d l error).Shows phase where
  gauge := by cases error <;> rfl
  state := by
    intro e he
    cases error <;> obtain rfl := Phase.finished.inj he <;> rfl

/-- A step of a loop that has begun and goes on leaves the gauge alone. -/
theorem shows_of_going {phase : Phase} (hsilent : (noted r.deeds).last? .polling = none)
    (hphase : phase.gauge? = some 1) (hgoing : r.loop.phase.gauge? = some 1) : r.Shows phase where
  gauge := by rw [hsilent, Option.none_or, hphase, hgoing]
  state := fun error he => by simp [he, Phase.gauge?] at hgoing

theorem noted_handNext (events : List Event) (next : Option Cursor) :
    noted (handNext d l events next).deeds = [] := by
  cases events <;> cases next <;> rfl

/-- A report says nothing of polling. -/
theorem noted_report (b : Batch) : (noted (report l b)).last? .polling = none := by
  have hrecovery : (noted (recovery l.streak)).last? .polling = none := by
    unfold recovery
    split <;> rfl
  have hbatch : (noted ((Remark.batch b.events.length).map .remark)).last? .polling = none := by
    unfold Remark.batch
    split <;> rfl
  rw [report, noted_append, Journal.last?_append, hrecovery, hbatch]
  rfl

theorem shows_handNext (events : List Event) (next : Option Cursor) {phase : Phase}
    (hphase : phase.gauge? = some 1) : (handNext d l events next).Shows phase := by
  refine shows_of_going ?_ hphase (Phase.gauge?_of_isWorking (handNext_works _ _).2.2)
  rw [noted_handNext]
  rfl

theorem shows_onBatch (b : Batch) {phase : Phase} (hphase : phase.gauge? = some 1) :
    (onBatch d l b).Shows phase := by
  refine shows_of_going ?_ hphase (Phase.gauge?_of_isWorking (onBatch_works b).2.2)
  rw [onBatch_deeds, noted_append, noted_handNext, List.append_nil, noted_report]

theorem shows_onTransient (e : ReadError) {phase : Phase} (hphase : phase.gauge? = some 1) :
    (onTransient c d l e).Shows phase := by
  unfold onTransient
  cases l.streak.failAsked c.retry e.retryAfter? with
  | mk delay streak =>
    cases delay with
    | none => exact ⟨rfl, (shows_finish phase _).state⟩
    | some delay => exact shows_of_going rfl hphase rfl

/-- **Every answer of a loop shows how it fares.** -/
theorem Reaction.shows (h : Reaction source c d l s r) (hlive : l.isOver = false) :
    r.Shows l.phase := by
  cases h with
  | halt =>
    refine ⟨rfl, fun error he => ?_⟩
    simp [isOver, show l.phase = .finished error from he] at hlive
  | begin phase => exact ⟨rfl, fun error he => by simp [PollLoop.begin] at he⟩
  | read phase going => exact shows_of_going rfl (by rw [phase]; rfl) rfl
  | heed heeds stopping => exact shows_finish _ _
  | @answer result phase going =>
    have hphase : l.phase.gauge? = some 1 := by rw [phase]; rfl
    cases result with
    | ok b => exact shows_onBatch b hphase
    | error e =>
      cases e with
      | staleCursor rejected => exact shows_of_going rfl hphase rfl
      | fatal message => exact shows_finish (d := d) (l := l) _ (some (.fatal (.fatal message)))
      | transient message asked => exact shows_onTransient _ hphase
  | handled phase => exact shows_handNext _ _ (by rw [phase]; rfl)
  | panic phase => exact shows_of_going rfl (by rw [phase]; rfl) rfl
  | rested phase going => exact shows_of_going rfl (by rw [phase]; rfl) rfl

/-- A loop that is over only takes note of a request to stop. -/
theorem Reaction.eq_of_isOver (h : Reaction source c d l s r) (hover : l.isOver = true) :
    r = ⟨d, { l with stopping := true }, []⟩ := by
  cases h with
  | halt => rfl
  | heed heeds stopping =>
    cases hp : l.phase <;> cases s <;> simp_all [Phase.heeds, isOver]
  | _ => simp_all [isOver]

/-- No answer makes a loop panic, -/
theorem onAnswer_ne_crashed (result : Answer) (words : Option String) :
    (onAnswer c d l result).loop.phase ≠ .crashed words := by
  cases result with
  | ok b =>
    intro hcrash
    have hworks := (onBatch_works (d := d) (l := l) b).2.2
    rw [show (onBatch d l b).loop.phase = .crashed words from hcrash] at hworks
    simp [Phase.isWorking] at hworks
  | error e =>
    cases e with
    | transient message asked =>
      change (onTransient c d l _).loop.phase ≠ .crashed words
      unfold onTransient
      cases l.streak.failAsked c.retry _ with
      | mk delay streak => cases delay <;> simp [finish]
    | fatal message => simp [onAnswer, finish]
    | staleCursor rejected => simp [onAnswer, onStale]

/-- and nothing else but its handler does. -/
theorem Reaction.crash (h : Reaction source c d l s r) {words : Option String}
    (hcrash : r.loop.phase = .crashed words) :
    l.phase = .crashed words ∨ (s = .panic words ∧ l.phase.verdict? = none) := by
  cases h with
  | halt => exact .inl hcrash
  | panic phase =>
    obtain rfl := Phase.crashed.inj hcrash
    exact .inr ⟨rfl, by rw [phase]; rfl⟩
  | answer phase going => exact absurd hcrash (onAnswer_ne_crashed _ _)
  | @handled e rest next phase =>
    have hworks := (handNext_works (d := d) (l := l) rest next).2.2
    rw [hcrash] at hworks
    simp [Phase.isWorking] at hworks
  | begin phase => simp [PollLoop.begin] at hcrash
  | read phase going => simp [PollLoop.read] at hcrash
  | heed heeds stopping => simp [finish] at hcrash
  | rested phase going => simp at hcrash

end PollLoop

namespace Poller

variable {p : Poller} {i : Nat} {l : PollLoop}

/-- The stop of a loop that has come to its end by itself tells that end, and changes nothing. -/
theorem conclude_of_finished {error : Option PollError} (hl : p.loop? i = some l)
    (hp : l.phase = .finished error) : p.conclude i = (error, p) := by
  simp [conclude, hl, hp]

/-- The stop of a loop whose handler has panicked publishes that. -/
theorem conclude_of_crashed {words : Option String} (hl : p.loop? i = some l)
    (hp : l.phase = .crashed words) : p.conclude i = (some (.crashed (crashReason words)),
      { p with desk := { p.desk with state := .failed (crashReason words) } }) := by
  simp [conclude, hl, hp]

end Poller

/-! ## One call after the other -/

/-- **A poller whose calls come one after the other**, with the loop that a stop is waiting for and
all that has been noted. -/
structure Booth where
  poller : Poller := {}
  awaited : Option Nat := none
  journal : Journal := []

namespace Booth

variable (source : String) (config : PollConfig)

/-- **An errand is run**; none if it does not come to pass: no call begins while a stop is waiting,
and that one ends only when its loop is over. -/
def step (b : Booth) : Errand → Option Booth
  | .start => if b.awaited = none then some { b with poller := b.poller.start.2 } else none
  | .take =>
    if b.awaited = none then
      match b.poller.take with
      | (.error _, p) => some { b with poller := p }
      | (.ok i, p) => some { b with poller := p, awaited := some i }
    else none
  | .conclude i =>
    if b.awaited = some i ∧ b.poller.isOver i then
      some { b with poller := (b.poller.conclude i).2, awaited := none }
    else none
  | .spawn => none
  | .signal i s => do
    let (p, deeds) ← b.poller.signal source config i s
    some { b with poller := p, journal := b.journal ++ noted deeds }

/-- **A history**: errands one after the other. -/
def run (history : List Errand) (b : Booth) : Option Booth :=
  history.foldlM (step source config) b

/-- Whether every stop has returned and nothing has been started since. -/
def AtRest (b : Booth) : Prop := b.poller.slot = none ∧ b.awaited = none

/-- **Whether the gauge is right**: zero at rest, after any loop, and one only while a loop is
live. -/
def Gauges (b : Booth) : Prop :=
  (b.AtRest → b.poller.loops ≠ [] → b.journal.last? .polling = some 0)
    ∧ (b.journal.last? .polling = some 1 → ∃ i, b.poller.IsLive i)

variable {source config} {b q : Booth} {e : Errand} {history : List Errand}

/-- **What an errand does.** -/
theorem step_cases (h : b.step source config e = some q) :
    (e = .start ∧ b.awaited = none ∧ q = { b with poller := b.poller.start.2 })
      ∨ (e = .take ∧ b.awaited = none
        ∧ q = { b with poller := { b.poller with slot := none }, awaited := b.poller.slot })
      ∨ (∃ i, e = .conclude i ∧ b.awaited = some i ∧ b.poller.isOver i = true
        ∧ q = { b with poller := (b.poller.conclude i).2, awaited := none })
      ∨ ∃ i s l r, e = .signal i s ∧ b.poller.loop? i = some l
        ∧ PollLoop.Reaction source config b.poller.desk l s r
        ∧ q = ⟨{ b.poller with desk := r.desk, loops := b.poller.loops.set i r.loop }, b.awaited,
          b.journal ++ noted r.deeds⟩ := by
  cases e with
  | start =>
    obtain ⟨hfree, hq⟩ := Option.ite_none_right_eq_some.mp h
    exact .inl ⟨rfl, hfree, (Option.some.inj hq).symm⟩
  | take =>
    obtain ⟨hfree, hq⟩ := Option.ite_none_right_eq_some.mp h
    refine .inr (.inl ⟨rfl, hfree, ?_⟩)
    obtain ⟨⟨desk, loops, slot⟩, awaited, journal⟩ := b
    obtain rfl : awaited = none := hfree
    cases slot with
    | none => exact (Option.some.inj hq).symm
    | some i => exact (Option.some.inj hq).symm
  | conclude i =>
    obtain ⟨⟨hawaited, hover⟩, hq⟩ := Option.ite_none_right_eq_some.mp h
    exact .inr (.inr (.inl ⟨i, rfl, hawaited, hover, (Option.some.inj hq).symm⟩))
  | spawn => simp [step] at h
  | signal i s =>
    obtain ⟨⟨p, deeds⟩, hp, hq⟩ := Option.bind_eq_some_iff.mp h
    obtain ⟨l, r, hl, hr, rfl, rfl⟩ := Poller.signal_cases hp
    exact .inr (.inr (.inr ⟨i, s, l, r, rfl, hl, hr, (Option.some.inj hq).symm⟩))

/-- The phases of all loops that the poller ever had. -/
def phases (b : Booth) : List Phase := b.poller.loops.map PollLoop.phase

/-- **What holds at every moment** of a booth. -/
structure Sound (b : Booth) : Prop where
  /-- Only the last loop may be going. -/
  going : ∀ i phase, b.phases[i]? = some phase → phase.verdict? = none → i + 1 = b.phases.length
  /-- The loop that is remembered or awaited is the last one. -/
  known : ∀ i, b.poller.slot = some i ∨ b.awaited = some i → i + 1 = b.phases.length
  /-- The gauge is that of the last loop that has begun. -/
  gauge : b.journal.last? .polling = (b.phases.filterMap Phase.gauge?).getLast?
  /-- The state tells the end that a loop has come to by itself. -/
  state : ∀ error, b.phases.getLast? = some (.finished error) →
    b.poller.desk.state = closing error
  /-- At rest it tells any end. -/
  rest : b.AtRest → ∀ phase, b.phases.getLast? = some phase →
    phase.verdict? = some b.poller.desk.state

theorem sound_begin : Sound {} where
  going := by simp [phases]
  known := by simp
  gauge := rfl
  state := by simp [phases]
  rest := by simp [phases]

/-- Going is being live. -/
theorem isLive_iff {i : Nat} :
    b.poller.IsLive i ↔ ∃ phase, b.phases[i]? = some phase ∧ phase.verdict? = none := by
  rw [Poller.isLive_iff, phases, Poller.loop?]
  simp only [List.getElem?_map, Option.map_eq_some_iff, exists_exists_and_eq_and]
  refine exists_congr fun l => and_congr_right fun _ => ?_
  unfold PollLoop.isOver
  cases l.phase <;> simp [Phase.verdict?]

/-- **A start that is let in finds all loops over.** -/
theorem Sound.over_of_start (sound : b.Sound) (hfree : b.awaited = none)
    (hover : ∀ i, b.poller.slot = some i → ¬ b.poller.IsLive i) {i : Nat} {phase : Phase}
    (hphase : b.phases[i]? = some phase) : phase.verdict? ≠ none := by
  intro hgoing
  have hlast := sound.going i phase hphase hgoing
  cases hslot : b.poller.slot with
  | some j =>
    have hsame : j = i := by
      have hknown := sound.known j (.inl hslot)
      omega
    exact hover j hslot (isLive_iff.mpr ⟨phase, hsame ▸ hphase, hgoing⟩)
  | none =>
    have hrest := sound.rest ⟨hslot, hfree⟩ phase
      (by rw [List.getLast?_eq_getElem?, ← hlast]; exact hphase)
    rw [hgoing] at hrest
    simp at hrest

/-- Of the loops that have begun the last one is shown. -/
theorem gauge?_concat (before : List Phase) (phase : Phase) :
    ((before ++ [phase]).filterMap Phase.gauge?).getLast?
      = phase.gauge?.or (before.filterMap Phase.gauge?).getLast? := by
  rw [List.filterMap_append]
  cases h : phase.gauge? <;> simp [h]

/-- A new loop is the last one, and nothing is shown of it yet. -/
theorem Sound.start (sound : b.Sound) (hfree : b.awaited = none)
    (hover : ∀ i, b.poller.slot = some i → ¬ b.poller.IsLive i)
    (hphases : q.phases = b.phases ++ [.starting]) (hslot : q.poller.slot = some b.phases.length)
    (hawaited : q.awaited = none) (hjournal : q.journal = b.journal) : q.Sound where
  going := by
    intro i phase hphase hgoing
    rw [hphases] at hphase ⊢
    rw [List.length_append, List.length_singleton]
    rcases Nat.lt_trichotomy i b.phases.length with hlt | heq | hgt
    · rw [List.getElem?_append_left hlt] at hphase
      exact absurd hgoing (sound.over_of_start hfree hover hphase)
    · omega
    · rw [List.getElem?_eq_none (by simp; omega)] at hphase
      simp at hphase
  known := by
    intro i hi
    rw [hslot, hawaited] at hi
    obtain rfl : b.phases.length = i := by simpa using hi
    simp [hphases]
  gauge := by
    rw [hphases, hjournal, sound.gauge, gauge?_concat]
    rfl
  state := by simp [hphases]
  rest := fun hrest => by simp [AtRest, hslot] at hrest

/-- What leaves the loops, the state and the gauge as they are, and does not come to rest, changes
nothing. -/
theorem Sound.of_same (sound : b.Sound) (hphases : q.phases = b.phases)
    (hknown : ∀ i, q.poller.slot = some i ∨ q.awaited = some i →
      b.poller.slot = some i ∨ b.awaited = some i)
    (hjournal : q.journal = b.journal) (hstate : q.poller.desk.state = b.poller.desk.state)
    (hrest : q.AtRest → b.AtRest) : q.Sound where
  going := by
    rw [hphases]
    exact sound.going
  known := by
    intro i hi
    rw [hphases]
    exact sound.known i (hknown i hi)
  gauge := by rw [hjournal, hphases, sound.gauge]
  state := by
    rw [hphases, hstate]
    exact sound.state
  rest := by
    rw [hphases, hstate]
    exact fun h => sound.rest (hrest h)

/-- **A stop that returns leaves the state right**: that of the loop at its end, or its own after a
panic. -/
theorem Sound.conclude (sound : b.Sound) {i : Nat} (hawaited : b.awaited = some i)
    (hover : b.poller.isOver i = true) :
    Sound { b with poller := (b.poller.conclude i).2, awaited := none } := by
  obtain ⟨state, hstate⟩ := b.poller.conclude_eq i
  have hlast := sound.known i (.inr hawaited)
  have hsome : i < b.poller.loops.length := by
    rw [phases, List.length_map] at hlast
    omega
  obtain ⟨l, hl⟩ : ∃ l, b.poller.loop? i = some l := ⟨_, List.getElem?_eq_getElem hsome⟩
  have hphase : b.phases.getLast? = some l.phase := by
    have hmap : b.phases[i]? = some l.phase := by
      rw [phases, List.getElem?_map]
      exact congrArg (Option.map PollLoop.phase) hl
    rw [List.getLast?_eq_getElem?, ← hlast]
    exact hmap
  have hverdict : l.phase.verdict? = some (b.poller.conclude i).2.desk.state := by
    cases hp : l.phase with
    | finished error =>
      rw [Poller.conclude_of_finished hl hp, sound.state error (hp ▸ hphase)]
      rfl
    | crashed words =>
      rw [Poller.conclude_of_crashed hl hp]
      rfl
    | _ => simp [Poller.isOver, hl, PollLoop.isOver, hp] at hover
  have hphases : phases { b with poller := (b.poller.conclude i).2, awaited := none }
      = b.phases := by rw [phases, hstate, phases]
  refine ⟨?_, ?_, ?_, ?_, ?_⟩
  all_goals rw [hphases]
  · exact sound.going
  · intro j hj
    rw [hstate] at hj
    exact sound.known j (.inl (by simpa using hj))
  · exact sound.gauge
  · intro error herror
    rw [hphase] at herror
    rw [Option.some.inj herror] at hverdict
    exact (Option.some.inj hverdict).symm
  · intro _ phase hlastphase
    obtain rfl := Option.some.inj (hphase.symm.trans hlastphase)
    exact hverdict

/-- The last of a list, and what it becomes when it is replaced. -/
theorem exists_concat_of_last {α : Type} {xs : List α} {i : Nat} {x : α} (h : xs[i]? = some x)
    (hlast : i + 1 = xs.length) :
    ∃ before, xs = before ++ [x] ∧ ∀ y, xs.set i y = before ++ [y] := by
  rcases List.eq_nil_or_concat xs with rfl | ⟨before, z, rfl⟩
  · simp at h
  · rw [List.concat_eq_append] at h hlast ⊢
    obtain rfl : i = before.length := by simpa using hlast
    obtain rfl : z = x := by simpa using h
    exact ⟨before, rfl, fun y => by simp⟩

/-- What comes to the last loop while it is going shows how it fares then. -/
theorem Sound.of_reaction (sound : b.Sound) {before : List Phase} {phase : Phase} {r : LoopStep}
    (hphases : b.phases = before ++ [phase]) (hgoing : phase.verdict? = none)
    (hphases' : q.phases = before ++ [r.loop.phase]) (shows : r.Shows phase)
    (hdesk : q.poller.desk = r.desk) (hslot : q.poller.slot = b.poller.slot)
    (hawaited : q.awaited = b.awaited) (hjournal : q.journal = b.journal ++ noted r.deeds) :
    q.Sound where
  going := by
    intro i other hother hlive
    have hold := sound.going i
    simp only [hphases, hphases', List.length_append, List.length_singleton] at hold hother ⊢
    rcases Nat.lt_or_ge i before.length with hlt | hge
    · rw [List.getElem?_append_left hlt] at hold hother
      exact hold other hother hlive
    · have hlt := (List.getElem?_eq_some_iff.mp hother).1
      simp only [List.length_append, List.length_singleton] at hlt
      omega
  known := by
    intro i hi
    rw [hslot, hawaited] at hi
    have hlast := sound.known i hi
    rw [hphases] at hlast
    rw [hphases']
    simpa using hlast
  gauge := by
    rw [hphases', hjournal, Journal.last?_append, sound.gauge, hphases, gauge?_concat,
      gauge?_concat, ← Option.or_assoc, shows.gauge]
  state := by
    intro error hlast
    rw [hphases', List.getLast?_concat] at hlast
    rw [hdesk]
    exact shows.state error (Option.some.inj hlast)
  rest := by
    intro hrest other _
    have hatrest : b.AtRest := ⟨hslot ▸ hrest.1, hawaited ▸ hrest.2⟩
    have hverdict := sound.rest hatrest phase (by rw [hphases, List.getLast?_concat])
    simp [hgoing] at hverdict

/-- **A signal to a loop keeps a booth sound.** -/
theorem Sound.signal (sound : b.Sound) {i : Nat} {s : Signal} {l : PollLoop} {r : LoopStep}
    (hl : b.poller.loop? i = some l)
    (hr : PollLoop.Reaction source config b.poller.desk l s r) :
    Sound ⟨{ b.poller with desk := r.desk, loops := b.poller.loops.set i r.loop }, b.awaited,
      b.journal ++ noted r.deeds⟩ := by
  have hphase : b.phases[i]? = some l.phase := by
    rw [phases, List.getElem?_map]
    exact congrArg (Option.map PollLoop.phase) hl
  cases hover : l.isOver with
  | true =>
    obtain rfl := hr.eq_of_isOver hover
    refine sound.of_same ?_ (fun _ h => h) (List.append_nil _) rfl fun h => h
    obtain ⟨hlt, hsame⟩ := List.getElem?_eq_some_iff.mp hphase
    calc (b.poller.loops.set i { l with stopping := true }).map PollLoop.phase
        = b.phases.set i l.phase := List.map_set
      _ = b.phases := by rw [← hsame, List.set_getElem_self]
  | false =>
    have hgoing : l.phase.verdict? = none := by
      cases hp : l.phase <;> simp [PollLoop.isOver, hp] at hover <;> rfl
    obtain ⟨before, hphases, hset⟩ :=
      exists_concat_of_last hphase (sound.going i l.phase hphase hgoing)
    have hphases' : (b.poller.loops.set i r.loop).map PollLoop.phase = before ++ [r.loop.phase] :=
      List.map_set.trans (hset r.loop.phase)
    exact sound.of_reaction hphases hgoing hphases' (hr.shows hover) rfl rfl rfl rfl

/-- **Every errand keeps a booth sound.** -/
theorem Sound.step (sound : b.Sound) (h : b.step source config e = some q) : q.Sound := by
  rcases step_cases h with ⟨-, hfree, rfl⟩ | ⟨-, hfree, rfl⟩ | ⟨i, -, hawaited, hover, rfl⟩
    | ⟨i, s, l, r, -, hl, hr, rfl⟩
  · rcases b.poller.start_cases with ⟨hrefused, -⟩ | ⟨hstarted, hover⟩
    · rw [hrefused]
      exact sound
    · rw [hstarted]
      exact sound.start hfree hover (by simp [phases]) (by simp [phases]) hfree rfl
  · refine sound.of_same rfl (fun i hi => ?_) rfl rfl fun hrest => ?_
    · exact hi.elim (fun h => by simp at h) .inl
    · exact ⟨hrest.2, hfree⟩
  · exact sound.conclude hawaited hover
  · exact sound.signal hl hr

theorem Sound.run (sound : b.Sound) (h : b.run source config history = some q) : q.Sound :=
  foldlM_keeps (P := Sound) (fun _ _ _ _ hsound hstep => hsound.step hstep) sound h

/-- **Whether no handler has panicked.** -/
def Calm (b : Booth) : Prop := ∀ words, .crashed words ∉ b.phases

/-- A booth stays calm as long as no handler panics. -/
theorem Calm.step (calm : b.Calm) (hcalm : ∀ i words, e ≠ .signal i (.panic words))
    (h : b.step source config e = some q) : q.Calm := by
  rcases step_cases h with ⟨-, -, rfl⟩ | ⟨-, -, rfl⟩ | ⟨i, -, -, -, rfl⟩
    | ⟨i, s, l, r, rfl, hl, hr, rfl⟩
  · rcases b.poller.start_cases with ⟨hrefused, -⟩ | ⟨hstarted, -⟩
    · rw [hrefused]
      exact calm
    · rw [hstarted]
      intro words hmem
      exact calm words (by simpa [phases] using hmem)
  · exact calm
  · obtain ⟨state, hstate⟩ := b.poller.conclude_eq i
    rw [hstate]
    exact calm
  · intro words hmem
    obtain ⟨m, hm, hcrash⟩ := List.mem_map.mp hmem
    rcases List.mem_or_eq_of_mem_set hm with hold | rfl
    · exact calm words (List.mem_map.mpr ⟨m, hold, hcrash⟩)
    · rcases hr.crash hcrash with hold | ⟨rfl, -⟩
      · exact calm words (List.mem_map.mpr ⟨l, List.mem_of_getElem? hl, hold⟩)
      · exact hcalm i words rfl

/-- What is left when every stop has returned shows zero, unless its handler has panicked. -/
theorem Sound.gauge_at_rest (sound : b.Sound) (hrest : b.AtRest) {phase : Phase}
    (hlast : b.phases.getLast? = some phase) :
    b.journal.last? .polling = some 0 ↔ ∀ words, phase ≠ .crashed words := by
  obtain ⟨before, hphases⟩ := List.getLast?_eq_some_iff.mp hlast
  have hverdict := sound.rest hrest phase hlast
  rw [sound.gauge, hphases, gauge?_concat]
  cases phase <;> simp [Phase.verdict?, Phase.gauge?] at hverdict ⊢

/-- **Where no handler has panicked the gauge is right.** -/
theorem Sound.gauges (sound : b.Sound) (calm : b.Calm) : b.Gauges := by
  refine ⟨fun hrest hsome => ?_, fun hone => ?_⟩
  · have hne : b.phases ≠ [] := by simpa [phases] using hsome
    have hlast := List.getLast?_eq_some_getLast hne
    refine (sound.gauge_at_rest hrest hlast).mpr fun words hcrash => ?_
    exact calm words (hcrash ▸ List.getLast_mem hne)
  · rw [sound.gauge] at hone
    obtain ⟨phase, hmem, hphase⟩ := List.mem_filterMap.mp (List.mem_of_getLast? hone)
    obtain ⟨i, hi⟩ := List.mem_iff_getElem?.mp hmem
    refine ⟨i, isLive_iff.mpr ⟨phase, hi, ?_⟩⟩
    cases phase with
    | crashed words => exact absurd hmem (calm words)
    | finished error => simp [Phase.gauge?] at hphase
    | _ => rfl

/-- A panic leaves the last loop crashed. -/
theorem Sound.panics (sound : b.Sound) {i : Nat} {words : Option String}
    (h : b.step source config (.signal i (.panic words)) = some q) :
    q.phases.getLast? = some (.crashed words) := by
  rcases step_cases h with ⟨he, -⟩ | ⟨he, -⟩ | ⟨i, he, -⟩ | ⟨j, s, l, r, he, hl, hr, rfl⟩
  · simp at he
  · simp at he
  · simp at he
  · obtain ⟨rfl, rfl⟩ := Errand.signal.inj he
    have hphase : b.phases[i]? = some l.phase := by
      rw [phases, List.getElem?_map]
      exact congrArg (Option.map PollLoop.phase) hl
    cases hr with
    | panic handing =>
      obtain ⟨before, -, hset⟩ :=
        exists_concat_of_last hphase (sound.going i l.phase hphase (by rw [handing]; rfl))
      have hphases : (b.poller.loops.set i { l with phase := .crashed words }).map PollLoop.phase
          = before ++ [.crashed words] := List.map_set.trans (hset (.crashed words))
      exact (congrArg List.getLast? hphases).trans List.getLast?_concat
    | heed heeds stopping => simp [Phase.heeds] at heeds

/-- **After a panic the gauge shows one**, and no loop is live. -/
theorem Sound.not_gauges (sound : b.Sound) {words : Option String}
    (hlast : b.phases.getLast? = some (.crashed words)) : ¬ b.Gauges := by
  intro gauges
  obtain ⟨before, hphases⟩ := List.getLast?_eq_some_iff.mp hlast
  have hone : b.journal.last? .polling = some 1 := by
    rw [sound.gauge, hphases, gauge?_concat]
    rfl
  obtain ⟨i, hlive⟩ := gauges.2 hone
  obtain ⟨phase, hphase, hgoing⟩ := isLive_iff.mp hlive
  rw [List.getLast?_eq_getElem?, ← sound.going i phase hphase hgoing] at hlast
  obtain rfl := Option.some.inj (hphase.symm.trans hlast)
  simp [Phase.verdict?] at hgoing

/-- **The state tells how the last loop ended, and so does the gauge unless its handler panicked.**
Along every history of calls made one after another, for any feed and any handler:

* Once every stop has returned the last loop is over and the published state is right; the gauge is
  zero exactly if the loop came to its end by itself.
* The gauge is right at every moment, zero at rest and one only while a loop is live, exactly when
  no handler panics. -/
theorem shows_end_iff_calm {b : Booth} (h : ({} : Booth).run source config history = some b) :
    (b.AtRest → ∀ l, b.poller.loops.getLast? = some l →
        l.phase.verdict? = some b.poller.desk.state
          ∧ (b.journal.last? .polling = some 0 ↔ ∀ words, l.phase ≠ .crashed words))
      ∧ ((∀ before after q, history = before ++ after →
          ({} : Booth).run source config before = some q → q.Gauges)
        ↔ ∀ i words, .signal i (.panic words) ∉ history) := by
  have sound := sound_begin.run h
  refine ⟨fun hrest l hl => ?_, fun gauges i words hpanic => ?_,
    fun calm before after q split hq => ?_⟩
  · have hlast : b.phases.getLast? = some l.phase := by
      rw [phases, List.getLast?_map, hl]
      rfl
    exact ⟨sound.rest hrest l.phase hlast, sound.gauge_at_rest hrest hlast⟩
  · obtain ⟨before, after, rfl⟩ := List.append_of_mem hpanic
    obtain ⟨p, hp, hafter⟩ := foldlM_append.mp h
    obtain ⟨q, hq, -⟩ := Option.bind_eq_some_iff.mp hafter
    have hrun : ({} : Booth).run source config (before ++ [.signal i (.panic words)]) = some q :=
      foldlM_concat.mpr ⟨p, hp, hq⟩
    have hlast := (sound_begin.run hp).panics hq
    exact (sound_begin.run hrun).not_gauges hlast (gauges _ after q (by simp) hrun)
  · refine (sound_begin.run hq).gauges ?_
    refine foldlM_keeps (P := Calm) (fun e he p q hp hstep => hp.step ?_ hstep) ?_ hq
    · rintro i words rfl
      exact calm i words (split ▸ List.mem_append_left _ he)
    · simp [Calm, phases]

/-- A loop that is stopped while it reads: it has come to its end by itself, so that the state says
that polling has stopped, and the gauge is zero. -/
theorem shows_end_iff_calm_when_stopped :
    let history : List Errand := [.start, .signal 0 .turn, .signal 0 .turn, .take, .signal 0 .halt,
      .signal 0 .turn, .conclude 0]
    ∃ b, ({} : Booth).run "feed" .standard history = some b ∧ b.AtRest
      ∧ b.poller.desk.state = .stopped ∧ b.journal.last? .polling = some 0 := by
  intro history
  obtain ⟨b, hb, hrest, hlast⟩ : ∃ b, ({} : Booth).run "feed" .standard history = some b
      ∧ b.AtRest ∧ b.poller.loops.getLast? = some ⟨.finished none, {}, true⟩ :=
    ⟨_, rfl, ⟨rfl, rfl⟩, rfl⟩
  obtain ⟨hend, -⟩ := shows_end_iff_calm hb
  obtain ⟨hstate, hgauge⟩ := hend hrest _ hlast
  exact ⟨b, hb, hrest, (Option.some.inj hstate).symm, hgauge.mpr (by simp)⟩

/-- **A handler that panics leaves the gauge at one for good**: the stop that follows finds the loop
crashed and publishes that, but says nothing to the gauge, though no loop is live. -/
theorem gauge_after_panic :
    let batch : Signal := .answer (.ok ⟨[.other "a"], some ⟨"1"⟩⟩)
    let history : List Errand := [.start, .signal 0 .turn, .signal 0 .turn, .signal 0 batch,
      .signal 0 (.panic none), .take, .conclude 0]
    ∃ b, ({} : Booth).run "feed" .standard history = some b ∧ b.AtRest
      ∧ b.poller.desk.state = .failed "task N panicked"
      ∧ b.journal.last? .polling = some 1 ∧ ¬ b.Gauges := by
  intro batch history
  refine ⟨_, rfl, ⟨rfl, rfl⟩, rfl, rfl, fun gauges => ?_⟩
  have hzero := gauges.1 ⟨rfl, rfl⟩ (List.cons_ne_nil _ _)
  exact absurd hzero (by decide)

end Booth

end ChatFeed
