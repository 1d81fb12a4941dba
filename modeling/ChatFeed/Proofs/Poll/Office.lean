import ChatFeed.Poll.Poller
import ChatFeed.Proofs.Poll.Course

/-!
# Proofs/Poll/Office — starting and stopping from many sides at once

An `Office` is a poller together with the loops that it does not remember: those that stop calls
took out of it, and those that callers run on their own.  Its history is any list of errands: a
start, the two ends of a stop, a run, a signal to a loop.  A stop lets go of its loop at once and
ends when the loop is over; what happens in between is the matter of this file.

* `Office.exclusive_iff_patient` — there is never more than one live loop, and a start is refused
  while there is one, exactly when no start comes while a stop is still waiting for its loop, nor
  anything beside a run.
* `Office.start_during_stop` — a start that does come then is let in, and two handlers run at once.
-/

namespace ChatFeed

/-- **What happens around a poller**: a call to start; a stop call letting go of the loop that is
remembered, and its end; a call to run a loop that is not remembered; a signal to a loop, the
request to stop among them. -/
inductive Errand
  | start
  | take
  | conclude (i : Nat)
  | spawn
  | signal (i : Nat) (s : Signal)

/-- **A poller, and the loops that it does not remember**: stop calls took them, or callers run
them. -/
structure Office where
  poller : Poller := {}
  loose : List Nat := []

/-- Whether a loop is at a read or at a batch. -/
def PollLoop.IsBusy (l : PollLoop) : Prop := l.phase = .reading ∨ l.phase.isHanding = true

namespace Poller

variable {source : String} {config : PollConfig} {p q : Poller} {i j : Nat} {s : Signal}
  {deeds : List Deed}

/-- Whether a loop is going. -/
def IsLive (p : Poller) (i : Nat) : Prop := p.isOver i = false

/-- Whether the loop of a number is at a read or at a batch. -/
def IsBusy (p : Poller) (i : Nat) : Prop := ∃ l, p.loop? i = some l ∧ l.IsBusy

/-- **At most one loop is going.** -/
def Single (p : Poller) : Prop := ∀ i j, p.IsLive i → p.IsLive j → i = j

theorem isLive_iff : p.IsLive i ↔ ∃ l, p.loop? i = some l ∧ l.isOver = false := by
  unfold IsLive isOver
  cases p.loop? i with
  | none => simp
  | some l => simp

theorem IsBusy.isLive (h : p.IsBusy i) : p.IsLive i := by
  obtain ⟨l, hl, hbusy⟩ := h
  refine isLive_iff.mpr ⟨l, hl, ?_⟩
  unfold PollLoop.IsBusy at hbusy
  unfold PollLoop.isOver
  cases hp : l.phase <;> simp_all [Phase.isHanding]

theorem IsLive.lt (h : p.IsLive i) : i < p.loops.length := by
  obtain ⟨l, hl, -⟩ := isLive_iff.mp h
  exact (List.getElem?_eq_some_iff.mp hl).1

/-- Which loops are going depends on the loops alone. -/
theorem isLive_congr (h : q.loops = p.loops) (i : Nat) : q.IsLive i ↔ p.IsLive i := by
  rw [isLive_iff, isLive_iff, loop?, loop?, h]

/-- A new loop is going, -/
theorem isLive_new (h : q.loops = p.loops ++ [({} : PollLoop)]) : q.IsLive p.loops.length :=
  isLive_iff.mpr ⟨{}, by simp [loop?, h], rfl⟩

/-- and the others are going as before. -/
theorem IsLive.of_new (h : q.loops = p.loops ++ [({} : PollLoop)]) (hlive : q.IsLive i) :
    p.IsLive i ∨ i = p.loops.length := by
  have hlt := hlive.lt
  rw [h, List.length_append, List.length_singleton] at hlt
  rcases Nat.lt_succ_iff_lt_or_eq.mp hlt with hlt | rfl
  · refine .inl (isLive_iff.mpr ?_)
    rwa [isLive_iff, loop?, h, List.getElem?_append_left hlt] at hlive
  · exact .inr rfl

theorem loop?_new (h : q.loops = p.loops ++ [({} : PollLoop)]) {l : PollLoop}
    (hl : q.loop? i = some l) : p.loop? i = some l ∨ l = {} := by
  rw [loop?, h, List.getElem?_append] at hl
  split at hl
  · exact .inl hl
  · have hmem : l ∈ [({} : PollLoop)] := List.mem_of_getElem? hl
    exact .inr (List.mem_singleton.mp hmem)

/-- A loop that comes to life when all others are over is the only one. -/
theorem single_of_new (h : q.loops = p.loops ++ [({} : PollLoop)]) (hover : ∀ i, ¬ p.IsLive i) :
    q.Single := by
  intro i j hi hj
  have hnew : ∀ k, q.IsLive k → k = p.loops.length := fun k hk =>
    (hk.of_new h).resolve_left (hover k)
  rw [hnew i hi, hnew j hj]

/-- Next to the one loop that is going all others are over. -/
theorem Single.isOver (single : p.Single) {m : PollLoop} (hlive : p.IsLive i)
    (hm : p.loop? j = some m) (hj : j ≠ i) : m.isOver = true := by
  by_contra hover
  have hother : p.IsLive j := isLive_iff.mpr ⟨m, hm, by simpa using hover⟩
  exact hj (single j i hother hlive)

/-- Where fewer loops are going, there is still one at most. -/
theorem Single.mono (single : p.Single) (h : ∀ i, q.IsLive i → p.IsLive i) : q.Single :=
  fun i j hi hj => single i j (h i hi) (h j hj)

/-- A loop that is over answers nothing but the request to stop, and stays over. -/
theorem isOver_of_reaction {d : Desk} {l : PollLoop} {r : LoopStep}
    (h : PollLoop.Reaction source config d l s r) (hover : l.isOver = true) :
    r.loop.isOver = true ∧ r.desk = d ∧ r.deeds = [] := by
  cases h with
  | halt => exact ⟨hover, rfl, rfl⟩
  | heed heeds stopping =>
    cases hp : l.phase <;> cases s <;> simp_all [Phase.heeds, PollLoop.isOver]
  | _ => simp_all [PollLoop.isOver]

/-- A signal reaches one loop, as a reaction. -/
theorem signal_cases (h : p.signal source config i s = some (q, deeds)) :
    ∃ l r, p.loop? i = some l ∧ PollLoop.Reaction source config p.desk l s r
      ∧ q = { p with desk := r.desk, loops := p.loops.set i r.loop } ∧ deeds = r.deeds := by
  obtain ⟨l, hl, h⟩ := Option.bind_eq_some_iff.mp h
  obtain ⟨r, hr, h⟩ := Option.bind_eq_some_iff.mp h
  obtain ⟨rfl, rfl⟩ := Prod.mk.inj (Option.some.inj h)
  exact ⟨l, r, hl, PollLoop.react_iff.mp hr, rfl, rfl⟩

/-- **A signal makes no loop live that was not.** -/
theorem IsLive.of_signal (h : p.signal source config i s = some (q, deeds)) (hlive : q.IsLive j) :
    p.IsLive j := by
  obtain ⟨l, r, hl, hr, rfl, -⟩ := signal_cases h
  obtain ⟨m, hm, hmlive⟩ := isLive_iff.mp hlive
  have hm : (p.loops.set i r.loop)[j]? = some m := hm
  by_cases hij : i = j
  · subst hij
    have hlt : i < p.loops.length := (List.getElem?_eq_some_iff.mp hl).1
    rw [List.getElem?_set_self hlt] at hm
    obtain rfl := Option.some.inj hm
    refine isLive_iff.mpr ⟨l, hl, ?_⟩
    by_contra hover
    have hstill : r.loop.isOver = true := (isOver_of_reaction hr (by simpa using hover)).1
    simp [hstill] at hmlive
  · rw [List.getElem?_set_ne hij] at hm
    exact isLive_iff.mpr ⟨m, hm, hmlive⟩

/-- A start is let in when the remembered loop is over; the new loop gets the next number. -/
theorem start_cases (p : Poller) :
    (p.start = (some .alreadyRunning, p) ∧ ∃ i, p.slot = some i ∧ p.IsLive i)
      ∨ (p.start = (none, { p with loops := p.loops ++ [{}], slot := some p.loops.length })
        ∧ ∀ i, p.slot = some i → ¬ p.IsLive i) := by
  unfold start
  cases hslot : p.slot with
  | none => exact .inr ⟨by simp [spawn], by simp⟩
  | some i =>
    cases hover : p.isOver i with
    | true => exact .inr ⟨by simp [hover, spawn], by simp [IsLive, hover]⟩
    | false => exact .inl ⟨by simp [hover], i, rfl, hover⟩

/-- The end of a stop changes at most the state that is shown. -/
theorem conclude_eq (p : Poller) (i : Nat) :
    ∃ state, (p.conclude i).2 = { p with desk := { p.desk with state := state } } := by
  unfold conclude
  split
  · exact ⟨_, rfl⟩
  · split <;> exact ⟨_, rfl⟩

end Poller

namespace Office

variable (source : String) (config : PollConfig)

/-- **An errand is run**; none if it does not come to pass: a stop ends only when its loop is over,
a signal comes only to a loop that answers it. -/
def step (o : Office) : Errand → Option Office
  | .start => some { o with poller := o.poller.start.2 }
  | .take =>
    match o.poller.take with
    | (.error _, p) => some { o with poller := p }
    | (.ok i, p) => some ⟨p, o.loose ++ [i]⟩
  | .conclude i =>
    if o.poller.isOver i then some { o with poller := (o.poller.conclude i).2 } else none
  | .spawn => some ⟨o.poller.spawn.2, o.loose ++ [o.poller.spawn.1]⟩
  | .signal i s => do
    let (p, _) ← o.poller.signal source config i s
    some { o with poller := p }

/-- **A history**: errands one after the other, whoever runs them. -/
def run (history : List Errand) (o : Office) : Option Office :=
  history.foldlM (step source config) o

/-- **No start is ever made while a stop still waits for the loop that it took**, nor beside a run,
and no run beside any loop. -/
def Patient (history : List Errand) : Prop :=
  (∀ before after o, history = before ++ .start :: after →
      run source config before {} = some o → ∀ i ∈ o.loose, ¬ o.poller.IsLive i)
    ∧ ∀ before after o, history = before ++ .spawn :: after →
      run source config before {} = some o → ∀ i, ¬ o.poller.IsLive i

/-- **At every moment at most one loop is live, and a start is refused while there is one.** -/
def Exclusive (history : List Errand) : Prop :=
  (∀ before after o, history = before ++ after →
      run source config before {} = some o → o.poller.Single)
    ∧ ∀ before after o, history = before ++ .start :: after →
      run source config before {} = some o → (∃ i, o.poller.IsLive i) →
        o.poller.start.1 = some .alreadyRunning

variable {source config} {o q : Office} {e : Errand} {history before after : List Errand}

/-- The last errand of a history. -/
theorem run_concat :
    run source config (history ++ [e]) o = some q
      ↔ ∃ p, run source config history o = some p ∧ p.step source config e = some q :=
  foldlM_concat

/-- A stop lets go of the loop that is remembered, if there is one. -/
theorem step_take (o : Office) : o.step source config .take
    = some ⟨{ o.poller with slot := none }, o.loose ++ o.poller.slot.toList⟩ := by
  obtain ⟨⟨desk, loops, slot⟩, loose⟩ := o
  cases slot with
  | none => simp [step, Poller.take]
  | some i => rfl

/-- **What an errand does.** -/
theorem step_cases (h : o.step source config e = some q) :
    (e = .start ∧ q = ⟨o.poller.start.2, o.loose⟩)
      ∨ (e = .take ∧ q = ⟨{ o.poller with slot := none }, o.loose ++ o.poller.slot.toList⟩)
      ∨ (e = .spawn ∧ q = ⟨o.poller.spawn.2, o.loose ++ [o.poller.loops.length]⟩)
      ∨ (∃ i state, e = .conclude i
        ∧ q = ⟨{ o.poller with desk := { o.poller.desk with state := state } }, o.loose⟩)
      ∨ ∃ i s p deeds, e = .signal i s ∧ o.poller.signal source config i s = some (p, deeds)
        ∧ q = ⟨p, o.loose⟩ := by
  cases e with
  | start =>
    obtain rfl := Option.some.inj h
    exact .inl ⟨rfl, rfl⟩
  | take =>
    rw [step_take] at h
    obtain rfl := Option.some.inj h
    exact .inr (.inl ⟨rfl, rfl⟩)
  | spawn =>
    obtain rfl := Option.some.inj h
    exact .inr (.inr (.inl ⟨rfl, rfl⟩))
  | conclude i =>
    obtain ⟨state, hstate⟩ := o.poller.conclude_eq i
    simp only [step] at h
    split at h
    · obtain rfl := Option.some.inj h
      exact .inr (.inr (.inr (.inl ⟨i, state, rfl, by rw [hstate]⟩)))
    · simp at h
  | signal i s =>
    obtain ⟨⟨p, deeds⟩, hp, hq⟩ := Option.bind_eq_some_iff.mp h
    obtain rfl := Option.some.inj hq
    exact .inr (.inr (.inr (.inr ⟨i, s, p, deeds, rfl, hp, rfl⟩)))

/-- **Which errands bring a loop to life**: a start that is let in and a run; a stop makes the loop
that was remembered loose. -/
theorem step_lives (h : o.step source config e = some q) :
    (e = .start ∧ q.loose = o.loose ∧ q.poller = o.poller.start.2)
      ∨ (e = .take ∧ q.poller.loops = o.poller.loops ∧ q.poller.slot = none
        ∧ q.loose = o.loose ++ o.poller.slot.toList)
      ∨ (e = .spawn ∧ q.poller = o.poller.spawn.2 ∧ q.loose = o.loose ++ [o.poller.loops.length])
      ∨ (q.loose = o.loose ∧ q.poller.slot = o.poller.slot
        ∧ q.poller.loops.length = o.poller.loops.length
        ∧ ∀ i, q.poller.IsLive i → o.poller.IsLive i) := by
  rcases step_cases h with ⟨he, rfl⟩ | ⟨he, rfl⟩ | ⟨he, rfl⟩ | ⟨i, state, -, rfl⟩
    | ⟨i, s, p, deeds, -, hp, rfl⟩
  · exact .inl ⟨he, rfl, rfl⟩
  · exact .inr (.inl ⟨he, rfl, rfl, rfl⟩)
  · exact .inr (.inr (.inl ⟨he, rfl, rfl⟩))
  · exact .inr (.inr (.inr ⟨rfl, rfl, rfl, fun j => (Poller.isLive_congr rfl j).mp⟩))
  · obtain ⟨l, r, -, -, hq, -⟩ := Poller.signal_cases hp
    refine .inr (.inr (.inr ⟨rfl, by rw [hq], by simp [hq], fun j hj => hj.of_signal hp⟩))

/-- **Only signals move the cursor and the loops**; anything else adds a new loop at most. -/
theorem step_quiet (quiet : ∀ i s, e ≠ .signal i s) (h : o.step source config e = some q) :
    q.poller.desk.cursor = o.poller.desk.cursor
      ∧ ∀ i l, q.poller.loop? i = some l → o.poller.loop? i = some l ∨ l = {} := by
  rcases step_cases h with ⟨-, rfl⟩ | ⟨-, rfl⟩ | ⟨-, rfl⟩ | ⟨i, state, -, rfl⟩
    | ⟨i, s, p, deeds, rfl, -, -⟩
  · rcases o.poller.start_cases with ⟨hrefused, -⟩ | ⟨hstarted, -⟩
    · rw [hrefused]
      exact ⟨rfl, fun i l hl => .inl hl⟩
    · rw [hstarted]
      exact ⟨rfl, fun i l hl => Poller.loop?_new rfl hl⟩
  · exact ⟨rfl, fun i l hl => .inl hl⟩
  · exact ⟨rfl, fun i l hl => Poller.loop?_new rfl hl⟩
  · exact ⟨rfl, fun j l hl => .inl hl⟩
  · exact absurd rfl (quiet i s)

/-- **Who a live loop belongs to**: the poller remembers it, or it is loose; never both. -/
structure Kept (o : Office) : Prop where
  owned : ∀ i, o.poller.IsLive i → o.poller.slot = some i ∨ i ∈ o.loose
  apart : ∀ i, o.poller.slot = some i → i ∉ o.loose
  slot_lt : ∀ i, o.poller.slot = some i → i < o.poller.loops.length
  loose_lt : ∀ i ∈ o.loose, i < o.poller.loops.length

/-- What brings no loop to life and remembers and loosens none leaves the books as they are. -/
theorem Kept.of_same (kept : o.Kept) (hloose : q.loose = o.loose)
    (hslot : q.poller.slot = o.poller.slot)
    (hlength : q.poller.loops.length = o.poller.loops.length)
    (hlive : ∀ i, q.poller.IsLive i → o.poller.IsLive i) : q.Kept where
  owned := by
    intro i hi
    rw [hslot, hloose]
    exact kept.owned i (hlive i hi)
  apart := by
    intro i hi
    rw [hloose]
    exact kept.apart i (hslot ▸ hi)
  slot_lt := by
    intro i hi
    rw [hlength]
    exact kept.slot_lt i (hslot ▸ hi)
  loose_lt := by
    intro i hi
    rw [hlength]
    exact kept.loose_lt i (hloose ▸ hi)

/-- A start that is let in remembers the new loop; the one before it was over. -/
theorem Kept.start (kept : o.Kept) (hover : ∀ i, o.poller.slot = some i → ¬ o.poller.IsLive i)
    (hloops : q.poller.loops = o.poller.loops ++ [({} : PollLoop)])
    (hslot : q.poller.slot = some o.poller.loops.length) (hloose : q.loose = o.loose) :
    q.Kept where
  owned := by
    intro i hi
    rcases hi.of_new hloops with hold | rfl
    · have hmem : i ∈ o.loose := (kept.owned i hold).resolve_left fun hs => hover i hs hold
      exact .inr (hloose ▸ hmem)
    · exact .inl hslot
  apart := by
    intro i hi hmem
    obtain rfl := Option.some.inj (hslot.symm.trans hi)
    rw [hloose] at hmem
    exact Nat.lt_irrefl _ (kept.loose_lt _ hmem)
  slot_lt := by
    intro i hi
    obtain rfl := Option.some.inj (hslot.symm.trans hi)
    simp [hloops]
  loose_lt := by
    intro i hi
    have hlt := kept.loose_lt i (hloose ▸ hi)
    rw [hloops, List.length_append]
    omega

/-- A stop makes the loop loose that was remembered. -/
theorem Kept.take (kept : o.Kept) (hloops : q.poller.loops = o.poller.loops)
    (hslot : q.poller.slot = none) (hloose : q.loose = o.loose ++ o.poller.slot.toList) :
    q.Kept where
  owned := by
    intro i hi
    have hold : o.poller.IsLive i := (Poller.isLive_congr hloops i).mp hi
    rw [hloose, List.mem_append, Option.mem_toList]
    exact .inr (kept.owned i hold).symm
  apart := by simp [hslot]
  slot_lt := by simp [hslot]
  loose_lt := by
    intro i hi
    rw [hloose, List.mem_append, Option.mem_toList] at hi
    rw [hloops]
    exact hi.elim (kept.loose_lt i) (kept.slot_lt i)

/-- A loop that is run on its own is loose from its start. -/
theorem Kept.spawn (kept : o.Kept)
    (hloops : q.poller.loops = o.poller.loops ++ [({} : PollLoop)])
    (hslot : q.poller.slot = o.poller.slot)
    (hloose : q.loose = o.loose ++ [o.poller.loops.length]) : q.Kept where
  owned := by
    intro i hi
    rw [hslot, hloose, List.mem_append, List.mem_singleton]
    rcases hi.of_new hloops with hold | rfl
    · exact (kept.owned i hold).imp_right .inl
    · exact .inr (.inr rfl)
  apart := by
    intro i hi
    rw [hslot] at hi
    rw [hloose, List.mem_append, List.mem_singleton]
    rintro (hmem | rfl)
    · exact kept.apart i hi hmem
    · exact Nat.lt_irrefl _ (kept.slot_lt _ hi)
  slot_lt := by
    intro i hi
    have hlt := kept.slot_lt i (hslot ▸ hi)
    rw [hloops, List.length_append]
    omega
  loose_lt := by
    intro i hi
    rw [hloose, List.mem_append, List.mem_singleton] at hi
    rw [hloops, List.length_append, List.length_singleton]
    rcases hi with hi | rfl
    · have hlt := kept.loose_lt i hi
      omega
    · omega

/-- **Every errand keeps it known who a live loop belongs to.** -/
theorem Kept.step (kept : o.Kept) (h : o.step source config e = some q) : q.Kept := by
  rcases step_lives h with ⟨-, hloose, hpoller⟩ | ⟨-, hloops, hslot, hloose⟩
    | ⟨-, hpoller, hloose⟩ | ⟨hloose, hslot, hlength, hlive⟩
  · rcases o.poller.start_cases with ⟨hrefused, -⟩ | ⟨hstarted, hover⟩
    · have hsame : q.poller = o.poller := hpoller.trans (congrArg Prod.snd hrefused)
      exact kept.of_same hloose (by rw [hsame]) (by rw [hsame]) fun i hi => hsame ▸ hi
    · rw [hstarted] at hpoller
      exact kept.start hover (by rw [hpoller]) (by rw [hpoller]) hloose
  · exact kept.take hloops hslot hloose
  · exact kept.spawn (by rw [hpoller]; rfl) (by rw [hpoller]; rfl) hloose
  · exact kept.of_same hloose hslot hlength hlive

/-- **Along every history it is known** who a live loop belongs to. -/
theorem Kept.run (kept : o.Kept) (h : run source config history o = some q) : q.Kept :=
  foldlM_keeps (P := Kept) (fun _ _ _ _ hkept hstep => hkept.step hstep) kept h

/-- Nobody has used the poller yet. -/
theorem kept_begin : Kept {} where
  owned := fun i hi => absurd hi.lt (by simp)
  apart := by simp
  slot_lt := by simp
  loose_lt := by simp

/-- **A patient history keeps one loop live at most**, at every moment of it. -/
theorem Patient.single (patient : Patient source config history)
    (split : history = before ++ after) (h : run source config before {} = some o) :
    o.poller.Single := by
  induction before using List.reverseRecOn generalizing after o with
  | nil =>
    obtain rfl := Option.some.inj h
    exact fun i j hi hj => absurd hi.lt (by simp)
  | append_singleton before e ih =>
    obtain ⟨p, hp, he⟩ := run_concat.mp h
    have hsplit : history = before ++ e :: after := by simp [split]
    have hsingle : p.poller.Single := ih hsplit hp
    rcases step_lives he with ⟨rfl, -, hpoller⟩ | ⟨-, hloops, -, -⟩ | ⟨rfl, hpoller, -⟩
      | ⟨-, -, -, hlive⟩
    · rcases p.poller.start_cases with ⟨hrefused, -⟩ | ⟨hstarted, hover⟩
      · rw [hpoller, hrefused]
        exact hsingle
      · -- the remembered loop is over, and by patience no loose one is live
        refine Poller.single_of_new (p := p.poller) (by rw [hpoller, hstarted]) fun i hi => ?_
        rcases (kept_begin.run hp).owned i hi with hslot | hloose
        · exact hover i hslot hi
        · exact patient.1 before after p hsplit hp i hloose hi
    · exact hsingle.mono fun i => (Poller.isLive_congr hloops i).mp
    · exact Poller.single_of_new (p := p.poller) (by rw [hpoller]; rfl)
        (patient.2 before after p hsplit hp)
    · exact hsingle.mono hlive

/-- **In a patient history a start is refused** while a loop is live. -/
theorem Patient.refuses (patient : Patient source config history)
    (split : history = before ++ .start :: after) (h : run source config before {} = some o)
    (live : ∃ i, o.poller.IsLive i) : o.poller.start.1 = some .alreadyRunning := by
  obtain ⟨i, hi⟩ := live
  rcases o.poller.start_cases with ⟨hrefused, -⟩ | ⟨-, hover⟩
  · rw [hrefused]
  · rcases (kept_begin.run h).owned i hi with hslot | hloose
    · exact absurd hi (hover i hslot)
    · exact absurd hi (patient.1 before after o split h i hloose)

/-- Where at most one loop is ever live, **no start comes while a stop waits**: the start would be
refused for the sake of the remembered loop, which would be live beside the loose one. -/
theorem Exclusive.not_isLive_of_loose (exclusive : Exclusive source config history)
    (split : history = before ++ .start :: after) (h : run source config before {} = some o)
    {i : Nat} (hi : i ∈ o.loose) : ¬ o.poller.IsLive i := by
  intro hlive
  rcases o.poller.start_cases with ⟨-, j, hslot, hj⟩ | ⟨hstarted, -⟩
  · obtain rfl := exclusive.1 before _ o split h i j hlive hj
    exact (kept_begin.run h).apart i hslot hi
  · have hrefused := exclusive.2 before after o split h ⟨i, hlive⟩
    rw [hstarted] at hrefused
    simp at hrefused

/-- Where at most one loop is ever live, **none is run beside another**: both would be live one
errand later. -/
theorem Exclusive.not_isLive_of_spawn (exclusive : Exclusive source config history)
    (split : history = before ++ .spawn :: after) (h : run source config before {} = some o)
    (i : Nat) : ¬ o.poller.IsLive i := by
  intro hlive
  have hnext : run source config (before ++ [.spawn]) {}
      = some ⟨o.poller.spawn.2, o.loose ++ [o.poller.spawn.1]⟩ := run_concat.mpr ⟨o, h, rfl⟩
  have hold : o.poller.spawn.2.IsLive i := by
    rw [Poller.isLive_iff, Poller.loop?, Poller.spawn, List.getElem?_append_left hlive.lt]
    exact Poller.isLive_iff.mp hlive
  have hsame : i = o.poller.loops.length :=
    exclusive.1 (before ++ [.spawn]) after _ (by simp [split]) hnext i _ hold
      (Poller.isLive_new rfl)
  exact absurd hlive.lt (by omega)

/-- **The one live loop of a poller and its starts.**  At most one loop is ever live, and every
start is refused while one is, exactly when no start comes while a stop still waits for the loop it
took (nor beside a run, nor a run beside a loop); and then no two loops are ever at a read or at a
batch together. -/
theorem exclusive_iff_patient (history : List Errand) :
    (Exclusive source config history ↔ Patient source config history)
      ∧ (Patient source config history → ∀ before after o, history = before ++ after →
        run source config before {} = some o →
          ∀ i j, o.poller.IsBusy i → o.poller.IsBusy j → i = j) := by
  refine ⟨⟨fun exclusive => ⟨?_, ?_⟩, fun patient => ⟨?_, ?_⟩⟩, fun patient => ?_⟩
  · intro before after o split h i hi
    exact exclusive.not_isLive_of_loose split h hi
  · intro before after o split h i
    exact exclusive.not_isLive_of_spawn split h i
  · intro before after o split h
    exact patient.single split h
  · intro before after o split h live
    exact patient.refuses split h live
  · intro before after o split h i j hi hj
    exact patient.single split h i j hi.isLive hj.isLive

/-- **A start in the middle of a stop is let in**: the loop that the stop has taken is still at a
handler call, the new one reads on and calls the handler as well. -/
theorem start_during_stop :
    let batch : Signal := .answer (.ok ⟨[.other "a"], some ⟨"1"⟩⟩)
    let history : List Errand := [.start, .signal 0 .turn, .signal 0 .turn, .signal 0 batch, .take,
      .signal 0 .halt, .start, .signal 1 .turn, .signal 1 .turn, .signal 1 batch]
    ¬ Exclusive "feed" .standard history
      ∧ ∃ o, run "feed" .standard history {} = some o
        ∧ (o.poller.loop? 0).any (·.phase.isHanding)
        ∧ (o.poller.loop? 1).any (·.phase.isHanding) := by
  intro batch history
  refine ⟨fun exclusive => ?_, _, rfl, rfl, rfl⟩
  have hsingle := exclusive.1 history [] _ (by simp) rfl
  exact absurd (hsingle 0 1 rfl rfl) (by decide)

end Office

end ChatFeed
