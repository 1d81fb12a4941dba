import ChatFeed.Proofs.Replay.Position
import ChatFeed.Proofs.Replay.Scribe
import Mathlib.Logic.Relation

/-!
# Proofs/Replay/Performance — playing a capture to its end

A playback moves on (`Playback.Moves`): its loop takes a step, time goes by, or the loop is asked to
stop, which may happen once the capture is drained.  At every moment the events before some position
have been dispatched, and no others (`Playback.Plays`): the cursor of the desk, the batch in hand
and what the loop waits for all fit that position.  What `Playback.play` does is to move on in this
way (`Playback.gets_play`).
-/

namespace ChatFeed

namespace Timeline

variable {ε : Type} {o : Outside ε} {t : Timeline ε} {l : PollLoop} {s : Signal} {r : LoopStep}

theorem doing_setDoing (t : Timeline ε) (i : Nat) (d : Doing) : (t.setDoing i d).doing i = d := by
  have hlt : i < (t.doings ++ List.replicate (i + 1 - t.doings.length) Doing.idle).length := by
    simp only [List.length_append, List.length_replicate]
    omega
  rw [doing, setDoing, List.getD, List.getElem?_set_self hlt]
  rfl

/-- **A signal to the only loop**: its reaction, seen, and what comes next. -/
theorem signal_of_reaction (hloops : t.poller.loops = [l])
    (hr : PollLoop.Reaction o.source o.config t.poller.desk l s r) :
    t.signal o 0 s = some (({ t with
      poller := { t.poller with desk := r.desk, loops := [r.loop] }
      outside := r.deeds.foldl (fun x d => o.witness t.now r.desk.state d x) t.outside } :
        Timeline ε).engage o 0 r.loop.phase) := by
  simp [signal, Poller.signal, Poller.loop?, hloops, hr.react_eq]

/-- A step of the only loop. -/
theorem step_zero (hloops : t.poller.loops = [l]) : t.step o 0
    = if l.stopping ∧ interruptible (t.doing 0) then t.signal o 0 .turn
      else if (t.doing 0).due?.all (· ≤ t.now) then t.proceed o 0 (t.doing 0) else none := by
  simp [step, Poller.loop?, hloops]

/-- A read whose answer is there at once. -/
theorem reach_now {cursor : Option Cursor} {result : Except ReadError Batch} {i : Nat}
    (h : o.ask cursor t.outside = (.now result, t.outside)) :
    t.reach o i cursor = t.signal o i (.answer result) := by
  rw [reach, h]

/-- A read whose answer takes a while. -/
theorem reach_later {cursor : Option Cursor} {wait : Span} {result : Except ReadError Batch}
    {x : ε} {i : Nat} (h : o.ask cursor t.outside = (.later wait result, x)) :
    t.reach o i cursor
      = some (({ t with outside := x } : Timeline ε).setDoing i
        (.awaiting result (t.after wait))) := by
  rw [reach, h]
  rfl

/-- Only that loop takes steps. -/
theorem eq_zero_of_step (hloops : t.poller.loops = [l]) {i : Nat} {u : Timeline ε}
    (h : t.step o i = some u) : i = 0 := by
  cases i with
  | zero => rfl
  | succ i => simp [step, Poller.loop?, hloops] at h

end Timeline

namespace Capture

variable {c : Capture} {cursor : Option Cursor} {max start n : Nat} {events : List Event}
  {next : Option Cursor}

/-- A batch is a part of the capture. -/
theorem batchAt_length_le (hstart : start ≤ c.size)
    (hbatch : c.batchAt start max = ⟨events, next⟩) :
    start + events.length ≤ c.size := by
  obtain ⟨stop, hstop, -, htake⟩ := take_append_batchAt hstart max
  have hlength := congrArg List.length htake
  rw [hbatch] at hlength
  simp only [List.length_append, List.length_take] at hlength
  change min start c.size + events.length = min stop c.size at hlength
  omega

/-- **An event of a batch is the event of the capture** at its position. -/
theorem getElem?_of_batchAt {done rest : List Event} {e : Event} (hstart : start ≤ c.size)
    (hbatch : c.batchAt start max = ⟨done ++ e :: rest, next⟩) :
    c.events[start + done.length]? = some e := by
  obtain ⟨stop, -, -, htake⟩ := take_append_batchAt hstart max
  rw [hbatch] at htake
  have hat := congrArg (fun es => es[start + done.length]?) htake
  have htook : (c.events.take start).length = start := List.length_take_of_le hstart
  rw [List.getElem?_append_right (by omega), htook, Nat.add_sub_cancel_left,
    List.getElem?_append_right (Nat.le_refl _), Nat.sub_self, List.getElem?_cons_zero,
    List.getElem?_take] at hat
  split at hat
  · exact hat.symm
  · cases hat

/-- **The cursor of a batch is the position behind it.** -/
theorem offset?_next_of_batchAt (hstart : start ≤ c.size)
    (hbatch : c.batchAt start max = ⟨events, next⟩) (countable : c.size ≤ Numeral.max64) :
    ∃ cursor, next = some cursor ∧ c.offset? (some cursor) = some (start + events.length) := by
  obtain ⟨stop, hstop, hnext, htake⟩ := take_append_batchAt hstart max
  have hlength := congrArg List.length htake
  rw [hbatch] at hnext hlength
  simp only [List.length_append, List.length_take] at hlength
  change min start c.size + events.length = min stop c.size at hlength
  obtain rfl : stop = start + events.length := by omega
  exact ⟨_, hnext, offset?_cursorAt_eq hstop countable⟩

end Capture

namespace Playback

/-! ## Moments of a playback -/

/-- **A playback moves on**: its loop takes a step, time goes by, or the loop is asked to stop, once
the capture is drained. -/
inductive Moves (o : Outside Playback) : Timeline Playback → Timeline Playback → Prop
  | step {t u : Timeline Playback} {i : Nat} (step : t.step o i = some u) : Moves o t u
  | pass {t : Timeline Playback} {now : Nat} (later : t.now ≤ now) :
      Moves o t { t with now := now }
  | stop {t : Timeline Playback} {p : Poller} {i : Nat} (drained : t.outside.drained = true)
      (letGo : t.poller.letGo = (.ok i, p)) : Moves o t { t with poller := p }

/-- **A playback has ended**: the capture is drained, and the poller, which was asked to stop, has
no loop that still goes. -/
structure Ended (t : Timeline Playback) : Prop where
  drained : t.outside.drained = true
  stopped : t.poller.slot = none
  done : ∀ i, t.poller.isOver i = true

/-- **What a loop waits for where `n` events have been dispatched**, given the cursor of the desk
and whether the capture is drained. -/
inductive Fits (c : Capture) (max now : Nat) (cursor : Option Cursor) (drained : Bool) :
    Nat → Phase → Doing → Prop
  | starting {n : Nat} (pos : c.offset? cursor = some n) (early : drained = false) :
      Fits c max now cursor drained n .starting .idle
  | checking {n : Nat} (pos : c.offset? cursor = some n) (all : drained = true → n = c.size) :
      Fits c max now cursor drained n .checking .idle
  | asking {n due : Nat} (pos : c.offset? cursor = some n) (all : drained = true → n = c.size)
      (soon : due ≤ now) : Fits c max now cursor drained n .reading (.asking cursor due)
  | awaiting {due : Nat} (pos : c.offset? cursor = some c.size) (late : drained = true) :
      Fits c max now cursor drained c.size .reading (.awaiting (.ok .empty) due)
  | handing {start due : Nat} {done rest : List Event} {e : Event} {next : Option Cursor}
      (pos : c.offset? cursor = some start) (early : drained = false)
      (batch : c.batchAt start max = ⟨done ++ e :: rest, next⟩) (soon : due ≤ now) :
      Fits c max now cursor drained (start + done.length + 1) (.handing e rest next)
        (.handling e due)
  | finished {n : Nat} (all : drained = true → n = c.size) :
      Fits c max now cursor drained n (.finished none) .idle

/-- **A playback at a moment**: it has one loop, `n` events have been dispatched, which have brought
the world where it should be, and the loop waits for what comes next. -/
structure Plays (c : Capture) (max : Nat) (P : Nat → World → Prop) (t : Timeline Playback)
    (n : Nat) (l : PollLoop) : Prop where
  loops : t.poller.loops = [l]
  slot : t.poller.slot = if l.stopping then none else some 0
  capture : t.outside.capture = c
  world : P n t.outside.world
  fits : Fits c max t.now t.poller.desk.cursor t.outside.drained n l.phase (t.doing 0)
  stopping : l.stopping = true → t.outside.drained = true
  ending : l.isOver = true → l.stopping = true

/-- **What is true of the world after each number of events**: a line of the journal is no matter,
and the next event that is dispatched makes it true of the next number. -/
structure Follows (k : Company) (c : Capture) (P : Nat → World → Prop) : Prop where
  remark : ∀ {n w} r, P n w → P n { w with journal := w.journal ++ [r] }
  dispatch : ∀ {n e w}, c.events[n]? = some e → P n w →
    (k.dispatch e).EndsIn w fun _ v => P (n + 1) v

variable {k : Company} {config : PollConfig} {c : Capture} {P : Nat → World → Prop}
  {t u : Timeline Playback} {n : Nat} {l : PollLoop} {s : Signal} {r : LoopStep}

/-- What is seen of deeds is remarks alone. -/
theorem foldl_witness (follows : Follows k c P) (now : Nat) (state : PollState)
    (deeds : List Deed) {p : Playback} (world : P n p.world) :
    let q := deeds.foldl (fun x d => (outside k config).witness now state d x) p
    q.capture = p.capture ∧ q.drained = p.drained ∧ P n q.world := by
  induction deeds generalizing p with
  | nil => exact ⟨rfl, rfl, world⟩
  | cons d deeds ih =>
    cases d with
    | remark r => exact ih (follows.remark r world)
    | _ => exact ih world

/-- **Where a reaction leads to**, before what comes next is begun. -/
inductive Enters (c : Capture) (max n : Nat) (cursor : Option Cursor) (drained : Bool) :
    Nat → Phase → Prop
  | checking (pos : c.offset? cursor = some n) (all : drained = true → n = c.size) :
      Enters c max n cursor drained n .checking
  | reading (pos : c.offset? cursor = some n) (all : drained = true → n = c.size) :
      Enters c max n cursor drained n .reading
  | handing {start : Nat} {done rest : List Event} {e : Event} {next : Option Cursor}
      (pos : c.offset? cursor = some start) (early : drained = false)
      (batch : c.batchAt start max = ⟨done ++ e :: rest, next⟩) (hn : n = start + done.length) :
      Enters c max n cursor drained (n + 1) (.handing e rest next)
  | finished (all : drained = true → n = c.size) :
      Enters c max n cursor drained n (.finished none)

/-- **A reaction leads from moment to moment**: its deeds are seen, and what comes next is begun. -/
theorem Plays.signal (h : Plays c config.batch P t n l) (follows : Follows k c P)
    (hr : PollLoop.Reaction source config t.poller.desk l s r)
    (hstopping : r.loop.stopping = l.stopping) {n' : Nat}
    (enters : Enters c config.batch n r.desk.cursor t.outside.drained n' r.loop.phase)
    (hover : r.loop.isOver = true → l.stopping = true) :
    ∃ u, t.signal (outside k config) 0 s = some u ∧ Plays c config.batch P u n' r.loop
      ∧ u.outside.drained = t.outside.drained := by
  let q : Playback :=
    r.deeds.foldl (fun x d => (outside k config).witness t.now r.desk.state d x) t.outside
  obtain ⟨hcapture, hdrained, hworld⟩ : q.capture = t.outside.capture
      ∧ q.drained = t.outside.drained ∧ P n q.world := foldl_witness follows _ _ _ h.world
  let p : Poller := { t.poller with desk := r.desk, loops := [r.loop] }
  have hsoon : t.now + (Span.ofNanos 0).millisUp ≤ t.now := Nat.le_refl _
  have hplays : ∀ (q : Playback) d, q.capture = t.outside.capture →
      q.drained = t.outside.drained → P n' q.world →
      Fits c config.batch t.now r.desk.cursor q.drained n' r.loop.phase d →
      Plays c config.batch P (({ t with poller := p, outside := q } : Timeline Playback).setDoing
        0 d) n' r.loop ∧ q.drained = t.outside.drained := by
    intro q d hcapture hdrained hworld hfits
    refine ⟨⟨rfl, ?_, hcapture.trans h.capture, hworld, ?_, ?_, ?_⟩, hdrained⟩
    · rw [hstopping]
      exact h.slot
    · rw [Timeline.doing_setDoing]
      exact hfits
    · rw [hstopping]
      exact fun hs => hdrained.trans (h.stopping hs)
    · rw [hstopping]
      exact hover
  refine ⟨_, Timeline.signal_of_reaction (o := outside k config) h.loops hr, ?_⟩
  generalize hphase : r.loop.phase = phase at enters hplays
  cases enters with
  | checking pos all =>
    exact hplays q .idle hcapture hdrained hworld (.checking pos (hdrained ▸ all))
  | reading pos all =>
    exact hplays q (.asking _ _) hcapture hdrained hworld (.asking pos (hdrained ▸ all) hsoon)
  | finished all => exact hplays q .idle hcapture hdrained hworld (.finished (hdrained ▸ all))
  | @handing start done rest e next pos early batch hn =>
    subst hn
    obtain ⟨⟨⟩, w, hrun, hw⟩ := follows.dispatch
      (Capture.getElem?_of_batchAt (Capture.offset?_le pos) batch) hworld
    have hreceive : q.receive k e = { q with world := w } := by rw [receive, hrun]
    have hnext := hplays (q.receive k e) (.handling e (t.now + (Span.ofNanos 0).millisUp))
    rw [hreceive] at hnext
    obtain ⟨hgoes, hkept⟩ := hnext hcapture hdrained hw
      (.handing pos (hdrained.trans early) batch hsoon)
    rw [← hreceive] at hgoes hkept
    exact ⟨hgoes, hkept⟩

/-! ## One step -/

/-- How far a phase is from a read. -/
def nearness : Phase → Nat
  | .starting => 3
  | .checking => 2
  | .reading => 1
  | .handing _ _ _ => 3
  | _ => 0

/-- **How much is still to be done**, until the capture is drained and until the loop is over. -/
def toDo (c : Capture) (n : Nat) (l : PollLoop) (drained : Bool) : Nat :=
  (if l.stopping then 0 else 4 * c.size + 4) + (if drained then 0 else 1)
    + (4 * (c.size - n) + nearness l.phase)

/-- **A playback advances**: it is at another moment, and unless it only waits for the stop there is
less to be done. -/
def Advances (c : Capture) (max : Nat) (P : Nat → World → Prop) (t : Timeline Playback) (n : Nat)
    (l : PollLoop) (u : Timeline Playback) : Prop :=
  ∃ n' l', Plays c max P u n' l' ∧ l'.stopping = l.stopping
    ∧ (l.stopping = true ∨ t.outside.drained = false →
      toDo c n' l' u.outside.drained < toDo c n l t.outside.drained)

theorem Fits.all {max now : Nat} {cursor : Option Cursor} {drained : Bool} {phase : Phase}
    {doing : Doing} (h : Fits c max now cursor drained n phase doing) (late : drained = true) :
    n = c.size := by
  cases h with
  | starting pos early => simp [late] at early
  | checking pos all => exact all late
  | asking pos all soon => exact all late
  | awaiting pos late => rfl
  | handing pos early batch soon => simp [late] at early
  | finished all => exact all late

/-- A signal whose reaction comes nearer to the end makes a playback advance. -/
theorem Plays.signal_advances (h : Plays c config.batch P t n l) (follows : Follows k c P)
    (hr : PollLoop.Reaction source config t.poller.desk l s r)
    (hstopping : r.loop.stopping = l.stopping) {n' : Nat}
    (enters : Enters c config.batch n r.desk.cursor t.outside.drained n' r.loop.phase)
    (hover : r.loop.isOver = true → l.stopping = true)
    (nearer : l.stopping = true ∨ t.outside.drained = false →
      4 * (c.size - n') + nearness r.loop.phase < 4 * (c.size - n) + nearness l.phase) :
    ∃ u, t.signal (outside k config) 0 s = some u ∧ Advances c config.batch P t n l u := by
  obtain ⟨u, hu, hplays, hdrained⟩ := h.signal follows hr hstopping enters hover
  refine ⟨u, hu, n', r.loop, hplays, hstopping, fun hbusy => ?_⟩
  have hless := nearer hbusy
  rw [toDo, toDo, hstopping, hdrained]
  omega

/-- **A loop that heeds the stop request** comes to its end. -/
theorem Plays.heeds (h : Plays c config.batch P t n l) (follows : Follows k c P)
    (stopping : l.stopping = true) (hphase : l.phase = .checking ∨ l.phase = .reading) :
    ∃ u, t.signal (outside k config) 0 .turn = some u
      ∧ Advances c config.batch P t n l u := by
  have hheeds : l.phase.heeds .turn = true := by rcases hphase with hp | hp <;> rw [hp] <;> rfl
  refine h.signal_advances follows (.heed hheeds stopping) rfl (.finished h.fits.all)
    (fun _ => stopping) fun _ => ?_
  rcases hphase with hp | hp <;> rw [hp] <;> simp [PollLoop.finish, nearness]

/-- **Handing over what is left of a batch** leads to the next event of the capture, or to the next
read. -/
theorem enters_handNext {start : Nat} {done events : List Event} {next : Option Cursor}
    {cursor : Option Cursor} (countable : c.size ≤ Numeral.max64)
    (pos : c.offset? cursor = some start)
    (batch : c.batchAt start config.batch = ⟨done ++ events, next⟩) (hn : n = start + done.length)
    (d : Desk) (hd : d.cursor = cursor) (l : PollLoop) :
    ∃ n', Enters c config.batch n (PollLoop.handNext d l events next).desk.cursor false n'
        (PollLoop.handNext d l events next).loop.phase
      ∧ 4 * (c.size - n') + nearness (PollLoop.handNext d l events next).loop.phase
        < 4 * (c.size - n) + 3 := by
  subst hd hn
  have hstart := Capture.offset?_le pos
  cases events with
  | nil =>
    obtain ⟨x, rfl, hx⟩ := Capture.offset?_next_of_batchAt hstart batch countable
    rw [List.append_nil] at hx
    exact ⟨_, .checking hx (by simp), by simp [PollLoop.handNext, PollLoop.endBatch, nearness]⟩
  | cons e rest =>
    have hlength := Capture.batchAt_length_le hstart batch
    simp only [List.length_append, List.length_cons] at hlength
    refine ⟨_, .handing pos rfl batch rfl, ?_⟩
    simp only [PollLoop.handNext, nearness]
    omega

theorem isOver_handNext (d : Desk) (l : PollLoop) (events : List Event) (next : Option Cursor) :
    (PollLoop.handNext d l events next).loop.isOver = false := by
  cases events <;> cases next <;> rfl

/-- **A read that reaches the capture** brings the next batch, or finds nothing left: then the
capture is drained, and the answer comes later. -/
theorem Plays.reach (h : Plays c config.batch P t n l) (follows : Follows k c P)
    (going : l.stopping = false)
    (hphase : l.phase = .reading) (pos : c.offset? t.poller.desk.cursor = some n)
    (all : t.outside.drained = true → n = c.size) :
    ∃ u, t.reach (outside k config) 0 t.poller.desk.cursor = some u
      ∧ Advances c config.batch P t n l u := by
  by_cases hend : n = c.size
  · subst hend
    have hask : t.outside.ask config t.poller.desk.cursor
        = (.later config.patience (.ok .empty), { t.outside with drained := true }) := by
      simp [ask, h.capture, Capture.serve, pos]
    refine ⟨_, Timeline.reach_later hask, c.size, l, ?_, rfl, fun hbusy => ?_⟩
    · refine ⟨h.loops, h.slot, h.capture, h.world, ?_, fun _ => rfl, h.ending⟩
      rw [Timeline.doing_setDoing, hphase]
      exact .awaiting pos rfl
    · have hearly : t.outside.drained = false := hbusy.resolve_left (by simp [going])
      simp [toDo, hearly, Timeline.setDoing]
  · have hlt : n < c.size := Nat.lt_of_le_of_ne (Capture.offset?_le pos) hend
    have hearly : t.outside.drained = false := by
      by_contra hlate
      exact hend (all (by simpa using hlate))
    have hask : t.outside.ask config t.poller.desk.cursor
        = (.now (.ok (c.batchAt n config.batch)), t.outside) := by
      simp [ask, h.capture, Capture.serve, pos, hend]
    rw [Timeline.reach_now hask]
    obtain ⟨e, rest, hevents⟩ := List.exists_cons_of_ne_nil
      (Capture.batchAt_ne_nil hlt config.batch)
    have hbatch :
        c.batchAt n config.batch = ⟨[] ++ e :: rest, (c.batchAt n config.batch).next⟩ := by
      rw [List.nil_append, ← hevents]
    rw [hbatch]
    refine h.signal_advances follows (.answer hphase going) rfl
      (.handing pos hearly hbatch rfl) (fun hover => absurd hover (by simp [PollLoop.onAnswer,
        PollLoop.onBatch, PollLoop.handNext, PollLoop.isOver])) fun _ => ?_
    rw [hphase]
    simp only [PollLoop.onAnswer, PollLoop.onBatch, PollLoop.handNext, List.nil_append, nearness]
    omega

/-- **What a step makes of a playback.**  Without a step the loop is over, or it waits for the end
of a read that has found nothing left. -/
theorem Plays.step_zero (h : Plays c config.batch P t n l) (follows : Follows k c P)
    (countable : c.size ≤ Numeral.max64) :
    (t.step (outside k config) 0 = none
        ∧ (l.isOver = true ∨ l.stopping = false ∧ t.outside.drained = true))
      ∨ ∃ u, t.step (outside k config) 0 = some u ∧ Advances c config.batch P t n l u := by
  rw [Timeline.step_zero h.loops]
  have hfits := h.fits
  generalize hphase : l.phase = phase, hdoing : t.doing 0 = doing at hfits
  cases hfits with
  | starting pos early =>
    have going : l.stopping = false := by
      by_contra hs
      simp [h.stopping (by simpa using hs)] at early
    rw [if_neg (by simp [going])]
    refine .inr (h.signal_advances follows (.begin hphase) rfl
      (.checking pos (by simp [early])) ?_ fun _ => ?_)
    · simp [PollLoop.begin, PollLoop.isOver]
    · simp [hphase, PollLoop.begin, nearness]
  | checking pos all =>
    cases hs : l.stopping with
    | true =>
      rw [if_pos ⟨rfl, rfl⟩]
      exact .inr (h.heeds follows hs (.inl hphase))
    | false =>
      rw [if_neg (by simp)]
      refine .inr (h.signal_advances follows (.read hphase hs) rfl (.reading pos all) ?_
        fun _ => ?_)
      · simp [PollLoop.read, PollLoop.isOver]
      · simp [hphase, PollLoop.read, nearness]
  | @asking n due pos all soon =>
    cases hs : l.stopping with
    | true =>
      rw [if_pos ⟨rfl, rfl⟩]
      exact .inr (h.heeds follows hs (.inr hphase))
    | false =>
      rw [if_neg (by simp), if_pos (by simpa [Doing.due?] using soon)]
      exact .inr (h.reach follows hs hphase pos all)
  | @awaiting due pos late =>
    cases hs : l.stopping with
    | true =>
      rw [if_pos ⟨rfl, rfl⟩]
      exact .inr (h.heeds follows hs (.inr hphase))
    | false =>
      rw [if_neg (by simp)]
      by_cases hdue : due ≤ t.now
      · rw [if_pos (by simpa [Doing.due?] using hdue)]
        refine .inr (h.signal_advances follows (.answer hphase hs) rfl
          (.checking pos fun _ => rfl) ?_ fun hbusy => ?_)
        · simp [PollLoop.onAnswer, PollLoop.onBatch, Batch.empty, PollLoop.handNext,
            PollLoop.endBatch, PollLoop.isOver]
        · simp [hs, late] at hbusy
      · rw [if_neg (by simpa [Doing.due?] using hdue)]
        exact .inl ⟨rfl, .inr ⟨rfl, late⟩⟩
  | @handing start due done rest e next pos early batch soon =>
    have going : l.stopping = false := by
      by_contra hs
      simp [h.stopping (by simpa using hs)] at early
    rw [if_neg (by simp [going]), if_pos (by simpa [Doing.due?] using soon)]
    have hrest : c.batchAt start config.batch = ⟨(done ++ [e]) ++ rest, next⟩ := by
      simpa using batch
    obtain ⟨n', hn', hless⟩ := enters_handNext (n := start + done.length + 1) countable pos
      hrest (by simp [Nat.add_assoc]) t.poller.desk rfl l
    refine .inr (h.signal_advances follows (.handled hphase) (by simp) (early ▸ hn') ?_ fun _ => ?_)
    · rw [isOver_handNext]
      exact fun hover => absurd hover (by decide)
    · rw [hphase]
      exact hless
  | finished all =>
    have hnone : t.signal (outside k config) 0 .turn = none := by
      simp [Timeline.signal, Poller.signal, Poller.loop?, h.loops, PollLoop.react, hphase]
    refine .inl ⟨?_, .inl (by simp [PollLoop.isOver, hphase])⟩
    by_cases hs : l.stopping = true
    · rw [if_pos ⟨hs, rfl⟩, hnone]
    · rw [if_neg (by simp [hs])]
      exact hnone

/-! ## Whole runs -/

/-- A step of any loop is a step of the one that there is. -/
theorem Plays.step (h : Plays c config.batch P t n l) (follows : Follows k c P)
    (countable : c.size ≤ Numeral.max64) {i : Nat} (hstep : t.step (outside k config) i = some u) :
    Advances c config.batch P t n l u := by
  obtain rfl := Timeline.eq_zero_of_step h.loops hstep
  rcases h.step_zero follows countable with ⟨hnone, -⟩ | ⟨u', hu', hadvances⟩
  · simp [hnone] at hstep
  · obtain rfl := Option.some.inj (hstep.symm.trans hu')
    exact hadvances

/-- Time may go by at any moment. -/
theorem Plays.pass (h : Plays c config.batch P t n l) {now : Nat} (later : t.now ≤ now) :
    Plays c config.batch P { t with now := now } n l where
  loops := h.loops
  slot := h.slot
  capture := h.capture
  world := h.world
  fits := by
    have hfits := h.fits
    change Fits c config.batch now _ _ n l.phase (t.doing 0)
    generalize l.phase = phase, t.doing 0 = doing at hfits
    cases hfits with
    | starting pos early => exact .starting pos early
    | checking pos all => exact .checking pos all
    | asking pos all soon => exact .asking pos all (soon.trans later)
    | awaiting pos late => exact .awaiting pos late
    | handing pos early batch soon => exact .handing pos early batch (soon.trans later)
    | finished all => exact .finished all
  stopping := h.stopping
  ending := h.ending

/-- The stop request reaches the loop, -/
theorem Plays.letGo_eq (h : Plays c config.batch P t n l) (going : l.stopping = false) :
    t.poller.letGo
      = (.ok 0, { t.poller with slot := none, loops := [{ l with stopping := true }] }) := by
  simp [Poller.letGo, Poller.take, Poller.halt, h.slot, going, h.loops]

/-- unless it was made before. -/
theorem Plays.stop (h : Plays c config.batch P t n l) (drained : t.outside.drained = true)
    {p : Poller} {i : Nat} (letGo : t.poller.letGo = (.ok i, p)) :
    Plays c config.batch P { t with poller := p } n { l with stopping := true } := by
  cases going : l.stopping with
  | true =>
    have hslot : t.poller.slot = none := by rw [h.slot, going]; rfl
    simp [Poller.letGo, Poller.take, hslot] at letGo
  | false =>
    obtain ⟨-, rfl⟩ := Prod.mk.inj ((h.letGo_eq going).symm.trans letGo)
    exact {
      loops := rfl
      slot := rfl
      capture := h.capture
      world := h.world
      fits := h.fits
      stopping := fun _ => drained
      ending := fun _ => rfl }

/-- **A playback stays one**, however it moves on. -/
theorem Plays.moves (h : Plays c config.batch P t n l) (follows : Follows k c P)
    (countable : c.size ≤ Numeral.max64) (moves : Moves (outside k config) t u) :
    ∃ n' l', Plays c config.batch P u n' l' := by
  cases moves with
  | step hstep =>
    obtain ⟨n', l', hplays, -, -⟩ := h.step follows countable hstep
    exact ⟨n', l', hplays⟩
  | pass later => exact ⟨n, l, h.pass later⟩
  | stop drained letGo => exact ⟨n, _, h.stop drained letGo⟩

/-- A playback whose loop is over has ended. -/
theorem Plays.ended (h : Plays c config.batch P t n l) (hover : l.isOver = true) : Ended t := by
  have hstopping := h.ending hover
  refine ⟨h.stopping hstopping, by rw [h.slot, if_pos hstopping], fun i => ?_⟩
  rw [Poller.isOver, Poller.loop?, h.loops]
  cases i with
  | zero => exact hover
  | succ i => rfl

/-- **A playback can always be brought to its end.** -/
theorem Plays.ends (h : Plays c config.batch P t n l) (follows : Follows k c P)
    (countable : c.size ≤ Numeral.max64) :
    ∃ u, Relation.ReflTransGen (Moves (outside k config)) t u ∧ Ended u := by
  induction hm : toDo c n l t.outside.drained using Nat.strong_induction_on generalizing t n l with
  | _ m ih =>
    subst hm
    by_cases hwaits : l.stopping = false ∧ t.outside.drained = true
    · -- nothing is left to be handed over: time to stop
      obtain ⟨going, drained⟩ := hwaits
      have hstop := h.stop drained (h.letGo_eq going)
      have hless : toDo c n { l with stopping := true } t.outside.drained
          < toDo c n l t.outside.drained := by
        simp [toDo, going]
      obtain ⟨u, hu, hended⟩ := ih _ hless hstop rfl
      exact ⟨u, .head (.stop drained (h.letGo_eq going)) hu, hended⟩
    · rcases h.step_zero follows countable with
        ⟨-, hover | hwait⟩ | ⟨u, hu, n', l', hplays, -, hless⟩
      · exact ⟨t, .refl, h.ended hover⟩
      · exact absurd hwait hwaits
      · have hbusy : l.stopping = true ∨ t.outside.drained = false := by
          cases hs : l.stopping <;> cases hd : t.outside.drained <;> simp_all
        obtain ⟨v, hv, hended⟩ := ih _ (hless hbusy) hplays rfl
        exact ⟨v, .head (.step hu) hv, hended⟩

/-- **A playback that has ended has dispatched all events.** -/
theorem Plays.world_of_ended (h : Plays c config.batch P t n l) (ended : Ended t) :
    P c.size t.outside.world := by
  have hall := h.fits.all ended.drained
  rw [← hall]
  exact h.world

/-- **A playback that begins**: nothing has been dispatched. -/
theorem plays_start (config : PollConfig) {w : World} (world : P 0 w) :
    Plays c config.batch P
      (Timeline.start ({ outside := { capture := c, world := w } } : Timeline Playback)).2 0
      {} where
  loops := rfl
  slot := rfl
  capture := rfl
  world := world
  fits := .starting rfl rfl
  stopping := by simp
  ending := by simp [PollLoop.isOver]

/-- **From its beginning, however a playback moves on**, it can be brought to its end, and at the
end all events have been dispatched. -/
theorem plays_to_end (follows : Follows k c P) (countable : c.size ≤ Numeral.max64) {w : World}
    (world : P 0 w) (moves : Relation.ReflTransGen (Moves (outside k config))
      (Timeline.start ({ outside := { capture := c, world := w } } : Timeline Playback)).2 t) :
    (∃ u, Relation.ReflTransGen (Moves (outside k config)) t u ∧ Ended u)
      ∧ (Ended t → P c.size t.outside.world) := by
  have hplays : ∃ n l, Plays c config.batch P t n l := by
    induction moves with
    | refl => exact ⟨0, {}, plays_start config world⟩
    | tail _ hlast ih =>
      obtain ⟨n, l, h⟩ := ih
      exact h.moves follows countable hlast
  obtain ⟨n, l, h⟩ := hplays
  exact ⟨h.ends follows countable, h.world_of_ended⟩

/-! ## Transcripts -/

/-- **Recorded so far**: the world is wired, and the messages of the first events are written. -/
structure Recorded (directory now : String) (folder : Folder) (c : Capture) (n : Nat) (w : World) :
    Prop where
  wired : w.Wired
  folder : w.folder = Transcript.writeAll directory now
    ((c.events.take n).filterMap Event.message?) folder

theorem follows_recorded {directory now : String} {folder : Folder}
    (playing : k.toCast = cast (some directory) now) :
    Follows k c (Recorded directory now folder c) where
  remark := fun r h => ⟨h.wired.of_directory rfl, h.folder⟩
  dispatch := by
    intro n e w hevent h
    refine (Company.dispatch_records playing h.wired e).mono fun _ v hv => ⟨hv.wired, ?_⟩
    have htake : c.events.take (n + 1) = c.events.take n ++ [e] := by
      rw [List.take_add_one, hevent]
      rfl
    rw [hv.folder, h.folder, htake, List.filterMap_append, Transcript.writeAll_append]
    cases e <;> rfl

theorem recorded_freshWorld (directory now : String) (folder : Folder) (c : Capture)
    (owner : User) : Recorded directory now folder c 0 (freshWorld owner folder) := by
  have hnothing : ∀ stream, (freshWorld owner folder).directory.rooms.find? stream = none :=
    fun _ => rfl
  refine ⟨⟨?_, rfl, fun h => ?_⟩, rfl⟩
  · constructor <;> intro stream id h <;> rw [hnothing] at h <;> cases h
  · rw [hnothing] at h
    cases h

end Playback

/-- The messages of a capture, in order. -/
def Capture.messages (c : Capture) : List Message := c.events.filterMap Event.message?

/-- **Where the playback of a capture can get to**, from its beginning. -/
def Playback.Gets (k : Company) (config : PollConfig) (p : Playback) (t : Timeline Playback) :
    Prop :=
  Relation.ReflTransGen (Playback.Moves (Playback.outside k config))
    (Timeline.start ({ outside := p } : Timeline Playback)).2 t

namespace Playback

/-! ## The playback that is run -/

/-- What is due is done step by step. -/
theorem moves_settle (o : Outside Playback) (goal : Timeline Playback → Bool) (n : Nat)
    (t : Timeline Playback) : Relation.ReflTransGen (Moves o) t (t.settle o goal n) := by
  induction n generalizing t with
  | zero => exact .refl
  | succ n ih =>
    rw [Timeline.settle]
    by_cases hgoal : goal t = true
    · rw [if_pos hgoal]
    · rw [if_neg hgoal]
      cases hstep : t.stepAny o with
      | none => exact .refl
      | some u =>
        obtain ⟨i, -, hi⟩ := List.exists_of_findSome?_eq_some hstep
        exact .head (.step hi) (ih u)

/-- The next moment at which there is something to do is a later one. -/
theorem lt_of_nextDue? {t : Timeline Playback} {due : Nat} (h : t.nextDue? = some due) :
    t.now < due := by
  have hmem := List.min?_mem h
  exact of_decide_eq_true (List.mem_filter.mp hmem).2

/-- **Letting time go by** is steps and pauses. -/
theorem moves_passUntil (o : Outside Playback) (goal : Timeline Playback → Bool)
    (limit : Option Nat) (n : Nat) (t : Timeline Playback) :
    Relation.ReflTransGen (Moves o) t (t.passUntil o goal limit n) := by
  induction n generalizing t with
  | zero => exact .refl
  | succ n ih =>
    have hsettle := moves_settle o goal Timeline.budget t
    unfold Timeline.passUntil
    dsimp only
    generalize t.settle o goal Timeline.budget = s at hsettle
    have hlast : ∀ limit, Relation.ReflTransGen (Moves o) t
        (({ s with now := max s.now limit } : Timeline Playback).settle o goal Timeline.budget) :=
      fun limit => (hsettle.tail (.pass (Nat.le_max_left _ limit))).trans (moves_settle o goal _ _)
    by_cases hgoal : goal s = true
    · rw [if_pos hgoal]
      exact hsettle
    · rw [if_neg hgoal]
      cases hdue : s.nextDue? with
      | none =>
        cases limit with
        | none => exact hsettle
        | some limit => exact hlast limit
      | some due =>
        have hlater : ∀ s' : Timeline Playback,
            Relation.ReflTransGen (Moves o) { s with now := due } s' →
              Relation.ReflTransGen (Moves o) t s' := fun s' hs' =>
          (hsettle.tail (.pass (lt_of_nextDue? hdue).le)).trans hs'
        cases limit with
        | none => exact hlater _ (ih _)
        | some limit =>
          by_cases hlimit : due ≤ limit
          · simp only [hlimit, if_true]
            exact hlater _ (ih _)
          · simp only [hlimit, if_false]
            exact hlast limit

/-- A playback that is run, just before it is stopped. -/
def beforeStop (k : Company) (config : PollConfig) (p : Playback) : Timeline Playback :=
  Timeline.passUntil (outside k config)
    (fun t => t.outside.drained || match t.poller.desk.state with
      | .failed _ => true
      | _ => false)
    none Timeline.budget (Timeline.start ({ outside := p } : Timeline Playback)).2

/-- **The playback that is run moves on as a playback does**: when the capture is drained before it
is stopped, it ends in a world that can be got to. -/
theorem gets_play (k : Company) (config : PollConfig) (p : Playback)
    (drained : (beforeStop k config p).outside.drained = true) :
    ∃ t, Gets k config p t ∧ (play k config none p).world = t.outside.world := by
  have hbefore : Gets k config p (beforeStop k config p) := moves_passUntil _ _ _ _ _
  have hplay : (play k config none p).world
      = ((beforeStop k config p).stop (outside k config)).2.outside.world := rfl
  rw [hplay, Timeline.stop]
  rcases hlet : (beforeStop k config p).poller.letGo with ⟨e | i, q⟩
  · exact ⟨_, hbefore, rfl⟩
  · exact ⟨_, (hbefore.tail (.stop drained hlet)).trans (moves_passUntil _ _ _ _ _), rfl⟩

/-! ## One line for each message -/

/-- **A playback leaves one line for each message.**  However it moves on, it can be brought to its
end; and at the end the directory holds the transcripts of the capture's messages and no other file,
the same ones for every size of a batch. -/
theorem leaves_one_line_each {directory : String} {place : List String} {folder : Folder}
    {c : Capture} (owner : User) (now : String) (depth : Nat) (config : PollConfig)
    (awaits : Transcript.Awaits folder directory place)
    (fits : ∀ m ∈ c.messages, Storage.nameFits (Transcript.fileName m.stream) = true)
    (countable : c.size ≤ Numeral.max64) :
    let k := (cast (some directory) now).company depth
    let p : Playback := { capture := c, world := freshWorld owner folder }
    ∀ t, Gets k config p t →
      (∃ u, Relation.ReflTransGen (Moves (outside k config)) t u ∧ Ended u)
        ∧ (Ended t → Transcript.Transcribes t.outside.world.folder directory now c.messages
          ∧ ∀ config' t', Gets k config' p t' → Ended t' →
            t'.outside.world.folder = t.outside.world.folder) := by
  intro k p t gets
  have follows : Follows k c (Recorded directory now folder c) := follows_recorded rfl
  have hfiles : ∀ config t, Gets k config p t → Ended t →
      t.outside.world.folder = Transcript.writeAll directory now c.messages folder := by
    intro config t gets ended
    have hworld := (plays_to_end follows countable
      (recorded_freshWorld directory now folder c owner) gets).2 ended
    rw [hworld.folder, Capture.size, List.take_length]
    rfl
  refine ⟨(plays_to_end follows countable
    (recorded_freshWorld directory now folder c owner) gets).1, fun ended => ⟨?_, ?_⟩⟩
  · rw [hfiles config t gets ended]
    exact awaits.transcribes fits
  · intro config' t' gets' ended'
    rw [hfiles config' t' gets' ended', hfiles config t gets ended]

/-- The owner leaves between two messages of a stream, and the chat is made anew: the transcript of
the stream goes on. -/
theorem leaves_one_line_each_after_leave :
    let owner : User := .bare "bot"
    let first : Message := .plain "1" "a/b" "ann" "hello"
    let other : Message := .plain "2" "S" "bot" "my own"
    let second : Message := .plain "3" "a/b" "eve" "again"
    let c : Capture := ⟨[.sent first, .joined "a/b" (.bare "eve"), .sent other,
      .left "a/b" owner, .sent second]⟩
    ∃ u text, Gets ((cast (some "t") "now").company depth) .standard
        { capture := c, world := freshWorld owner {} } u
      ∧ Ended u
      ∧ ((u.outside.world.folder.children "t").map Prod.fst).Perm ["S.jsonl", "a%2Fb.jsonl"]
      ∧ u.outside.world.folder.read "t/a%2Fb.jsonl" = .ok text
      ∧ (Text.lines text.toList).map Transcript.readLine
        = [.ok (Transcript.tree "now" first), .ok (Transcript.tree "now" second)] := by
  intro owner first other second c
  have parts : Storage.parts "t" = some ["t"] := by decide
  have awaits : Transcript.Awaits {} "t" ["t"] :=
    ⟨parts, rfl, List.perm_nil.mp (Folder.children_perm parts {}), _, rfl⟩
  have fits : ∀ m ∈ c.messages, Storage.nameFits (Transcript.fileName m.stream) = true := by
    decide
  have hplay := leaves_one_line_each owner "now" depth .standard awaits fits (by decide)
  obtain ⟨u, hu, ended⟩ := (hplay _ .refl).1
  obtain ⟨transcribes, -⟩ := (hplay u hu).2 ended
  obtain ⟨text, hread, hlines⟩ := transcribes.lines "a/b" (by decide)
  exact ⟨u, text, hu, ended, transcribes.files, hread, hlines⟩

end Playback

end ChatFeed
