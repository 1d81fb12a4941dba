import ChatFeed.Proofs.Poll.Office
import ChatFeed.Proofs.Replay.Position

/-!
# Proofs/Replay/Recital — polling a capture, and what the cursor stands for

A `Recital` is an office whose loops read a capture: any errands, in any order, as long as the
answer to a read is the capture's reply to the cursor that was sent.  It remembers which handler
calls have returned.  Two facts hold of every loop, whatever the others do, and every reaction keeps
them:

* a read is made at a cursor that stands for events heard (`Capture.Stands`);
* a batch in hand belongs to the position that was asked for, and what is not left of it has been
  heard (`Capture.Owes`).

`Recital.heard_at_least_once` has the cursor stand for events heard at every moment, and a run that
ends by a panic leave the cursor where the next run begins the batch anew.
-/

namespace ChatFeed

/-- The event whose handler call returns with a signal. -/
def PollLoop.hears (l : PollLoop) (s : Signal) : List Event :=
  match s, l.phase with
  | .handled, .handing e _ _ => [e]
  | _, _ => []

/-- The cursor that a read sends. -/
def Deed.asks? : Deed → Option (Option Cursor)
  | .read cursor => some cursor
  | _ => none

/-- The cursor of the last read, after some deeds. -/
def askedAfter (asked : Option Cursor) (deeds : List Deed) : Option Cursor :=
  (deeds.findSome? Deed.asks?).getD asked

/-! ## What a cursor stands for -/

namespace Capture

variable (c : Capture) (heard : List Event)

/-- **A cursor stands for events heard**: it is none, or that of a position of the capture, and
every event before the position has been heard, each in a call of its own. -/
def Stands (cursor : Option Cursor) : Prop :=
  ∀ x, cursor = some x →
    ∃ k ≤ c.size, x = cursorAt k ∧ (c.events.take k).Sublist heard

/-- **Events that are owed**: they end the batch at the position asked for, and all events before
them have been heard. -/
def Owes (max : Nat) (asked : Option Cursor) (events : List Event) (next : Option Cursor) : Prop :=
  ∃ start done, c.offset? asked = some start ∧ c.batchAt start max = ⟨done ++ events, next⟩
    ∧ (c.events.take start ++ done).Sublist heard

/-- **What is known of a loop**, given the cursor of its last read. -/
structure Backs (max : Nat) (asked : Option Cursor) (l : PollLoop) : Prop where
  reading : l.phase = .reading → c.Stands heard asked
  handing : ∀ e rest next, l.phase = .handing e rest next →
    c.Owes heard max asked (e :: rest) next

variable {c heard} {max : Nat} {asked next : Option Cursor} {l : PollLoop}

theorem Stands.append {cursor : Option Cursor} (h : c.Stands heard cursor) (more : List Event) :
    c.Stands (heard ++ more) cursor := by
  intro x hx
  obtain ⟨k, hk, hcursor, hheard⟩ := h x hx
  exact ⟨k, hk, hcursor, hheard.trans (List.sublist_append_left heard more)⟩

theorem Owes.append {events : List Event} (h : c.Owes heard max asked events next)
    (more : List Event) : c.Owes (heard ++ more) max asked events next := by
  obtain ⟨start, done, hstart, hbatch, hheard⟩ := h
  exact ⟨start, done, hstart, hbatch, hheard.trans (List.sublist_append_left heard more)⟩

theorem Backs.append (h : c.Backs heard max asked l) (more : List Event) :
    c.Backs (heard ++ more) max asked l where
  reading := fun hphase => (h.reading hphase).append more
  handing := fun e rest next hphase => (h.handing e rest next hphase).append more

theorem stands_none : c.Stands heard none := fun _ hx => nomatch hx

/-- A loop that is neither reading nor handing over is not asked anything. -/
theorem Backs.of_idle (h : ¬ l.IsBusy) : c.Backs heard max asked l where
  reading := fun hphase => absurd (.inl hphase) h
  handing := fun e rest next hphase => absurd (.inr (by simp [hphase, Phase.isHanding])) h

/-- **An event that has been heard is owed no more.** -/
theorem Owes.hear {e : Event} {rest : List Event} (h : c.Owes heard max asked (e :: rest) next) :
    c.Owes (heard ++ [e]) max asked rest next := by
  obtain ⟨start, done, hstart, hbatch, hheard⟩ := h
  refine ⟨start, done ++ [e], hstart, by simpa using hbatch, ?_⟩
  rw [← List.append_assoc]
  exact hheard.append (List.Sublist.refl [e])

/-- **The cursor of a batch of which nothing is owed stands for events heard.** -/
theorem Owes.stands (h : c.Owes heard max asked [] next) : c.Stands heard next := by
  obtain ⟨start, done, hstart, hbatch, hheard⟩ := h
  obtain ⟨stop, hstop, hnext, htake⟩ := take_append_batchAt (offset?_le hstart) max
  rw [hbatch] at hnext htake
  intro x hx
  refine ⟨stop, hstop, Option.some.inj (hx.symm.trans hnext), ?_⟩
  rw [← htake, List.append_nil]
  exact hheard

/-- **A batch is owed where all events before it have been heard.** -/
theorem Stands.owes {start : Nat} (h : c.Stands heard asked)
    (hstart : c.offset? asked = some start) (max : Nat) :
    c.Owes heard max asked (c.batchAt start max).events (c.batchAt start max).next := by
  refine ⟨start, [], hstart, rfl, ?_⟩
  rw [List.append_nil]
  cases asked with
  | none =>
    obtain rfl := Option.some.inj hstart
    exact List.nil_sublist heard
  | some x =>
    obtain ⟨k, -, rfl, hheard⟩ := h x rfl
    rwa [offset?_cursorAt hstart]

end Capture

/-! ## What one reaction does -/

namespace PollLoop

variable {source : String} {config : PollConfig} {d : Desk} {l : PollLoop} {s : Signal}
  {r : LoopStep} {c : Capture} {heard : List Event} {asked : Option Cursor}

theorem finish_ne_reading (error : Option PollError) :
    (finish d l error).loop.phase ≠ .reading := by
  cases error <;> simp [finish]

theorem handNext_ne_reading (events : List Event) (next : Option Cursor) :
    (handNext d l events next).loop.phase ≠ .reading := by
  cases events <;> cases next <;> simp [handNext, endBatch]

/-- No answer leads to the next read at once. -/
theorem onAnswer_ne_reading (result : Except ReadError Batch) :
    (onAnswer config d l result).loop.phase ≠ .reading := by
  cases result with
  | ok b => exact handNext_ne_reading b.events b.next
  | error e =>
    cases e with
    | transient message retryAfter =>
      change (onTransient config d l _).loop.phase ≠ .reading
      unfold onTransient
      cases l.streak.failAsked config.retry _ with
      | mk delay streak => cases delay <;> simp [finish]
    | fatal message => exact finish_ne_reading _
    | staleCursor rejected => simp [onAnswer, onStale]

/-- A reaction that makes a read is the one that begins a read. -/
theorem Reaction.eq_read (h : Reaction source config d l s r) {cursor : Option Cursor}
    (reads : Deed.read cursor ∈ r.deeds) : l.phase = .checking ∧ r = PollLoop.read d l := by
  obtain ⟨rfl, -, hphase, hgoing, -⟩ := h.reads reads
  refine ⟨hphase, ?_⟩
  cases h with
  | read => rfl
  | begin phase => simp [phase] at hphase
  | heed heeds stopping => simp [stopping] at hgoing

/-- Only the beginning of a read leads to a read; a loop that is asked to stop stays where it is. -/
theorem Reaction.reading (h : Reaction source config d l s r) (hphase : r.loop.phase = .reading) :
    r = PollLoop.read d l ∨ (s = .halt ∧ l.phase = .reading) := by
  cases h with
  | halt => exact .inr ⟨rfl, hphase⟩
  | begin => simp [PollLoop.begin] at hphase
  | read => exact .inl rfl
  | heed => exact absurd hphase (finish_ne_reading none)
  | answer => exact absurd hphase (onAnswer_ne_reading _)
  | handled => exact absurd hphase (handNext_ne_reading _ _)
  | panic => simp [goTo] at hphase
  | rested => simp at hphase

/-- **A loop comes to a read by beginning one**, and is asked again by nothing else. -/
theorem Reaction.asks (h : Reaction source config d l s r) (asked : Option Cursor) :
    (l.phase = .checking ∧ r = PollLoop.read d l)
      ∨ (askedAfter asked r.deeds = asked
        ∧ (r.loop.phase = .reading → s = .halt ∧ l.phase = .reading)) := by
  by_cases hread : ∃ cursor, Deed.read cursor ∈ r.deeds
  · obtain ⟨cursor, hread⟩ := hread
    exact .inl (h.eq_read hread)
  · have hsilent : ∀ x ∈ r.deeds, x.asks? = none := by
      intro x hx
      cases x with
      | read cursor => exact absurd ⟨cursor, hx⟩ hread
      | _ => rfl
    refine .inr ⟨?_, fun hphase => ?_⟩
    · rw [askedAfter, List.findSome?_eq_none_iff.mpr hsilent, Option.getD_none]
    · rcases h.reading hphase with rfl | hhalt
      · exact absurd ⟨d.cursor, by simp [PollLoop.read]⟩ hread
      · exact hhalt

/-- **Handing over what is owed** makes the cursor stand for it at the end, and owes the rest until
then. -/
theorem handNext_owes {max : Nat} {events : List Event} {next : Option Cursor}
    (hdesk : c.Stands heard d.cursor) (howes : c.Owes heard max asked events next) :
    c.Stands heard (handNext d l events next).desk.cursor
      ∧ c.Backs heard max asked (handNext d l events next).loop := by
  cases events with
  | nil =>
    have hstands := howes.stands
    cases next with
    | none => exact ⟨hdesk, .of_idle (by simp [handNext, endBatch, IsBusy, Phase.isHanding])⟩
    | some x => exact ⟨hstands, .of_idle (by simp [handNext, endBatch, IsBusy, Phase.isHanding])⟩
  | cons e rest =>
    refine ⟨hdesk, ⟨by simp [handNext], fun e' rest' next' hphase => ?_⟩⟩
    obtain ⟨rfl, rfl, rfl⟩ := Phase.handing.inj hphase
    exact howes

/-- **The capture's reply to a cursor that stands for events heard** leaves the cursor standing for
them, and owes what it brings. -/
theorem onAnswer_backs (hdesk : c.Stands heard d.cursor) (hasked : c.Stands heard asked) :
    c.Stands heard (onAnswer config d l (c.reply asked config.batch)).desk.cursor
      ∧ c.Backs heard config.batch asked
        (onAnswer config d l (c.reply asked config.batch)).loop := by
  rcases c.reply_cases asked config.batch with ⟨-, hreply⟩ | ⟨-, hreply⟩
    | ⟨start, -, hstart, hreply⟩
  · rw [hreply]
    exact ⟨Capture.stands_none, .of_idle (by simp [onAnswer, onStale, IsBusy, Phase.isHanding])⟩
  · rw [hreply]
    exact ⟨hdesk, .of_idle (by
      simp [onAnswer, Batch.empty, handNext, endBatch, IsBusy, Phase.isHanding])⟩
  · rw [hreply]
    exact handNext_owes hdesk (hasked.owes hstart config.batch)

/-- **A reaction keeps what the cursor and a loop stand for**, when the answers are those of the
capture. -/
theorem Reaction.backs (h : Reaction source config d l s r)
    (hdesk : c.Stands heard d.cursor) (hloop : c.Backs heard config.batch asked l)
    (honest : ∀ a, s = .answer a → a = c.reply asked config.batch) :
    c.Stands (heard ++ l.hears s) r.desk.cursor
      ∧ c.Backs (heard ++ l.hears s) config.batch (askedAfter asked r.deeds) r.loop := by
  rcases h.asks asked with ⟨-, rfl⟩ | ⟨hasked, hkept⟩
  · exact ⟨hdesk.append _, ⟨fun _ => hdesk.append _, by simp [PollLoop.read]⟩⟩
  rw [hasked]
  cases h with
  | halt =>
    have hsame := hloop.append (l.hears .halt)
    exact ⟨hdesk.append _, hsame.reading, hsame.handing⟩
  | begin => exact ⟨hdesk.append _, .of_idle (by simp [PollLoop.begin, IsBusy, Phase.isHanding])⟩
  | read => exact absurd (hkept rfl).1 (by simp)
  | heed =>
    refine ⟨?_, .of_idle (by simp [finish, IsBusy, Phase.isHanding])⟩
    rw [finish_cursor]
    exact hdesk.append _
  | @answer result phase going =>
    obtain rfl := honest result rfl
    change c.Stands (heard ++ []) _ ∧ c.Backs (heard ++ []) _ _ _
    rw [List.append_nil]
    exact onAnswer_backs hdesk (hloop.reading phase)
  | @handled e rest next phase =>
    have hhears : l.hears .handled = [e] := by simp [hears, phase]
    rw [hhears]
    exact handNext_owes (hdesk.append _) (hloop.handing e rest next phase).hear
  | panic => exact ⟨hdesk.append _, .of_idle (by simp [goTo, IsBusy, Phase.isHanding])⟩
  | rested => exact ⟨hdesk.append _, .of_idle (by simp [IsBusy, Phase.isHanding])⟩

/-- As long as a batch is in hand its cursor is kept back. -/
theorem handNext_cursor {events : List Event} {next : Option Cursor}
    (hhanding : (handNext d l events next).loop.phase.isHanding = true) :
    (handNext d l events next).desk.cursor = d.cursor := by
  cases events with
  | nil => cases next <;> simp [handNext, endBatch, Phase.isHanding] at hhanding
  | cons e rest => rfl

/-- **What a busy loop asked for is where the desk is**, if it was before: only the loop itself
moves the cursor, and it does so when it is done. -/
theorem Reaction.follows (h : Reaction source config d l s r)
    (hloop : l.IsBusy → asked = d.cursor) (hbusy : r.loop.IsBusy) :
    askedAfter asked r.deeds = r.desk.cursor := by
  rcases h.asks asked with ⟨-, rfl⟩ | ⟨hasked, hkept⟩
  · rfl
  rw [hasked]
  rcases hbusy with hreading | hhanding
  · obtain ⟨rfl, hphase⟩ := hkept hreading
    cases h with
    | halt => exact hloop (.inl hphase)
    | heed heeds => simp [hphase, Phase.heeds] at heeds
  · cases h with
    | halt => exact hloop (.inr hhanding)
    | begin => simp [PollLoop.begin, Phase.isHanding] at hhanding
    | read => simp [PollLoop.read, Phase.isHanding] at hhanding
    | heed => exact absurd hhanding (by simp [(aside_finish none).free])
    | @answer result phase =>
      cases result with
      | error e => exact absurd hhanding (by simp [(aside_onAnswer_error e).free])
      | ok b => exact (hloop (.inl phase)).trans (handNext_cursor hhanding).symm
    | handled phase =>
      have hsame : asked = d.cursor := hloop (.inr (by simp [phase, Phase.isHanding]))
      exact hsame.trans (handNext_cursor hhanding).symm
    | panic => simp [goTo, Phase.isHanding] at hhanding
    | rested => simp [Phase.isHanding] at hhanding

/-- A panic of the handler ends the loop at once. -/
theorem Reaction.panic_eq {words : Option String}
    (h : Reaction source config d l (.panic words) r) : r = goTo d l (.crashed words) := by
  cases h with
  | panic => rfl
  | heed heeds => cases hp : l.phase <;> simp [hp, Phase.heeds] at heeds

/-- **Without an answer no batch begins**, and outside of batches the cursor stays. -/
theorem Reaction.stays (h : Reaction source config d l s r) (hfree : l.phase.isHanding = false)
    (unanswered : ∀ a, s ≠ .answer a) :
    r.desk.cursor = d.cursor ∧ r.loop.phase.isHanding = false := by
  cases h with
  | halt => exact ⟨rfl, hfree⟩
  | begin => exact ⟨rfl, rfl⟩
  | read => exact ⟨rfl, rfl⟩
  | heed => exact ⟨finish_cursor none, (aside_finish none).free⟩
  | answer => exact absurd rfl (unanswered _)
  | handled phase => simp [phase, Phase.isHanding] at hfree
  | panic phase => simp [phase, Phase.isHanding] at hfree
  | rested => exact ⟨rfl, rfl⟩

end PollLoop

/-! ## A capture polled by many loops -/

/-- **An office whose loops read a capture**, the cursor that each sent with its last read, and the
events whose handler calls have returned. -/
structure Recital where
  office : Office := {}
  asked : Nat → Option Cursor := fun _ => none
  heard : List Event := []

namespace Recital

variable (source : String) (config : PollConfig) (capture : Capture)

/-- Whether an answer that comes to a loop is the capture's. -/
def admits (t : Recital) : Errand → Bool
  | .signal i (.answer a) => a = capture.reply (t.asked i) config.batch
  | _ => true

/-- **An errand is run**; none if it does not come to pass. -/
def step (t : Recital) (e : Errand) : Option Recital :=
  if t.admits config capture e then
    match e with
    | .signal i s => do
      let l ← t.office.poller.loop? i
      let (p, deeds) ← t.office.poller.signal source config i s
      some {
        office := { t.office with poller := p }
        asked := fun j => if j = i then askedAfter (t.asked i) deeds else t.asked j
        heard := t.heard ++ l.hears s }
    | e => do some { t with office := (← t.office.step source config e) }
  else none

/-- **A history** of a capture being polled. -/
def run (history : List Errand) (t : Recital) : Option Recital :=
  history.foldlM (step source config capture) t

/-- **Runs do not overlap**: at every moment one loop is live at most. -/
def Apart (history : List Errand) : Prop :=
  ∀ before after t, history = before ++ after →
    run source config capture before {} = some t → t.office.poller.Single

variable {source config capture}

/-- A recital after a reaction of one loop. -/
def reacted (t : Recital) (i : Nat) (s : Signal) (l : PollLoop) (r : LoopStep) : Recital where
  office := { t.office with
    poller := { t.office.poller with desk := r.desk, loops := t.office.poller.loops.set i r.loop } }
  asked j := if j = i then askedAfter (t.asked i) r.deeds else t.asked j
  heard := t.heard ++ l.hears s

variable {t u : Recital} {e : Errand} {i j : Nat} {s : Signal} {l m : PollLoop} {r : LoopStep}
  {history : List Errand} {cursor : Option Cursor} {b : Batch}

/-- **What an errand does**: a loop reacts, to the capture's reply if to any, or the office goes on
without. -/
theorem step_cases (h : t.step source config capture e = some u) :
    (∃ i s l r, e = .signal i s ∧ t.office.poller.loop? i = some l
        ∧ PollLoop.Reaction source config t.office.poller.desk l s r
        ∧ (∀ a, s = .answer a → a = capture.reply (t.asked i) config.batch)
        ∧ u = t.reacted i s l r)
      ∨ ((∀ i s, e ≠ .signal i s) ∧ ∃ o, t.office.step source config e = some o
        ∧ u = { t with office := o }) := by
  unfold step at h
  split at h
  · rename_i hadmits
    cases e with
    | signal i s =>
      obtain ⟨l, hl, h⟩ := Option.bind_eq_some_iff.mp h
      obtain ⟨⟨p, deeds⟩, hp, h⟩ := Option.bind_eq_some_iff.mp h
      obtain ⟨l', r, hl', hr, rfl, rfl⟩ := Poller.signal_cases hp
      obtain rfl := Option.some.inj (hl.symm.trans hl')
      refine .inl ⟨i, s, l, r, rfl, hl, hr, fun a ha => ?_, (Option.some.inj h).symm⟩
      subst ha
      simpa [admits] using hadmits
    | _ =>
      obtain ⟨o, ho, h⟩ := Option.bind_eq_some_iff.mp h
      exact .inr ⟨fun i s he => (nomatch he), o, ho, (Option.some.inj h).symm⟩
  · simp at h

/-- **A signal that a loop answers comes to pass.** -/
theorem step_signal (hl : t.office.poller.loop? i = some l)
    (hr : l.react source config t.office.poller.desk s = some r)
    (honest : ∀ a, s = .answer a → a = capture.reply (t.asked i) config.batch) :
    t.step source config capture (.signal i s) = some (t.reacted i s l r) := by
  have hadmits : t.admits config capture (.signal i s) = true := by
    cases s with
    | answer a => simpa [admits] using honest a rfl
    | _ => rfl
  simp [step, hadmits, Poller.signal, hl, hr, reacted]

/-- The loops after a reaction of one. -/
theorem loop?_reacted (hl : t.office.poller.loop? i = some l)
    (hm : (t.reacted i s l r).office.poller.loop? j = some m) :
    (j = i ∧ m = r.loop) ∨ (j ≠ i ∧ t.office.poller.loop? j = some m) := by
  have hm : (t.office.poller.loops.set i r.loop)[j]? = some m := hm
  by_cases hj : j = i
  · subst hj
    rw [List.getElem?_set_self (List.getElem?_eq_some_iff.mp hl).1] at hm
    exact .inl ⟨rfl, (Option.some.inj hm).symm⟩
  · rw [List.getElem?_set_ne (Ne.symm hj)] at hm
    exact .inr ⟨hj, hm⟩

/-- The loop that reacted. -/
theorem loop?_reacted_self (hl : t.office.poller.loop? i = some l) :
    (t.reacted i s l r).office.poller.loop? i = some r.loop :=
  List.getElem?_set_self (List.getElem?_eq_some_iff.mp hl).1

/-! ### Whatever the loops do -/

/-- **The cursor and every loop stand for events heard.** -/
structure Backed (config : PollConfig) (capture : Capture) (t : Recital) : Prop where
  desk : capture.Stands t.heard t.office.poller.desk.cursor
  loops : ∀ i l, t.office.poller.loop? i = some l →
    capture.Backs t.heard config.batch (t.asked i) l

theorem not_isBusy_new : ¬ ({} : PollLoop).IsBusy := by simp [PollLoop.IsBusy, Phase.isHanding]

/-- **Every errand keeps it so.** -/
theorem Backed.step (backed : t.Backed config capture)
    (h : t.step source config capture e = some u) : u.Backed config capture := by
  rcases step_cases h with ⟨i, s, l, r, rfl, hl, hr, honest, rfl⟩ | ⟨quiet, o, ho, rfl⟩
  · obtain ⟨hdesk, hloop⟩ := hr.backs backed.desk (backed.loops i l hl) honest
    refine ⟨hdesk, fun j m hm => ?_⟩
    rcases loop?_reacted hl hm with ⟨rfl, rfl⟩ | ⟨hj, hm⟩
    · simpa [reacted] using hloop
    · simpa [reacted, hj] using (backed.loops j m hm).append _
  · obtain ⟨hcursor, hloops⟩ := Office.step_quiet quiet ho
    refine ⟨hcursor ▸ backed.desk, fun i l hl => ?_⟩
    rcases hloops i l hl with hold | rfl
    · exact backed.loops i l hold
    · exact .of_idle not_isBusy_new

/-- **It is so along every history.** -/
theorem Backed.run (backed : t.Backed config capture)
    (h : t.run source config capture history = some u) : u.Backed config capture :=
  foldlM_keeps (P := Backed config capture) (fun _ _ _ _ hbacked hstep => hbacked.step hstep)
    backed h

/-- A recital begins without a cursor and without loops. -/
theorem backed_begin : Backed config capture {} where
  desk := Capture.stands_none
  loops := fun i l hl => by simp [Poller.loop?] at hl

/-! ### Runs that do not overlap -/

/-- The last errand of a history. -/
theorem run_concat :
    run source config capture (history ++ [e]) t = some u
      ↔ ∃ v, run source config capture history t = some v
        ∧ v.step source config capture e = some u :=
  foldlM_concat

/-- **A loop at a read or at a batch is where the desk is**, as long as it is the only one. -/
theorem Apart.asked_eq (alone : Apart source config capture history) {before after : List Errand}
    (split : history = before ++ after) (h : run source config capture before {} = some t) :
    ∀ i l, t.office.poller.loop? i = some l → l.IsBusy →
      t.asked i = t.office.poller.desk.cursor := by
  induction before using List.reverseRecOn generalizing after t with
  | nil =>
    obtain rfl := Option.some.inj h
    exact fun i l hl => by simp [Poller.loop?] at hl
  | append_singleton before e ih =>
    obtain ⟨v, hv, he⟩ := run_concat.mp h
    have hsplit : history = before ++ e :: after := by simp [split]
    have hfollows := ih hsplit hv
    rcases step_cases he with ⟨i, s, l, r, rfl, hl, hr, -, rfl⟩ | ⟨quiet, o, ho, rfl⟩
    · intro j m hm hbusy
      rcases loop?_reacted hl hm with ⟨rfl, rfl⟩ | ⟨hj, hm⟩
      · simpa [reacted] using hr.follows (hfollows j l hl) hbusy
      · -- the loop that reacted is not the busy one, so it is over and leaves the desk alone
        have hlive : v.office.poller.IsLive j := Poller.IsBusy.isLive ⟨m, hm, hbusy⟩
        have hover : l.isOver = true := (alone before _ v hsplit hv).isOver hlive hl (Ne.symm hj)
        obtain ⟨-, hdesk, -⟩ := Poller.isOver_of_reaction hr hover
        simpa [reacted, hj, hdesk] using hfollows j m hm hbusy
    · obtain ⟨hcursor, hloops⟩ := Office.step_quiet quiet ho
      intro i l hl hbusy
      rcases hloops i l hl with hold | rfl
      · exact (hfollows i l hold hbusy).trans hcursor.symm
      · exact absurd hbusy not_isBusy_new

/-- **Nothing is in hand**, and whoever reads has asked for the cursor. -/
structure Waits (cursor : Option Cursor) (t : Recital) : Prop where
  desk : t.office.poller.desk.cursor = cursor
  free : ∀ i l, t.office.poller.loop? i = some l → l.phase.isHanding = false
  asked : ∀ i l, t.office.poller.loop? i = some l → l.phase = .reading → t.asked i = cursor

/-- Where all loops are over nothing is in hand. -/
theorem waits_of_isOver (hover : ∀ i l, t.office.poller.loop? i = some l → l.isOver = true) :
    t.Waits t.office.poller.desk.cursor where
  desk := rfl
  free := fun i l hl => (PollLoop.idle_of_isOver (hover i l hl)).2.2
  asked := by
    intro i l hl hphase
    have hl := hover i l hl
    simp [PollLoop.isOver, hphase] at hl

/-- **It stays so until a read is answered.** -/
theorem Waits.step (waits : t.Waits cursor) (unanswered : ∀ i a, e ≠ .signal i (.answer a))
    (h : t.step source config capture e = some u) : u.Waits cursor := by
  rcases step_cases h with ⟨i, s, l, r, rfl, hl, hr, -, rfl⟩ | ⟨quiet, o, ho, rfl⟩
  · have hs : ∀ a, s ≠ .answer a := fun a ha => unanswered i a (by rw [ha])
    obtain ⟨hcursor, hfree⟩ := hr.stays (waits.free i l hl) hs
    refine ⟨hcursor.trans waits.desk, fun j m hm => ?_, fun j m hm hphase => ?_⟩
    · rcases loop?_reacted hl hm with ⟨rfl, rfl⟩ | ⟨-, hm⟩
      · exact hfree
      · exact waits.free j m hm
    · rcases loop?_reacted hl hm with ⟨rfl, rfl⟩ | ⟨hj, hm⟩
      · rcases hr.asks (t.asked j) with ⟨-, rfl⟩ | ⟨hasked, hkept⟩
        · simpa [reacted, askedAfter, PollLoop.read, Deed.asks?] using waits.desk
        · simpa [reacted, hasked] using waits.asked j l hl (hkept hphase).2
      · simpa [reacted, hj] using waits.asked j m hm hphase
  · obtain ⟨hcursor, hloops⟩ := Office.step_quiet quiet ho
    refine ⟨hcursor.trans waits.desk, fun i l hl => ?_, fun i l hl hphase => ?_⟩
    · rcases hloops i l hl with hold | rfl
      · exact waits.free i l hold
      · rfl
    · rcases hloops i l hl with hold | rfl
      · exact waits.asked i l hold hphase
      · simp at hphase

theorem Waits.run (waits : t.Waits cursor)
    (unanswered : ∀ i a, Errand.signal i (.answer a) ∉ history)
    (h : t.run source config capture history = some u) : u.Waits cursor := by
  refine foldlM_keeps (P := Waits cursor) ?_ waits h
  intro e he v w hv hw
  have hread : ∀ i a, e ≠ .signal i (.answer a) := by
    rintro i a rfl
    exact unanswered i a he
  exact hv.step hread hw

variable (source config capture)

/-- **The next run begins a batch anew**: a start is let in and comes to a read; whatever is done
before a read is answered, the cursor stays; and the answer to a read hands over the batch from its
first event. -/
structure Redoes (t : Recital) (cursor : Option Cursor) (b : Batch) : Prop where
  begins : ∃ u l, t.run source config capture [.start, .signal t.office.poller.loops.length .turn,
      .signal t.office.poller.loops.length .turn] = some u
    ∧ u.office.poller.loop? t.office.poller.loops.length = some l
    ∧ l.phase = .reading ∧ l.stopping = false
  stays : ∀ more u, (∀ i a, Errand.signal i (.answer a) ∉ more) →
    t.run source config capture more = some u → u.office.poller.desk.cursor = cursor
  anew : ∀ more u i l, (∀ i a, Errand.signal i (.answer a) ∉ more) →
    t.run source config capture more = some u → u.office.poller.loop? i = some l →
    l.phase = .reading → l.stopping = false →
    ∃ v e rest m, u.step source config capture (.signal i (.answer (.ok b))) = some v
      ∧ b.events = e :: rest ∧ v.office.poller.loop? i = some m
      ∧ m.phase = .handing e rest b.next

variable {source config capture}

/-- A new loop comes to a read in two turns. -/
theorem reads_of_new (hl : t.office.poller.loop? i = some {}) :
    ∃ u l, t.run source config capture [.signal i .turn, .signal i .turn] = some u
      ∧ u.office.poller.loop? i = some l ∧ l.phase = .reading ∧ l.stopping = false := by
  have honest : ∀ {u : Recital}, ∀ a, Signal.turn = .answer a →
      a = capture.reply (u.asked i) config.batch := fun a ha => nomatch ha
  let u := t.reacted i .turn {} (PollLoop.begin source config t.office.poller.desk {})
  have hbegin : t.step source config capture (.signal i .turn) = some u := step_signal hl rfl honest
  have hnext : u.office.poller.loop? i = some { phase := .checking } := loop?_reacted_self hl
  let v := u.reacted i .turn { phase := .checking }
    (PollLoop.read u.office.poller.desk { phase := .checking })
  have hread : u.step source config capture (.signal i .turn) = some v :=
    step_signal hnext rfl honest
  refine ⟨v, { phase := .reading }, ?_, loop?_reacted_self hnext, rfl, rfl⟩
  rw [run, List.foldlM_cons, hbegin, Option.bind_eq_bind, Option.bind_some, List.foldlM_cons, hread]
  rfl

/-- **Where no loop is live, a start is let in** and the new loop comes to a read. -/
theorem begins_of_not_isLive (hover : ∀ i, ¬ t.office.poller.IsLive i) :
    ∃ u l, t.run source config capture [.start, .signal t.office.poller.loops.length .turn,
        .signal t.office.poller.loops.length .turn] = some u
      ∧ u.office.poller.loop? t.office.poller.loops.length = some l
      ∧ l.phase = .reading ∧ l.stopping = false := by
  have hstart : t.step source config capture .start
      = some { t with office := ⟨t.office.poller.start.2, t.office.loose⟩ } := rfl
  rcases t.office.poller.start_cases with ⟨-, i, -, hi⟩ | ⟨hstarted, -⟩
  · exact absurd hi (hover i)
  rw [hstarted] at hstart
  have hnew : (t.office.poller.loops ++ [({} : PollLoop)])[t.office.poller.loops.length]?
      = some {} := List.getElem?_concat_length
  obtain ⟨u, l, hu, hl⟩ := @reads_of_new source config capture
    ⟨⟨⟨_, _, _⟩, t.office.loose⟩, t.asked, t.heard⟩ _ hnew
  refine ⟨u, l, ?_, hl⟩
  rw [run, List.foldlM_cons, hstart]
  exact hu

/-- **A batch that waits is begun anew**: no loop is live, and the cursor is answered by the batch.
-/
theorem Waits.redoes (waits : t.Waits cursor) (hover : ∀ i, ¬ t.office.poller.IsLive i)
    (hreply : capture.reply cursor config.batch = .ok b) (hne : b.events ≠ []) :
    Redoes source config capture t cursor b where
  begins := begins_of_not_isLive hover
  stays := fun more u unanswered h => (waits.run unanswered h).desk
  anew := by
    intro more u i l unanswered h hl hphase hgoing
    have hasked := (waits.run unanswered h).asked i l hl hphase
    obtain ⟨e, rest, hevents⟩ := List.exists_cons_of_ne_nil hne
    have hanswer : l.react source config u.office.poller.desk (.answer (.ok b))
        = some (PollLoop.onBatch u.office.poller.desk l b) := by
      simp [PollLoop.react, hphase, hgoing, PollLoop.onAnswer]
    have honest : ∀ a, Signal.answer (.ok b) = .answer a →
        a = capture.reply (u.asked i) config.batch := fun a ha => by
      rw [hasked, hreply]
      exact (Signal.answer.inj ha).symm
    refine ⟨_, e, rest, _, step_signal hl hanswer honest, hevents, loop?_reacted_self hl, ?_⟩
    rw [PollLoop.onBatch_loop, hevents]
    rfl

/-- **After a panic in a batch nothing is in hand**, and no loop is live, if runs do not overlap. -/
theorem Apart.waits_of_panic (alone : Apart source config capture history)
    (h : run source config capture history {} = some t) (hl : t.office.poller.loop? i = some l)
    (hbusy : l.IsBusy) {words : Option String}
    (hpanic : t.step source config capture (.signal i (.panic words)) = some u) :
    u.Waits t.office.poller.desk.cursor ∧ ∀ j, ¬ u.office.poller.IsLive j := by
  have hlive : t.office.poller.IsLive i := Poller.IsBusy.isLive ⟨l, hl, hbusy⟩
  rcases step_cases hpanic with ⟨i', s, l', r, he, hl', hr, -, rfl⟩ | ⟨quiet, -⟩
  · obtain ⟨rfl, rfl⟩ := Errand.signal.inj he
    obtain rfl := Option.some.inj (hl.symm.trans hl')
    obtain rfl := hr.panic_eq
    have hover : ∀ j m, (t.reacted i (.panic words) l
          (PollLoop.goTo t.office.poller.desk l (.crashed words))).office.poller.loop? j = some m →
        m.isOver = true := by
      intro j m hm
      rcases loop?_reacted hl hm with ⟨-, rfl⟩ | ⟨hj, hm⟩
      · rfl
      · exact (alone history [] t (by simp) h).isOver hlive hm hj
    refine ⟨waits_of_isOver hover, fun j hj => ?_⟩
    obtain ⟨m, hm, hmlive⟩ := Poller.isLive_iff.mp hj
    simp [hover j m hm] at hmlive
  · exact absurd rfl (quiet i _)

/-- **Events are heard at least once, across runs.**  At every moment of any history of a capture
being polled, the cursor that is stored, if any, is the numeral of a position, and every event
before the position has been handed over in a call that has returned.

When runs do not overlap, a run that ends by a panic leaves the cursor where it was, which is before
the batch in hand, and the next run begins that batch anew. -/
theorem heard_at_least_once {history : List Errand} {t : Recital}
    (h : run source config capture history {} = some t) :
    (∀ x, t.office.poller.desk.cursor = some x → (∃ k, x = Capture.cursorAt k)
        ∧ ∀ k, x = Capture.cursorAt k →
          k ≤ capture.size ∧ (capture.events.take k).Sublist t.heard)
      ∧ (Apart source config capture history → ∀ i l e rest next words u,
        t.office.poller.loop? i = some l → l.phase = .handing e rest next →
        t.step source config capture (.signal i (.panic words)) = some u →
        u.office.poller.desk.cursor = t.office.poller.desk.cursor
          ∧ ∃ start done, capture.offset? u.office.poller.desk.cursor = some start
            ∧ capture.batchAt start config.batch = ⟨done ++ e :: rest, next⟩
            ∧ Redoes source config capture u u.office.poller.desk.cursor
              ⟨done ++ e :: rest, next⟩) := by
  have backed : t.Backed config capture := backed_begin.run h
  refine ⟨fun x hx => ?_, fun alone i l e rest next words u hl hphase hpanic => ?_⟩
  · obtain ⟨k, hk, rfl, hheard⟩ := backed.desk x hx
    refine ⟨⟨k, rfl⟩, fun n hn => ?_⟩
    obtain rfl := Capture.cursorAt_injective hn
    exact ⟨hk, hheard⟩
  · have hbusy : l.IsBusy := .inr (by simp [hphase, Phase.isHanding])
    obtain ⟨waits, hover⟩ := alone.waits_of_panic h hl hbusy hpanic
    obtain ⟨start, done, hstart, hbatch, -⟩ := (backed.loops i l hl).handing e rest next hphase
    rw [alone.asked_eq (List.append_nil history).symm h i l hl hbusy] at hstart
    have hreply : capture.reply t.office.poller.desk.cursor config.batch
        = .ok ⟨done ++ e :: rest, next⟩ := by
      rw [Capture.reply_eq_batchAt hstart (by simp [hbatch]), hbatch]
    rw [waits.desk]
    exact ⟨rfl, start, done, hstart, hbatch, waits.redoes hover hreply (by simp)⟩

/-- Four events in batches of two, and a panic at the last one: the third is handed over again. -/
theorem heard_at_least_once_after_panic :
    let config : PollConfig := { PollConfig.standard with batch := 2 }
    let capture : Capture := ⟨[.other "a", .other "b", .other "c", .other "d"]⟩
    let history : List Errand := [.start, .signal 0 .turn, .signal 0 .turn,
      .signal 0 (.answer (.ok (capture.batchAt 0 2))), .signal 0 .handled, .signal 0 .handled,
      .signal 0 .turn, .signal 0 (.answer (.ok (capture.batchAt 2 2))), .signal 0 .handled]
    ∃ t u, run "replay" config capture history {} = some t
      ∧ (capture.events.take 2).Sublist t.heard
      ∧ t.step "replay" config capture (.signal 0 (.panic none)) = some u
      ∧ Redoes "replay" config capture u (some (Capture.cursorAt 2))
        ⟨[.other "c", .other "d"], some (Capture.cursorAt 4)⟩ := by
  intro config capture history
  have hone : ∀ k ≤ 9, ∀ t ∈ run "replay" config capture (history.take k) {},
      t.office.poller.loops.length ≤ 1 := by
    decide
  have alone : Apart "replay" config capture history := fun before after t hsplit h i j hi hj => by
    have hk : before.length ≤ 9 := by
      have := congrArg List.length hsplit
      simp [history] at this
      omega
    have hbefore : history.take before.length = before := by rw [hsplit, List.take_left]
    have := hone _ hk t (by rw [hbefore]; exact h)
    have := hi.lt
    have := hj.lt
    omega
  have hfacts : (run "replay" config capture history {}).map
      (fun t => (t.office.poller.desk.cursor, t.office.poller.loop? 0)) = some
        (some (Capture.cursorAt 2),
          some { phase := .handing (.other "d") [] (some (Capture.cursorAt 4)) }) := by decide
  obtain ⟨t, hrun, hfacts⟩ := Option.map_eq_some_iff.mp hfacts
  obtain ⟨hcursor, hl⟩ := Prod.mk.inj hfacts
  have hpanic : t.step "replay" config capture (.signal 0 (.panic none)) = some _ :=
    step_signal hl rfl (fun a ha => nomatch ha)
  obtain ⟨hheard, hafter⟩ := heard_at_least_once hrun
  obtain ⟨hsame, start, done, hstart, hbatch, hredoes⟩ :=
    hafter alone 0 _ _ _ _ none _ hl rfl hpanic
  rw [hsame, hcursor] at hstart hredoes
  obtain rfl : 2 = start := Option.some.inj ((by decide : _ = some 2).symm.trans hstart)
  rw [← hbatch] at hredoes
  exact ⟨t, _, hrun, ((hheard _ hcursor).2 2 rfl).2, hpanic, hredoes⟩

end Recital

end ChatFeed
