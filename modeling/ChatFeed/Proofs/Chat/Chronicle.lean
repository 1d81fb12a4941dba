import ChatFeed.Proofs.Chat.Newest
import ChatFeed.Proofs.Chat.Passage
import ChatFeed.Proofs.Chat.Story
import Mathlib.Control.Monad.Writer

/-!
# Proofs/Chat/Chronicle — runs that tell their story

A `Diary` is a run that tells a story beside its value.  `Chronicler` does what `Company` does and
tells of every delivery, registration, removal and call, in the order in which they begin, what
happens within one standing with it.

* `Cast.recalls` — without the story it is the same run.
* `Cast.recounts` — the story is what has happened: it plays between the stands of the chat before
  and after, its calls are what has been handed over, and its failures are those that were counted.
-/

namespace ChatFeed

/-- **A run that tells its story.** -/
abbrev Diary (α : Type) := WriterT Story Run α

/-- **An incident is told** when it is over, with the story of what happened within it. -/
def Diary.entry {α : Type} (what : α → Incident) (x : Diary α) : Diary α := WriterT.mk do
  let (a, within) ← x.run
  return (a, .told (what a) within .quiet)

/-- **A cast that tells its story**, and a way to take an action that does as well. -/
structure Chronicler extends Cast where
  act : Occasion → Action → Diary Reply

namespace Chronicler

variable (k : Chronicler) (plain : Company)

/-- Take the steps of a part. -/
def take (o : Occasion) : List Step → Diary Unit
  | [] => return ()
  | s :: ss => do
    if ← Company.enter s.mark then
      let reply ← k.act o s.action
      Run.note (.acted s.action o.actor reply)
    take o ss

/-- Play a part. -/
def play (o : Occasion) (p : Part) : Diary Ending := do
  k.take o p.steps
  return p.ending

/-- What a listener does in its role, once it has been handed a message. -/
def respond (o : Occasion) (m : Message) (turn : Nat) : ListenerRole → Diary Ending
  | .transcript directory => plain.recording directory m
  | .scripted react => k.play o (react m turn)

/-- What a listener does with a message. -/
def perform (l : String) (m : Message) : Diary Ending := do
  let (turn, about) ← Run.hand l m
  k.respond plain ⟨l, about⟩ m turn (k.listener l)

/-- **Call a listener**; a failure is counted and told.  Tells whether it took the message. -/
def attempt (warning : String) (l : String) (m : Message) : Diary Bool := do
  match (← Diary.entry (.call l m) (k.perform plain l m)).error? with
  | none => return true
  | some e =>
    Run.failure warning (Company.listenerDetails m e)
    return false

/-- **Hand a message to some listeners.** -/
def handTo (m : Message) : List String → Diary Report
  | [] => return {}
  | l :: ls => do
    let taken ← k.attempt plain "Chat listener failed" l m
    return (← handTo m ls).withOne taken

/-- **Deliver a message**; those who are there are looked up before anything happens. -/
def deliver (id : ChatId) (m : Message) : Diary Report := do
  let there := (← Run.chat id).listeners.members
  Diary.entry (.delivery m there) do
    Run.onChat id fun c => { c with last := some m }
    k.handTo plain m (← Run.chat id).listeners.members

/-- Hand the last message to a listener that is about to be registered. -/
def catchUp (id : ChatId) (l : String) : Diary Unit := do
  match (← Run.chat id).last with
  | none => return ()
  | some m =>
    let _ ← k.attempt plain "Listener failed during last-message replay" l m

/-- **Register a listener**; whether it is known is looked up before anything happens. -/
def register (id : ChatId) (l : String) : Diary Bool := do
  let known := (← Run.chat id).listeners.contains l
  Diary.entry (fun _ => .registration l known) do
    if (← Run.chat id).listeners.contains l then return false
    k.catchUp plain id l
    let known := (← Run.chat id).listeners.contains l
    Run.onChat id fun c => { c with listeners := c.listeners.insert l }
    return !known

/-- Take an action on a chat; only calls are worth telling. -/
def actOn (id : ChatId) : ChatAction → Diary Reply
  | .register l => do return .flag (← k.register plain id l)
  | .unregister l => do return .flag (← Diary.entry (.removal l) (Run.unregister id l))
  | .deliver m => do return .report (← k.deliver plain id m)
  | action => plain.actOn id action

/-- **Take an action.** -/
def takeAction (o : Occasion) : Action → Diary Reply
  | .onChat target action => do
    match ← Company.find o target with
    | none => return .noChat
    | some id => k.actOn plain id action
  | a => plain.takeAction o a

/-- Take some actions on a chat, one after the other. -/
def actAll (id : ChatId) : List ChatAction → Diary Unit
  | [] => return ()
  | a :: as => do
    let _ ← k.actOn plain id a
    actAll id as

end Chronicler

/-- **Take an action and tell the story**, callbacks going at most so deep. -/
def Cast.chronicle (cast : Cast) : Nat → Occasion → Action → Diary Reply
  | 0 => fun _ _ => (failure : Run Reply)
  | n + 1 => Chronicler.takeAction { cast with act := cast.chronicle n } (cast.company n)

/-- The company of a cast that tells its story. -/
def Cast.chronicler (cast : Cast) (depth : Nat) : Chronicler :=
  { cast with act := cast.chronicle depth }

/-! ## Without the story -/

namespace Diary

variable {α β : Type}

/-- **A diary without its story is a run.** -/
def Recalls (x : Diary α) (y : Run α) : Prop := Prod.fst <$> x.run = y

theorem recalls_pure (a : α) : (pure a : Diary α).Recalls (pure a) := rfl

theorem recalls_lift (x : Run α) : (liftM x : Diary α).Recalls x := by
  change Prod.fst <$> (fun a => (a, (∅ : Story))) <$> x = x
  simp

theorem Recalls.bind {x : Diary α} {y : Run α} {f : α → Diary β} {g : α → Run β}
    (hx : x.Recalls y) (hf : ∀ a, (f a).Recalls (g a)) : (x >>= f).Recalls (y >>= g) := by
  change Prod.fst <$> (x.run >>= fun p => (fun q => (q.1, p.2 ++ q.2)) <$> (f p.1).run) = _
  rw [← hx, map_bind, bind_map_left]
  refine bind_congr fun p => ?_
  rw [← hf p.1, ← comp_map]
  rfl

theorem Recalls.entry {what : α → Incident} {x : Diary α} {y : Run α} (hx : x.Recalls y) :
    (Diary.entry what x).Recalls y := by
  change Prod.fst <$> (x.run >>= fun p => pure (p.1, Story.told (what p.1) p.2 .quiet)) = y
  rw [← hx, map_bind, ← bind_pure_comp]
  rfl

/-- **A run has a story** when a diary tells it. -/
theorem Recalls.exists_story {x : Diary α} {y : Run α} (h : x.Recalls y) {w v : World} {a : α}
    (hrun : y.run w = some (a, v)) : ∃ story, x.run.run w = some ((a, story), v) := by
  rw [← h, StateT.run_map, Option.map_eq_map, Option.map_eq_some_iff] at hrun
  obtain ⟨⟨⟨b, story⟩, u⟩, hx, hpair⟩ := hrun
  obtain ⟨rfl, rfl⟩ := Prod.mk.inj hpair
  exact ⟨story, hx⟩

/-- A run goes first, in both. -/
theorem recalls_lift_bind {x : Run α} {f : α → Diary β} {g : α → Run β}
    (hf : ∀ a, (f a).Recalls (g a)) : ((liftM x : Diary α) >>= f).Recalls (x >>= g) :=
  (recalls_lift x).bind hf

/-- A look at a chat leaves no trace. -/
theorem recalls_chat_bind {id : ChatId} {f : Chat → Diary β} {y : Run β}
    (hf : ∀ c, (f c).Recalls y) : ((liftM (Run.chat id) : Diary Chat) >>= f).Recalls y :=
  (recalls_lift (Run.chat id)).bind hf

end Diary

/-- **A chronicler tells of a company**: it has its cast, and takes its actions. -/
structure Chronicler.TellsOf (k : Chronicler) (plain : Company) : Prop where
  cast : k.toCast = plain.toCast
  act : ∀ o a, (k.act o a).Recalls (plain.act o a)

/-- What a listener does with a message. -/
def Company.perform (k : Company) (l : String) (m : Message) : Run Ending := do
  let (turn, about) ← Run.hand l m
  match k.listener l with
  | .transcript directory => k.recording directory m
  | .scripted react => k.play ⟨l, about⟩ (react m turn)

/-- An attempt is what the listener does, and then its failure is told. -/
theorem Company.attempt_eq (k : Company) (warning l : String) (m : Message) :
    k.attempt warning l m = (do
      match (← k.perform l m).error? with
      | none => return true
      | some e =>
        Run.failure warning (listenerDetails m e)
        return false) := by
  rw [attempt, Lookout.call_eq, perform]
  simp only [bind_assoc]
  refine bind_congr fun x => ?_
  cases k.listener l <;>
    exact (bind_assoc _ _ _).trans (bind_congr fun _ => pure_bind _ _)

/-- Catching up is an attempt to call with the last message. -/
theorem Company.catchUp_eq (k : Company) (id : ChatId) (l : String) :
    k.catchUp id l = (do
      match (← Run.chat id).last with
      | none => return ()
      | some m =>
        let _ ← k.attempt "Listener failed during last-message replay" l m) := by
  rw [catchUp]
  refine bind_congr fun c => ?_
  cases c.last with
  | none => rfl
  | some m =>
    simp only [attempt, bind_assoc]
    refine bind_congr fun e => ?_
    cases e <;> simp

namespace Chronicler

open Diary

variable {k : Chronicler} {plain : Company}

theorem recalls_take (tells : k.TellsOf plain) (o : Occasion) (steps : List Step) :
    (k.take o steps).Recalls (plain.take o steps) := by
  induction steps with
  | nil => exact recalls_pure ()
  | cons s steps ih =>
    refine recalls_lift_bind fun entered => ?_
    cases entered with
    | false => exact ih
    | true => exact (tells.act o s.action).bind fun _ => recalls_lift_bind fun _ => ih

theorem recalls_play (tells : k.TellsOf plain) (o : Occasion) (p : Part) :
    (k.play o p).Recalls (plain.play o p) :=
  (recalls_take tells o p.steps).bind fun _ => recalls_pure _

theorem recalls_perform (tells : k.TellsOf plain) (l : String) (m : Message) :
    (k.perform plain l m).Recalls (plain.perform l m) := by
  refine recalls_lift_bind fun x => ?_
  have hrole : k.listener l = plain.listener l := by rw [tells.cast]
  rw [hrole]
  cases plain.listener l with
  | transcript directory => exact recalls_lift _
  | scripted react => exact recalls_play tells _ _

/-- **A call that is told is a call.** -/
theorem recalls_attempt (tells : k.TellsOf plain) (warning l : String) (m : Message) :
    (k.attempt plain warning l m).Recalls (plain.attempt warning l m) := by
  rw [Company.attempt_eq]
  refine (recalls_perform tells l m).entry.bind fun ending => ?_
  cases ending.error? with
  | none => exact recalls_pure _
  | some e => exact recalls_lift_bind fun _ => recalls_pure _

theorem recalls_handTo (tells : k.TellsOf plain) (m : Message) (ls : List String) :
    (k.handTo plain m ls).Recalls (plain.handTo m ls) := by
  induction ls with
  | nil => exact recalls_pure _
  | cons l ls ih =>
    rw [Company.handTo_cons]
    exact (recalls_attempt tells _ l m).bind fun _ => ih.bind fun _ => recalls_pure _

/-- **A delivery that is told is a delivery.** -/
theorem recalls_deliver (tells : k.TellsOf plain) (id : ChatId) (m : Message) :
    (k.deliver plain id m).Recalls (plain.deliver id m) :=
  recalls_chat_bind fun _ => .entry <| recalls_lift_bind fun _ => recalls_lift_bind fun _ =>
    recalls_handTo tells m _

theorem recalls_catchUp (tells : k.TellsOf plain) (id : ChatId) (l : String) :
    (k.catchUp plain id l).Recalls (plain.catchUp id l) := by
  rw [Company.catchUp_eq]
  refine recalls_lift_bind fun c => ?_
  cases c.last with
  | none => exact recalls_pure ()
  | some m => exact (recalls_attempt tells _ l m).bind fun _ => recalls_pure ()

/-- **A registration that is told is a registration.** -/
theorem recalls_register (tells : k.TellsOf plain) (id : ChatId) (l : String) :
    (k.register plain id l).Recalls (plain.register id l) := by
  refine recalls_chat_bind fun _ => .entry <| recalls_lift_bind fun c => ?_
  by_cases hl : c.listeners.contains l = true
  · rw [if_pos hl, if_pos hl]
    exact recalls_pure false
  · rw [if_neg hl, if_neg hl]
    refine (recalls_catchUp tells id l).bind fun _ => recalls_lift_bind fun c => ?_
    exact recalls_lift_bind fun _ => recalls_pure _

theorem recalls_actOn (tells : k.TellsOf plain) (id : ChatId) (action : ChatAction) :
    (k.actOn plain id action).Recalls (plain.actOn id action) := by
  cases action with
  | register l => exact (recalls_register tells id l).bind fun _ => recalls_pure _
  | unregister l => exact (recalls_lift _).entry.bind fun _ => recalls_pure _
  | deliver m => exact (recalls_deliver tells id m).bind fun _ => recalls_pure _
  | _ => exact recalls_lift _

theorem recalls_takeAction (tells : k.TellsOf plain) (o : Occasion) (a : Action) :
    (k.takeAction plain o a).Recalls (plain.takeAction o a) := by
  cases a with
  | onChat target action =>
    refine recalls_lift_bind fun found => ?_
    cases found with
    | none => exact recalls_pure _
    | some id => exact recalls_actOn tells id action
  | _ => exact recalls_lift _

theorem recalls_actAll (tells : k.TellsOf plain) (id : ChatId) (actions : List ChatAction) :
    (k.actAll plain id actions).Recalls (plain.actAll id actions) := by
  induction actions with
  | nil => exact recalls_pure ()
  | cons a actions ih => exact (recalls_actOn tells id a).bind fun _ => ih

end Chronicler

/-- **A cast that tells its story does what it does**, however deep callbacks go. -/
theorem Cast.recalls (cast : Cast) (depth : Nat) :
    (cast.chronicler depth).TellsOf (cast.company depth) := by
  refine ⟨rfl, fun o a => ?_⟩
  induction depth generalizing o a with
  | zero => exact Diary.recalls_lift _
  | succ n ih => exact Chronicler.recalls_takeAction ⟨rfl, ih⟩ o a

/-! ## What the story tells -/

namespace World

/-- What a chat has to do with its calls. -/
def stand (w : World) (id : ChatId) : Stand :=
  ⟨(w.directory.chat id).listeners, (w.directory.chat id).last⟩

/-- How many failures of callbacks have been counted. -/
def failures (w : World) : Nat := w.journal.total .listenerFailures

/-- **Only books differ**, and no failure has been counted. -/
structure Smooth (w w' : World) : Prop extends Aside w w' where
  failures : w'.failures = w.failures

/-- **A story is what has happened** at a chat between two worlds: it plays between the stands of
the chat, its calls are what has been handed over, its failures are those that have been counted,
and it has deliveries only if somebody delivers. -/
structure Recount (w₀ : World) (id : ChatId) (delivers : Prop) (agenda : Agenda) (w : World)
    (t : Story) (w' : World) : Prop where
  home : Home w₀ id w'
  plays : t.Plays agenda (w.stand id) (w'.stand id)
  received : w'.received = w.received ++ t.hands
  failures : w'.failures = w.failures + t.failures
  delivers : ∀ m there report, .delivery m there report ∈ t.incidents → delivers

variable {w₀ w v w' : World} {id : ChatId} {delivers : Prop} {agenda agenda' whole : Agenda}
  {s t : Story} {l : String} {m : Message}

theorem Aside.stand (h : Aside w w') (id : ChatId) : w'.stand id = w.stand id := by
  unfold World.stand
  rw [h.directory]

theorem Smooth.refl (w : World) : Smooth w w := ⟨.refl w, rfl⟩

/-- Books alone are no story. -/
theorem Smooth.recount (h : Smooth w w') (home : Home w₀ id w) :
    Recount w₀ id delivers .steps w .quiet w' where
  home := h.home home
  plays := by rw [h.stand id]; exact .quiet
  received := h.received.trans (List.append_nil _).symm
  failures := h.failures
  delivers := fun _ _ _ hmem => (nomatch hmem)

/-- One story, and then another. -/
theorem Recount.append (h : Recount w₀ id delivers agenda w s v)
    (h' : Recount w₀ id delivers agenda' v t w')
    (plays : (s ++ t).Plays whole (w.stand id) (w'.stand id)) :
    Recount w₀ id delivers whole w (s ++ t) w' where
  home := h'.home
  plays := plays
  received := by rw [h'.received, h.received, Story.hands_append, List.append_assoc]
  failures := by rw [h'.failures, h.failures, Story.failures_append, Nat.add_assoc]
  delivers := fun m there report hmem => by
    rw [Story.incidents_append] at hmem
    exact (List.mem_append.mp hmem).elim (h.delivers m there report) (h'.delivers m there report)

/-- The steps of a callback, and then others. -/
theorem Recount.trans (h : Recount w₀ id delivers .steps w s v)
    (h' : Recount w₀ id delivers .steps v t w') : Recount w₀ id delivers .steps w (s ++ t) w' :=
  h.append h' (h.plays.append h'.plays)

/-- **A call**, after which only its failure is counted. -/
theorem Recount.call {ending : Ending} (h : Recount w₀ id delivers .steps (w.hear [(l, m)]) t v)
    (aside : Aside v w')
    (counted : w'.failures = v.failures + if (Incident.call l m ending).fails then 1 else 0) :
    Recount w₀ id delivers (.calls [(l, m)]) w (.told (.call l m ending) t .quiet) w' where
  home := aside.home h.home
  plays := by rw [aside.stand id]; exact .call h.plays .ended
  received := by
    rw [aside.received, h.received, Story.hands_told]
    simp [World.hear, Incident.hand?, Story.hands, Story.incidents]
  failures := by
    have hinner : v.failures = w.failures + t.failures := h.failures
    have hnone : Story.quiet.failures = 0 := rfl
    rw [counted, hinner, Story.failures_told, hnone]
    omega
  delivers := fun m' there report hmem => by
    have hinner : .delivery m' there report ∈ t.incidents := by
      simpa [Story.incidents] using hmem
    exact h.delivers m' there report hinner

/-- **Something that is no call**, with what happened within it, and which hands nothing over. -/
theorem Recount.wrap {u : World} {what : Incident} (h : Recount w₀ id delivers agenda v t u)
    (before : v.received = w.received ∧ v.failures = w.failures)
    (after : w'.received = u.received ∧ w'.failures = u.failures) (home : Home w₀ id w')
    (silent : what.hand? = none)
    (delivering : ∀ m there report, what = .delivery m there report → delivers)
    (plays : (Story.told what t .quiet).Plays .steps (w.stand id) (w'.stand id)) :
    Recount w₀ id delivers .steps w (.told what t .quiet) w' where
  home := home
  plays := plays
  received := by
    rw [after.1, h.received, before.1, Story.hands_told, silent]
    simp [Story.hands, Story.incidents]
  failures := by
    have hnone : Story.quiet.failures = 0 := rfl
    have hfails : what.fails = false := by cases what <;> first | rfl | cases silent
    rw [after.2, h.failures, before.2, Story.failures_told, hfails, hnone]
    simp
  delivers := fun m there report hmem => by
    rw [Story.incidents, Story.incidents, List.append_nil] at hmem
    exact (List.mem_cons.mp hmem).elim (fun heq => delivering m there report heq.symm)
      (h.delivers m there report)

/-- Where a chat stands when it has changed. -/
theorem stand_onChat (hlt : id < w.directory.chats.length) (f : Chat → Chat) :
    (w.onChat id f).stand id
      = ⟨(f (w.directory.chat id)).listeners, (f (w.directory.chat id)).last⟩ := by
  rw [World.stand, World.onChat, Directory.chat_update hlt]

/-- Nothing happens after the listeners of a chat have changed. -/
theorem plays_onListeners (hlt : id < w.directory.chats.length)
    (f : Roster String → Roster String) :
    Story.quiet.Plays .steps { w.stand id with listeners := f (w.stand id).listeners }
      ((w.onChat id fun c => { c with listeners := f c.listeners }).stand id) := by
  rw [stand_onChat hlt]
  exact .quiet

theorem Recount.mono {delivers' : Prop} (h : Recount w₀ id delivers agenda w t w')
    (le : delivers → delivers') : Recount w₀ id delivers' agenda w t w' :=
  { h with delivers := fun m there report hmem => le (h.delivers m there report hmem) }

end World

namespace Run

variable {w w' : World}

theorem smooth_note {n : Note} {u : Unit} (h : (note n).run w = some (u, w')) : w.Smooth w' := by
  obtain rfl := run_modify_eq_some.mp h
  exact ⟨⟨⟨rfl, rfl, rfl⟩, rfl⟩, rfl⟩

theorem smooth_enter {mark : Option String} {b : Bool}
    (h : (Company.enter mark).run w = some (b, w')) : w.Smooth w' := by
  refine ⟨aside_enter h, ?_⟩
  rcases enter_cases h with rfl | ⟨name, rfl⟩ <;> rfl

theorem smooth_recording {k : Company} {directory : Option String} {m : Message} {e : Ending}
    (h : (k.recording directory m).run w = some (e, w')) : w.Smooth w' := by
  refine ⟨aside_recording h, ?_⟩
  obtain ⟨_, v, hremark, h⟩ := run_bind_eq_some.mp h
  obtain rfl := run_modify_eq_some.mp hremark
  obtain rfl := (Prod.mk.inj (Option.some.inj h)).2
  exact Journal.total_append _ _ _

/-- **A failure is counted once.** -/
theorem failures_failure {message : String} {details : List (String × Detail)} {u : Unit}
    (h : (failure message details).run w = some (u, w')) : w'.failures = w.failures + 1 := by
  obtain ⟨_, v, hcount, hwarn⟩ := run_bind_eq_some.mp h
  obtain rfl := run_modify_eq_some.mp hcount
  obtain rfl := run_modify_eq_some.mp hwarn
  unfold World.failures
  rw [Journal.total_append, Journal.total_append]
  rfl

end Run

namespace Diary

open World

variable {α β : Type} {w w' w₀ : World} {id : ChatId} {delivers : Prop} {t : Story}

theorem run_bind_eq_some {x : Diary α} {f : α → Diary β} {b : β} :
    (x >>= f).run.run w = some ((b, t), w') ↔ ∃ a s v s', x.run.run w = some ((a, s), v)
      ∧ (f a).run.run v = some ((b, s'), w') ∧ t = s ++ s' := by
  change ((x.run >>= fun p => (fun q => (q.1, p.2 ++ q.2)) <$> (f p.1).run : Run (β × Story)).run
    w) = _ ↔ _
  rw [Run.run_bind_eq_some]
  constructor
  · rintro ⟨⟨a, s⟩, v, hx, hf⟩
    rw [StateT.run_map, Option.map_eq_map, Option.map_eq_some_iff] at hf
    obtain ⟨⟨⟨c, s'⟩, u⟩, hf, heq⟩ := hf
    obtain ⟨hpair, rfl⟩ := Prod.mk.inj heq
    obtain ⟨rfl, rfl⟩ := Prod.mk.inj hpair
    exact ⟨a, s, v, s', hx, hf, rfl⟩
  · rintro ⟨a, s, v, s', hx, hf, rfl⟩
    refine ⟨(a, s), v, hx, ?_⟩
    rw [StateT.run_map, hf]
    rfl

theorem run_lift_eq_some {x : Run α} {a : α} :
    (liftM x : Diary α).run.run w = some ((a, t), w') ↔ x.run w = some (a, w') ∧ t = .quiet := by
  change ((fun a => (a, Story.quiet)) <$> x : Run (α × Story)).run w = _ ↔ _
  rw [StateT.run_map, Option.map_eq_map, Option.map_eq_some_iff]
  constructor
  · rintro ⟨⟨b, v⟩, hx, heq⟩
    obtain ⟨hpair, rfl⟩ := Prod.mk.inj heq
    obtain ⟨rfl, rfl⟩ := Prod.mk.inj hpair
    exact ⟨hx, rfl⟩
  · rintro ⟨hx, rfl⟩
    exact ⟨(a, w'), hx, rfl⟩

theorem run_pure_eq_some {a b : α} :
    (pure a : Diary α).run.run w = some ((b, t), w') ↔ b = a ∧ t = .quiet ∧ w' = w := by
  change (pure (a, Story.quiet) : Run (α × Story)).run w = _ ↔ _
  rw [Run.run_pure_eq_some, Prod.mk.injEq, and_assoc]

theorem run_entry_eq_some {what : α → Incident} {x : Diary α} {a : α} :
    (entry what x).run.run w = some ((a, t), w') ↔ ∃ within, x.run.run w = some ((a, within), w')
      ∧ t = .told (what a) within .quiet := by
  change (x.run >>= fun p => pure (p.1, Story.told (what p.1) p.2 .quiet) : Run (α × Story)).run w
    = _ ↔ _
  rw [Run.run_bind_eq_some]
  constructor
  · rintro ⟨⟨b, s⟩, v, hx, h⟩
    obtain ⟨hpair, rfl⟩ := Run.run_pure_eq_some.mp h
    obtain ⟨rfl, rfl⟩ := Prod.mk.inj hpair
    exact ⟨s, hx, rfl⟩
  · rintro ⟨s, hx, rfl⟩
    exact ⟨(a, s), w', hx, rfl⟩

/-- A run that is lifted and then goes on tells what comes then. -/
theorem run_lift_bind_eq_some {x : Run α} {f : α → Diary β} {b : β} :
    ((liftM x : Diary α) >>= f).run.run w = some ((b, t), w')
      ↔ ∃ a v, x.run w = some (a, v) ∧ (f a).run.run v = some ((b, t), w') := by
  rw [run_bind_eq_some]
  constructor
  · rintro ⟨a, s, v, s', hx, hf, rfl⟩
    obtain ⟨hrun, rfl⟩ := run_lift_eq_some.mp hx
    exact ⟨a, v, hrun, hf⟩
  · rintro ⟨a, v, hx, hf⟩
    exact ⟨a, .quiet, v, t, run_lift_eq_some.mpr ⟨hx, rfl⟩, hf, rfl⟩

/-- **A diary that tells what has happened**, steps of callbacks. -/
def Recounts (x : Diary α) (w₀ : World) (id : ChatId) (delivers : Prop) : Prop :=
  ∀ w a t w', Home w₀ id w → x.run.run w = some ((a, t), w') →
    Recount w₀ id delivers .steps w t w'

theorem recounts_pure (a : α) : (pure a : Diary α).Recounts w₀ id delivers := by
  intro w b t w' home h
  obtain ⟨-, rfl, rfl⟩ := run_pure_eq_some.mp h
  exact (Smooth.refl w').recount home

theorem Recounts.bind {x : Diary α} {f : α → Diary β} (hx : x.Recounts w₀ id delivers)
    (hf : ∀ a, (f a).Recounts w₀ id delivers) : (x >>= f).Recounts w₀ id delivers := by
  intro w b t w' home h
  obtain ⟨a, s, v, s', hrun, hrest, rfl⟩ := run_bind_eq_some.mp h
  have hfirst := hx w a s v home hrun
  exact hfirst.trans (hf a v b s' w' hfirst.home hrest)

/-- Books are no matter of a story. -/
theorem recounts_smooth {x : Run α} (hx : ∀ w a w', x.run w = some (a, w') → Smooth w w') :
    (liftM x : Diary α).Recounts w₀ id delivers := by
  intro w a t w' home h
  obtain ⟨hrun, rfl⟩ := run_lift_eq_some.mp h
  exact (hx w a w' hrun).recount home

end Diary

namespace Chronicler

open Diary World Lookout

variable {k : Chronicler} {plain : Company} {w₀ w v w' : World} {id : ChatId} {delivers : Prop}
  {l warning : String} {m : Message} {t : Story}

/-- **A chronicler that tells what has happened** in all that its callbacks may do. -/
def Truthful (k : Chronicler) (w₀ : World) (id : ChatId) (delivers : Prop) : Prop :=
  ∀ o a, Allowed w₀ id delivers o a → (k.act o a).Recounts w₀ id delivers

theorem recounts_take (truthful : k.Truthful w₀ id delivers) {o : Occasion} {steps : List Step}
    (allowed : ∀ s ∈ steps, Allowed w₀ id delivers o s.action) :
    (k.take o steps).Recounts w₀ id delivers := by
  induction steps with
  | nil => exact recounts_pure ()
  | cons s steps ih =>
    have hrest := ih fun s' hs => allowed s' (List.mem_cons_of_mem _ hs)
    have hact := truthful o s.action (allowed s List.mem_cons_self)
    refine (recounts_smooth fun _ _ _ => Run.smooth_enter).bind fun entered => ?_
    cases entered with
    | false => exact hrest
    | true =>
      exact hact.bind fun _ => (recounts_smooth fun _ _ _ => Run.smooth_note).bind fun _ => hrest

/-- **What a listener does with a message** is told from where it has been handed it. -/
theorem recount_perform (truthful : k.Truthful w₀ id k.Delivers) (devoted : k.toCast.Devoted w₀ id)
    {ending : Ending} (home : Home w₀ id w)
    (h : (k.perform plain l m).run.run w = some ((ending, t), w')) :
    Recount w₀ id k.Delivers .steps (w.hear [(l, m)]) t w' := by
  obtain ⟨x, v, hhand, h⟩ := run_lift_bind_eq_some.mp h
  obtain ⟨rfl, rfl⟩ := Prod.mk.inj (Option.some.inj hhand)
  have hsmooth : Smooth (w.hear [(l, m)])
      { w.hear [(l, m)] with notes := w.notes ++ [.call l m.id] } := ⟨⟨⟨rfl, rfl, rfl⟩, rfl⟩, rfl⟩
  have hhome : Home w₀ id (w.hear [(l, m)]) := ⟨home.labels, home.rooms, home.lt⟩
  have hbefore : Recount w₀ id k.Delivers .steps _ .quiet _ := hsmooth.recount hhome
  refine hbefore.trans ?_
  dsimp only at h
  cases hrole : k.listener l with
  | transcript directory =>
    rw [hrole] at h
    exact recounts_smooth (fun _ _ _ => Run.smooth_recording) _ _ _ _ hbefore.home h
  | scripted react =>
    rw [hrole, home.rooms] at h
    have hallowed := allowed_of_devoted devoted hrole m (w.received.countP (·.1 = l))
    exact ((recounts_take truthful hallowed).bind fun _ => recounts_pure _) _ _ _ _ hbefore.home h

/-- **An attempt to call a listener** is one incident, and its failure is counted. -/
theorem recount_attempt (truthful : k.Truthful w₀ id k.Delivers) (devoted : k.toCast.Devoted w₀ id)
    {taken : Bool} (home : Home w₀ id w)
    (h : (k.attempt plain warning l m).run.run w = some ((taken, t), w')) :
    Recount w₀ id k.Delivers (.calls [(l, m)]) w t w'
      ∧ ∀ after, (t ++ after).report = after.report.withOne taken := by
  obtain ⟨ending, s, v, s', hentry, hend, rfl⟩ := run_bind_eq_some.mp h
  obtain ⟨within, hperform, rfl⟩ := run_entry_eq_some.mp hentry
  have hinner := recount_perform truthful devoted home hperform
  cases herror : ending.error? with
  | none =>
    rw [herror] at hend
    obtain ⟨rfl, rfl, rfl⟩ := run_pure_eq_some.mp hend
    exact ⟨hinner.call (.refl _) (by simp [Incident.fails, herror]),
      fun after => by simp [Story.report, Incident.fails, herror]⟩
  | some e =>
    rw [herror] at hend
    obtain ⟨_, u, hfail, hend⟩ := run_lift_bind_eq_some.mp hend
    obtain ⟨rfl, rfl, rfl⟩ := run_pure_eq_some.mp hend
    exact ⟨hinner.call (Run.aside_failure hfail)
        (by rw [Run.failures_failure hfail]; simp [Incident.fails, herror]),
      fun after => by simp [Story.report, Incident.fails, herror]⟩

/-- **A message is handed to some listeners**: each is called once, in order, and the report is that
of the story. -/
theorem recount_handTo (truthful : k.Truthful w₀ id k.Delivers) (devoted : k.toCast.Devoted w₀ id)
    {ls : List String} {r : Report} (home : Home w₀ id w)
    (h : (k.handTo plain m ls).run.run w = some ((r, t), w')) :
    Recount w₀ id k.Delivers (.round m ls) w t w' ∧ t.report = r := by
  induction ls generalizing w t r with
  | nil =>
    obtain ⟨rfl, rfl, rfl⟩ := run_pure_eq_some.mp h
    exact ⟨{ (Smooth.refl w').recount home with plays := .ended }, rfl⟩
  | cons l ls ih =>
    obtain ⟨taken, s, v, s', hattempt, hrest, rfl⟩ := run_bind_eq_some.mp h
    obtain ⟨r', t', u, s'', hrest, hend, rfl⟩ := run_bind_eq_some.mp hrest
    obtain ⟨rfl, rfl, rfl⟩ := run_pure_eq_some.mp hend
    obtain ⟨hfirst, hreport⟩ := recount_attempt truthful devoted home hattempt
    obtain ⟨hothers, rfl⟩ := ih hfirst.home hrest
    rw [Story.append_quiet]
    exact ⟨hfirst.append hothers (hfirst.plays.append_calls hothers.plays), hreport t'⟩

/-- **A delivery** is one incident; within it those are called who were there when it started. -/
theorem recount_deliver (truthful : k.Truthful w₀ id k.Delivers) (devoted : k.toCast.Devoted w₀ id)
    {r : Report} (home : Home w₀ id w)
    (h : (k.deliver plain id m).run.run w = some ((r, t), w')) :
    ∃ within, t = .told (.delivery m (w.members id) within.report) within .quiet
      ∧ Recount w₀ id k.Delivers (.round m (w.members id))
        (w.onChat id fun c => { c with last := some m }) within w' := by
  obtain ⟨_, _, hchat, h⟩ := run_lift_bind_eq_some.mp h
  obtain ⟨rfl, rfl⟩ := Prod.mk.inj (Option.some.inj hchat)
  obtain ⟨within, hbody, rfl⟩ := run_entry_eq_some.mp h
  obtain ⟨_, _, hlast, h⟩ := run_lift_bind_eq_some.mp hbody
  obtain rfl := Run.run_modify_eq_some.mp hlast
  obtain ⟨_, _, hchat, h⟩ := run_lift_bind_eq_some.mp h
  obtain ⟨rfl, rfl⟩ := Prod.mk.inj (Option.some.inj hchat)
  obtain ⟨hround, rfl⟩ := recount_handTo truthful devoted
    (home.onChat fun c => { c with last := some m }) h
  refine ⟨within, rfl, ?_⟩
  rw [← members_withLast w id m]
  exact hround

/-- A delivery is a step, of somebody who delivers. -/
theorem recounts_deliver (truthful : k.Truthful w₀ id k.Delivers)
    (devoted : k.toCast.Devoted w₀ id) (m : Message) (delivering : delivers)
    (le : k.Delivers → delivers) : (k.deliver plain id m).Recounts w₀ id delivers := by
  intro w r t w' home h
  obtain ⟨within, rfl, hround⟩ := recount_deliver truthful devoted home h
  refine (hround.mono le).wrap ⟨rfl, rfl⟩ ⟨rfl, rfl⟩ hround.home rfl (fun _ _ _ _ => delivering) ?_
  have hplays := hround.plays
  rw [stand_onChat home.lt] at hplays
  exact .delivery hplays .quiet

/-- A newcomer is called with the last message, if there is one. -/
theorem recount_catchUp (truthful : k.Truthful w₀ id k.Delivers) (devoted : k.toCast.Devoted w₀ id)
    {u : Unit} (home : Home w₀ id w)
    (h : (k.catchUp plain id l).run.run w = some ((u, t), w')) :
    Recount w₀ id k.Delivers (.replay l (w.stand id).last) w t w' := by
  obtain ⟨_, _, hchat, h⟩ := run_lift_bind_eq_some.mp h
  obtain ⟨rfl, rfl⟩ := Prod.mk.inj (Option.some.inj hchat)
  rw [World.stand]
  cases hlast : (w.directory.chat id).last with
  | none =>
    rw [hlast] at h
    obtain ⟨-, rfl, rfl⟩ := run_pure_eq_some.mp h
    exact { (Smooth.refl w').recount home with plays := .ended }
  | some m =>
    rw [hlast] at h
    obtain ⟨taken, s, v, s', hattempt, hend, rfl⟩ := run_bind_eq_some.mp h
    obtain ⟨-, rfl, rfl⟩ := run_pure_eq_some.mp hend
    rw [Story.append_quiet]
    exact (recount_attempt truthful devoted home hattempt).1

/-- **A registration** is one incident; within it a newcomer is called with the last message. -/
theorem recounts_register (truthful : k.Truthful w₀ id k.Delivers)
    (devoted : k.toCast.Devoted w₀ id) (l : String) :
    (k.register plain id l).Recounts w₀ id k.Delivers := by
  intro w b t w' home h
  obtain ⟨_, _, hchat, h⟩ := run_lift_bind_eq_some.mp h
  obtain ⟨rfl, rfl⟩ := Prod.mk.inj (Option.some.inj hchat)
  obtain ⟨within, hbody, rfl⟩ := run_entry_eq_some.mp h
  obtain ⟨_, _, hchat, h⟩ := run_lift_bind_eq_some.mp hbody
  obtain ⟨rfl, rfl⟩ := Prod.mk.inj (Option.some.inj hchat)
  cases hl : (w.directory.chat id).listeners.contains l with
  | true =>
    rw [hl, if_pos rfl] at h
    obtain ⟨-, rfl, rfl⟩ := run_pure_eq_some.mp h
    exact ((Smooth.refl w').recount home).wrap ⟨rfl, rfl⟩ ⟨rfl, rfl⟩ home rfl nofun
      (.known hl .quiet)
  | false =>
    rw [hl, if_neg (by simp)] at h
    obtain ⟨_, s, v, s', hcatch, hrest, rfl⟩ := run_bind_eq_some.mp h
    obtain ⟨_, _, hchat, hrest⟩ := run_lift_bind_eq_some.mp hrest
    obtain ⟨rfl, rfl⟩ := Prod.mk.inj (Option.some.inj hchat)
    obtain ⟨_, _, hinsert, hend⟩ := run_lift_bind_eq_some.mp hrest
    obtain rfl := Run.run_modify_eq_some.mp hinsert
    obtain ⟨-, rfl, rfl⟩ := run_pure_eq_some.mp hend
    have hcaught := recount_catchUp truthful devoted home hcatch
    rw [Story.append_quiet]
    exact hcaught.wrap ⟨rfl, rfl⟩ ⟨rfl, rfl⟩ (hcaught.home.onChat _) rfl nofun
      (.registration hl hcaught.plays (plays_onListeners hcaught.home.lt (·.insert l)))

/-- **A removal** is one incident. -/
theorem recounts_unregister (l : String) :
    (entry (.removal l) (Run.unregister id l)).Recounts w₀ id delivers := by
  intro w b t w' home h
  obtain ⟨within, hbody, rfl⟩ := run_entry_eq_some.mp h
  obtain ⟨hrun, rfl⟩ := run_lift_eq_some.mp hbody
  obtain ⟨rfl, rfl⟩ := Prod.mk.inj (Option.some.inj hrun)
  exact ((Smooth.refl w).recount home).wrap ⟨rfl, rfl⟩ ⟨rfl, rfl⟩ (home.onChat _) rfl nofun
    (.removal (plays_onListeners home.lt (·.erase l)))

/-- **A call on the chat** is told, a delivery as one that somebody makes. -/
theorem recounts_actOn (truthful : k.Truthful w₀ id k.Delivers) (devoted : k.toCast.Devoted w₀ id)
    {action : ChatAction} (hcall : action.isCall = true) (le : k.Delivers → delivers)
    (delivering : ∀ m, action = .deliver m → delivers) :
    (k.actOn plain id action).Recounts w₀ id delivers := by
  cases action with
  | register l =>
    have hregister : (k.register plain id l).Recounts w₀ id delivers :=
      fun w b t w' home h => (recounts_register truthful devoted l w b t w' home h).mono le
    exact hregister.bind fun _ => recounts_pure _
  | unregister l => exact (recounts_unregister l).bind fun _ => recounts_pure _
  | deliver m =>
    exact (recounts_deliver truthful devoted m (delivering m rfl) le).bind fun _ => recounts_pure _
  | _ => simp [ChatAction.isCall] at hcall

/-- An action that is allowed finds the chat. -/
theorem recounts_takeAction (truthful : k.Truthful w₀ id k.Delivers)
    (devoted : k.toCast.Devoted w₀ id) {o : Occasion} {a : Action}
    (allowed : Allowed w₀ id k.Delivers o a) :
    (k.takeAction plain o a).Recounts w₀ id k.Delivers := by
  obtain ⟨target, action, rfl, hcall, hleads, delivering⟩ := allowed
  intro w b t w' home h
  obtain ⟨found, v, hfind, hact⟩ := run_lift_bind_eq_some.mp h
  rw [home.run_find, hleads] at hfind
  obtain ⟨rfl, rfl⟩ := Prod.mk.inj (Option.some.inj hfind)
  exact recounts_actOn truthful devoted hcall (fun h => h) delivering _ _ _ _ home hact

end Chronicler

/-- **A devoted cast tells what has happened**, however deep callbacks go. -/
theorem Cast.Devoted.truthful {cast : Cast} {w₀ : World} {id : ChatId}
    (devoted : cast.Devoted w₀ id) (depth : Nat) :
    (cast.chronicler depth).Truthful w₀ id cast.Delivers := by
  intro o a allowed
  induction depth generalizing o a with
  | zero =>
    intro w b t w' home h
    obtain ⟨hrun, -⟩ := Diary.run_lift_eq_some.mp h
    cases hrun
  | succ n ih => exact Chronicler.recounts_takeAction (k := cast.chronicler n) ih devoted allowed

/-- **Some calls on a chat**, one after the other, are told. -/
theorem Chronicler.recounts_actAll {k : Chronicler} {plain : Company} {w₀ : World} {id : ChatId}
    (truthful : k.Truthful w₀ id k.Delivers) (devoted : k.toCast.Devoted w₀ id)
    {actions : List ChatAction} (calls : ∀ a ∈ actions, a.isCall = true) :
    (k.actAll plain id actions).Recounts w₀ id True := by
  induction actions with
  | nil => exact Diary.recounts_pure ()
  | cons a actions ih =>
    have hact : (k.actOn plain id a).Recounts w₀ id True :=
      recounts_actOn truthful devoted (calls a List.mem_cons_self) (fun _ => trivial)
        fun _ _ => trivial
    exact hact.bind fun _ => ih fun b hb => calls b (List.mem_cons_of_mem a hb)

end ChatFeed
