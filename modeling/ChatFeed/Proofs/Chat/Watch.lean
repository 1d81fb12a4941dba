import ChatFeed.Proofs.Chat.Calm

/-!
# Proofs/Chat/Watch — who was still to be served when a message became the last one

Callbacks may deliver on the very chat that is just calling them, so calls are nested.  A listener
is **pending** inside a callback when a call further out has still to serve it: an `on_message` that
has still to hand it its own message, or the registration that is just catching it up.

A `Watch` is a run beside which somebody keeps a list: whenever a message becomes the last one, the
listeners that are pending then are written down in place of the old list.  `Lookout` does what
`Company` does under such a watch; `Cast.erases_actAll` says that without the list it is the same
run.
-/

namespace ChatFeed

/-- **A run under watch**, with the list of those who were pending when the last message came. -/
abbrev Watch (α : Type) := StateT (List String) Run α

/-- A listener is handed a message: how many it had before, and the chat under its stream. -/
def Run.hand (l : String) (m : Message) : Run (Nat × Option ChatId) := do
  let w ← get
  set (w.hear [(l, m)])
  Run.note (.call l m.id)
  return (w.received.countP (·.1 = l), w.directory.rooms.find? m.stream)

/-- **A cast under watch**, and a way to take an action there, given who is pending. -/
structure Lookout extends Cast where
  act : List String → Occasion → Action → Watch Reply

namespace Lookout

variable (k : Lookout) (plain : Company) (pending : List String)

/-- Take the steps of a part. -/
def take (o : Occasion) : List Step → Watch Unit
  | [] => return ()
  | s :: ss => do
    if ← Company.enter s.mark then
      let reply ← k.act pending o s.action
      Run.note (.acted s.action o.actor reply)
    take o ss

/-- Play a part. -/
def play (o : Occasion) (p : Part) : Watch Ending := do
  k.take pending o p.steps
  return p.ending

/-- **Call a listener.** -/
def call (l : String) (m : Message) : Watch (Option CallbackError) := do
  let (turn, about) ← Run.hand l m
  let ending ← match k.listener l with
    | .transcript directory => plain.recording directory m
    | .scripted react => k.play pending ⟨l, about⟩ (react m turn)
  return ending.error?

/-- **Hand a message to some listeners**: while one is called, the others are pending. -/
def handTo (m : Message) : List String → Watch Report
  | [] => return {}
  | l :: ls => do
    match ← k.call plain (ls ++ pending) l m with
    | none =>
      let r ← handTo m ls
      return { r with delivered := r.delivered + 1 }
    | some e =>
      Run.failure "Chat listener failed" (Company.listenerDetails m e)
      let r ← handTo m ls
      return { r with failed := r.failed + 1 }

/-- **Deliver a message**: it becomes the last one, and whoever is pending is written down. -/
def deliver (id : ChatId) (m : Message) : Watch Report := do
  Run.onChat id fun c => { c with last := some m }
  set pending
  k.handTo plain pending m (← Run.chat id).listeners.members

/-- Hand the last message to a listener that is about to be registered, and pending meanwhile. -/
def catchUp (id : ChatId) (l : String) : Watch Unit := do
  match (← Run.chat id).last with
  | none => return ()
  | some m =>
    match ← k.call plain (l :: pending) l m with
    | none => return ()
    | some e =>
      Run.failure "Listener failed during last-message replay" (Company.listenerDetails m e)

/-- **Register a listener.** -/
def register (id : ChatId) (l : String) : Watch Bool := do
  if (← Run.chat id).listeners.contains l then return false
  k.catchUp plain pending id l
  let known := (← Run.chat id).listeners.contains l
  Run.onChat id fun c => { c with listeners := c.listeners.insert l }
  return !known

/-- Take an action on a chat; only deliveries and registrations are worth a watch. -/
def actOn (id : ChatId) : ChatAction → Watch Reply
  | .register l => do return .flag (← k.register plain pending id l)
  | .deliver m => do return .report (← k.deliver plain pending id m)
  | action => plain.actOn id action

/-- **Take an action.** -/
def takeAction (o : Occasion) : Action → Watch Reply
  | .onChat target action => do
    match ← Company.find o target with
    | none => return .noChat
    | some id => k.actOn plain pending id action
  | a => plain.takeAction o a

/-- Take some actions on a chat, one after the other, with nobody pending. -/
def actAll (id : ChatId) : List ChatAction → Watch Unit
  | [] => return ()
  | a :: as => do
    let _ ← k.actOn plain [] id a
    actAll id as

end Lookout

/-- **Take an action under watch**, callbacks going at most so deep. -/
def Cast.watch (cast : Cast) : Nat → List String → Occasion → Action → Watch Reply
  | 0 => fun _ _ _ => (failure : Run Reply)
  | n + 1 => fun pending o a =>
    Lookout.takeAction { cast with act := cast.watch n } (cast.company n) pending o a

/-- The company of a cast under watch. -/
def Cast.lookout (cast : Cast) (depth : Nat) : Lookout := { cast with act := cast.watch depth }

/-- **Take some actions on a chat**, one after the other. -/
def Company.actAll (k : Company) (id : ChatId) : List ChatAction → Run Unit
  | [] => return ()
  | a :: as => do
    let _ ← k.actOn id a
    actAll k id as

/-! ## Without the list -/

/-- **A watch without its list is a run**, whatever the list. -/
def Watch.Erases {α : Type} (x : Watch α) (y : Run α) : Prop := ∀ missed, x.run' missed = y

namespace Watch

variable {α β : Type}

theorem erases_pure (a : α) : (pure a : Watch α).Erases (pure a) := fun _ => by simp

theorem erases_lift (x : Run α) : (liftM x : Watch α).Erases x := fun _ => by simp

theorem erases_set (missed : List String) : (set missed : Watch Unit).Erases (pure ()) :=
  fun _ => rfl

theorem Erases.bind {x : Watch α} {y : Run α} {f : α → Watch β} {g : α → Run β}
    (hx : x.Erases y) (hf : ∀ a, (f a).Erases (g a)) : (x >>= f).Erases (y >>= g) := by
  intro missed
  rw [StateT.run'_eq, StateT.run_bind, map_bind, ← hx missed, StateT.run'_eq, bind_map_left]
  exact bind_congr fun p => hf p.1 p.2

/-- A run goes first, in both. -/
theorem erases_lift_bind {x : Run α} {f : α → Watch β} {g : α → Run β}
    (hf : ∀ a, (f a).Erases (g a)) : ((liftM x : Watch α) >>= f).Erases (x >>= g) :=
  (erases_lift x).bind hf

end Watch

/-- **A lookout watches a company**: it has its cast, and takes its actions. -/
structure Lookout.Watches (k : Lookout) (plain : Company) : Prop where
  cast : k.toCast = plain.toCast
  act : ∀ pending o a, (k.act pending o a).Erases (plain.act o a)

namespace Lookout

open Watch

variable {k : Lookout} {plain : Company} {pending : List String} {id : ChatId} {l : String}
  {m : Message}

theorem erases_take (watches : k.Watches plain) (o : Occasion) (steps : List Step) :
    (k.take pending o steps).Erases (plain.take o steps) := by
  induction steps with
  | nil => exact erases_pure ()
  | cons s steps ih =>
    refine erases_lift_bind fun entered => ?_
    cases entered with
    | false => exact ih
    | true => exact (watches.act pending o s.action).bind fun _ => erases_lift_bind fun _ => ih

theorem erases_play (watches : k.Watches plain) (o : Occasion) (p : Part) :
    (k.play pending o p).Erases (plain.play o p) :=
  (erases_take watches o p.steps).bind fun _ => erases_pure _

/-- A call is the handing over of the message, and then what the listener does. -/
theorem call_eq (plain : Company) (l : String) (m : Message) :
    plain.call l m = (do
      let (turn, about) ← Run.hand l m
      let ending ← match plain.listener l with
        | .transcript directory => plain.recording directory m
        | .scripted react => plain.play ⟨l, about⟩ (react m turn)
      return ending.error?) := by
  funext w
  unfold Company.call
  cases plain.listener l <;> rfl

/-- **A call under watch is a call.** -/
theorem erases_call (watches : k.Watches plain) (l : String) (m : Message) :
    (k.call plain pending l m).Erases (plain.call l m) := by
  rw [call_eq]
  refine erases_lift_bind fun x => ?_
  have hrole : k.listener l = plain.listener l := by rw [watches.cast]
  rw [hrole]
  cases plain.listener l with
  | transcript directory => exact erases_lift_bind fun _ => erases_pure _
  | scripted react => exact (erases_play watches _ _).bind fun _ => erases_pure _

theorem erases_handTo (watches : k.Watches plain) (m : Message) (ls : List String) :
    (k.handTo plain pending m ls).Erases (plain.handTo m ls) := by
  induction ls with
  | nil => exact erases_pure _
  | cons l ls ih =>
    refine (erases_call watches l m).bind fun e => ?_
    cases e with
    | none => exact ih.bind fun _ => erases_pure _
    | some e => exact erases_lift_bind fun _ => ih.bind fun _ => erases_pure _

/-- **A delivery under watch is a delivery.** -/
theorem erases_deliver (watches : k.Watches plain) (id : ChatId) (m : Message) :
    (k.deliver plain pending id m).Erases (plain.deliver id m) := by
  refine erases_lift_bind fun _ => ?_
  exact (erases_set pending).bind fun _ => erases_lift_bind fun c => erases_handTo watches m _

theorem erases_catchUp (watches : k.Watches plain) (id : ChatId) (l : String) :
    (k.catchUp plain pending id l).Erases (plain.catchUp id l) := by
  refine erases_lift_bind fun c => ?_
  cases c.last with
  | none => exact erases_pure ()
  | some m =>
    refine (erases_call watches l m).bind fun e => ?_
    cases e with
    | none => exact erases_pure ()
    | some e => exact erases_lift _

/-- **A registration under watch is a registration.** -/
theorem erases_register (watches : k.Watches plain) (id : ChatId) (l : String) :
    (k.register plain pending id l).Erases (plain.register id l) := by
  refine erases_lift_bind fun c => ?_
  by_cases hl : c.listeners.contains l = true
  · rw [if_pos hl, if_pos hl]
    exact erases_pure false
  · rw [if_neg hl, if_neg hl]
    refine (erases_catchUp watches id l).bind fun _ => erases_lift_bind fun c => ?_
    exact erases_lift_bind fun _ => erases_pure _

theorem erases_actOn (watches : k.Watches plain) (id : ChatId) (action : ChatAction) :
    (k.actOn plain pending id action).Erases (plain.actOn id action) := by
  cases action with
  | register l => exact (erases_register watches id l).bind fun _ => erases_pure _
  | deliver m => exact (erases_deliver watches id m).bind fun _ => erases_pure _
  | _ => exact erases_lift _

theorem erases_takeAction (watches : k.Watches plain) (o : Occasion) (a : Action) :
    (k.takeAction plain pending o a).Erases (plain.takeAction o a) := by
  cases a with
  | onChat target action =>
    refine erases_lift_bind fun found => ?_
    cases found with
    | none => exact erases_pure _
    | some id => exact erases_actOn watches id action
  | _ => exact erases_lift _

theorem erases_actAll (watches : k.Watches plain) (id : ChatId) (actions : List ChatAction) :
    (k.actAll plain id actions).Erases (plain.actAll id actions) := by
  induction actions with
  | nil => exact erases_pure ()
  | cons a actions ih => exact (erases_actOn watches id a).bind fun _ => ih

end Lookout

/-- **A cast under watch does what it does**, however deep callbacks go. -/
theorem Cast.watches (cast : Cast) (depth : Nat) :
    (cast.lookout depth).Watches (cast.company depth) := by
  refine ⟨rfl, fun pending o a => ?_⟩
  induction depth generalizing pending o a with
  | zero => exact Watch.erases_lift _
  | succ n ih => exact Lookout.erases_takeAction ⟨rfl, ih⟩ o a

end ChatFeed
