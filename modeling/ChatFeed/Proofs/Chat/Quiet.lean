import ChatFeed.Proofs.Chat.Calm
import Mathlib.Data.List.GetD

/-!
# Proofs/Chat/Quiet — callbacks that do not call back

When no callback takes a step (`Cast.Quiet`), every registration, delivery and announcement comes to
its end, however callbacks end.  Of the directory it leaves all as it is but who listens: the worlds
before and after are `World.Unmoved`, and a run that always does so is `Run.Still`.

* `World.Passive` — what the small steps of a quiet callback keep, the whole callback keeps.
* `Company.deliver_ends` — a delivery makes its message the last one of its chat, and no more.
* `Company.still_announce` — an announcement moves nothing.
-/

namespace ChatFeed

/-- **Nobody calls back**: neither listeners nor observers take any step when they are called. -/
structure Cast.Quiet (cast : Cast) : Prop where
  listeners : ∀ name react, cast.listener name = .scripted react →
    ∀ m n, (react m n).steps = []
  arrivals : ∀ name script, cast.observer name = .scripted script →
    ∀ stream n, (script.onNew stream n).steps = []
  departures : ∀ name script, cast.observer name = .scripted script →
    ∀ stream n, (script.onGone stream n).steps = []

/-- A chat without its listeners. -/
def Chat.alone (c : Chat) : Chat := { c with listeners := .empty }

namespace World

/-- **Two worlds whose directories differ in who listens at most.** -/
structure Unmoved (w v : World) : Prop where
  owner : v.directory.owner = w.directory.owner
  observers : v.directory.observers = w.directory.observers
  rooms : v.directory.rooms = w.directory.rooms
  chats : v.directory.chats.map Chat.alone = w.directory.chats.map Chat.alone

/-- An observer learns of something that has happened to a chat. -/
def learn (w : World) (o : String) (news : News) (stream : String) : World :=
  { w with news := w.news ++ [(o, news, stream)] }

namespace Unmoved

variable {w v u : World} {id : ChatId}

theorem of_directory (h : v.directory = w.directory) : w.Unmoved v := by
  constructor <;> rw [h]

theorem refl (w : World) : w.Unmoved w := of_directory rfl

theorem trans (h : w.Unmoved v) (h' : v.Unmoved u) : w.Unmoved u where
  owner := h'.owner.trans h.owner
  observers := h'.observers.trans h.observers
  rooms := h'.rooms.trans h.rooms
  chats := h'.chats.trans h.chats

theorem count (h : w.Unmoved v) : v.directory.chats.length = w.directory.chats.length := by
  simpa using congrArg List.length h.chats

/-- Every chat is as it was but for its listeners. -/
theorem alone (h : w.Unmoved v) (id : ChatId) :
    (v.directory.chat id).alone = (w.directory.chat id).alone := by
  have hmap : ∀ cs : List Chat, (cs.getD id (.fresh none)).alone
      = (cs.map Chat.alone).getD id (Chat.fresh none).alone := fun cs =>
    (List.getD_map cs (Chat.fresh none) Chat.alone).symm
  rw [Directory.chat, Directory.chat, hmap, hmap, h.chats]

theorem stream (h : w.Unmoved v) (id : ChatId) :
    (v.directory.chat id).stream = (w.directory.chat id).stream := by
  have hstream := congrArg Chat.stream (h.alone id)
  exact hstream

end Unmoved

/-- What is done to one chat is done to the chats without their listeners. -/
theorem map_alone_onChat (w : World) (id : ChatId) {f g : Chat → Chat}
    (hfg : ∀ c, (f c).alone = g c.alone) :
    (w.onChat id f).directory.chats.map Chat.alone
      = (w.directory.chats.map Chat.alone).modify id g := by
  refine List.ext_getElem? fun i => ?_
  simp only [onChat, Directory.update, List.getElem?_map, List.getElem?_modify]
  cases w.directory.chats[i]? with
  | none => rfl
  | some c => by_cases hi : id = i <;> simp [hi, hfg]

/-- A chat whose listeners change is not moved. -/
theorem unmoved_onChat (w : World) (a : ChatId) {f : Chat → Chat}
    (hf : ∀ c, (f c).alone = c.alone) : w.Unmoved (w.onChat a f) where
  owner := rfl
  observers := rfl
  rooms := rfl
  chats := by rw [map_alone_onChat w a (g := id) hf, List.modify_id]

/-- What is done to one chat is done alike in two worlds that differ in who listens. -/
theorem Unmoved.onChat {w v : World} (h : w.Unmoved v) (id : ChatId) {f g : Chat → Chat}
    (hfg : ∀ c, (f c).alone = g c.alone) : (w.onChat id f).Unmoved (v.onChat id f) where
  owner := h.owner
  observers := h.observers
  rooms := h.rooms
  chats := by rw [map_alone_onChat v id hfg, map_alone_onChat w id hfg, h.chats]

end World

namespace Run

variable {α β : Type} {w v : World}

/-! ## Runs that end -/

/-- **A run comes to its end**, and there value and world are as they should be. -/
def EndsIn (x : Run α) (w : World) (P : α → World → Prop) : Prop :=
  ∃ a v, x.run w = some (a, v) ∧ P a v

theorem endsIn_pure {a : α} {P : α → World → Prop} (h : P a w) : (pure a : Run α).EndsIn w P :=
  ⟨a, w, rfl, h⟩

theorem endsIn_modify {f : World → World} {P : Unit → World → Prop} (h : P () (f w)) :
    (modify f : Run Unit).EndsIn w P := ⟨(), f w, rfl, h⟩

theorem EndsIn.bind {x : Run α} {f : α → Run β} {P : α → World → Prop} {Q : β → World → Prop}
    (hx : x.EndsIn w P) (hf : ∀ a v, P a v → (f a).EndsIn v Q) : (x >>= f).EndsIn w Q := by
  obtain ⟨a, v, hrun, ha⟩ := hx
  obtain ⟨b, u, hrun', hb⟩ := hf a v ha
  exact ⟨b, u, run_bind_eq_some.mpr ⟨a, v, hrun, hrun'⟩, hb⟩

theorem EndsIn.of_bind {x : Run α} {f : α → Run β} {Q : β → World → Prop}
    (h : (x >>= f).EndsIn w Q) : x.EndsIn w fun a v => (f a).EndsIn v Q := by
  obtain ⟨b, u, hrun, hQ⟩ := h
  obtain ⟨a, v, hx, hf⟩ := run_bind_eq_some.mp hrun
  exact ⟨a, v, hx, b, u, hf, hQ⟩

theorem EndsIn.mono {x : Run α} {P Q : α → World → Prop} (hx : x.EndsIn w P)
    (h : ∀ a v, P a v → Q a v) : x.EndsIn w Q := by
  obtain ⟨a, v, hrun, ha⟩ := hx
  exact ⟨a, v, hrun, h a v ha⟩

theorem endsIn_get_bind {f : World → Run β} {Q : β → World → Prop} (h : (f w).EndsIn w Q) :
    (get >>= f).EndsIn w Q := h

theorem endsIn_directory_bind {f : Directory → Run β} {Q : β → World → Prop}
    (h : (f w.directory).EndsIn w Q) : (directory >>= f).EndsIn w Q := h

theorem endsIn_chat_bind {id : ChatId} {f : Chat → Run β} {Q : β → World → Prop}
    (h : (f (w.directory.chat id)).EndsIn w Q) : (chat id >>= f).EndsIn w Q := h

/-- A run that comes to its end comes to one end only. -/
theorem EndsIn.elim {x : Run α} {a : α} {P : α → World → Prop} (h : x.EndsIn w P)
    (hrun : x.run w = some (a, v)) : P a v := by
  obtain ⟨b, u, hrun', hP⟩ := h
  obtain ⟨rfl, rfl⟩ := Prod.mk.inj (Option.some.inj (hrun'.symm.trans hrun))
  exact hP

/-! ## Runs that keep something -/

/-- **A run that always comes to its end and keeps something.** -/
def Stays (R : World → World → Prop) (x : Run α) : Prop := ∀ w, x.EndsIn w fun _ v => R w v

/-- **A run that always comes to its end and moves nothing.** -/
def Still (x : Run α) : Prop := ∀ w, x.EndsIn w fun _ v => w.Unmoved v

end Run

/-- **What the small steps of a quiet callback keep**: a line that it reports, a failure that is
counted, something noted, a message handed over, a file written, a label given, a change in who
listens to a chat. -/
structure World.Passive (R : World → World → Prop) : Prop where
  refl : ∀ w, R w w
  trans : ∀ {w v u}, R w v → R v u → R w u
  line : ∀ w line, R w { w with journal := w.journal ++ [.line line] }
  count : ∀ w, R w { w with journal := w.journal ++ [.count .listenerFailures] }
  note : ∀ w note, R w { w with notes := w.notes ++ [note] }
  hear : ∀ w heard, R w (w.hear heard)
  write : ∀ w folder, R w { w with folder := folder }
  label : ∀ w label id, R w (w.name label id)
  listen : ∀ w id f, (∀ c : Chat, (f c).alone = c.alone) → R w (w.onChat id f)

theorem World.passive_unmoved : World.Passive World.Unmoved where
  refl := .refl
  trans := .trans
  line := fun _ _ => .of_directory rfl
  count := fun _ => .of_directory rfl
  note := fun _ _ => .of_directory rfl
  hear := fun _ _ => .of_directory rfl
  write := fun _ _ => .of_directory rfl
  label := fun _ _ _ => .of_directory rfl
  listen := fun w id _ hf => w.unmoved_onChat id hf

namespace Run

variable {α β : Type} {w v : World} {R : World → World → Prop}

theorem stays_pure (passive : World.Passive R) (a : α) : (pure a : Run α).Stays R :=
  fun w => endsIn_pure (passive.refl w)

theorem Stays.bind {x : Run α} {f : α → Run β} (hx : x.Stays R) (passive : World.Passive R)
    (hf : ∀ a, (f a).Stays R) : (x >>= f).Stays R := fun w =>
  (hx w).bind fun a v hv => (hf a v).mono fun _ _ hu => passive.trans hv hu

theorem stays_modify {f : World → World} (hf : ∀ w : World, R w (f w)) :
    (modify f : Run Unit).Stays R := fun w => endsIn_modify (hf w)

theorem stays_directory_bind {f : Directory → Run β} (hf : ∀ d, (f d).Stays R) :
    (directory >>= f).Stays R := fun w => hf w.directory w

theorem stays_chat_bind {id : ChatId} {f : Chat → Run β} (hf : ∀ c, (f c).Stays R) :
    (chat id >>= f).Stays R := fun w => hf (w.directory.chat id) w

theorem stays_note (passive : World.Passive R) (n : Note) : (note n).Stays R :=
  stays_modify fun w => passive.note w n

theorem stays_failure (passive : World.Passive R) (message : String)
    (details : List (String × Detail)) : (failure message details).Stays R :=
  (stays_modify passive.count).bind passive fun _ => stays_modify fun w => passive.line w _

theorem stays_labelOf (passive : World.Passive R) (id : ChatId) : (labelOf id).Stays R := by
  intro w
  refine endsIn_get_bind ?_
  cases w.label? id with
  | some label => exact endsIn_pure (passive.refl w)
  | none => exact ⟨_, _, rfl, passive.label w _ id⟩

theorem still_pure (a : α) : (pure a : Run α).Still := stays_pure World.passive_unmoved a

theorem Still.bind {x : Run α} {f : α → Run β} (hx : x.Still) (hf : ∀ a, (f a).Still) :
    (x >>= f).Still := Stays.bind hx World.passive_unmoved hf

theorem still_remark (r : Remark) : (remark r).Still := stays_modify fun _ => .of_directory rfl

end Run

namespace Company

variable {k : Company} {w : World} {R : World → World → Prop}

/-! ## Listeners -/

theorem stays_play (passive : World.Passive R) {o : Occasion} {p : Part} (h : p.steps = []) :
    (k.play o p).Stays R := by
  unfold play
  rw [h]
  exact Run.stays_pure passive p.ending

theorem stays_recording (passive : World.Passive R) (directory : Option String) (m : Message) :
    (k.recording directory m).Stays R := by
  have hline : (Run.remark (Transcript.messageLine m)).Stays R :=
    Run.stays_modify fun w => passive.line w _
  exact hline.bind passive fun _ => fun w => ⟨_, _, rfl, passive.write w _⟩

/-- **A listener that does not call back** takes small steps only. -/
theorem stays_call (quiet : k.toCast.Quiet) (passive : World.Passive R) (l : String)
    (m : Message) : (k.call l m).Stays R := by
  intro w
  have hrespond : ∀ about turn, (k.respond l m about turn).Stays R := by
    intro about turn
    refine (Run.stays_note passive _).bind passive fun _ => ?_
    cases hrole : k.listener l with
    | transcript directory =>
      exact (stays_recording passive directory m).bind passive fun _ => Run.stays_pure passive _
    | scripted react =>
      exact (stays_play passive (quiet.listeners l react hrole m turn)).bind passive fun _ =>
        Run.stays_pure passive _
  obtain ⟨e, v, hrun, hv⟩ := hrespond (w.directory.rooms.find? m.stream)
    (w.received.countP (·.1 = l)) (w.hear [(l, m)])
  exact ⟨e, v, (run_call k l m w).trans hrun, passive.trans (passive.hear w _) hv⟩

theorem stays_handTo (quiet : k.toCast.Quiet) (passive : World.Passive R) (m : Message)
    (ls : List String) : (k.handTo m ls).Stays R := by
  induction ls with
  | nil => exact Run.stays_pure passive _
  | cons l ls ih =>
    refine (stays_call quiet passive l m).bind passive fun e => ?_
    have hrest : ∀ f : Report → Report, (do return f (← k.handTo m ls) : Run Report).Stays R :=
      fun f => ih.bind passive fun r => Run.stays_pure passive (f r)
    cases e with
    | none => exact hrest _
    | some e => exact (Run.stays_failure passive _ _).bind passive fun _ => hrest _

/-- **A delivery** makes its message the last one of its chat, and no more. -/
theorem deliver_ends (quiet : k.toCast.Quiet) (id : ChatId) (m : Message) (w : World) :
    (k.deliver id m).EndsIn w fun _ v =>
      (w.onChat id fun c => { c with last := some m }).Unmoved v := by
  refine (Run.endsIn_modify rfl : (Run.onChat id _).EndsIn w fun _ v => v = w.onChat id _).bind ?_
  rintro - v rfl
  exact Run.stays_chat_bind (fun _ => stays_handTo quiet World.passive_unmoved m _) _

theorem stays_catchUp (quiet : k.toCast.Quiet) (passive : World.Passive R) (id : ChatId)
    (l : String) : (k.catchUp id l).Stays R := by
  refine Run.stays_chat_bind fun c => ?_
  cases c.last with
  | none => exact Run.stays_pure passive ()
  | some m =>
    refine (stays_call quiet passive l m).bind passive fun e => ?_
    cases e with
    | none => exact Run.stays_pure passive ()
    | some e => exact Run.stays_failure passive _ _

/-- **A registration** takes small steps only. -/
theorem stays_register (quiet : k.toCast.Quiet) (passive : World.Passive R) (id : ChatId)
    (l : String) : (k.register id l).Stays R := by
  refine Run.stays_chat_bind fun c => ?_
  by_cases hl : c.listeners.contains l = true
  · rw [if_pos hl]
    exact Run.stays_pure passive false
  · rw [if_neg hl]
    refine (stays_catchUp quiet passive id l).bind passive fun _ => Run.stays_chat_bind fun c => ?_
    have hinsert : (Run.onChat id fun c => { c with listeners := c.listeners.insert l }).Stays R :=
      Run.stays_modify fun w => passive.listen w id _ fun _ => rfl
    exact hinsert.bind passive fun _ => Run.stays_pure passive _

/-! ## Observers -/

theorem stays_tellRecorder (quiet : k.toCast.Quiet) (passive : World.Passive R) (l : String)
    (news : News) (id : ChatId) : (k.tellRecorder l news id).Stays R := by
  have hline : ∀ message details, (Run.remark (.info message details)).Stays R := fun _ _ =>
    Run.stays_modify fun w => passive.line w _
  refine Run.stays_chat_bind fun c => ?_
  cases news with
  | arrived =>
    exact (hline _ _).bind passive fun _ => (stays_register quiet passive id l).bind passive
      fun _ => Run.stays_pure passive _
  | gone => exact (hline _ _).bind passive fun _ => Run.stays_pure passive _

theorem stays_tellScripted (quiet : k.toCast.Quiet) (passive : World.Passive R) {o : String}
    {script : ObserverScript} (hrole : k.observer o = .scripted script) (turn : Nat)
    (news : News) (id : ChatId) : (k.tellScripted o script turn news id).Stays R := by
  have hplay : ∀ p : Part, p.steps = [] → (do
      Run.note (.told news o (← Run.labelOf id))
      k.play ⟨o, some id⟩ p : Run Ending).Stays R := fun p hp =>
    (Run.stays_labelOf passive id).bind passive fun _ =>
      (Run.stays_note passive _).bind passive fun _ => stays_play passive hp
  refine Run.stays_chat_bind fun c => ?_
  cases news with
  | arrived =>
    have hnew := hplay _ (quiet.arrivals o script hrole c.streamText turn)
    cases script.attach with
    | none => exact hnew
    | some l => exact (stays_register quiet passive id l).bind passive fun _ => hnew
  | gone => exact hplay _ (quiet.departures o script hrole c.streamText turn)

/-- **Telling an observer** is one item of news, if it cares for it, and small steps. -/
theorem tell_ends (quiet : k.toCast.Quiet) (passive : World.Passive R) (o : String) (news : News)
    (id : ChatId) (w : World) : (k.tell o news id).EndsIn w fun _ v =>
      R (if cares (k.observer o) news then w.learn o news (w.directory.chat id).streamText else w)
        v := by
  unfold tell
  by_cases hcares : cares (k.observer o) news = true
  · rw [if_pos hcares, if_neg (by simp [hcares])]
    refine Run.endsIn_chat_bind (Run.endsIn_get_bind ?_)
    refine (Run.endsIn_modify rfl : Run.EndsIn _ w fun _ v => v = w.learn o news _).bind ?_
    rintro - v rfl
    cases hrole : k.observer o with
    | recorder l => exact stays_tellRecorder quiet passive l news id _
    | scripted script => exact stays_tellScripted quiet passive hrole _ news id _
  · rw [if_neg hcares, if_pos (by simp [hcares])]
    exact Run.endsIn_pure (passive.refl w)

theorem still_tell (quiet : k.toCast.Quiet) (o : String) (news : News) (id : ChatId) :
    (k.tell o news id).Still := by
  refine fun w => (tell_ends quiet World.passive_unmoved o news id w).mono fun _ v hv => ?_
  by_cases hcares : cares (k.observer o) news = true
  · rw [if_pos hcares] at hv
    have hlearn : w.Unmoved (w.learn o news (w.directory.chat id).streamText) := .of_directory rfl
    exact hlearn.trans hv
  · rwa [if_neg hcares] at hv

theorem still_inform (quiet : k.toCast.Quiet) (o : String) (news : News) (id : ChatId) :
    (k.inform o news id).Still := by
  refine (still_tell quiet o news id).bind fun e => ?_
  cases e with
  | panicked words =>
    exact Run.stays_chat_bind fun _ => Run.stays_failure World.passive_unmoved _ _
  | _ => exact Run.still_pure ()

theorem still_informAll (quiet : k.toCast.Quiet) (news : News) (id : ChatId)
    (observers : List String) : (k.informAll news id observers).Still := by
  induction observers with
  | nil => exact Run.still_pure ()
  | cons o os ih => exact (still_inform quiet o news id).bind fun _ => ih

/-- **An announcement** moves nothing. -/
theorem still_announce (quiet : k.toCast.Quiet) (news : News) (id : ChatId) :
    (k.announce news id).Still :=
  Run.stays_directory_bind fun d => still_informAll quiet news id d.observers.members

theorem still_changed (message stream : String) : (changed message stream).Still :=
  (Run.still_remark _).bind fun _ => Run.stays_directory_bind fun _ => Run.still_remark _

end Company

end ChatFeed
