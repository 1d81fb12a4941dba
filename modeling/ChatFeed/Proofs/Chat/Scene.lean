import ChatFeed.Proofs.Chat.Dispatch

/-!
# Proofs/Chat/Scene — what is done about one chat

Listeners that do not call back, and observers that only register listeners, on the chat that they
are told of and by its stream (`Cast.Behaves`), make of a chat and of what is heard about it what
they find there and nothing else.  A **scene** is a chat with what has been heard about it; `s.In
base id w` says that the world `w` is `base` but for one chat, which is as in the scene, and for
what has been heard in addition.  A run turns one scene into another (`Run.Turns`) when it does so
in every such world, so the rest of the world has no part in it and is left alone.

How a callback ends is never looked at: a failure or a panic is written down and makes no
difference to a scene.

* `Company.turns_register`, `turns_deliver` — a listener comes, a message is delivered.
* `Company.turns_inform` — an observer is told.
-/

namespace ChatFeed

/-! ## What is heard -/

/-- **A call that is noted**: of a listener, with the identifier of a message, or of an observer. -/
inductive Hearing
  | call (listener message : String)
  | told (news : News) (observer : String)
  deriving DecidableEq, Repr

/-- The call that a note is about, whatever the label of its chat. -/
def Note.hearing? : Note → Option Hearing
  | .call l message => some (.call l message)
  | .told news o _ => some (.told news o)
  | _ => none

/-- **What is heard**: who is told of a chat, which message is handed to whom, and the noted ones of
both in one order. -/
structure Log where
  news : List (String × News × String) := []
  received : List (String × Message) := []
  hearings : List Hearing := []
  deriving DecidableEq

namespace Log

instance : Append Log :=
  ⟨fun a b => ⟨a.news ++ b.news, a.received ++ b.received, a.hearings ++ b.hearings⟩⟩

theorem append_def (a b : Log) :
    a ++ b = ⟨a.news ++ b.news, a.received ++ b.received, a.hearings ++ b.hearings⟩ := rfl

@[simp] theorem append_empty (a : Log) : a ++ ({} : Log) = a := by simp [append_def]

@[simp] theorem empty_append (a : Log) : ({} : Log) ++ a = a := by simp [append_def]

theorem append_assoc (a b c : Log) : a ++ b ++ c = a ++ (b ++ c) := by simp [append_def]

end Log

/-- What has been heard in a world. -/
def World.log (w : World) : Log := ⟨w.news, w.received, w.notes.filterMap Note.hearing?⟩

/-! ## Those who are called -/

/-- The step of a callback that registers a listener on the chat that it is about. -/
def registration (l : String) : Step := ⟨none, .onChat .current (.register l)⟩

/-- **What an observer does**, apart from how it ends: it has a listener record every new chat, or
it registers listeners that depend on the news and on the stream. -/
inductive Manner
  | recorder (listener : String)
  | host (attach : Option String) (newOnly : Bool) (guests : News → String → List String)

/-- **An observer of some manners**, which may panic whenever it likes. -/
inductive ObserverRole.Follows : ObserverRole → Manner → Prop
  | recorder (l : String) : Follows (.recorder l) (.recorder l)
  | host {script : ObserverScript} {guests : News → String → List String}
      (arrivals : ∀ stream n,
        (script.onNew stream n).steps = (guests .arrived stream).map registration)
      (departures : ∀ stream n,
        (script.onGone stream n).steps = (guests .gone stream).map registration) :
      Follows (.scripted script) (.host script.attach script.newOnly guests)

/-- **A cast of some manners**: its listeners take no steps, whatever they end in, and its observers
are of the given manners. -/
structure Cast.Behaves (cast : Cast) (manners : String → Manner) : Prop where
  listeners : ∀ name react, cast.listener name = .scripted react → ∀ m n, (react m n).steps = []
  observers : ∀ o, (cast.observer o).Follows (manners o)

/-! ## Scenes -/

/-- **A scene**: a chat, and what has been heard about it. -/
structure Scene where
  chat : Chat
  log : Log := {}

namespace Scene

/-- A listener is called with a message. -/
def hear (s : Scene) (l : String) (m : Message) : Scene :=
  { s with log := s.log ++ { received := [(l, m)] } ++ { hearings := [.call l m.id] } }

/-- A listener catches up with the last message. -/
def catchUp (s : Scene) (l : String) : Scene :=
  match s.chat.last with
  | none => s
  | some m => s.hear l m

/-- **A listener comes**: it catches up first, and a listener that is there already stays. -/
def register (s : Scene) (l : String) : Scene :=
  if s.chat.listeners.contains l then s
  else { s.catchUp l with chat := { s.chat with listeners := s.chat.listeners.insert l } }

/-- **A message is delivered** to the listeners that are there. -/
def deliver (s : Scene) (m : Message) : Scene :=
  s.chat.listeners.members.foldl (fun t l => t.hear l m)
    { s with chat := { s.chat with last := some m } }

/-- An observer learns that the chat has come or gone. -/
def learn (s : Scene) (o : String) (news : News) : Scene :=
  { s with log := s.log ++ { news := [(o, news, s.chat.streamText)] } }

/-- **An observer is told** that the chat has come or gone. -/
def tell (manner : Manner) (news : News) (o : String) (s : Scene) : Scene :=
  match manner, news with
  | .recorder l, .arrived => (s.learn o .arrived).register l
  | .recorder _, .gone => s.learn o .gone
  | .host attach _ guests, .arrived =>
    let t := attach.toList.foldl register (s.learn o .arrived)
    (guests .arrived s.chat.streamText).foldl register
      { t with log := t.log ++ { hearings := [.told .arrived o] } }
  | .host _ newOnly guests, .gone =>
    if newOnly then s else
      let t := s.learn o .gone
      (guests .gone s.chat.streamText).foldl register
        { t with log := t.log ++ { hearings := [.told .gone o] } }

/-- **Some observers are told**, one after the other. -/
def tellAll (manners : String → Manner) (news : News) (os : List String) (s : Scene) : Scene :=
  os.foldl (fun s o => s.tell (manners o) news o) s

/-- **A world that differs from another by a scene**: one chat is as in the scene, and what has been
heard in the scene has been heard in addition. -/
structure In (s : Scene) (base : World) (id : ChatId) (w : World) : Prop where
  lt : id < base.directory.chats.length
  directory : w.directory = base.directory.update id fun _ => s.chat
  log : w.log = base.log ++ s.log

theorem chat_catchUp (s : Scene) (l : String) : (s.catchUp l).chat = s.chat := by
  unfold catchUp
  cases s.chat.last <;> rfl

variable {s : Scene} {base w v : World} {id : ChatId}

/-- A scene begins with a chat as it is. -/
theorem In.start (hlt : id < w.directory.chats.length) {c : Chat} (hc : w.directory.chat id = c) :
    ({ chat := c } : Scene).In w id w where
  lt := hlt
  directory := by
    have hsame : w.directory.chats.modify id (fun _ => c) = w.directory.chats := by
      refine List.ext_getElem (List.length_modify _ _ _) fun i _ hi => ?_
      rw [List.getElem_modify]
      split
      · subst i
        simp [← hc, Directory.chat, List.getD, hlt]
      · rfl
    rw [Directory.update, hsame]
  log := (Log.append_empty _).symm

theorem In.chat (h : s.In base id w) : w.directory.chat id = s.chat := by
  rw [h.directory, Directory.chat_update h.lt]

/-- Books, files and time are no matter of a scene. -/
theorem In.of_same (h : s.In base id w) (hdirectory : v.directory = w.directory)
    (hlog : v.log = w.log) : s.In base id v :=
  ⟨h.lt, hdirectory.trans h.directory, hlog.trans h.log⟩

/-- Something more is heard. -/
theorem In.heard (h : s.In base id w) {more : Log} (hdirectory : v.directory = w.directory)
    (hlog : v.log = w.log ++ more) : { s with log := s.log ++ more : Scene }.In base id v where
  lt := h.lt
  directory := hdirectory.trans h.directory
  log := by rw [hlog, h.log, Log.append_assoc]

/-- The chat changes. -/
theorem In.onChat (h : s.In base id w) (f : Chat → Chat) :
    { s with chat := f s.chat : Scene }.In base id (w.onChat id f) where
  lt := h.lt
  directory := by
    rw [World.onChat, h.directory]
    simp only [Directory.update, List.modify_modify_eq]
    rfl
  log := h.log

end Scene

/-! ## Runs that turn one scene into another -/

/-- **A run turns one scene into another**, in every world and whatever value it gives. -/
def Run.Turns {α : Type} (x : Run α) (id : ChatId) (s t : Scene) : Prop :=
  ∀ base w : World, s.In base id w → x.EndsIn w fun _ v => t.In base id v

namespace Run

variable {α β : Type} {id : ChatId} {s t u : Scene}

theorem turns_pure (a : α) : (pure a : Run α).Turns id s s := fun _ _ h => endsIn_pure h

theorem Turns.bind {x : Run α} {f : α → Run β} (hx : x.Turns id s t)
    (hf : ∀ a, (f a).Turns id t u) : (x >>= f).Turns id s u :=
  fun base w h => (hx base w h).bind fun a v hv => hf a base v hv

theorem turns_directory_bind {f : Directory → Run β} (hf : ∀ d, (f d).Turns id s t) :
    (directory >>= f).Turns id s t := fun base w h => hf w.directory base w h

theorem turns_get_bind {f : World → Run β} (hf : ∀ w, (f w).Turns id s t) :
    (get >>= f).Turns id s t := fun base w h => hf w base w h

/-- Whoever looks at the chat finds the one of the scene. -/
theorem turns_chat_bind {f : Chat → Run β} (hf : (f s.chat).Turns id s t) :
    (chat id >>= f).Turns id s t := by
  intro base w h
  refine endsIn_chat_bind ?_
  rw [h.chat]
  exact hf base w h

theorem turns_onChat (f : Chat → Chat) :
    (onChat id f).Turns id s { s with chat := f s.chat } :=
  fun _ _ h => endsIn_modify (h.onChat f)

theorem turns_remark (r : Remark) : (remark r).Turns id s s :=
  fun _ _ h => endsIn_modify (h.of_same rfl rfl)

theorem turns_failure (message : String) (details : List (String × Detail)) :
    (failure message details).Turns id s s := (turns_remark _).bind fun _ => turns_remark _

theorem turns_note (n : Note) :
    (note n).Turns id s { s with log := s.log ++ { hearings := n.hearing?.toList } } := by
  intro base w h
  refine endsIn_modify (h.heard rfl ?_)
  simp only [World.log, Log.append_def, List.append_nil, List.filterMap_append]
  cases hn : n.hearing? <;> simp [hn]

/-- Notes of other kinds are no matter of a scene. -/
theorem turns_note_of_silent {n : Note} (hn : n.hearing? = none) : (note n).Turns id s s := by
  have hturns : (note n).Turns id s _ := turns_note n
  rw [hn] at hturns
  simpa using hturns

theorem turns_labelOf : (labelOf id).Turns id s s := by
  intro base w h
  refine endsIn_get_bind ?_
  cases w.label? id with
  | some label => exact endsIn_pure h
  | none => exact ⟨_, _, rfl, h.of_same rfl rfl⟩

end Run

namespace Company

variable {k : Company} {id : ChatId} {s : Scene} {manners : String → Manner}

/-! ## Listeners -/

/-- Nothing is made of a part without steps. -/
theorem turns_play_nil {o : Occasion} {p : Part} (h : p.steps = []) :
    (k.play o p).Turns id s s := by
  unfold play
  rw [h]
  exact Run.turns_pure p.ending

theorem turns_recording (directory : Option String) (m : Message) :
    (k.recording directory m).Turns id s s :=
  (Run.turns_remark _).bind fun _ _ _ h => ⟨_, _, rfl, h.of_same rfl rfl⟩

/-- **A call of a listener** that does not call back, in whatever way it ends. -/
theorem turns_call (behaves : k.toCast.Behaves manners) (l : String) (m : Message) :
    (k.call l m).Turns id s (s.hear l m) := by
  intro base w h
  have hreceive : ({ s with log := s.log ++ { received := [(l, m)] } } : Scene).In base id
      (w.hear [(l, m)]) := h.heard rfl (by simp [World.log, World.hear, Log.append_def])
  have hrespond : ∀ about turn, (k.respond l m about turn).Turns id
      { s with log := s.log ++ { received := [(l, m)] } } (s.hear l m) := by
    intro about turn
    refine (Run.turns_note (.call l m.id)).bind fun _ => ?_
    cases hrole : k.listener l with
    | transcript directory =>
      exact (turns_recording directory m).bind fun _ => Run.turns_pure _
    | scripted react =>
      exact (turns_play_nil (behaves.listeners l react hrole m turn)).bind fun _ =>
        Run.turns_pure _
  obtain ⟨e, v, hrun, hv⟩ := hrespond (w.directory.rooms.find? m.stream)
    (w.received.countP (·.1 = l)) base _ hreceive
  exact ⟨e, v, (run_call k l m w).trans hrun, hv⟩

theorem turns_handTo (behaves : k.toCast.Behaves manners) (m : Message) (ls : List String) :
    (k.handTo m ls).Turns id s (ls.foldl (fun t l => t.hear l m) s) := by
  induction ls generalizing s with
  | nil => exact Run.turns_pure _
  | cons l ls ih =>
    refine (turns_call behaves l m).bind fun e => ?_
    cases e with
    | none => exact ih.bind fun _ => Run.turns_pure _
    | some e => exact (Run.turns_failure _ _).bind fun _ => ih.bind fun _ => Run.turns_pure _

/-- **A delivery.** -/
theorem turns_deliver (behaves : k.toCast.Behaves manners) (m : Message) :
    (k.deliver id m).Turns id s (s.deliver m) :=
  (Run.turns_onChat fun c => { c with last := some m }).bind fun _ =>
    Run.turns_chat_bind (turns_handTo behaves m _)

theorem turns_catchUp (behaves : k.toCast.Behaves manners) (l : String) :
    (k.catchUp id l).Turns id s (s.catchUp l) := by
  refine Run.turns_chat_bind ?_
  unfold Scene.catchUp
  cases s.chat.last with
  | none => exact Run.turns_pure ()
  | some m =>
    refine (turns_call behaves l m).bind fun e => ?_
    cases e with
    | none => exact Run.turns_pure ()
    | some e => exact Run.turns_failure _ _

/-- **A registration.** -/
theorem turns_register (behaves : k.toCast.Behaves manners) (l : String) :
    (k.register id l).Turns id s (s.register l) := by
  refine Run.turns_chat_bind ?_
  unfold Scene.register
  by_cases hl : s.chat.listeners.contains l = true
  · rw [if_pos hl, if_pos hl]
    exact Run.turns_pure false
  · rw [if_neg hl, if_neg hl, ← Scene.chat_catchUp s l]
    exact (turns_catchUp behaves l).bind fun _ => Run.turns_chat_bind <|
      (Run.turns_onChat fun c => { c with listeners := c.listeners.insert l }).bind fun _ =>
        Run.turns_pure _

/-! ## Observers -/

/-- **A company of some manners**: when an observer registers a listener on the chat that it is told
of, that is what happens. -/
structure Behaves (k : Company) (manners : String → Manner) : Prop
    extends k.toCast.Behaves manners where
  act : ∀ o id l s, (k.act ⟨o, some id⟩ (registration l).action).Turns id s (s.register l)

theorem turns_take (behaves : k.Behaves manners) (o : String) (ls : List String) :
    (k.take ⟨o, some id⟩ (ls.map registration)).Turns id s (ls.foldl Scene.register s) := by
  induction ls generalizing s with
  | nil => exact Run.turns_pure ()
  | cons l ls ih =>
    have hact := behaves.act o id l s
    have hstep : ∀ reply, (do
        Run.note (.acted (registration l).action o reply)
        k.take ⟨o, some id⟩ (ls.map registration) : Run Unit).Turns id (s.register l)
          (ls.foldl Scene.register (s.register l)) :=
      fun reply => (Run.turns_note_of_silent rfl).bind fun _ => ih
    exact hact.bind hstep

theorem turns_play (behaves : k.Behaves manners) (o : String) {p : Part} {ls : List String}
    (h : p.steps = ls.map registration) :
    (k.play ⟨o, some id⟩ p).Turns id s (ls.foldl Scene.register s) := by
  unfold play
  rw [h]
  exact (turns_take behaves o ls).bind fun _ => Run.turns_pure _

theorem turns_tellRecorder (behaves : k.Behaves manners) (l : String) (news : News) :
    (k.tellRecorder l news id).Turns id s (match news with
      | .arrived => s.register l
      | .gone => s) := by
  refine Run.turns_chat_bind ?_
  cases news with
  | arrived =>
    exact (Run.turns_remark _).bind fun _ =>
      (turns_register behaves.toBehaves l).bind fun _ => Run.turns_pure _
  | gone => exact (Run.turns_remark _).bind fun _ => Run.turns_pure _

theorem turns_learn (o : String) (news : News) :
    (modify fun w => { w with news := w.news ++ [(o, news, s.chat.streamText)] } : Run Unit).Turns
      id s (s.learn o news) :=
  fun _ _ h => Run.endsIn_modify (h.heard rfl (by simp [World.log, Log.append_def]))

/-- What an observer does once it has been told: that is noted, and then it registers listeners. -/
theorem turns_told (behaves : k.Behaves manners) (o : String) (news : News) {p : Part}
    {ls : List String} (h : p.steps = ls.map registration) :
    (do Run.note (.told news o (← Run.labelOf id))
        k.play ⟨o, some id⟩ p : Run Ending).Turns id s
      (ls.foldl Scene.register { s with log := s.log ++ { hearings := [.told news o] } }) :=
  Run.turns_labelOf.bind fun label => (Run.turns_note (.told news o label)).bind fun _ =>
    turns_play behaves o h

theorem turns_tellScripted (behaves : k.Behaves manners) (o : String) {script : ObserverScript}
    {guests : News → String → List String} (turn : Nat) (news : News)
    (arrivals : ∀ stream n,
      (script.onNew stream n).steps = (guests .arrived stream).map registration)
    (departures : ∀ stream n,
      (script.onGone stream n).steps = (guests .gone stream).map registration)
    (hcares : cares (.scripted script) news = true) :
    (k.tellScripted o script turn news id).Turns id (s.learn o news)
      (s.tell (.host script.attach script.newOnly guests) news o) := by
  refine Run.turns_chat_bind ?_
  cases news with
  | arrived =>
    have hsteps := arrivals s.chat.streamText turn
    unfold Scene.tell
    cases script.attach with
    | none => exact turns_told behaves o .arrived hsteps
    | some l =>
      exact (turns_register behaves.toBehaves l).bind fun _ =>
        turns_told behaves o .arrived hsteps
  | gone =>
    have hnewOnly : script.newOnly = false := by simpa [cares] using hcares
    unfold Scene.tell
    rw [hnewOnly]
    exact turns_told behaves o .gone (departures s.chat.streamText turn)

/-- **An observer is told**, in whatever way that ends. -/
theorem turns_tell (behaves : k.Behaves manners) (o : String) (news : News) :
    (k.tell o news id).Turns id s (s.tell (manners o) news o) := by
  unfold tell
  have follows := behaves.observers o
  generalize k.observer o = role at follows
  generalize manners o = manner at follows
  cases follows with
  | recorder l =>
    refine Run.turns_chat_bind (Run.turns_get_bind fun w => (turns_learn o news).bind fun _ => ?_)
    cases news <;> exact turns_tellRecorder behaves l _
  | @host script guests arrivals departures =>
    by_cases hcares : cares (.scripted script) news = true
    · rw [if_neg (by simp [hcares])]
      refine Run.turns_chat_bind (Run.turns_get_bind fun w => (turns_learn o news).bind fun _ => ?_)
      exact turns_tellScripted behaves o _ news arrivals departures hcares
    · rw [if_pos (by simp [hcares])]
      cases news with
      | arrived => exact absurd rfl hcares
      | gone =>
        have hnewOnly : script.newOnly = true := by simpa [cares] using hcares
        unfold Scene.tell
        rw [hnewOnly]
        exact Run.turns_pure _

/-- A panic of an observer is written down. -/
theorem turns_inform (behaves : k.Behaves manners) (o : String) (news : News) :
    (k.inform o news id).Turns id s (s.tell (manners o) news o) := by
  refine (turns_tell behaves o news).bind fun e => ?_
  cases e with
  | panicked words => exact Run.turns_chat_bind (Run.turns_failure _ _)
  | _ => exact Run.turns_pure ()

/-- **Some observers are told**, one after the other. -/
theorem turns_informAll (behaves : k.Behaves manners) (news : News) (os : List String) :
    (k.informAll news id os).Turns id s (s.tellAll manners news os) := by
  induction os generalizing s with
  | nil => exact Run.turns_pure ()
  | cons o os ih => exact (turns_inform behaves o news).bind fun _ => ih

/-- **A chat is announced** to the observers of the directory. -/
theorem announce_in (behaves : k.Behaves manners) (news : News) {base w : World}
    (h : s.In base id w) : (k.announce news id).EndsIn w fun _ v =>
      (s.tellAll manners news base.directory.observers.members).In base id v := by
  have hobservers : w.directory.observers = base.directory.observers := by rw [h.directory]; rfl
  refine Run.endsIn_directory_bind ?_
  rw [hobservers]
  exact turns_informAll behaves news _ base w h

/-- What is reported of a change is no matter of a scene. -/
theorem turns_changed (message stream : String) : (changed message stream).Turns id s s :=
  (Run.turns_remark _).bind fun _ => Run.turns_directory_bind fun _ => Run.turns_remark _

end Company

/-- **A cast of some manners makes a company of such manners**, if callbacks may go one deep. -/
theorem Cast.Behaves.company {cast : Cast} {manners : String → Manner}
    (behaves : cast.Behaves manners) (depth : Nat) :
    (cast.company (depth + 1)).Behaves manners where
  toBehaves := behaves
  act := by
    intro o id l s base w h
    have hregister : ((cast.company depth).register id l).Turns id s (s.register l) :=
      Company.turns_register behaves l
    exact (hregister.bind fun added => Run.turns_pure (Reply.flag added)) base w h

end ChatFeed
