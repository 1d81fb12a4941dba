import ChatFeed.Proofs.Chat.Debut
import ChatFeed.Proofs.Chat.Dispatch
import ChatFeed.Proofs.Chat.Reentry

/-!
# Proofs/Chat/Filing — every chat under its own stream

A chat that is added is put under its own stream, and so is one that is made for a message.  Whoever
asks for the chat of a stream says himself how to make it if there is none, and a chat that he makes
on another stream is put under the one that he asked for.

A `Registry` is a directory in use: it is dealt with, messages come and take their steps in turn,
and the callbacks of all this may do what they like.  `Registry.lawful_iff_fitting` says that every
chat stays under its own stream, with all that comes of it, exactly when whoever makes a chat makes
it on the stream he asked for.

What no step breaks, callbacks and all, is `World.Onward`: chats keep their streams, and a world in
good order (`World.Neat`) stays so.
-/

namespace ChatFeed

/-- The chat at which a message on its way is, if it has come to one. -/
def Stage.chat? : Stage → Option ChatId
  | .gated id => some id
  | .admitted id => some id
  | .announcing id _ => some id
  | .handing id => some id
  | .opening id _ => some id
  | _ => none

namespace World

/-- **A message on its way is bound for its stream**: it is at no chat of another one. -/
def Bound (w : World) (m : Message) (s : Stage) : Prop :=
  ∀ id, s.chat? = some id → (w.directory.chat id).stream = some m.stream

/-- **A world in good order**: every chat is under its own stream, and every message that is held is
bound for its stream. -/
structure Neat (w : World) : Prop where
  filed : ∀ stream id, w.directory.rooms.find? stream = some id →
    (w.directory.chat id).stream = some stream
  held : ∀ x ∈ w.held, w.Bound x.1 x.2

/-- **There are more chats**, and those that there were keep their streams. -/
structure Grows (w v : World) : Prop where
  count : w.directory.chats.length ≤ v.directory.chats.length
  streams : ∀ id < w.directory.chats.length,
    (v.directory.chat id).stream = (w.directory.chat id).stream

/-- **Nothing gets out of order**: chats keep their streams, and a world in good order stays so. -/
structure Onward (w v : World) : Prop extends World.Grows w v where
  neat : w.Neat → v.Neat

variable {w v u : World} {id : ChatId} {stream : String} {m : Message} {s : Stage}

/-- A chat on a stream is one that there is. -/
theorem lt_of_stream (h : (w.directory.chat id).stream = some stream) :
    id < w.directory.chats.length := by
  by_contra hlt
  rw [Directory.chat, List.getD_eq_default _ _ (Nat.le_of_not_lt hlt)] at h
  cases h

theorem Grows.keeps (h : w.Grows v) (hstream : (w.directory.chat id).stream = some stream) :
    (v.directory.chat id).stream = some stream :=
  (h.streams id (lt_of_stream hstream)).trans hstream

theorem Grows.bound (h : w.Grows v) (bound : w.Bound m s) : v.Bound m s := fun id hid =>
  h.keeps (bound id hid)

theorem Onward.trans (h : w.Onward v) (h' : v.Onward u) : w.Onward u where
  count := h.count.trans h'.count
  streams := fun id hid => (h'.streams id (hid.trans_le h.count)).trans (h.streams id hid)
  neat := h'.neat ∘ h.neat

/-- **The directory changes**: what matters is where chats are put, and that they keep their
streams. -/
theorem Grows.onward (h : w.Grows v) (held : v.held = w.held)
    (rooms : ∀ stream id, v.directory.rooms.find? stream = some id →
      w.directory.rooms.find? stream = some id ∨ (v.directory.chat id).stream = some stream) :
    w.Onward v where
  toGrows := h
  neat := fun neat => by
    refine ⟨fun stream id hid => ?_, fun x hx => h.bound (neat.held x (held ▸ hx))⟩
    exact (rooms stream id hid).elim (fun hid => h.keeps (neat.filed stream id hid)) fun hid => hid

/-- No chat gets another place. -/
theorem Grows.onward_of_same (h : w.Grows v) (held : v.held = w.held)
    (rooms : v.directory.rooms = w.directory.rooms) : w.Onward v :=
  h.onward held fun _ _ hid => .inl (rooms ▸ hid)

/-- The chats stay as they are. -/
theorem grows_of_chats (h : v.directory.chats = w.directory.chats) : w.Grows v where
  count := by rw [h]
  streams := fun id _ => by rw [Directory.chat, h, Directory.chat]

/-- A chat changes in all but its stream. -/
theorem onward_onChat (w : World) (id : ChatId) {f : Chat → Chat}
    (hf : ∀ c, (f c).stream = c.stream) : w.Onward (w.onChat id f) := by
  refine Grows.onward_of_same ⟨(Directory.length_update _ _ _).ge, fun other _ => ?_⟩ rfl rfl
  have hledger := congrArg (·.streamOf other) (w.ledger_onChat id hf)
  exact (Directory.streamOf_ledger _ _).symm.trans (hledger.trans (Directory.streamOf_ledger _ _))

/-- A chat is made, outside of the directory. -/
theorem onward_make (w : World) (c : Chat) :
    w.Onward { w with directory := w.directory.make c } := by
  refine Grows.onward_of_same ⟨by simp [Directory.make], fun id hid => ?_⟩ rfl rfl
  rw [Directory.chat, Directory.make, List.getD_append _ _ _ _ hid, Directory.chat]

/-- What observers have learnt is no matter of order. -/
theorem onward_learn (w : World) (o : String) (news : News) (stream : String) :
    w.Onward (w.learn o news stream) := Grows.onward_of_same (grows_of_chats rfl) rfl rfl

/-- Some of the messages that are held are held no longer. -/
theorem onward_drop (w : World) (n : Nat) : w.Onward { w with held := w.held.drop n } where
  toGrows := grows_of_chats rfl
  neat := fun neat => ⟨neat.filed, fun x hx => neat.held x (List.mem_of_mem_drop hx)⟩

/-- **A chat is put under its stream**, which has none. -/
theorem onward_insert (hstream : (w.directory.chat id).stream = some stream)
    (absent : w.directory.rooms.find? stream = none) (message : String) :
    w.Onward (w.change { w.directory with rooms := w.directory.rooms.insert stream id }
      message stream) := by
  refine Grows.onward (grows_of_chats rfl) rfl fun other a h => ?_
  change (w.directory.rooms.insert stream id).find? other = some a at h
  by_cases hother : other = stream
  · subst hother
    obtain rfl := Option.some.inj ((Rooms.find?_insert_self id absent).symm.trans h)
    exact .inr hstream
  · exact .inl ((Rooms.find?_insert_of_ne _ _ hother).symm.trans h)

/-- **A chat is taken away.** -/
theorem onward_erase (w : World) (stream message : String) :
    w.Onward (w.change { w.directory with rooms := w.directory.rooms.erase stream }
      message stream) := by
  refine Grows.onward (grows_of_chats rfl) rfl fun other a h => .inl ?_
  change (w.directory.rooms.erase stream).find? other = some a at h
  by_cases hother : other = stream
  · subst hother
    rw [Rooms.find?_erase_self] at h
    cases h
  · exact (Rooms.find?_erase_of_ne _ hother).symm.trans h

theorem lasting_onward : World.Lasting World.Onward where
  trans := Onward.trans
  beside := fun h =>
    (grows_of_chats (by rw [h.directory])).onward_of_same h.held (by rw [h.directory])
  onChat := fun w id _ hf _ => w.onward_onChat id hf

theorem enduring_onward : World.Enduring World.Onward where
  toLasting := lasting_onward
  learn := onward_learn
  observers := fun _ _ => Grows.onward_of_same (grows_of_chats rfl) rfl rfl
  insert := onward_insert
  erase := onward_erase

/-- **A chat is made.** -/
theorem grows_withChat (w : World) (stream : String) (make : Chat) (message : String) :
    w.Grows (w.change (Company.withChat w.directory stream make) message stream) where
  count := Directory.length_withChat ▸ Nat.le_succ _
  streams := fun _ hid => congrArg Chat.stream (Directory.chat_withChat_of_lt hid)

/-- The chat that has been made keeps its stream. -/
theorem stream_withChat (w : World) (stream : String) (make : Chat) :
    ((Company.withChat w.directory stream make).chat w.directory.nextId).stream = make.stream := by
  rw [Directory.chat_withChat_self]

/-- A chat that is made on the stream under which it is put. -/
theorem onward_withChat {make : Chat} (hmake : make.stream = some stream)
    (absent : w.directory.rooms.find? stream = none) (message : String) :
    w.Onward (w.change (Company.withChat w.directory stream make) message stream) := by
  refine (w.grows_withChat stream make message).onward rfl fun other a h => ?_
  change (w.directory.rooms.insert stream w.directory.nextId).find? other = some a at h
  by_cases hother : other = stream
  · subst hother
    obtain rfl := Option.some.inj ((Rooms.find?_insert_self _ absent).symm.trans h)
    exact .inr ((w.stream_withChat other make).trans hmake)
  · exact .inl ((Rooms.find?_insert_of_ne _ _ hother).symm.trans h)

end World

/-- **A use of a directory makes a chat that fits**, if it makes one: whoever asks for the chat of a
stream that has none makes one on that stream. -/
def Deal.Fits (w : World) (d : Deal) : Prop :=
  ∀ stream make, d = .findOrMake stream make → w.directory.rooms.find? stream = none →
    make.stream = some stream

namespace Company

variable {k : Company} {allowed : Action → Prop} {w v : World} {id : ChatId} {stream : String}
  {m : Message} {s s' : Stage}

/-! ## Whatever callbacks do -/

/-- **One step of a message** leaves all in good order. -/
theorem onward_step (heeds : k.Heeds World.Onward allowed) (m : Message) (s : Stage) :
    (k.step m s).Leads World.Onward :=
  leads_step heeds World.enduring_onward fun _ _ _ absent => World.onward_withChat rfl absent _

/-- **A message stays bound for its stream** with every step. -/
theorem bound_step (heeds : k.Heeds World.Onward allowed) (neat : w.Neat) (bound : w.Bound m s)
    (h : (k.step m s).run w = some (some s', v)) : v.Bound m s' := by
  have honward := onward_step heeds m s w _ v h
  cases stride_of_step h with
  | found room =>
    rintro id ⟨⟩
    exact neat.filed _ _ room
  | absent room outside => cases s' <;> simp_all [World.Bound, Stage.chat?, Stage.isOutside]
  | wake => rintro id ⟨⟩
  | join room =>
    rintro id ⟨⟩
    exact neat.filed _ _ room
  | make room directory =>
    rintro id ⟨⟩
    rw [directory]
    exact w.stream_withChat _ _
  | serve => rintro id ⟨⟩
  | openUp => rintro id ⟨⟩
  | _ => exact honward.bound bound

theorem onward_goOn (heeds : k.Heeds World.Onward allowed) (m : Message) (n : Nat) (s : Stage) :
    (k.goOn m n s).Leads World.Onward := by
  induction n generalizing s with
  | zero => exact Run.leads_pure heeds.lasting s
  | succ n ih =>
    refine (onward_step heeds m s).bind heeds.lasting fun next => ?_
    cases next with
    | none => exact Run.leads_pure heeds.lasting s
    | some s' => exact ih s'

/-- **A message stays bound for its stream** however far it gets. -/
theorem bound_goOn (heeds : k.Heeds World.Onward allowed) (n : Nat) (neat : w.Neat)
    (bound : w.Bound m s) (h : (k.goOn m n s).run w = some (s', v)) : v.Bound m s' := by
  induction n generalizing w s with
  | zero =>
    obtain ⟨rfl, rfl⟩ := Run.run_pure_eq_some.mp h
    exact bound
  | succ n ih =>
    obtain ⟨next, x, hstep, h⟩ := Run.run_bind_eq_some.mp h
    have honward := onward_step heeds m s w next x hstep
    cases next with
    | none =>
      obtain ⟨rfl, rfl⟩ := Run.run_pure_eq_some.mp h
      exact honward.bound bound
    | some s₁ => exact ih (honward.neat neat) (bound_step heeds neat bound hstep) h

theorem onward_send (heeds : k.Heeds World.Onward allowed) (m : Message) :
    (k.send m).Leads World.Onward := by
  intro w reply v h
  obtain ⟨s, x, hadvance, hv⟩ := send_cases h
  have honward : w.Onward x := onward_goOn heeds m _ _ _ _ _ hadvance
  rcases hv with ⟨-, rfl⟩ | rfl
  · exact honward
  · refine ⟨⟨honward.count, honward.streams⟩, fun neat => ⟨(honward.neat neat).filed, ?_⟩⟩
    have hbound : x.Bound m s := bound_goOn heeds _ neat (by rintro id ⟨⟩) hadvance
    intro y hy
    rcases List.mem_append.mp hy with hy | hy
    · exact (honward.neat neat).held y hy
    · obtain rfl := List.mem_singleton.mp hy
      exact hbound

theorem onward_finish (heeds : k.Heeds World.Onward allowed) (m : Message) (s : Stage) :
    (k.finish m s).Leads World.Onward := by
  refine Run.Leads.bind (fun w => onward_goOn heeds m _ s w) heeds.lasting fun s₁ => ?_
  refine (leads_wait heeds.lasting s₁).bind heeds.lasting fun _ => ?_
  refine Run.Leads.bind (fun w => onward_goOn heeds m _ s₁ w) heeds.lasting fun s₂ => ?_
  cases s₂ with
  | answered report => exact Run.leads_pure heeds.lasting report
  | _ => exact fun w report v h => nomatch h

/-- A message that is held is taken all the way, and then the next. -/
theorem release_cases {n : Nat} {u : Unit} (h : (k.release (n + 1)).run w = some (u, v)) :
    v = w ∨ ∃ m s rest report x, w.held = (m, s) :: rest
      ∧ (k.finish m s).run { w with held := rest } = some (report, x)
      ∧ (k.release n).run { x with notes := x.notes ++ [.resumed m.id report] } = some (u, v) := by
  unfold release at h
  rw [Run.run_get_bind] at h
  rcases hheld : w.held with - | ⟨⟨m, s⟩, rest⟩
  · rw [hheld] at h
    exact .inl (Run.run_pure_eq_some.mp h).2
  · rw [hheld] at h
    obtain ⟨_, y, hset, h⟩ := Run.run_bind_eq_some.mp h
    obtain rfl := (Prod.mk.inj (Option.some.inj hset)).2
    obtain ⟨report, x, hfinish, h⟩ := Run.run_bind_eq_some.mp h
    exact .inr ⟨m, s, rest, report, x, rfl, hfinish, h⟩

theorem onward_release (heeds : k.Heeds World.Onward allowed) (n : Nat) :
    (k.release n).Leads World.Onward := by
  induction n with
  | zero => exact fun w u v h => nomatch h
  | succ n ih =>
    intro w u v h
    rcases release_cases h with rfl | ⟨m, s, rest, report, x, hheld, hfinish, hrest⟩
    · exact heeds.lasting.refl v
    · have hdrop := w.onward_drop 1
      rw [hheld] at hdrop
      have hnote : x.Onward { x with notes := x.notes ++ [.resumed m.id report] } :=
        heeds.lasting.beside ⟨rfl, rfl, rfl, rfl⟩
      exact hdrop.trans ((onward_finish heeds m s _ _ _ hfinish).trans
        (hnote.trans (ih _ _ _ hrest)))

/-- **Whatever action is taken** leaves all in good order. -/
theorem onward_takeAction (heeds : k.Heeds World.Onward allowed) (o : Occasion) (a : Action) :
    (k.takeAction o a).Leads World.Onward :=
  leads_takeAction heeds (leads_addChat heeds World.enduring_onward)
    (leads_removeStream heeds World.enduring_onward) (onward_send heeds)
    (leads_addObserver World.enduring_onward)
    (fun name _ => leads_removeObserver World.enduring_onward name)
    (fun _ _ _ id => leads_addRemote heeds.lasting fun w => w.onward_onChat id fun _ => rfl) o

/-! ## Uses of a directory -/

/-- A chat that is made for whoever asks for that of a stream is the one that he makes. -/
theorem stream_of_findOrMake (heeds : k.Heeds World.Onward allowed) {make : Chat}
    {r : ChatId × Bool} (absent : w.directory.rooms.find? stream = none)
    (h : (k.findOrMake stream make).run w = some (r, v)) :
    (v.directory.chat r.1).stream = make.stream := by
  rcases findOrMake_cases h with ⟨id, room, -, -⟩ | ⟨u, y, -, rfl, hannounce, rfl⟩
  · rw [absent] at room
    cases room
  · have hannounced := (leads_announce heeds World.enduring_onward _ _ _ _ _ hannounce).trans
      (y.onward_onChat w.directory.nextId (f := fun c => { c with gateOpen := true }) fun _ => rfl)
    have hlt : w.directory.nextId < (withChat w.directory stream make).chats.length :=
      Directory.length_withChat ▸ Nat.lt_succ_self _
    exact (hannounced.streams _ hlt).trans (w.stream_withChat stream make)

/-- **Asking for the chat of a stream** leaves all in good order if the chat that is made, if one
is, is on that stream. -/
theorem onward_findOrMake (heeds : k.Heeds World.Onward allowed) {make : Chat} {r : ChatId × Bool}
    (fits : w.directory.rooms.find? stream = none → make.stream = some stream)
    (h : (k.findOrMake stream make).run w = some (r, v)) : w.Onward v := by
  rcases findOrMake_cases h with ⟨id, -, -, rfl⟩ | ⟨u, y, absent, -, hannounce, rfl⟩
  · exact heeds.lasting.refl v
  · exact (World.onward_withChat (fits absent) absent _).trans
      ((leads_announce heeds World.enduring_onward _ _ _ _ _ hannounce).trans
        (y.onward_onChat _ fun _ => rfl))

/-- **A use of a directory** leaves all in good order if the chat that it makes, if any, fits. -/
theorem onward_deal (heeds : k.Heeds World.Onward allowed) {d : Deal} {receipt : Receipt}
    (fits : d.Fits w) (h : (k.deal d).run w = some (receipt, v)) : w.Onward v := by
  have hpure : ∀ receipt : Receipt, (pure receipt : Run Receipt).Leads World.Onward :=
    Run.leads_pure heeds.lasting
  have hthen : ∀ {α : Type} {x : Run α} {f : α → Receipt}, x.Leads World.Onward →
      (do return f (← x) : Run Receipt).Leads World.Onward := fun hx =>
    hx.bind heeds.lasting fun _ => hpure _
  cases d with
  | make chat =>
    obtain rfl := (Prod.mk.inj (Option.some.inj h)).2
    exact w.onward_make chat
  | add id => exact hthen (leads_addChat heeds World.enduring_onward id) _ _ _ h
  | remove id =>
    have hremove : (k.removeChat id).Leads World.Onward := by
      refine Run.leads_chat_bind fun c => ?_
      cases c.stream with
      | none => exact Run.leads_pure heeds.lasting false
      | some stream =>
        exact (leads_removeStream heeds World.enduring_onward stream).bind heeds.lasting fun _ =>
          Run.leads_pure heeds.lasting _
    exact hthen hremove _ _ _ h
  | removeStream stream =>
    exact hthen (leads_removeStream heeds World.enduring_onward stream) _ _ _ h
  | findOrMake stream make =>
    obtain ⟨p, x, hfind, h⟩ := Run.run_bind_eq_some.mp h
    obtain rfl : v = x := (Run.run_pure_eq_some.mp h).2
    exact onward_findOrMake heeds (fits stream make rfl) hfind
  | find stream => exact Run.leads_directory_bind (fun _ => hpure _) _ _ _ h
  | chats =>
    exact (Run.leads_directory_bind fun _ => Run.leads_pure heeds.lasting _).bind heeds.lasting
      (fun _ => hpure _) _ _ _ h
  | size => exact Run.leads_directory_bind (fun _ => hpure _) _ _ _ h
  | addObserver o => exact hthen (leads_addObserver World.enduring_onward o) _ _ _ h
  | removeObserver o => exact hthen (leads_removeObserver World.enduring_onward o) _ _ _ h

end Company

/-- **Whatever callbacks do**, however deep they go, leaves all in good order. -/
theorem Cast.heeds_onward (cast : Cast) (depth : Nat) :
    (cast.company depth).Heeds World.Onward fun _ => True :=
  Cast.heeds World.lasting_onward ⟨fun _ _ _ _ _ _ _ => trivial, fun _ _ _ _ _ _ _ => trivial,
    fun _ _ _ _ _ _ _ => trivial⟩ (fun _ _ heeds o a _ => Company.onward_takeAction heeds o a) depth

/-! ## A directory in use -/

/-- **What is done with a directory in use**: it is dealt with, an action is taken, a message comes,
the first of those that are held goes on, or a message has its turn. -/
inductive Matter
  | deal (d : Deal)
  | act (a : Action)
  | come (m : Message)
  | adopt
  | turn (t : Turn)

/-- **A directory in use**: its world, the messages on their way, and which chats have been answered
to those who asked for the chat of a stream. -/
structure Registry where
  crowd : Crowd
  answers : List (String × ChatId) := []

namespace Registry

/-- A directory before it is used. -/
def opened (w : World) : Registry where
  crowd := .gather w []

/-- The world of a registry. -/
def world (r : Registry) : World := r.crowd.world

/-- The registry in another world. -/
def within (r : Registry) (w : World) : Registry := { r with crowd := { r.crowd with world := w } }

/-- Which chat is answered to whom asks for that of a stream. -/
def answer : Deal → Receipt → List (String × ChatId)
  | .find stream, .chat (some id) => [(stream, id)]
  | .removeStream stream, .chat (some id) => [(stream, id)]
  | .findOrMake stream _, .provided id _ => [(stream, id)]
  | _, _ => []

/-- Some messages begin their way, or go on with it. -/
def join (r : Registry) (calls : List (Message × Stage)) : Registry :=
  { r with crowd := { r.crowd with calls := r.crowd.calls ++ calls } }

/-- **Something is done.** -/
def step (k : Company) (r : Registry) : Matter → Option Registry
  | .deal d => do
    let (receipt, w) ← (k.deal d).run r.world
    some { r.within w with answers := r.answers ++ answer d receipt }
  | .act a => do
    let (_, w) ← (k.takeAction ⟨"", none⟩ a).run r.world
    some (r.within w)
  | .come m => some (r.join [(m, .fresh)])
  | .adopt =>
    some ((r.join (r.world.held.take 1)).within { r.world with held := r.world.held.drop 1 })
  | .turn t => do
    let c ← r.crowd.step k t
    some { r with crowd := c }

/-- **One thing is done after the other.** -/
def run (k : Company) (matters : List Matter) (r : Registry) : Option Registry :=
  matters.foldlM (step k) r

/-- **A directory as it should be.** -/
structure Lawful (k : Company) (r : Registry) : Prop where
  /-- Every chat is under its own stream. -/
  filed : ∀ stream id, r.world.directory.rooms.find? stream = some id →
    (r.world.directory.chat id).stream = some stream
  /-- No two of them are the same. -/
  distinct : ∀ stream other id id', r.world.directory.rooms.find? stream = some id →
    r.world.directory.rooms.find? other = some id' → stream ≠ other →
      (r.world.directory.chat id).same (r.world.directory.chat id') = false
  /-- Each can be removed: that is answered with yes, when all observers have been told. -/
  removable : ∀ stream id, r.world.directory.rooms.find? stream = some id →
    (k.removeChat id).run r.world
      = ((k.removeStream stream).run r.world).map fun x => (true, x.2)
  /-- Whoever asked for the chat of a stream got one on that stream. -/
  answered : ∀ x ∈ r.answers, (r.world.directory.chat x.2).stream = some x.1
  /-- A message is handed over next by a chat of its own stream only. -/
  served : ∀ m s id, (m, s) ∈ r.crowd.calls → s.deliversTo id = true →
    (r.world.directory.chat id).stream = some m.stream

/-- **Chats are made to fit**, whoever makes them. -/
def Fitting (k : Company) (start : Registry) (matters : List Matter) : Prop :=
  ∀ before after d r, matters = before ++ .deal d :: after → start.run k before = some r →
    d.Fits r.world

/-- **A directory in good order**: its world is, every message is bound for its stream, and so is
what was answered. -/
structure InOrder (r : Registry) : Prop where
  neat : r.world.Neat
  calls : ∀ x ∈ r.crowd.calls, r.world.Bound x.1 x.2
  answers : ∀ x ∈ r.answers, (r.world.directory.chat x.2).stream = some x.1

variable {cast : Cast} {depth : Nat} {k : Company} {allowed : Action → Prop} {r r' : Registry}
  {w : World} {d : Deal} {receipt : Receipt} {matter : Matter}

theorem InOrder.within (order : r.InOrder) (h : r.world.Onward w) : (r.within w).InOrder where
  neat := h.neat order.neat
  calls := fun x hx => h.bound (order.calls x hx)
  answers := fun x hx => h.keeps (order.answers x hx)

theorem InOrder.join (order : r.InOrder) {calls : List (Message × Stage)}
    (h : ∀ x ∈ calls, r.world.Bound x.1 x.2) : (r.join calls).InOrder where
  neat := order.neat
  calls := fun x hx => (List.mem_append.mp hx).elim (order.calls x) (h x)
  answers := order.answers

/-- A chat under its own stream is removed by its stream. -/
theorem run_removeChat {id : ChatId} {stream : String}
    (filed : (w.directory.chat id).stream = some stream)
    (room : w.directory.rooms.find? stream = some id) :
    (k.removeChat id).run w = ((k.removeStream stream).run w).map fun x => (true, x.2) := by
  have hbind : (k.removeChat id).run w
      = ((k.removeStream stream).run w).map fun x => (x.1.isSome, x.2) := by
    unfold Company.removeChat
    rw [Run.run_chat_bind, filed]
    change ((k.removeStream stream).run w).bind (fun x => some (x.1.isSome, x.2)) = _
    rw [Option.map_eq_bind]
    rfl
  rw [hbind]
  refine Option.map_congr fun x hx => ?_
  rcases Company.removeStream_cases hx with ⟨absent, -, -⟩ | ⟨id, u, -, hid, -⟩
  · rw [absent] at room
    cases room
  · rw [hid, Option.isSome_some]

/-- **A directory in good order is as it should be.** -/
theorem InOrder.lawful (order : r.InOrder) : r.Lawful k where
  filed := order.neat.filed
  distinct := by
    intro stream other id id' hid hid' hne
    rw [Chat.same, order.neat.filed _ _ hid, order.neat.filed _ _ hid']
    exact decide_eq_false hne
  removable := fun stream id room => run_removeChat (order.neat.filed stream id room) room
  answered := order.answers
  served := by
    intro m s id hmem hdelivers
    refine order.calls _ hmem id ?_
    cases s <;> simp_all [Stage.deliversTo, Stage.chat?]

/-- **What is answered is on the stream that was asked for.** -/
theorem stream_of_answer (heeds : k.Heeds World.Onward allowed) {v : World} (neat : w.Neat)
    (fits : d.Fits w) (h : (k.deal d).run w = some (receipt, v)) :
    ∀ x ∈ answer d receipt, (v.directory.chat x.2).stream = some x.1 := by
  have onward := Company.onward_deal heeds fits h
  intro x hx
  cases d with
  | find stream =>
    obtain ⟨rfl, rfl⟩ := Prod.mk.inj (Option.some.inj h)
    cases hroom : w.directory.rooms.find? stream with
    | none => simp [hroom, answer] at hx
    | some id =>
      obtain rfl : x = (stream, id) := by simpa [hroom, answer] using hx
      exact neat.filed stream id hroom
  | removeStream stream =>
    obtain ⟨found, v, hremove, h⟩ := Run.run_bind_eq_some.mp h
    obtain ⟨rfl, rfl⟩ := Run.run_pure_eq_some.mp h
    rcases Company.removeStream_cases hremove with ⟨-, rfl, -⟩ | ⟨id, u, room, rfl, -⟩
    · simp [answer] at hx
    · obtain rfl : x = (stream, id) := by simpa [answer] using hx
      exact onward.keeps (neat.filed stream id room)
  | findOrMake stream make =>
    obtain ⟨⟨id, new⟩, v, hfind, h⟩ := Run.run_bind_eq_some.mp h
    obtain ⟨rfl, rfl⟩ := Run.run_pure_eq_some.mp h
    obtain rfl : x = (stream, id) := by simpa [answer] using hx
    cases hroom : w.directory.rooms.find? stream with
    | none =>
      exact (Company.stream_of_findOrMake heeds hroom hfind).trans (fits stream make rfl hroom)
    | some a =>
      rcases Company.findOrMake_cases hfind with ⟨b, hb, hid, -⟩ | ⟨-, -, absent, -⟩
      · obtain ⟨rfl, -⟩ := Prod.mk.inj hid
        exact onward.keeps (neat.filed stream id hb)
      · rw [hroom] at absent
        cases absent
  | _ => cases receipt <;> simp [answer] at hx

/-- **A turn of a message** leaves all in good order. -/
theorem InOrder.turn (heeds : k.Heeds World.Onward allowed) (order : r.InOrder) {t : Turn}
    {c : Crowd} (h : r.crowd.step k t = some c) : ({ r with crowd := c } : Registry).InOrder := by
  cases t with
  | wait millis =>
    obtain rfl := Option.some.inj h
    exact order.within (heeds.lasting.beside ⟨rfl, rfl, rfl, rfl⟩)
  | call i =>
    obtain ⟨⟨m, s⟩, hcall, h⟩ := Option.bind_eq_some_iff.mp h
    obtain ⟨⟨next, w⟩, hstep, h⟩ := Option.bind_eq_some_iff.mp h
    have honward : r.world.Onward w := Company.onward_step heeds m s _ _ _ hstep
    cases next with
    | none =>
      obtain rfl := Option.some.inj h
      exact order.within honward
    | some s' =>
      obtain rfl := Option.some.inj h
      have hbound : w.Bound m s' := Company.bound_step heeds order.neat
        (order.calls (m, s) (List.mem_of_getElem? hcall)) hstep
      refine ⟨honward.neat order.neat, fun x hx => ?_, (order.within honward).answers⟩
      rcases List.mem_or_eq_of_mem_set hx with hx | rfl
      · exact honward.bound (order.calls x hx)
      · exact hbound

/-- **Whatever is done leaves a directory in good order**, if the chats that are made fit. -/
theorem InOrder.step (heeds : k.Heeds World.Onward allowed) (order : r.InOrder)
    (fits : ∀ d, matter = .deal d → d.Fits r.world) (h : r.step k matter = some r') :
    r'.InOrder := by
  cases matter with
  | deal d =>
    obtain ⟨⟨receipt, w⟩, hdeal, h⟩ := Option.bind_eq_some_iff.mp h
    obtain rfl := Option.some.inj h
    have hwithin := order.within (Company.onward_deal heeds (fits d rfl) hdeal)
    refine ⟨hwithin.neat, hwithin.calls, fun x hx => ?_⟩
    exact (List.mem_append.mp hx).elim (hwithin.answers x)
      (stream_of_answer heeds order.neat (fits d rfl) hdeal x)
  | act a =>
    obtain ⟨⟨reply, w⟩, hact, h⟩ := Option.bind_eq_some_iff.mp h
    obtain rfl := Option.some.inj h
    exact order.within (Company.onward_takeAction heeds _ a _ _ _ hact)
  | come m =>
    obtain rfl := Option.some.inj h
    exact order.join fun x hx => by
      obtain rfl := List.mem_singleton.mp hx
      rintro id ⟨⟩
  | adopt =>
    obtain rfl := Option.some.inj h
    have hjoin : (r.join (r.world.held.take 1)).InOrder := order.join fun x hx =>
      order.neat.held x (List.mem_of_mem_take hx)
    exact hjoin.within (r.world.onward_drop 1)
  | turn t =>
    obtain ⟨c, hturn, h⟩ := Option.bind_eq_some_iff.mp h
    obtain rfl := Option.some.inj h
    exact order.turn heeds hturn

theorem inOrder_opened (empty : w.directory.rooms = .empty) (free : w.held = []) :
    (opened w).InOrder where
  neat := by
    constructor
    · intro stream id h
      change w.directory.rooms.find? stream = some id at h
      rw [empty, Rooms.find?_empty] at h
      cases h
    · intro x hx
      change x ∈ w.held at hx
      rw [free] at hx
      cases hx
  calls := fun x hx => (nomatch hx)
  answers := fun x hx => (nomatch hx)

/-- **A directory stays in good order** as long as chats are made to fit. -/
theorem InOrder.run (heeds : k.Heeds World.Onward allowed) {start : Registry}
    (order : start.InOrder)
    {matters before after : List Matter} (fitting : start.Fitting k matters)
    (split : matters = before ++ after) (h : start.run k before = some r) : r.InOrder := by
  induction before using List.reverseRecOn generalizing after r with
  | nil =>
    obtain rfl := Option.some.inj h
    exact order
  | append_singleton before matter ih =>
    obtain ⟨r₁, hbefore, hstep⟩ := foldlM_concat.mp h
    have split₁ : matters = before ++ matter :: after := by rw [split]; simp
    refine (ih split₁ hbefore).step heeds (fun d hd => ?_) hstep
    subst hd
    exact fitting before after d r₁ split₁ hbefore

/-- A chat that does not fit is answered. -/
theorem Lawful.fits (heeds : k.Heeds World.Onward allowed) (lawful : r'.Lawful k)
    (h : r.step k (.deal d) = some r') : d.Fits r.world := by
  rintro stream make rfl absent
  obtain ⟨⟨receipt, w⟩, hdeal, h⟩ := Option.bind_eq_some_iff.mp h
  obtain rfl := Option.some.inj h
  obtain ⟨⟨id, new⟩, v, hfind, hdeal⟩ := Run.run_bind_eq_some.mp hdeal
  obtain ⟨rfl, rfl⟩ := Run.run_pure_eq_some.mp hdeal
  have hanswered := lawful.answered (stream, id) (List.mem_append_right _ List.mem_cons_self)
  exact (Company.stream_of_findOrMake heeds absent hfind).symm.trans hanswered

/-- **A directory is as it should be exactly as long as chats are made to fit.**  Whatever is done
with a directory that is empty at first, and whatever the callbacks do meanwhile, however deep:
every chat is under its own stream, no two are the same, each can be removed, whoever asks for the
chat of a stream gets one on that stream, and no message is handed over by a chat of another stream,
at every moment, just if whoever makes a chat for a stream makes it on that stream. -/
theorem lawful_iff_fitting (cast : Cast) (depth : Nat) {w : World}
    (empty : w.directory.rooms = .empty) (free : w.held = []) {matters : List Matter}
    {last : Registry} (h : (opened w).run (cast.company depth) matters = some last) :
    (∀ before after r, matters = before ++ after →
        (opened w).run (cast.company depth) before = some r → r.Lawful (cast.company depth))
      ↔ (opened w).Fitting (cast.company depth) matters := by
  have heeds := cast.heeds_onward depth
  constructor
  · intro lawful before after d r split hbefore
    have hrun : (opened w).run (cast.company depth) ((before ++ [.deal d]) ++ after)
        = some last := by
      rw [← h, split, List.append_assoc]
      rfl
    obtain ⟨r', hr', -⟩ := foldlM_append.mp hrun
    have hlawful := lawful _ after r' (by rw [split, List.append_assoc]; rfl) hr'
    obtain ⟨r₁, hr₁, hstep⟩ := foldlM_concat.mp hr'
    obtain rfl := Option.some.inj (hr₁.symm.trans hbefore)
    exact hlawful.fits heeds hstep
  · intro fitting before after r split hbefore
    exact ((inOrder_opened empty free).run heeds fitting split hbefore).lawful

/-- An observer that takes away every new chat, a chat that is asked for, and a message: all is in
order, and the chat that was answered is one no longer. -/
theorem lawful_iff_fitting_when_taken_away :
    let cast : Cast := { observer := fun _ => .scripted {
      onNew := fun stream _ => { steps := [⟨none, .removeChat stream⟩] } } }
    let w : World := { directory := {
      owner := .bare "bot", observers := Roster.empty.insert "desk" } }
    let matters : List Matter := [.come (.plain "1" "room" "ann" "hello"),
      .deal (.findOrMake "room" (.fresh (some "room"))), .turn (.call 0), .turn (.call 0)]
    ∃ r, (opened w).run (cast.company 2) matters = some r
      ∧ r.answers = [("room", 0)] ∧ r.world.directory.rooms.entries = [("room", 1)]
      ∧ r.Lawful (cast.company 2) := by
  intro cast w matters
  have hview : ((opened w).run (cast.company 2) matters).map
      (fun r => (r.answers, r.world.directory.rooms.entries))
        = some ([("room", 0)], [("room", 1)]) := by
    decide +kernel
  obtain ⟨r, hrun, hview⟩ := Option.map_eq_some_iff.mp hview
  obtain ⟨hanswers, hrooms⟩ := Prod.mk.inj hview
  have fitting : (opened w).Fitting (cast.company 2) matters := by
    intro before after d r₁ split _ stream make hd _
    have hmem : Matter.deal (.findOrMake stream make) ∈ matters := by
      rw [split, hd]
      exact List.mem_append_right _ List.mem_cons_self
    obtain ⟨rfl, rfl⟩ : stream = "room" ∧ make = .fresh (some "room") := by
      simpa [matters] using hmem
    rfl
  exact ⟨r, hrun, hanswers, hrooms,
    (lawful_iff_fitting cast 2 rfl rfl hrun).mpr fitting matters [] r (by simp) hrun⟩

/-- **A chat under a stream that is not its own**: somebody who asks for the chat of one stream
makes one on another.  A message of the first stream is handed to who listens to the chat of the
second, and the chat cannot be removed. -/
theorem misfiled_when_made_on_another :
    let cast : Cast := {}
    let w : World := { directory := { owner := .bare "bot" } }
    let matters : List Matter := [.deal (.findOrMake "room" (.fresh (some "hall"))),
      .act (.onChat (.onStream "room") (.register "ear")), .come (.plain "1" "room" "ann" "hello"),
      .turn (.call 0), .turn (.call 0), .turn (.call 0)]
    ∃ r, (opened w).run (cast.company 1) matters = some r
      ∧ r.world.directory.rooms.find? "room" = some 0
      ∧ (r.world.directory.chat 0).stream = some "hall"
      ∧ r.world.received.map (fun x => (x.1, x.2.stream)) = [("ear", "room")]
      ∧ ((cast.company 1).removeChat 0).run r.world = some (false, r.world)
      ∧ ¬ r.Lawful (cast.company 1) := by
  intro cast w matters
  have hview : ((opened w).run (cast.company 1) matters).map
      (fun r => (["room", "hall"].map r.world.directory.rooms.find?,
        (r.world.directory.chat 0).stream, r.world.received.map fun x => (x.1, x.2.stream)))
        = some ([some 0, none], some "hall", [("ear", "room")]) := by
    decide +kernel
  obtain ⟨r, hrun, hview⟩ := Option.map_eq_some_iff.mp hview
  obtain ⟨hrooms, hview⟩ := Prod.mk.inj hview
  obtain ⟨hstream, hheard⟩ := Prod.mk.inj hview
  obtain ⟨hroom, hnone⟩ : r.world.directory.rooms.find? "room" = some 0
      ∧ r.world.directory.rooms.find? "hall" = none := by simpa using hrooms
  have hremove : ((cast.company 1).removeStream "hall").run r.world = some (none, r.world) := by
    unfold Company.removeStream
    rw [Run.run_directory_bind, hnone]
    rfl
  refine ⟨r, hrun, hroom, hstream, hheard, ?_, fun lawful => ?_⟩
  · unfold Company.removeChat
    rw [Run.run_chat_bind, hstream]
    exact Run.run_bind_eq_some.mpr ⟨none, r.world, hremove, rfl⟩
  · have hfiled := lawful.filed _ _ hroom
    rw [hstream] at hfiled
    simp at hfiled

end Registry

end ChatFeed
