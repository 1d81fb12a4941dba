import ChatFeed.Chat.Perform

/-!
# Proofs/Chat/Calm — callbacks that only register listeners

A callback is **modest** when all that it does is to register listeners on the chat that it is
about, or to look.  Between two deliveries such callbacks leave a chat **calm**: it stays in its
place with its gate and its last message as they are, keeps its listeners, and no listener that it
has is handed anything (`Cast.Modest.keeps`).

* `Company.calm_deliver` — a delivery hands its message to every listener once; all else stays calm.
* `Company.calm_inform` — telling an observer of a chat is one item of news; all else stays calm.
-/

namespace ChatFeed

/-! ## Taking runs apart -/

namespace Run

variable {α β : Type} {w w' : World}

theorem run_bind_eq_some {x : Run α} {f : α → Run β} {b : β} :
    (x >>= f).run w = some (b, w') ↔ ∃ a v, x.run w = some (a, v) ∧ (f a).run v = some (b, w') := by
  change (x.run w).bind (fun p => (f p.1).run p.2) = _ ↔ _
  rw [Option.bind_eq_some_iff]
  exact ⟨fun ⟨p, hp, h⟩ => ⟨p.1, p.2, hp, h⟩, fun ⟨a, v, hp, h⟩ => ⟨(a, v), hp, h⟩⟩

theorem run_pure_eq_some {a b : α} :
    (pure a : Run α).run w = some (b, w') ↔ b = a ∧ w' = w := by
  change some (a, w) = some (b, w') ↔ _
  rw [Option.some.injEq, Prod.mk.injEq]
  exact ⟨fun ⟨ha, hw⟩ => ⟨ha.symm, hw.symm⟩, fun ⟨ha, hw⟩ => ⟨ha.symm, hw.symm⟩⟩

theorem run_modify_eq_some {f : World → World} {u : Unit} :
    (modify f : Run Unit).run w = some (u, w') ↔ w' = f w := by
  change some ((), f w) = some (u, w') ↔ _
  rw [Option.some.injEq, Prod.mk.injEq]
  exact ⟨fun h => h.2.symm, fun h => ⟨rfl, h.symm⟩⟩

theorem run_get_bind {f : World → Run β} : (get >>= f).run w = (f w).run w := rfl

theorem run_directory_bind {f : Directory → Run β} :
    (directory >>= f).run w = (f w.directory).run w := rfl

theorem run_chat_bind {id : ChatId} {f : Chat → Run β} :
    (chat id >>= f).run w = (f (w.directory.chat id)).run w := rfl

/-- A mark that has not been spent is spent. -/
theorem run_enter (mark : String) (w : World) : (Company.enter (some mark)).run w
    = if w.spent.contains mark then some (false, w)
      else some (true, { w with spent := w.spent ++ [mark] }) := by
  change (if w.spent.contains mark then pure false else do
    set { w with spent := w.spent ++ [mark] }
    return true : Run Bool).run w = _
  split <;> rfl

/-- Entering a step spends a mark at most. -/
theorem enter_cases {mark : Option String} {b : Bool}
    (h : (Company.enter mark).run w = some (b, w')) :
    w' = w ∨ ∃ name, w' = { w with spent := w.spent ++ [name] } := by
  cases mark with
  | none => exact .inl (run_pure_eq_some.mp h).2
  | some name =>
    rw [run_enter] at h
    split at h
    · exact .inl (Prod.mk.inj (Option.some.inj h)).2.symm
    · exact .inr ⟨name, (Prod.mk.inj (Option.some.inj h)).2.symm⟩

end Run

/-! ## What a listener has been handed -/

/-- The messages that a listener has been handed, out of all that have been handed over. -/
def heardBy (l : String) (handed : List (String × Message)) : List Message :=
  (handed.filter (·.1 = l)).map (·.2)

theorem heardBy_append (l : String) (handed more : List (String × Message)) :
    heardBy l (handed ++ more) = heardBy l handed ++ heardBy l more := by
  simp [heardBy]

theorem heardBy_single (l x : String) (m : Message) :
    heardBy l [(x, m)] = if x = l then [m] else [] := by
  by_cases hx : x = l <;> simp [heardBy, hx]

/-! ## What a calm chat keeps -/

theorem Directory.length_update (d : Directory) (id : ChatId) (f : Chat → Chat) :
    (d.update id f).chats.length = d.chats.length := List.length_modify _ _ _

theorem Directory.chat_update {d : Directory} {id : ChatId} (h : id < d.chats.length)
    (f : Chat → Chat) : (d.update id f).chat id = f (d.chat id) := by
  simp [Directory.chat, Directory.update, List.getD, h]

namespace World

/-- Change a chat. -/
def onChat (w : World) (id : ChatId) (f : Chat → Chat) : World :=
  { w with directory := w.directory.update id f }

/-- Some messages are handed over. -/
def hear (w : World) (heard : List (String × Message)) : World :=
  { w with received := w.received ++ heard }

/-- The listeners of a chat. -/
def members (w : World) (id : ChatId) : List String := (w.directory.chat id).listeners.members

/-- **A chat in its place**: it is under its stream, and so is its last message. -/
structure Hosts (w : World) (id : ChatId) (stream : String) : Prop where
  room : w.directory.rooms.find? stream = some id
  lt : id < w.directory.chats.length
  stream_eq : (w.directory.chat id).stream = some stream
  last : ∀ m, (w.directory.chat id).last = some m → m.stream = stream

theorem Hosts.of_directory {w w' : World} {id : ChatId} {stream : String} (h : w.Hosts id stream)
    (hdirectory : w'.directory = w.directory) : w'.Hosts id stream where
  room := by rw [hdirectory, h.room]
  lt := by rw [hdirectory]; exact h.lt
  stream_eq := by rw [hdirectory, h.stream_eq]
  last := by rw [hdirectory]; exact h.last

/-- A chat changes in its place. -/
theorem Hosts.onChat {w : World} {id : ChatId} {stream : String} (h : w.Hosts id stream)
    {f : Chat → Chat} (hstream : ∀ c, (f c).stream = c.stream)
    (hlast : ∀ m, (f (w.directory.chat id)).last = some m → m.stream = stream) :
    (w.onChat id f).Hosts id stream where
  room := h.room
  lt := by rw [World.onChat, Directory.length_update]; exact h.lt
  stream_eq := by rw [World.onChat, Directory.chat_update h.lt, hstream, h.stream_eq]
  last := by rw [World.onChat, Directory.chat_update h.lt]; exact hlast

/-- A chat stays in its place when it gets a last message of its stream. -/
theorem Hosts.withLast {w : World} {id : ChatId} {stream : String} (h : w.Hosts id stream)
    {m : Message} (hm : m.stream = stream) :
    (w.onChat id fun c => { c with last := some m }).Hosts id stream := by
  refine h.onChat (fun _ => rfl) ?_
  intro m' hm'
  obtain rfl : m = m' := Option.some.inj hm'
  exact hm

/-- **A chat stays calm**: it keeps its place, its gate, its last message and its listeners, who are
handed nothing; and nobody is, as long as there is no last message. -/
structure Calm (id : ChatId) (w w' : World) : Prop where
  rooms : w'.directory.rooms = w.directory.rooms
  count : w'.directory.chats.length = w.directory.chats.length
  stream : (w'.directory.chat id).stream = (w.directory.chat id).stream
  last : (w'.directory.chat id).last = (w.directory.chat id).last
  gate : (w'.directory.chat id).gateOpen = (w.directory.chat id).gateOpen
  members : ∀ l ∈ w.members id, l ∈ w'.members id
  news : w'.news = w.news
  received : ∀ l ∈ w.members id,
    w'.received.filter (·.1 = l) = w.received.filter (·.1 = l)
  silent : (w.directory.chat id).last = none → w'.received = w.received

variable {id : ChatId} {stream : String} {w v w' : World}

theorem hear_hear (w : World) (heard more : List (String × Message)) :
    (w.hear heard).hear more = w.hear (heard ++ more) := by
  simp [World.hear]

/-- Books and files are no matter of a chat. -/
theorem Calm.of_same (hdirectory : w'.directory = w.directory) (hnews : w'.news = w.news)
    (hreceived : w'.received = w.received) : Calm id w w' := by
  constructor <;> simp [World.members, hdirectory, hnews, hreceived]

theorem Calm.refl (id : ChatId) (w : World) : Calm id w w := .of_same rfl rfl rfl

theorem Calm.trans (h : Calm id w v) (h' : Calm id v w') : Calm id w w' where
  rooms := h'.rooms.trans h.rooms
  count := h'.count.trans h.count
  stream := h'.stream.trans h.stream
  last := h'.last.trans h.last
  gate := h'.gate.trans h.gate
  members := fun l hl => h'.members l (h.members l hl)
  news := h'.news.trans h.news
  received := fun l hl => (h'.received l (h.members l hl)).trans (h.received l hl)
  silent := fun hlast => (h'.silent (h.last.trans hlast)).trans (h.silent hlast)

theorem Calm.hosts (h : Calm id w w') (hosts : w.Hosts id stream) : w'.Hosts id stream where
  room := by rw [h.rooms, hosts.room]
  lt := by rw [h.count]; exact hosts.lt
  stream_eq := by rw [h.stream, hosts.stream_eq]
  last := by rw [h.last]; exact hosts.last

/-- What was handed over before is no matter of calm. -/
theorem Calm.hear (h : Calm id w w') (heard : List (String × Message)) :
    Calm id (w.hear heard) (w'.hear heard) where
  rooms := h.rooms
  count := h.count
  stream := h.stream
  last := h.last
  gate := h.gate
  members := h.members
  news := h.news
  received := by
    intro l hl
    simp only [World.hear, List.filter_append]
    rw [h.received l hl]
  silent := by
    intro hlast
    simp only [World.hear]
    rw [h.silent hlast]

/-- A listener that is not one of the chat may be handed its last message. -/
theorem Calm.of_hear {l : String} {m : Message} (hl : l ∉ w.members id)
    (hlast : (w.directory.chat id).last ≠ none) : Calm id w (w.hear [(l, m)]) where
  rooms := rfl
  count := rfl
  stream := rfl
  last := rfl
  gate := rfl
  members := fun _ h => h
  news := rfl
  received := by
    intro l' hl'
    have hne : l ≠ l' := fun h => hl (h ▸ hl')
    simp [World.hear, hne]
  silent := fun h => absurd h hlast

/-- A chat changes, but not in what calm is about. -/
theorem Calm.of_onChat (hlt : id < w.directory.chats.length) {f : Chat → Chat}
    (hstream : ∀ c, (f c).stream = c.stream) (hlast : ∀ c, (f c).last = c.last)
    (hgate : ∀ c, (f c).gateOpen = c.gateOpen)
    (hmembers : ∀ c, ∀ l ∈ c.listeners.members, l ∈ (f c).listeners.members) :
    Calm id w (w.onChat id f) where
  rooms := rfl
  count := Directory.length_update _ _ _
  stream := by rw [onChat, Directory.chat_update hlt, hstream]
  last := by rw [onChat, Directory.chat_update hlt, hlast]
  gate := by rw [onChat, Directory.chat_update hlt, hgate]
  members := by
    intro l hl
    rw [World.members, onChat, Directory.chat_update hlt]
    exact hmembers _ l hl
  news := rfl
  received := fun _ _ => rfl
  silent := fun _ => rfl

end World

/-! ## Modest callbacks -/

/-- Whether an action registers a listener on the chat that a callback is about, or only looks. -/
def Action.isModest : Action → Bool
  | .onChat .current (.register _) => true
  | .onChat .current .count => true
  | .onChat .current .last => true
  | .onChat .current (.addRemote _) => true
  | .size => true
  | .pause => true
  | _ => false

/-- Whether all steps of a part are modest. -/
def Part.isModest (p : Part) : Bool := p.steps.all (·.action.isModest)

/-- **Nobody calls back but to register listeners**: neither the listeners when they are handed a
message, nor the observers when they are told of a new chat. -/
structure Cast.Modest (cast : Cast) : Prop where
  listeners : ∀ name react, cast.listener name = .scripted react →
    ∀ m n, (react m n).isModest = true
  observers : ∀ name script, cast.observer name = .scripted script →
    ∀ stream n, (script.onNew stream n).isModest = true

/-- The listener that an observer registers on every new chat. -/
def Cast.attaches? (cast : Cast) (observer : String) : Option String :=
  match cast.observer observer with
  | .recorder listener => some listener
  | .scripted script => script.attach

/-- **A run keeps a chat calm**, when it is in its place. -/
def Run.Keeps {α : Type} (id : ChatId) (stream : String) (x : Run α) : Prop :=
  ∀ w a w', w.Hosts id stream → x.run w = some (a, w') → World.Calm id w w'

namespace Run

variable {α β : Type} {id : ChatId} {stream : String}

theorem keeps_pure (a : α) : (pure a : Run α).Keeps id stream := by
  intro w b w' _ h
  obtain ⟨-, rfl⟩ := run_pure_eq_some.mp h
  exact .refl id w'

theorem Keeps.bind {x : Run α} {f : α → Run β} (hx : x.Keeps id stream)
    (hf : ∀ a, (f a).Keeps id stream) : (x >>= f).Keeps id stream := by
  intro w b w' hosts h
  obtain ⟨a, v, hv, h⟩ := run_bind_eq_some.mp h
  have hcalm := hx w a v hosts hv
  exact hcalm.trans (hf a v b w' (hcalm.hosts hosts) h)

theorem keeps_modify {f : World → World} (hf : ∀ w, w.Hosts id stream → World.Calm id w (f w)) :
    (modify f : Run Unit).Keeps id stream := by
  intro w u w' hosts h
  obtain rfl := run_modify_eq_some.mp h
  exact hf w hosts

theorem keeps_directory_bind {f : Directory → Run β} (hf : ∀ d, (f d).Keeps id stream) :
    (directory >>= f).Keeps id stream := fun w b w' hosts h => hf _ w b w' hosts h

theorem keeps_chat_bind {about : ChatId} {f : Chat → Run β} (hf : ∀ c, (f c).Keeps id stream) :
    (chat about >>= f).Keeps id stream := fun w b w' hosts h => hf _ w b w' hosts h

theorem keeps_remark (r : Remark) : (remark r).Keeps id stream :=
  keeps_modify fun _ _ => .of_same rfl rfl rfl

theorem keeps_note (n : Note) : (note n).Keeps id stream :=
  keeps_modify fun _ _ => .of_same rfl rfl rfl

theorem keeps_failure (message : String) (details : List (String × Detail)) :
    (failure message details).Keeps id stream :=
  (keeps_remark _).bind fun _ => keeps_remark _

theorem keeps_labelOf (about : ChatId) : (labelOf about).Keeps id stream := by
  intro w b w' _ h
  rw [labelOf, run_get_bind] at h
  cases hlabel : w.label? about with
  | some label =>
    rw [hlabel] at h
    obtain ⟨-, rfl⟩ := run_pure_eq_some.mp h
    exact .refl id w'
  | none =>
    rw [hlabel] at h
    obtain rfl := (Prod.mk.inj (Option.some.inj h)).2
    exact .of_same rfl rfl rfl

end Run

namespace Company

variable {k : Company} {id : ChatId} {stream : String} {w w' : World} {l : String} {m : Message}

/-- **A company that keeps calm**: whoever acts modestly on a chat keeps it calm. -/
def Keeps (k : Company) (id : ChatId) (stream : String) : Prop :=
  ∀ o a, o.chat = some id → a.isModest = true → (k.act o a).Keeps id stream

theorem keeps_enter (mark : Option String) : (enter mark).Keeps id stream := by
  intro w b w' _ h
  rcases Run.enter_cases h with rfl | ⟨name, rfl⟩
  · exact .refl id w'
  · exact .of_same rfl rfl rfl

theorem keeps_take (keeps : k.Keeps id stream) {o : Occasion} (ho : o.chat = some id)
    {steps : List Step} (modest : ∀ s ∈ steps, s.action.isModest = true) :
    (k.take o steps).Keeps id stream := by
  induction steps with
  | nil => exact Run.keeps_pure ()
  | cons s steps ih =>
    have hrest := ih fun s' hs => modest s' (List.mem_cons_of_mem _ hs)
    have hact := keeps o s.action ho (modest s List.mem_cons_self)
    refine (keeps_enter s.mark).bind fun entered => ?_
    cases entered with
    | false => exact hrest
    | true => exact hact.bind fun reply => (Run.keeps_note _).bind fun _ => hrest

theorem keeps_play (keeps : k.Keeps id stream) {o : Occasion} (ho : o.chat = some id) {p : Part}
    (modest : p.isModest = true) : (k.play o p).Keeps id stream :=
  (keeps_take keeps ho (List.all_eq_true.mp modest)).bind fun _ => Run.keeps_pure _

theorem keeps_recording (directory : Option String) (m : Message) :
    (k.recording directory m).Keeps id stream := by
  refine (Run.keeps_remark _).bind fun _ => ?_
  intro w b w' _ h
  obtain rfl := (Prod.mk.inj (Option.some.inj h)).2
  exact .of_same rfl rfl rfl

/-- What a listener does once it has been handed a message. -/
def respond (k : Company) (l : String) (m : Message) (about : Option ChatId) (turn : Nat) :
    Run (Option CallbackError) := do
  Run.note (.call l m.id)
  let ending ← match k.listener l with
    | .transcript directory => k.recording directory m
    | .scripted react => k.play ⟨l, about⟩ (react m turn)
  return ending.error?

theorem run_call (k : Company) (l : String) (m : Message) (w : World) :
    (k.call l m).run w = (k.respond l m (w.directory.rooms.find? m.stream)
      (w.received.countP (·.1 = l))).run (w.hear [(l, m)]) := by
  unfold call respond
  cases k.listener l with
  | transcript directory => rfl
  | scripted react => rfl

/-- **A listener is called**: it is handed the message, and then only modest things happen. -/
theorem calm_call (keeps : k.Keeps id stream) (modest : k.toCast.Modest)
    (hosts : w.Hosts id stream) (hm : m.stream = stream) {e : Option CallbackError}
    (h : (k.call l m).run w = some (e, w')) : World.Calm id (w.hear [(l, m)]) w' := by
  rw [run_call] at h
  refine ((Run.keeps_note _).bind fun _ => ?_ : (k.respond l m _ _).Keeps id stream)
    _ _ _ (hosts.of_directory rfl) h
  cases hrole : k.listener l with
  | transcript directory => exact (keeps_recording directory m).bind fun _ => Run.keeps_pure _
  | scripted react =>
    refine (keeps_play keeps ?_ (modest.listeners l react hrole _ _)).bind fun _ =>
      Run.keeps_pure _
    rw [hm]
    exact hosts.room

/-- Handing a chat's last message to somebody who is not its listener keeps the chat calm. -/
theorem calm_catchUp (keeps : k.Keeps id stream) (modest : k.toCast.Modest)
    (hosts : w.Hosts id stream) (hl : l ∉ w.members id) {u : Unit}
    (h : (k.catchUp id l).run w = some (u, w')) : World.Calm id w w' := by
  unfold catchUp at h
  rw [Run.run_chat_bind] at h
  cases hlast : (w.directory.chat id).last with
  | none =>
    rw [hlast] at h
    obtain ⟨-, rfl⟩ := Run.run_pure_eq_some.mp h
    exact .refl id w'
  | some m =>
    rw [hlast] at h
    obtain ⟨e, v, hcall, h⟩ := Run.run_bind_eq_some.mp h
    have hcalm := (World.Calm.of_hear hl (by simp [hlast])).trans
      (calm_call keeps modest hosts (hosts.last m hlast) hcall)
    cases e with
    | none =>
      obtain ⟨-, rfl⟩ := Run.run_pure_eq_some.mp h
      exact hcalm
    | some e => exact hcalm.trans (Run.keeps_failure _ _ _ _ _ (hcalm.hosts hosts) h)

/-- **What registering does**: nothing to a listener of the chat; another one is caught up with the
last message, and then it is a listener. -/
theorem register_cases {b : Bool} (h : (k.register id l).run w = some (b, w')) :
    (l ∈ w.members id ∧ w' = w)
      ∨ (l ∉ w.members id ∧ ∃ u v, (k.catchUp id l).run w = some (u, v)
        ∧ w' = v.onChat id fun c => { c with listeners := c.listeners.insert l }) := by
  unfold register at h
  rw [Run.run_chat_bind] at h
  by_cases hl : (w.directory.chat id).listeners.contains l = true
  · rw [if_pos hl] at h
    obtain ⟨-, rfl⟩ := Run.run_pure_eq_some.mp h
    exact .inl ⟨Roster.contains_iff.mp hl, rfl⟩
  · rw [if_neg hl] at h
    obtain ⟨u, v, hcatch, h⟩ := Run.run_bind_eq_some.mp h
    rw [Run.run_chat_bind] at h
    obtain ⟨u', v', hon, h⟩ := Run.run_bind_eq_some.mp h
    obtain rfl := Run.run_modify_eq_some.mp hon
    obtain ⟨-, rfl⟩ := Run.run_pure_eq_some.mp h
    exact .inr ⟨mt Roster.contains_iff.mpr hl, u, v, hcatch, rfl⟩

/-- **Registering a listener keeps a chat calm.** -/
theorem keeps_register (keeps : k.Keeps id stream) (modest : k.toCast.Modest) (l : String) :
    (k.register id l).Keeps id stream := by
  intro w b w' hosts h
  rcases register_cases h with ⟨-, rfl⟩ | ⟨hl, u, v, hcatch, rfl⟩
  · exact .refl id w'
  · have hcalm := calm_catchUp keeps modest hosts hl hcatch
    refine hcalm.trans (.of_onChat (hcalm.hosts hosts).lt (fun _ => rfl) (fun _ => rfl)
      (fun _ => rfl) fun c l' hl' => ?_)
    rw [Roster.members_insert]
    split
    · exact hl'
    · exact List.mem_append_left _ hl'

/-- A listener that has been registered is one of the chat. -/
theorem mem_of_register (keeps : k.Keeps id stream) (modest : k.toCast.Modest)
    (hosts : w.Hosts id stream) {b : Bool} (h : (k.register id l).run w = some (b, w')) :
    l ∈ w'.members id := by
  rcases register_cases h with ⟨hl, rfl⟩ | ⟨hl, u, v, hcatch, rfl⟩
  · exact hl
  · have hcalm := calm_catchUp keeps modest hosts hl hcatch
    rw [World.members, World.onChat, Directory.chat_update (hcalm.hosts hosts).lt,
      Roster.members_insert]
    split
    · assumption
    · exact List.mem_append_right _ List.mem_cons_self

theorem keeps_addRemote (u : User) : (addRemote id u).Keeps id stream := by
  refine Run.keeps_chat_bind fun c => ?_
  have hon : (Run.onChat id fun c => { c with remotes := c.remotes.insert u }).Keeps id stream :=
    Run.keeps_modify fun _ hosts =>
      .of_onChat hosts.lt (fun _ => rfl) (fun _ => rfl) (fun _ => rfl) fun _ _ hl => hl
  exact hon.bind fun _ => Run.keeps_pure _

/-- An action on the current chat is one on the chat that the callback is about. -/
theorem keeps_current {o : Occasion} (ho : o.chat = some id) {action : ChatAction}
    (h : (k.actOn id action).Keeps id stream) :
    (k.takeAction o (.onChat .current action)).Keeps id stream := by
  intro w b w' hosts hb
  obtain ⟨about, v, hfind, hact⟩ := Run.run_bind_eq_some.mp hb
  obtain ⟨rfl, rfl⟩ := Run.run_pure_eq_some.mp hfind
  rw [ho] at hact
  exact h _ _ _ hosts hact

/-- **Modest actions keep a chat calm**, when what they call back does. -/
theorem keeps_takeAction (keeps : k.Keeps id stream) (modest : k.toCast.Modest) {o : Occasion}
    (ho : o.chat = some id) {a : Action} (ha : a.isModest = true) :
    (k.takeAction o a).Keeps id stream := by
  cases a with
  | onChat target action =>
    cases target with
    | current =>
      refine keeps_current ho ?_
      cases action with
      | register l => exact (keeps_register keeps modest l).bind fun _ => Run.keeps_pure _
      | count => exact Run.keeps_chat_bind fun _ => Run.keeps_pure _
      | last => exact Run.keeps_chat_bind fun _ => Run.keeps_pure _
      | addRemote u => exact (keeps_addRemote u).bind fun _ => Run.keeps_pure _
      | _ => simp [Action.isModest] at ha
    | _ => cases action <;> simp [Action.isModest] at ha
  | size => exact Run.keeps_directory_bind fun _ => Run.keeps_pure _
  | pause => exact Run.keeps_pure _
  | _ => simp [Action.isModest] at ha

end Company

/-- **A modest cast keeps every chat calm**, however deep its callbacks go. -/
theorem Cast.Modest.keeps {cast : Cast} (modest : cast.Modest) (depth : Nat) (id : ChatId)
    (stream : String) : (cast.company depth).Keeps id stream := by
  induction depth with
  | zero => exact fun o a _ _ w b w' _ h => nomatch h
  | succ depth ih =>
    intro o a ho ha
    exact Company.keeps_takeAction (k := cast.company depth) ih modest ho ha

namespace Company

variable {k : Company} {id : ChatId} {stream : String} {w w' : World} {l : String} {m : Message}

/-! ## Deliveries and news -/

/-- **Handing a message to some listeners**: each is handed it once, and nothing else happens. -/
theorem calm_handTo (keeps : k.Keeps id stream) (modest : k.toCast.Modest)
    (hm : m.stream = stream) {ls : List String} (hosts : w.Hosts id stream) {report : Report}
    (h : (k.handTo m ls).run w = some (report, w')) :
    World.Calm id (w.hear (ls.map (·, m))) w' := by
  induction ls generalizing w report with
  | nil =>
    obtain ⟨-, rfl⟩ := Run.run_pure_eq_some.mp h
    exact .of_same rfl rfl (by simp [World.hear])
  | cons l ls ih =>
    obtain ⟨e, v, hcall, h⟩ := Run.run_bind_eq_some.mp h
    have hcalm := calm_call keeps modest hosts hm hcall
    have hfirst : World.Calm id (w.hear ((l :: ls).map (·, m))) (v.hear (ls.map (·, m))) := by
      have hmore := hcalm.hear (ls.map (·, m))
      rwa [World.hear_hear] at hmore
    have hosts' : v.Hosts id stream := hcalm.hosts (hosts.of_directory rfl)
    cases e with
    | none =>
      obtain ⟨r, v', hrest, h⟩ := Run.run_bind_eq_some.mp h
      obtain ⟨-, rfl⟩ := Run.run_pure_eq_some.mp h
      exact hfirst.trans (ih hosts' hrest)
    | some e =>
      obtain ⟨u, v₁, hfail, h⟩ := Run.run_bind_eq_some.mp h
      obtain ⟨r, v', hrest, h⟩ := Run.run_bind_eq_some.mp h
      obtain ⟨-, rfl⟩ := Run.run_pure_eq_some.mp h
      have htold := Run.keeps_failure _ _ _ _ _ hosts' hfail
      exact (hfirst.trans (htold.hear _)).trans (ih (htold.hosts hosts') hrest)

/-- **A delivery**: the message is the last one of its chat and is handed to every listener that the
chat has; all else stays calm. -/
theorem calm_deliver (keeps : k.Keeps id stream) (modest : k.toCast.Modest)
    (hm : m.stream = stream) (hosts : w.Hosts id stream) {report : Report}
    (h : (k.deliver id m).run w = some (report, w')) :
    World.Calm id ((w.onChat id fun c => { c with last := some m }).hear
      ((w.members id).map (·, m))) w' := by
  obtain ⟨u, v, hon, h⟩ := Run.run_bind_eq_some.mp h
  obtain rfl := Run.run_modify_eq_some.mp hon
  rw [Run.run_chat_bind] at h
  have hosts' := hosts.withLast hm
  have hmembers : ((w.directory.update id fun c => { c with last := some m }).chat
      id).listeners.members = w.members id := by
    rw [Directory.chat_update hosts.lt]
    rfl
  have hcalm := calm_handTo keeps modest hm hosts' h
  rwa [hmembers] at hcalm

/-- **A delivery leaves a chat in its place**, its gate as it is, and brings no news. -/
theorem frame_deliver (keeps : k.Keeps id stream) (modest : k.toCast.Modest)
    (hm : m.stream = stream) (hosts : w.Hosts id stream) {report : Report}
    (h : (k.deliver id m).run w = some (report, w')) :
    w'.Hosts id stream ∧ w'.directory.chats.length = w.directory.chats.length ∧ w'.news = w.news
      ∧ (w'.directory.chat id).gateOpen = (w.directory.chat id).gateOpen := by
  have hcalm := calm_deliver keeps modest hm hosts h
  have hosts' := hosts.withLast hm
  refine ⟨hcalm.hosts (hosts'.of_directory rfl), ?_, hcalm.news, ?_⟩
  · exact hcalm.count.trans (Directory.length_update _ _ _)
  · rw [hcalm.gate]
    change ((w.directory.update id _).chat id).gateOpen = _
    rw [Directory.chat_update hosts.lt]

/-- The world once an observer has been told of a new chat. -/
def told (w : World) (observer stream : String) : World :=
  { w with news := w.news ++ [(observer, .arrived, stream)] }

/-- What an observer does once it has been told of a new chat. -/
def welcome (k : Company) (observer : String) (turn : Nat) (id : ChatId) : Run Ending :=
  match k.observer observer with
  | .recorder listener => k.tellRecorder listener .arrived id
  | .scripted script => k.tellScripted observer script turn .arrived id

theorem run_tell (k : Company) (observer : String) (hosts : w.Hosts id stream) :
    (k.tell observer .arrived id).run w
      = (k.welcome observer (w.news.countP (·.1 = observer)) id).run (told w observer stream) := by
  have htext : (w.directory.chat id).streamText = stream := by
    rw [Chat.streamText, hosts.stream_eq, Option.getD_some]
  unfold tell welcome told
  cases k.observer observer with
  | recorder listener =>
    rw [← htext]
    rfl
  | scripted script =>
    rw [← htext]
    rfl

/-- What an observer with parts does once it has registered its listener. -/
theorem keeps_part (keeps : k.Keeps id stream) (modest : k.toCast.Modest) {observer : String}
    {script : ObserverScript} (hrole : k.observer observer = .scripted script) (text : String)
    (turn : Nat) : (do
      Run.note (.told .arrived observer (← Run.labelOf id))
      k.play ⟨observer, some id⟩ (script.onNew text turn) : Run Ending).Keeps id stream :=
  (Run.keeps_labelOf id).bind fun _ => (Run.keeps_note _).bind fun _ =>
    keeps_play keeps rfl (modest.observers observer script hrole text turn)

theorem keeps_welcome (keeps : k.Keeps id stream) (modest : k.toCast.Modest) (observer : String)
    (turn : Nat) : (k.welcome observer turn id).Keeps id stream := by
  unfold welcome
  cases hrole : k.observer observer with
  | recorder listener =>
    exact Run.keeps_chat_bind fun _ => (Run.keeps_remark _).bind fun _ =>
      (keeps_register keeps modest listener).bind fun _ => Run.keeps_pure _
  | scripted script =>
    refine Run.keeps_chat_bind fun c => ?_
    cases hattach : script.attach with
    | none => exact keeps_part keeps modest hrole c.streamText turn
    | some listener =>
      exact (keeps_register keeps modest listener).bind fun _ =>
        keeps_part keeps modest hrole c.streamText turn

/-- The listener that an observer registers is one of the chat then. -/
theorem mem_of_welcome (keeps : k.Keeps id stream) (modest : k.toCast.Modest)
    (hosts : w.Hosts id stream) {o : String} (hl : k.attaches? o = some l) {turn : Nat}
    {e : Ending} (h : (k.welcome o turn id).run w = some (e, w')) : l ∈ w'.members id := by
  unfold welcome at h
  unfold Cast.attaches? at hl
  cases hrole : k.observer o with
  | recorder listener =>
    rw [hrole] at h hl
    obtain rfl := Option.some.inj hl
    unfold tellRecorder at h
    rw [Run.run_chat_bind] at h
    obtain ⟨_, v, hremark, h⟩ := Run.run_bind_eq_some.mp h
    obtain ⟨_, v', hregister, h⟩ := Run.run_bind_eq_some.mp h
    obtain ⟨-, rfl⟩ := Run.run_pure_eq_some.mp h
    have hcalm := Run.keeps_remark _ _ _ _ hosts hremark
    exact mem_of_register keeps modest (hcalm.hosts hosts) hregister
  | scripted script =>
    rw [hrole] at h hl
    change script.attach = some l at hl
    unfold tellScripted at h
    rw [Run.run_chat_bind, hl] at h
    obtain ⟨_, v, hregister, h⟩ := Run.run_bind_eq_some.mp h
    have hcalm := keeps_register keeps modest l _ _ _ hosts hregister
    exact (keeps_part keeps modest hrole _ turn _ _ _ (hcalm.hosts hosts) h).members l
      (mem_of_register keeps modest hosts hregister)

/-- **An observer is told of a new chat**: it is one item of news, its listener is registered, and
all else stays calm. -/
theorem calm_inform (keeps : k.Keeps id stream) (modest : k.toCast.Modest)
    (hosts : w.Hosts id stream) {o : String} {u : Unit}
    (h : (k.inform o .arrived id).run w = some (u, w')) :
    World.Calm id (told w o stream) w' ∧ ∀ l ∈ k.attaches? o, l ∈ w'.members id := by
  obtain ⟨e, v, htell, h⟩ := Run.run_bind_eq_some.mp h
  rw [run_tell k o hosts] at htell
  have hosts' : (told w o stream).Hosts id stream := hosts.of_directory rfl
  have hcalm := keeps_welcome keeps modest o _ _ _ _ hosts' htell
  have hend : World.Calm id v w' := by
    cases e with
    | panicked words =>
      exact Run.keeps_chat_bind (fun _ => Run.keeps_failure _ _) _ _ _ (hcalm.hosts hosts') h
    | _ =>
      obtain ⟨-, rfl⟩ := Run.run_pure_eq_some.mp h
      exact .refl id w'
  exact ⟨hcalm.trans hend, fun l hl =>
    hend.members l (mem_of_welcome keeps modest hosts' hl htell)⟩

end Company

end ChatFeed
