import ChatFeed.Proofs.Chat.Scene

/-!
# Proofs/Chat/Isolation — streams do not touch each other

One directory has the chats of all streams, one list of observers is told of all of them, and one
listener may be on many.  Even so, what is done with one stream is a matter of its own events.

The argument is that of an unwinding.  What an event does is a function of the chat that its stream
has just then (`Cast.episode`), whatever else there is; and it does it to that stream alone
(`Company.Unfolds`).  So of two worlds that agree on a stream (`World.Agrees`), an event of that
stream makes two that agree again, and an event of another stream, dispatched in only one of them,
leaves them in agreement.  `streams_isolated` follows by induction over the events.
-/

namespace ChatFeed

/-! ## Scenes of a stream -/

/-- **All that has been heard is about a stream.** -/
structure Log.About (stream : String) (log : Log) : Prop where
  news : ∀ x ∈ log.news, x.2.2 = stream
  received : ∀ x ∈ log.received, x.2.stream = stream

theorem Log.About.empty (stream : String) : Log.About stream {} := ⟨by simp, by simp⟩

theorem Log.About.append {stream : String} {a b : Log} (ha : a.About stream)
    (hb : b.About stream) : (a ++ b).About stream where
  news := fun x hx => (List.mem_append.mp hx).elim (ha.news x) (hb.news x)
  received := fun x hx => (List.mem_append.mp hx).elim (ha.received x) (hb.received x)

/-- **A chat belongs to a stream**, and so does its last message. -/
structure Chat.Belongs (stream : String) (c : Chat) : Prop where
  stream_eq : c.stream = some stream
  last : ∀ m, c.last = some m → m.stream = stream

/-- **A scene on a stream.** -/
structure Scene.On (stream : String) (s : Scene) : Prop where
  chat : s.chat.Belongs stream
  log : s.log.About stream

namespace Scene

variable {s : Scene} {stream : String} {m : Message} {manners : String → Manner}

theorem On.start {c : Chat} (h : c.Belongs stream) : Scene.On stream { chat := c } :=
  ⟨h, .empty stream⟩

theorem On.hear (h : s.On stream) (l : String) (hm : m.stream = stream) : (s.hear l m).On stream :=
  ⟨h.chat, (h.log.append ⟨by simp, by simpa using hm⟩).append ⟨by simp, by simp⟩⟩

theorem On.catchUp (h : s.On stream) (l : String) : (s.catchUp l).On stream := by
  unfold Scene.catchUp
  cases hlast : s.chat.last with
  | none => exact h
  | some m => exact h.hear l (h.chat.last m hlast)

theorem On.register (h : s.On stream) (l : String) : (s.register l).On stream := by
  unfold Scene.register
  split
  · exact h
  · exact ⟨⟨h.chat.stream_eq, h.chat.last⟩, (h.catchUp l).log⟩

theorem On.foldl_register (h : s.On stream) (ls : List String) :
    (ls.foldl Scene.register s).On stream := by
  induction ls generalizing s with
  | nil => exact h
  | cons l ls ih => exact ih (h.register l)

theorem On.foldl_hear (h : s.On stream) (hm : m.stream = stream) (ls : List String) :
    (ls.foldl (fun t l => t.hear l m) s).On stream := by
  induction ls generalizing s with
  | nil => exact h
  | cons l ls ih => exact ih (h.hear l hm)

theorem On.deliver (h : s.On stream) (hm : m.stream = stream) : (s.deliver m).On stream := by
  have hchat : Chat.Belongs stream { s.chat with last := some m } := by
    refine ⟨h.chat.stream_eq, fun x hx => ?_⟩
    obtain rfl : m = x := Option.some.inj hx
    exact hm
  have hlast : Scene.On stream { s with chat := { s.chat with last := some m } } := ⟨hchat, h.log⟩
  exact hlast.foldl_hear hm _

theorem On.learn (h : s.On stream) (o : String) (news : News) : (s.learn o news).On stream :=
  ⟨h.chat, h.log.append ⟨by simp [Chat.streamText, h.chat.stream_eq], by simp⟩⟩

theorem On.told (h : s.On stream) (news : News) (o : String) :
    Scene.On stream { s with log := s.log ++ { hearings := [.told news o] } } :=
  ⟨h.chat, h.log.append ⟨by simp, by simp⟩⟩

theorem On.tell (h : s.On stream) (manner : Manner) (news : News) (o : String) :
    (s.tell manner news o).On stream := by
  cases manner with
  | recorder l =>
    cases news with
    | arrived => exact (h.learn o .arrived).register l
    | gone => exact h.learn o .gone
  | host attach newOnly guests =>
    cases news with
    | arrived => exact (((h.learn o .arrived).foldl_register _).told .arrived o).foldl_register _
    | gone =>
      cases newOnly with
      | true => exact h
      | false => exact ((h.learn o .gone).told .gone o).foldl_register _

theorem On.tellAll (h : s.On stream) (news : News) (os : List String) :
    (s.tellAll manners news os).On stream := by
  induction os generalizing s with
  | nil => exact h
  | cons o os ih => exact ih (h.tell _ news o)

/-! ### Gates -/

theorem chat_foldl_hear (s : Scene) (m : Message) (ls : List String) :
    (ls.foldl (fun t l => t.hear l m) s).chat = s.chat := by
  induction ls generalizing s with
  | nil => rfl
  | cons l ls ih => exact ih (s.hear l m)

/-- Of the chat, a delivery changes the last message alone. -/
theorem chat_deliver (s : Scene) (m : Message) :
    (s.deliver m).chat = { s.chat with last := some m } := chat_foldl_hear _ m _

end Scene

/-! ## Episodes -/

/-- **What becomes of a stream**: the chat that it has then, if any, and what is heard about it. -/
structure Episode where
  chat : Option Chat
  log : Log := {}

/-- **A message comes** to a stream: it is delivered, in a chat that is made and told of first when
there is none. -/
def Episode.ofMessage (manners : String → Manner) (observers : List String) (make : Chat)
    (m : Message) : Option Chat → Episode
  | some c =>
    let s := Scene.deliver { chat := c } m
    ⟨some s.chat, s.log⟩
  | none =>
    let s := (Scene.tellAll manners .arrived observers
      { chat := { make with gateOpen := false } }).deliver m
    ⟨some { s.chat with gateOpen := true }, s.log⟩

/-- **The owner leaves** a stream: its chat goes, if it has one, and that is told. -/
def Episode.ofParting (manners : String → Manner) (observers : List String) :
    Option Chat → Episode
  | some c => ⟨none, (Scene.tellAll manners .gone observers { chat := c }).log⟩
  | none => ⟨none, {}⟩

/-- **What an event makes of its stream**, in a directory with some owner and some observers, from
the chat that the stream has. -/
def Cast.episode (cast : Cast) (manners : String → Manner) (owner : User)
    (observers : List String) (chat : Option Chat) : Event → Episode
  | .sent m =>
    .ofMessage manners observers (Company.chatFor owner m (cast.founder owner m)) m chat
  | .joined _ u =>
    if u.id = owner.id then ⟨chat, {}⟩
    else ⟨chat.map fun c => { c with remotes := c.remotes.insert u }, {}⟩
  | .left _ u =>
    if u.id = owner.id then .ofParting manners observers chat
    else ⟨chat.map fun c => { c with remotes := c.remotes.erase u.id }, {}⟩
  | .other _ => ⟨chat, {}⟩

/-- What an event makes of a stream does not depend on who is in the cast but for look-ups. -/
theorem Cast.episode_congr {a b : Cast} (hlookup : b.lookup = a.lookup)
    (manners : String → Manner) (owner : User) (observers : List String) (chat : Option Chat)
    (e : Event) : b.episode manners owner observers chat e
      = a.episode manners owner observers chat e := by
  have hfounder : b.founder owner = a.founder owner := by
    funext m
    unfold Cast.founder Cast.identity
    rw [hlookup]
  cases e with
  | sent m =>
    unfold Cast.episode
    rw [hfounder]
  | _ => rfl

/-- A chat that a message makes belongs to the stream of the message. -/
theorem Chat.Belongs.chatFor (owner : User) (m : Message) (sender : Option User) :
    Chat.Belongs m.stream { Company.chatFor owner m sender with gateOpen := false } where
  stream_eq := rfl
  last := fun x hx => by simp [Company.chatFor, Chat.between, Chat.fresh] at hx

/-- All that is heard in an episode is about its stream. -/
theorem Cast.about_episode (cast : Cast) (manners : String → Manner) (owner : User)
    (observers : List String) {chat : Option Chat} {stream : String} {e : Event}
    (hchat : ∀ c, chat = some c → c.Belongs stream) (he : e.stream? = some stream) :
    (cast.episode manners owner observers chat e).log.About stream := by
  cases e with
  | sent m =>
    obtain rfl : m.stream = stream := Option.some.inj he
    cases chat with
    | some c => exact ((Scene.On.start (hchat c rfl)).deliver rfl).log
    | none =>
      exact (((Scene.On.start (.chatFor owner m _)).tellAll .arrived observers).deliver rfl).log
  | joined s u =>
    by_cases howner : u.id = owner.id
    · rw [Cast.episode, if_pos howner]
      exact Log.About.empty stream
    · rw [Cast.episode, if_neg howner]
      exact Log.About.empty stream
  | left s u =>
    by_cases howner : u.id = owner.id
    · rw [Cast.episode, if_pos howner]
      cases chat with
      | some c => exact ((Scene.On.start (hchat c rfl)).tellAll .gone observers).log
      | none => exact Log.About.empty stream
    · rw [Cast.episode, if_neg howner]
      exact Log.About.empty stream
  | other kind => exact Log.About.empty stream

/-! ## Worlds in which streams keep to themselves -/

namespace World

/-- **An orderly world**: it is tidy, and the last message of each chat in the directory is of the
stream that the chat is under. -/
structure Orderly (w : World) : Prop extends w.Tidy where
  last : ∀ {stream id}, w.directory.rooms.find? stream = some id →
    ∀ m, (w.directory.chat id).last = some m → m.stream = stream

variable {w v : World} {stream : String} {id : ChatId} {s : Scene}

theorem Orderly.belongs (orderly : w.Orderly) (hroom : w.directory.rooms.find? stream = some id) :
    (w.directory.chat id).Belongs stream := ⟨orderly.stream_eq hroom, orderly.last hroom⟩

theorem Orderly.of_directory (orderly : w.Orderly) (h : v.directory = w.directory) :
    v.Orderly where
  toTidy := (Unmoved.of_directory h).tidy orderly.toTidy
  last := by
    rw [h]
    exact orderly.last

/-- **One stream has another chat**, and the others have what they had. -/
theorem Orderly.of_changed (orderly : w.Orderly) {made : Chat}
    (hroom : v.directory.rooms.find? stream = some id) (hlt : id < v.directory.chats.length)
    (hmade : v.directory.chat id = made) (hbelongs : made.Belongs stream)
    (hgate : made.gateOpen = true)
    (hrooms : ∀ {T}, T ≠ stream → v.directory.rooms.find? T = w.directory.rooms.find? T)
    (hchats : ∀ {T a}, T ≠ stream → w.directory.rooms.find? T = some a →
      a < v.directory.chats.length ∧ v.directory.chat a = w.directory.chat a) :
    v.Orderly ∧ ∀ other, v.chat? other
      = if other = stream then some made else w.chat? other := by
  obtain ⟨htidy, hshown⟩ := orderly.toTidy.of_changed hroom hlt hmade hbelongs.stream_eq hgate
    hrooms hchats
  refine ⟨⟨htidy, fun {T a} ha m hm => ?_⟩, hshown⟩
  by_cases hT : T = stream
  · subst hT
    obtain rfl : a = id := Option.some.inj (ha.symm.trans hroom)
    rw [hmade] at hm
    exact hbelongs.last m hm
  · have hold : w.directory.rooms.find? T = some a := (hrooms hT).symm.trans ha
    rw [(hchats hT hold).2] at hm
    exact orderly.last hold m hm

/-- **The chat of a stream is as in a scene.** -/
theorem Orderly.of_scene (orderly : w.Orderly) (hroom : w.directory.rooms.find? stream = some id)
    (h : s.In w id v) (hbelongs : s.chat.Belongs stream) (hgate : s.chat.gateOpen = true) :
    v.Orderly ∧ ∀ other, v.chat? other = if other = stream then some s.chat else w.chat? other := by
  have hrooms : v.directory.rooms = w.directory.rooms := by rw [h.directory]; rfl
  have hlength : v.directory.chats.length = w.directory.chats.length := by
    rw [h.directory, Directory.length_update]
  refine orderly.of_changed (hrooms ▸ hroom) (hlength ▸ h.lt) h.chat hbelongs hgate
    (fun _ => by rw [hrooms]) fun {T a} hT ha => ⟨hlength ▸ orderly.lt ha, ?_⟩
  rw [h.directory, Directory.chat_update_ne (orderly.ne hroom ha hT)]

/-- **A stream that has no chat gets one**, which is as in a scene. -/
theorem Orderly.of_made (orderly : w.Orderly) (absent : w.directory.rooms.find? stream = none)
    {make : Chat} (h : s.In { w with directory := Company.withChat w.directory stream make }
      w.directory.nextId v) (hbelongs : s.chat.Belongs stream) (hgate : s.chat.gateOpen = true) :
    v.Orderly ∧ ∀ other, v.chat? other = if other = stream then some s.chat else w.chat? other := by
  have hrooms : v.directory.rooms = w.directory.rooms.insert stream w.directory.nextId := by
    rw [h.directory]
    rfl
  have hlength : v.directory.chats.length = w.directory.chats.length + 1 := by
    rw [h.directory, Directory.length_update, Directory.length_withChat]
  refine orderly.of_changed (hrooms ▸ Rooms.find?_insert_self _ absent)
    (hlength ▸ Nat.lt_succ_self _) h.chat hbelongs hgate
    (fun hT => by rw [hrooms, Rooms.find?_insert_of_ne _ _ hT]) fun {T a} hT ha => ?_
  have hlt : a < w.directory.chats.length := orderly.lt ha
  have hne : a ≠ w.directory.nextId := Nat.ne_of_lt hlt
  refine ⟨hlength ▸ Nat.lt_succ_of_lt hlt, ?_⟩
  rw [h.directory, Directory.chat_update_ne hne, Directory.chat_withChat_of_lt hlt]

/-- **A stream loses its chat**, which goes on in a scene. -/
theorem Orderly.of_gone (orderly : w.Orderly) (hroom : w.directory.rooms.find? stream = some id)
    (h : s.In { w with directory := { w.directory with
      rooms := w.directory.rooms.erase stream } } id v) :
    v.Orderly ∧ ∀ other, v.chat? other = if other = stream then none else w.chat? other := by
  have hrooms : v.directory.rooms = w.directory.rooms.erase stream := by rw [h.directory]; rfl
  have hlength : v.directory.chats.length = w.directory.chats.length := by
    rw [h.directory, Directory.length_update]
  -- whoever still has a chat had it before, and it is another
  have hstays : ∀ {T a}, v.directory.rooms.find? T = some a → T ≠ stream
      ∧ w.directory.rooms.find? T = some a ∧ v.directory.chat a = w.directory.chat a := by
    intro T a ha
    have hT : T ≠ stream := by
      rintro rfl
      rw [hrooms, Rooms.find?_erase_self] at ha
      exact absurd ha (by simp)
    have hold : w.directory.rooms.find? T = some a := by
      rwa [hrooms, Rooms.find?_erase_of_ne _ hT] at ha
    refine ⟨hT, hold, ?_⟩
    rw [h.directory, Directory.chat_update_ne (orderly.ne hroom hold hT)]
    rfl
  refine ⟨⟨⟨fun ha => ?_, fun ha => ?_, fun ha => ?_⟩, fun ha m hm => ?_⟩, fun T => ?_⟩
  · rw [hlength]
    exact orderly.lt (hstays ha).2.1
  · rw [(hstays ha).2.2, orderly.stream_eq (hstays ha).2.1]
  · rw [(hstays ha).2.2, orderly.gate (hstays ha).2.1]
  · rw [(hstays ha).2.2] at hm
    exact orderly.last (hstays ha).2.1 m hm
  · by_cases hT : T = stream
    · subst hT
      rw [if_pos rfl, chat?_eq_none (by rw [hrooms, Rooms.find?_erase_self])]
    · rw [if_neg hT]
      cases ha : w.directory.rooms.find? T with
      | none =>
        rw [chat?_eq_none ha, chat?_eq_none (by rw [hrooms, Rooms.find?_erase_of_ne _ hT, ha])]
      | some a =>
        have hnew : v.directory.rooms.find? T = some a := by
          rw [hrooms, Rooms.find?_erase_of_ne _ hT, ha]
        rw [chat?_of_find? ha, chat?_of_find? hnew, (hstays hnew).2.2]

/-- **What a world makes of an event** in the stream of the event. -/
def episode (cast : Cast) (manners : String → Manner) (w : World) (e : Event) : Episode :=
  cast.episode manners w.directory.owner w.directory.observers.members (e.stream?.bind w.chat?) e

theorem Orderly.about_episode (orderly : w.Orderly) (cast : Cast) (manners : String → Manner)
    {e : Event} (he : e.stream? = some stream) :
    (w.episode cast manners e).log.About stream := by
  refine cast.about_episode manners _ _ (fun c hc => ?_) he
  rw [he] at hc
  obtain ⟨id, hroom, rfl⟩ := Option.map_eq_some_iff.mp hc
  exact orderly.belongs hroom

theorem log_episode_of_none (cast : Cast) (manners : String → Manner) (w : World) {e : Event}
    (he : e.stream? = none) : (w.episode cast manners e).log = {} := by
  cases e with
  | other kind => rfl
  | _ => cases he

theorem Asked.log (h : w.Asked v) : v.log = w.log := by
  obtain ⟨users, hnotes⟩ := h.notes
  have hsilent : (users.map Note.lookup).filterMap Note.hearing? = [] := by
    rw [List.filterMap_map]
    exact List.filterMap_eq_nil_iff.mpr fun _ _ => rfl
  rw [World.log, World.log, h.news, h.received, hnotes, List.filterMap_append, hsilent,
    List.append_nil]

end World

/-! ## What an event does -/

namespace Company

/-- **An event does its episode to its stream, and nothing else.** -/
structure Unfolds (k : Company) (manners : String → Manner) (e : Event) (w v : World) : Prop where
  orderly : v.Orderly
  owner : v.directory.owner = w.directory.owner
  observers : v.directory.observers = w.directory.observers
  chats : ∀ stream, v.chat? stream
    = if e.stream? = some stream then (w.episode k.toCast manners e).chat else w.chat? stream
  log : v.log = w.log ++ (w.episode k.toCast manners e).log

variable {k : Company} {manners : String → Manner} {w v u base : World} {e : Event} {m : Message}
  {stream : String} {id : ChatId} {s : Scene} {chat : Option Chat}

/-- Worlds that differ in books, files and time make the same of an event. -/
theorem Unfolds.after (h : k.Unfolds manners e v u) (hdirectory : v.directory = w.directory)
    (hlog : v.log = w.log) : k.Unfolds manners e w u := by
  have hchat : v.chat? = w.chat? := by
    funext stream
    rw [World.chat?, hdirectory, World.chat?]
  have hepisode : v.episode k.toCast manners e = w.episode k.toCast manners e := by
    rw [World.episode, hdirectory, hchat, World.episode]
  exact ⟨h.orderly, h.owner.trans (by rw [hdirectory]), h.observers.trans (by rw [hdirectory]),
    fun stream => by rw [h.chats, hepisode, hchat], by rw [h.log, hlog, hepisode]⟩

theorem Unfolds.before (h : k.Unfolds manners e w v) (hdirectory : u.directory = v.directory)
    (hlog : u.log = v.log) : k.Unfolds manners e w u where
  orderly := h.orderly.of_directory hdirectory
  owner := by rw [hdirectory, h.owner]
  observers := by rw [hdirectory, h.observers]
  chats := by
    intro stream
    rw [World.chat?, hdirectory]
    exact h.chats stream
  log := hlog.trans h.log

/-- **What is left in the world is a scene**: the one of the episode. -/
theorem unfolds_of_scene (he : e.stream? = some stream) (h : s.In base id v)
    (howner : base.directory.owner = w.directory.owner)
    (hobservers : base.directory.observers = w.directory.observers) (hlog : base.log = w.log)
    (hepisode : k.episode manners w.directory.owner w.directory.observers.members (w.chat? stream) e
      = ⟨chat, s.log⟩)
    (hshown : v.Orderly ∧ ∀ other, v.chat? other = if other = stream then chat else w.chat? other) :
    k.Unfolds manners e w v := by
  have hepisode' : w.episode k.toCast manners e = ⟨chat, s.log⟩ := by
    rw [World.episode, he]
    exact hepisode
  refine ⟨hshown.1, ?_, ?_, fun other => ?_, ?_⟩
  · rw [h.directory]
    exact howner
  · rw [h.directory]
    exact hobservers
  · rw [hshown.2, hepisode', he]
    by_cases hother : other = stream
    · rw [if_pos hother, if_pos (by rw [hother])]
    · rw [if_neg hother, if_neg fun h => hother (Option.some.inj h).symm]
  · rw [h.log, hlog, hepisode']

/-- A message that has found its chat. -/
theorem unfolds_gated (behaves : k.Behaves manners) (orderly : w.Orderly)
    (hroom : w.directory.rooms.find? m.stream = some id) :
    Arrives k m 2 (.gated id) w (k.Unfolds manners (.sent m) w) := by
  have hstart := Scene.In.start (orderly.lt hroom) rfl
  refine arrives_gated (orderly.gate hroom)
    ((turns_deliver behaves.toBehaves m w w hstart).mono fun _ v hv => ?_)
  have hon : Scene.On m.stream (Scene.deliver { chat := w.directory.chat id } m) :=
    (Scene.On.start (orderly.belongs hroom)).deliver rfl
  refine unfolds_of_scene rfl hv rfl rfl rfl ?_ (orderly.of_scene hroom hv hon.chat ?_)
  · rw [World.chat?_of_find? hroom]
    rfl
  · rw [Scene.chat_deliver]
    exact orderly.gate hroom

/-- **A message that makes its chat.** -/
theorem unfolds_knocking (behaves : k.Behaves manners) (orderly : w.Orderly)
    (hroom : w.directory.rooms.find? m.stream = none) :
    Arrives k m (w.directory.observers.size + 4) (.knocking (k.founder w.directory.owner m)) w
      (k.Unfolds manners (.sent m) w) := by
  let make : Chat := chatFor w.directory.owner m (k.founder w.directory.owner m)
  let base : World := { w with directory := withChat w.directory m.stream make }
  have hlt : w.directory.nextId < base.directory.chats.length := by
    rw [Directory.length_withChat]
    exact Nat.lt_succ_self _
  have hstart := Scene.In.start hlt Directory.chat_withChat_self
  refine arrives_knocking hroom _ ((turns_changed _ _ base base hstart).mono fun _ v hv => ?_)
  refine (turns_informAll behaves .arrived _ base v hv).mono fun _ v' hv' => ?_
  refine (turns_deliver behaves.toBehaves m base v' hv').mono fun _ u hu => ?_
  have hopen := hu.onChat fun c => { c with gateOpen := true }
  have hon : Scene.On m.stream ((Scene.tellAll manners .arrived w.directory.observers.members
      { chat := { make with gateOpen := false } }).deliver m) :=
    ((Scene.On.start (.chatFor w.directory.owner m _)).tellAll _ _).deliver rfl
  refine unfolds_of_scene rfl hopen rfl rfl rfl ?_
    (orderly.of_made hroom hopen ⟨hon.chat.stream_eq, hon.chat.last⟩ rfl)
  rw [World.chat?_eq_none hroom]
  rfl

/-- **A message is seen through.** -/
theorem receive_unfolds (behaves : k.Behaves manners) (orderly : w.Orderly) (m : Message) :
    (k.receive m).EndsIn w fun _ v => k.Unfolds manners (.sent m) w v := by
  refine receive_ends_of (fun id hroom => unfolds_gated behaves orderly hroom)
    fun hroom v hv => ?_
  have hknock := unfolds_knocking (m := m) behaves (orderly.of_directory hv.directory)
    (by rw [hv.directory, hroom])
  rw [hv.directory] at hknock
  exact fun more => (hknock more).mono fun _ _ h => ⟨h.1, h.2.after hv.directory hv.log⟩

/-- An event that leaves everything as it is. -/
theorem unfolds_of_same (orderly : w.Orderly)
    (h : w.episode k.toCast manners e = ⟨e.stream?.bind w.chat?, {}⟩) :
    k.Unfolds manners e w w where
  orderly := orderly
  owner := rfl
  observers := rfl
  chats := by
    intro stream
    rw [h]
    split
    · rename_i he
      rw [he]
      rfl
    · rfl
  log := by rw [h, Log.append_empty]

/-- **An event changes the chat of its stream**, of which nothing is heard. -/
theorem unfolds_onChat (orderly : w.Orderly) (hroom : w.directory.rooms.find? stream = some id)
    (he : e.stream? = some stream) {f : Chat → Chat}
    (hf : ∀ c, (f c).stream = c.stream ∧ (f c).last = c.last ∧ (f c).gateOpen = c.gateOpen)
    (hepisode : ∀ c, k.episode manners w.directory.owner w.directory.observers.members (some c) e
      = ⟨some (f c), {}⟩) : k.Unfolds manners e w (w.onChat id f) := by
  have hscene := (Scene.In.start (orderly.lt hroom) rfl).onChat f
  have hbelongs := orderly.belongs hroom
  obtain ⟨hstream, hlast, hgate⟩ := hf (w.directory.chat id)
  refine unfolds_of_scene he hscene rfl rfl rfl ?_ (orderly.of_scene hroom hscene ⟨?_, ?_⟩ ?_)
  · rw [World.chat?_of_find? hroom, hepisode]
  · exact hstream.trans hbelongs.stream_eq
  · exact fun m hm => hbelongs.last m (hlast.symm.trans hm)
  · exact hgate.trans (orderly.gate hroom)

/-- **A user joins.** -/
theorem joined_unfolds (orderly : w.Orderly) (stream : String) (user : User) :
    (joined stream user).EndsIn w fun _ v => k.Unfolds manners (.joined stream user) w v := by
  refine joined_ends_of (fun hsame => unfolds_of_same orderly ?_) fun id howner hroom => ?_
  · rw [World.episode, Cast.episode]
    rcases hsame with howner | hroom
    · rw [if_pos howner]
    · have hnone : (Event.joined stream user).stream?.bind w.chat? = none :=
        World.chat?_eq_none hroom
      rw [hnone]
      exact ite_self _
  · refine unfolds_onChat orderly hroom rfl (fun c => ⟨rfl, rfl, rfl⟩) fun c => ?_
    rw [Cast.episode, if_neg howner]
    rfl

/-- **A user leaves**, and the chat too when it is the owner. -/
theorem left_unfolds (behaves : k.Behaves manners) (orderly : w.Orderly) (stream : String)
    (user : User) :
    (k.left stream user).EndsIn w fun _ v => k.Unfolds manners (.left stream user) w v := by
  refine left_ends_of (fun hroom => unfolds_of_same orderly ?_) (fun id howner hroom => ?_)
    (fun id howner hroom => ?_) fun v r hv => ?_
  · have hnone : (Event.left stream user).stream?.bind w.chat? = none :=
      World.chat?_eq_none hroom
    rw [World.episode, Cast.episode, hnone]
    exact ite_self _
  · let base : World :=
      { w with directory := { w.directory with rooms := w.directory.rooms.erase stream } }
    have hlt : id < base.directory.chats.length := orderly.lt hroom
    have hstart : ({ chat := w.directory.chat id } : Scene).In base id base := .start hlt rfl
    refine (turns_changed "Chat removed" stream base base hstart).bind fun _ v hv =>
      (announce_in behaves .gone hv).mono fun _ v hv => ?_
    refine unfolds_of_scene rfl hv rfl rfl rfl ?_ (orderly.of_gone hroom hv)
    rw [World.chat?_of_find? hroom, Cast.episode, if_pos howner]
    rfl
  · refine unfolds_onChat orderly hroom rfl (fun c => ⟨rfl, rfl, rfl⟩) fun c => ?_
    rw [Cast.episode, if_neg howner]
    rfl
  · exact hv.before rfl rfl

/-- **Every event is seen through**, and does its episode to its stream. -/
theorem dispatch_unfolds (behaves : k.Behaves manners) (orderly : w.Orderly) (e : Event) :
    (k.dispatch e).EndsIn w fun _ v => k.Unfolds manners e w v := by
  refine dispatch_ends_of fun v hv => ?_
  have horderly : v.Orderly := orderly.of_directory hv.directory
  cases e with
  | sent m =>
    exact (receive_unfolds behaves horderly m).mono fun _ _ h => h.after hv.directory hv.log
  | joined stream user =>
    exact (joined_unfolds horderly stream user).mono fun _ _ h => h.after hv.directory hv.log
  | left stream user =>
    exact (left_unfolds behaves horderly stream user).mono fun _ _ h =>
      h.after hv.directory hv.log
  | other kind => exact (unfolds_of_same horderly rfl).after hv.directory hv.log

end Company

/-! ## Two runs -/

/-- **What a world shows of a stream**: its chat, who was told of it, and who got which message of
it, in order. -/
structure Showing where
  chat : Option Chat
  news : List (String × News × String)
  received : List (String × Message)

namespace World

/-- What a world shows of a stream. -/
def shows (w : World) (stream : String) : Showing where
  chat := w.chat? stream
  news := w.news.filter (·.2.2 = stream)
  received := w.received.filter (·.2.stream = stream)

/-- **Two worlds agree on a stream**: they show the same of it, they have the same owner and the
same observers, and both are orderly. -/
structure Agrees (stream : String) (w u : World) : Prop where
  left : w.Orderly
  right : u.Orderly
  owner : u.directory.owner = w.directory.owner
  observers : u.directory.observers = w.directory.observers
  shows : u.shows stream = w.shows stream

end World

namespace Company

variable {k l : Company} {manners : String → Manner} {w v u x : World} {e : Event}
  {stream : String}

/-- **What a stream shows after an event of its own**: the chat of the episode, and all that is
heard in it. -/
theorem Unfolds.shows_own (h : k.Unfolds manners e w v) (orderly : w.Orderly)
    (he : e.stream? = some stream) : v.shows stream =
      { chat := (w.episode k.toCast manners e).chat
        news := (w.shows stream).news ++ (w.episode k.toCast manners e).log.news
        received := (w.shows stream).received
          ++ (w.episode k.toCast manners e).log.received } := by
  have habout := orderly.about_episode k.toCast manners he
  have hnews : v.news = w.news ++ (w.episode k.toCast manners e).log.news :=
    congrArg Log.news h.log
  have hreceived : v.received = w.received ++ (w.episode k.toCast manners e).log.received :=
    congrArg Log.received h.log
  rw [World.shows, h.chats, if_pos he, hnews, hreceived, List.filter_append, List.filter_append,
    List.filter_eq_self.mpr fun y hy => decide_eq_true (habout.news y hy),
    List.filter_eq_self.mpr fun y hy => decide_eq_true (habout.received y hy)]
  rfl

/-- **A stream shows the same after an event of another.** -/
theorem Unfolds.shows_other (h : k.Unfolds manners e w v) (orderly : w.Orderly)
    (he : e.stream? ≠ some stream) : v.shows stream = w.shows stream := by
  have hnews : v.news = w.news ++ (w.episode k.toCast manners e).log.news :=
    congrArg Log.news h.log
  have hreceived : v.received = w.received ++ (w.episode k.toCast manners e).log.received :=
    congrArg Log.received h.log
  have hsilent : ((w.episode k.toCast manners e).log.news.filter (·.2.2 = stream) = [])
      ∧ (w.episode k.toCast manners e).log.received.filter (·.2.stream = stream) = [] := by
    cases hother : e.stream? with
    | none =>
      rw [World.log_episode_of_none k.toCast manners w hother]
      exact ⟨rfl, rfl⟩
    | some other =>
      have hne : other ≠ stream := fun h => he (hother.trans (congrArg some h))
      have habout := orderly.about_episode k.toCast manners hother
      refine ⟨List.filter_eq_nil_iff.mpr fun y hy => ?_, List.filter_eq_nil_iff.mpr fun y hy => ?_⟩
      · simpa [habout.news y hy] using hne
      · simpa [habout.received y hy] using hne
  rw [World.shows, h.chats, if_neg he, hnews, hreceived, List.filter_append, List.filter_append,
    hsilent.1, hsilent.2, List.append_nil, List.append_nil]
  rfl

/-- **An event of the stream, dispatched on both sides**, does the same on both. -/
theorem agrees_own (agrees : w.Agrees stream u) (hlookup : l.lookup = k.lookup)
    (he : e.stream? = some stream) (h : k.Unfolds manners e w v) (h' : l.Unfolds manners e u x) :
    v.Agrees stream x
      ∧ u.episode l.toCast manners e = w.episode k.toCast manners e := by
  have hchat : u.chat? stream = w.chat? stream := congrArg Showing.chat agrees.shows
  have hepisode : u.episode l.toCast manners e = w.episode k.toCast manners e := by
    rw [World.episode, World.episode, he, agrees.owner, agrees.observers,
      Cast.episode_congr hlookup]
    exact congrArg (fun c => k.episode manners _ _ c e) hchat
  refine ⟨⟨h.orderly, h'.orderly, ?_, ?_, ?_⟩, hepisode⟩
  · rw [h.owner, h'.owner, agrees.owner]
  · rw [h.observers, h'.observers, agrees.observers]
  · rw [h.shows_own agrees.left he, h'.shows_own agrees.right he, hepisode, agrees.shows]

/-- **An event of another stream, dispatched on one side only**, makes no difference. -/
theorem agrees_other (agrees : w.Agrees stream u) (he : e.stream? ≠ some stream)
    (h : k.Unfolds manners e w v) : v.Agrees stream u where
  left := h.orderly
  right := agrees.right
  owner := by rw [h.owner, agrees.owner]
  observers := by rw [h.observers, agrees.observers]
  shows := by rw [h.shows_other agrees.left he, agrees.shows]

/-- **What is heard of a stream**, call by call: what is noted while its events are dispatched. -/
def heardOn (k : Company) (stream : String) : List Event → World → List Hearing
  | [], _ => []
  | e :: es, w =>
    match (k.dispatch e).run w with
    | none => []
    | some (_, v) =>
      let heard := if e.stream? = some stream then v.log.hearings.drop w.log.hearings.length else []
      heard ++ k.heardOn stream es v

theorem heardOn_cons {es : List Event} (hrun : (k.dispatch e).run w = some ((), v))
    (h : k.Unfolds manners e w v) : k.heardOn stream (e :: es) w
      = (if e.stream? = some stream then (w.episode k.toCast manners e).log.hearings else [])
        ++ k.heardOn stream es v := by
  have hheard : v.log.hearings.drop w.log.hearings.length
      = (w.episode k.toCast manners e).log.hearings := by
    rw [h.log]
    exact List.drop_left
  simp only [heardOn, hrun, hheard]

/-- **Worlds that agree on a stream go on to agree**, though one has all events to dispatch and the
other only those of the stream. -/
theorem forM_agree (hk : k.Behaves manners) (hl : l.Behaves manners)
    (hlookup : l.lookup = k.lookup) (events : List Event) (agrees : w.Agrees stream u) :
    ∃ v x, (events.forM k.dispatch).run w = some ((), v)
      ∧ ((events.filter (·.stream? = some stream)).forM l.dispatch).run u = some ((), x)
      ∧ v.Agrees stream x
      ∧ k.heardOn stream events w
        = l.heardOn stream (events.filter (·.stream? = some stream)) u := by
  induction events generalizing w u with
  | nil => exact ⟨w, u, rfl, rfl, agrees, rfl⟩
  | cons e events ih =>
    obtain ⟨⟨⟩, v, hrun, h⟩ := dispatch_unfolds hk agrees.left e
    by_cases he : e.stream? = some stream
    · obtain ⟨⟨⟩, x, hrun', h'⟩ := dispatch_unfolds hl agrees.right e
      obtain ⟨hagrees, hepisode⟩ := agrees_own agrees hlookup he h h'
      obtain ⟨y, z, hy, hz, hend, hheard⟩ := ih hagrees
      rw [List.filter_cons_of_pos (by simpa using he)]
      refine ⟨y, z, Run.run_bind_eq_some.mpr ⟨(), v, hrun, hy⟩,
        Run.run_bind_eq_some.mpr ⟨(), x, hrun', hz⟩, hend, ?_⟩
      rw [heardOn_cons hrun h, heardOn_cons hrun' h', hepisode, hheard]
    · obtain ⟨y, z, hy, hz, hend, hheard⟩ := ih (agrees_other agrees he h)
      rw [List.filter_cons_of_neg (by simpa using he)]
      refine ⟨y, z, Run.run_bind_eq_some.mpr ⟨(), v, hrun, hy⟩, hz, hend, ?_⟩
      rw [heardOn_cons hrun h, if_neg he, hheard]
      rfl

end Company

namespace Cast

/-- **Streams do not touch each other.**  All events are dispatched to a directory without chats on
one side, and only the events of one stream on the other; listeners do not call back, and observers
register listeners by the news and the stream alone, on the chat that they are told of.  Then both
sides come to their end and show the same of the stream: its chat with all that is in it, or none;
who was told of it, in order; who was handed which of its messages, in order; and the order in which
the noted calls of both kinds came.

How callbacks end makes no difference: on the two sides they may end in quite different ways. -/
theorem streams_isolated {a b : Cast} {manners : String → Manner} (ha : a.Behaves manners)
    (hb : b.Behaves manners) (hlookup : b.lookup = a.lookup) (depth : Nat) {w : World}
    (empty : w.directory.rooms = .empty) (events : List Event) (stream : String) :
    ∃ v u, (events.forM (a.company (depth + 1)).dispatch).run w = some ((), v)
      ∧ ((events.filter (·.stream? = some stream)).forM (b.company (depth + 1)).dispatch).run w
        = some ((), u)
      ∧ v.shows stream = u.shows stream
      ∧ (a.company (depth + 1)).heardOn stream events w
        = (b.company (depth + 1)).heardOn stream (events.filter (·.stream? = some stream)) w := by
  have orderly : w.Orderly := by
    refine ⟨⟨?_, ?_, ?_⟩, ?_⟩ <;> intro stream id h <;> rw [empty, Rooms.find?_empty] at h <;>
      cases h
  obtain ⟨v, u, hv, hu, hagrees, hheard⟩ := Company.forM_agree (ha.company depth) (hb.company depth)
    hlookup events ⟨orderly, orderly, rfl, rfl, rfl⟩
  exact ⟨v, u, hv, hu, hagrees.shows.symm, hheard⟩

/-- On one side the listeners fail with every message of the hall, and the observer panics whenever
it is told of anything; on the other side all is well, and there is no hall. -/
theorem streams_isolated_when_others_fail :
    let guests (news : News) (stream : String) : List String :=
      if news = .gone then ["late"] else if stream = "room" then ["ear", "pen"] else ["ear"]
    let cast (listening : Message → Ending) (watching : Ending) : Cast := {
      listener := fun _ => .scripted fun m _ => { ending := listening m }
      observer := fun _ => .scripted {
        onNew := fun stream _ => ⟨(guests .arrived stream).map registration, watching⟩
        onGone := fun stream _ => ⟨(guests .gone stream).map registration, watching⟩ } }
    let loud : Cast := cast (fun m => if m.stream = "hall" then .failed ["no"] else .done)
      (.panicked none)
    let calm : Cast := cast (fun _ => .done) .done
    let w : World := {
      directory := { owner := .bare "bot", observers := Roster.empty.insert "desk" } }
    let events : List Event := [.sent (.plain "1" "hall" "ann" "hello"),
      .sent (.plain "2" "room" "ann" "hello"), .left "hall" (.bare "bot"),
      .sent (.plain "3" "room" "eve" "hello"), .left "room" (.bare "bot")]
    ∃ v u, (events.forM (loud.company 1).dispatch).run w = some ((), v)
      ∧ ((events.filter (·.stream? = some "room")).forM (calm.company 1).dispatch).run w
        = some ((), u)
      ∧ (v.journal.total .listenerFailures, u.journal.total .listenerFailures) = (6, 0)
      ∧ v.shows "room" = u.shows "room"
      ∧ (u.shows "room").received.map (fun x => (x.1, x.2.id))
        = [("ear", "2"), ("pen", "2"), ("ear", "3"), ("pen", "3"), ("late", "3")]
      ∧ (loud.company 1).heardOn "room" events w
        = [.told .arrived "desk", .call "ear" "2", .call "pen" "2", .call "ear" "3",
          .call "pen" "3", .told .gone "desk", .call "late" "3"] := by
  intro guests cast loud calm w events
  have behaves : ∀ listening watching, (cast listening watching).Behaves
      fun _ => .host none false guests := fun listening watching => {
    listeners := fun _ _ h m n => by
      obtain rfl := ListenerRole.scripted.inj h
      rfl
    observers := fun _ => .host (fun _ _ => rfl) fun _ _ => rfl }
  have hloud : loud.Behaves fun _ => .host none false guests := behaves _ _
  have hcalm : calm.Behaves fun _ => .host none false guests := behaves _ _
  obtain ⟨v, u, hv, hu, hshows, hheard⟩ :=
    @streams_isolated loud calm _ hloud hcalm rfl 0 w rfl events "room"
  have hfull : ((events.forM (loud.company 1).dispatch).run w).map
      (fun r => r.2.journal.total .listenerFailures) = some 6 := by decide +kernel
  have halone : (((events.filter (·.stream? = some "room")).forM (calm.company 1).dispatch).run w).map
      (fun r => (r.2.journal.total .listenerFailures,
        (r.2.shows "room").received.map fun x => (x.1, x.2.id)))
      = some (0, [("ear", "2"), ("pen", "2"), ("ear", "3"), ("pen", "3"), ("late", "3")]) := by
    decide +kernel
  rw [hv] at hfull
  rw [hu] at halone
  obtain ⟨hnone, hreceived⟩ := Prod.mk.inj (Option.some.inj halone)
  refine ⟨v, u, hv, hu, Prod.ext (Option.some.inj hfull) hnone, hshows, hreceived, ?_⟩
  rw [hheard]
  decide +kernel

end Cast

end ChatFeed
