import ChatFeed.Proofs.Chat.Quiet
import ChatFeed.Proofs.Chat.Stride

/-!
# Proofs/Chat/Dispatch — what one event does to a directory

The room of a stream (`World.room?`) is the chat that the directory has for it, without its
listeners.  Where nobody calls back, an event that is dispatched is always seen through to its end,
and it changes the room of its own stream only, by `Cast.follow`.

* `Company.arrives_gated`, `Company.arrives_knocking` — the way of a message to its chat, old or
  new, and what has to hold of a delivery, and of news of a chat, for the message to arrive.
* `Company.dispatch_ends_of` — what has to hold of each kind of event for it to be seen through.
* `Company.receive_ends` — a message reaches its chat, which is made for it when there is none.
* `Company.dispatch_ends` — every event does to the rooms what `Cast.follow` says.
* `session_ends` — and so do the events of a `session`, one after the other.
-/

namespace ChatFeed

/-! ## Chats that are made and changed -/

namespace Directory

variable {d : Directory} {id other : ChatId} {stream : String} {make : Chat}

/-- The other chats stay as they are. -/
theorem chat_update_ne (h : other ≠ id) (f : Chat → Chat) :
    (d.update id f).chat other = d.chat other := by
  simp [chat, update, List.getD, Ne.symm h]

/-- The chat that has been made has its gate shut, -/
theorem chat_withChat_self :
    (Company.withChat d stream make).chat d.nextId = { make with gateOpen := false } := by
  simp [Company.withChat, Directory.make, chat, nextId, List.getD]

/-- and the others stay as they are. -/
theorem chat_withChat_of_lt (h : id < d.chats.length) :
    (Company.withChat d stream make).chat id = d.chat id := by
  simp [Company.withChat, Directory.make, chat, List.getD, List.getElem?_append_left h]

theorem length_withChat :
    (Company.withChat d stream make).chats.length = d.chats.length + 1 := by
  simp [Company.withChat, Directory.make]

end Directory

namespace World

/-- The chat of a stream. -/
def chat? (w : World) (stream : String) : Option Chat :=
  (w.directory.rooms.find? stream).map w.directory.chat

/-- **The room of a stream**: its chat, without those who listen. -/
def room? (w : World) (stream : String) : Option Chat :=
  (w.directory.rooms.find? stream).map fun id => (w.directory.chat id).alone

/-- **A tidy world**: every chat in the directory is under its own stream, and its gate is open. -/
structure Tidy (w : World) : Prop where
  lt : ∀ {stream id}, w.directory.rooms.find? stream = some id → id < w.directory.chats.length
  stream_eq : ∀ {stream id}, w.directory.rooms.find? stream = some id →
    (w.directory.chat id).stream = some stream
  gate : ∀ {stream id}, w.directory.rooms.find? stream = some id →
    (w.directory.chat id).gateOpen = true

variable {w v : World} {id : ChatId} {stream other : String}

theorem Unmoved.room?_eq (h : w.Unmoved v) : v.room? = w.room? := by
  funext stream
  rw [room?, room?, h.rooms]
  cases w.directory.rooms.find? stream with
  | none => rfl
  | some id => exact congrArg some (h.alone id)

theorem Unmoved.tidy (h : w.Unmoved v) (tidy : w.Tidy) : v.Tidy where
  lt := by
    intro stream id hroom
    rw [h.count]
    exact tidy.lt (h.rooms ▸ hroom)
  stream_eq := by
    intro stream id hroom
    exact (h.stream id).trans (tidy.stream_eq (h.rooms ▸ hroom))
  gate := by
    intro stream id hroom
    exact (congrArg Chat.gateOpen (h.alone id)).trans (tidy.gate (h.rooms ▸ hroom))

theorem onChat_onChat (w : World) (id : ChatId) (f g : Chat → Chat) :
    (w.onChat id f).onChat id g = w.onChat id fun c => g (f c) := by
  simp only [onChat, Directory.update, List.modify_modify_eq]
  rfl

/-- The room of a stream that has a chat. -/
theorem room?_of_find? (h : w.directory.rooms.find? stream = some id) :
    w.room? stream = some (w.directory.chat id).alone := by rw [room?, h, Option.map_some]

theorem room?_eq_none (h : w.directory.rooms.find? stream = none) : w.room? stream = none := by
  rw [room?, h, Option.map_none]

theorem chat?_of_find? (h : w.directory.rooms.find? stream = some id) :
    w.chat? stream = some (w.directory.chat id) := by rw [chat?, h, Option.map_some]

theorem chat?_eq_none (h : w.directory.rooms.find? stream = none) : w.chat? stream = none := by
  rw [chat?, h, Option.map_none]

theorem room?_eq_map (w : World) (stream : String) :
    w.room? stream = (w.chat? stream).map Chat.alone := by
  rw [room?, chat?, Option.map_map]
  rfl

/-- Where one stream has another chat, it has another room. -/
theorem room?_of_chat? {made : Option Chat}
    (h : ∀ other, v.chat? other = if other = stream then made else w.chat? other) (other : String) :
    v.room? other = if other = stream then made.map Chat.alone else w.room? other := by
  rw [room?_eq_map, h, room?_eq_map]
  split <;> rfl

/-- Chats of different streams are different. -/
theorem Tidy.ne (tidy : w.Tidy) {a b : ChatId} (ha : w.directory.rooms.find? stream = some a)
    (hb : w.directory.rooms.find? other = some b) (hne : other ≠ stream) : b ≠ a := by
  rintro rfl
  have hstreams : some other = some stream := (tidy.stream_eq hb).symm.trans (tidy.stream_eq ha)
  exact hne (Option.some.inj hstreams)

/-- **One stream has another chat, or its chat has changed**, and the others have what they had: the
world is still tidy, and only the chat of that stream is another. -/
theorem Tidy.of_changed (tidy : w.Tidy) {made : Chat}
    (hroom : v.directory.rooms.find? stream = some id) (hlt : id < v.directory.chats.length)
    (hmade : v.directory.chat id = made) (hstream : made.stream = some stream)
    (hgate : made.gateOpen = true)
    (hrooms : ∀ {T}, T ≠ stream → v.directory.rooms.find? T = w.directory.rooms.find? T)
    (hchats : ∀ {T a}, T ≠ stream → w.directory.rooms.find? T = some a →
      a < v.directory.chats.length ∧ v.directory.chat a = w.directory.chat a) :
    v.Tidy ∧ ∀ other, v.chat? other
      = if other = stream then some made else w.chat? other := by
  have hcases : ∀ {T a}, v.directory.rooms.find? T = some a →
      (T = stream ∧ a = id) ∨ (T ≠ stream ∧ w.directory.rooms.find? T = some a) := by
    intro T a ha
    by_cases hT : T = stream
    · subst hT
      exact .inl ⟨rfl, Option.some.inj (ha.symm.trans hroom)⟩
    · exact .inr ⟨hT, (hrooms hT).symm.trans ha⟩
  refine ⟨⟨fun ha => ?_, fun ha => ?_, fun ha => ?_⟩, fun T => ?_⟩
  · rcases hcases ha with ⟨rfl, rfl⟩ | ⟨hT, ha⟩
    · exact hlt
    · exact (hchats hT ha).1
  · rcases hcases ha with ⟨rfl, rfl⟩ | ⟨hT, ha⟩
    · rw [hmade, hstream]
    · rw [(hchats hT ha).2, tidy.stream_eq ha]
  · rcases hcases ha with ⟨rfl, rfl⟩ | ⟨hT, ha⟩
    · rw [hmade, hgate]
    · rw [(hchats hT ha).2, tidy.gate ha]
  · by_cases hT : T = stream
    · subst hT
      rw [if_pos rfl, chat?_of_find? hroom, hmade]
    · rw [if_neg hT]
      cases ha : w.directory.rooms.find? T with
      | none => rw [chat?_eq_none ha, chat?_eq_none ((hrooms hT).trans ha)]
      | some a =>
        rw [chat?_of_find? ha, chat?_of_find? ((hrooms hT).trans ha), (hchats hT ha).2]

/-- **A chat in the directory changes**: so does its room, and no other. -/
theorem Tidy.onChat (tidy : w.Tidy) (hroom : w.directory.rooms.find? stream = some id)
    {f : Chat → Chat} (hstream : ∀ c, (f c).stream = c.stream)
    (hgate : ∀ c, (f c).gateOpen = c.gateOpen) :
    (w.onChat id f).Tidy ∧ ∀ other, (w.onChat id f).room? other
      = if other = stream then some (f (w.directory.chat id)).alone else w.room? other := by
  have hlength : (w.directory.update id f).chats.length = w.directory.chats.length :=
    Directory.length_update _ _ _
  suffices hchat : (w.onChat id f).Tidy ∧ ∀ other, (w.onChat id f).chat? other
      = if other = stream then some (f (w.directory.chat id)) else w.chat? other from
    hchat.imp_right room?_of_chat?
  refine tidy.of_changed hroom (hlength ▸ tidy.lt hroom)
    (Directory.chat_update (tidy.lt hroom) f) ?_ ?_ (fun _ => rfl) fun hT ha => ?_
  · rw [hstream, tidy.stream_eq hroom]
  · rw [hgate, tidy.gate hroom]
  · exact ⟨hlength ▸ tidy.lt ha, Directory.chat_update_ne (tidy.ne hroom ha hT) f⟩

/-- **A chat is made for a stream that has none** and then completed: it is the room of that stream,
and the other rooms stay. -/
theorem Tidy.withChat (tidy : w.Tidy) (absent : w.directory.rooms.find? stream = none)
    (make made : Chat) {f : Chat → Chat} (hmade : f { make with gateOpen := false } = made)
    (hstream : made.stream = some stream) (hgate : made.gateOpen = true)
    (hv : v = ({ w with directory := Company.withChat w.directory stream make } : World).onChat
      w.directory.nextId f) :
    v.Tidy ∧ ∀ other, v.room? other
      = if other = stream then some made.alone else w.room? other := by
  subst hv
  have hlength : ((Company.withChat w.directory stream make).update w.directory.nextId
      f).chats.length = w.directory.chats.length + 1 := by
    rw [Directory.length_update, Directory.length_withChat]
  have hlt : w.directory.nextId < (Company.withChat w.directory stream make).chats.length := by
    rw [Directory.length_withChat]
    exact Nat.lt_succ_self _
  refine And.imp_right room?_of_chat? (tidy.of_changed (Rooms.find?_insert_self _ absent)
    (hlength ▸ Nat.lt_succ_self _) ?_ hstream hgate
    (fun hT => Rooms.find?_insert_of_ne _ _ hT) fun {T a} hT ha => ⟨?_, ?_⟩)
  · exact (Directory.chat_update hlt f).trans (by rw [Directory.chat_withChat_self, hmade])
  · exact hlength ▸ Nat.lt_succ_of_lt (tidy.lt ha)
  · have hne : a ≠ w.directory.nextId := Nat.ne_of_lt (tidy.lt ha)
    exact (Directory.chat_update_ne hne f).trans (Directory.chat_withChat_of_lt (tidy.lt ha))

/-- **A chat leaves**: its stream has no room any more, and the other rooms stay. -/
theorem Tidy.erase (tidy : w.Tidy) (stream : String) :
    let v : World :=
      { w with directory := { w.directory with rooms := w.directory.rooms.erase stream } }
    v.Tidy ∧ ∀ other, v.room? other = if other = stream then none else w.room? other := by
  intro v
  have hself : v.directory.rooms.find? stream = none := Rooms.find?_erase_self _ stream
  have hrest : ∀ {T}, T ≠ stream → v.directory.rooms.find? T = w.directory.rooms.find? T :=
    fun hT => Rooms.find?_erase_of_ne _ hT
  have hstays : ∀ {T a}, v.directory.rooms.find? T = some a →
      w.directory.rooms.find? T = some a := by
    intro T a ha
    by_cases hT : T = stream
    · subst hT
      exact absurd (hself.symm.trans ha) (by simp)
    · exact (hrest hT).symm.trans ha
  refine ⟨⟨fun ha => tidy.lt (hstays ha), fun ha => tidy.stream_eq (hstays ha),
    fun ha => tidy.gate (hstays ha)⟩, fun T => ?_⟩
  by_cases hT : T = stream
  · subst hT
    rw [if_pos rfl]
    exact room?_eq_none hself
  · rw [if_neg hT, room?, room?, hrest hT]
    rfl

end World

/-! ## What an event does to a room -/

/-- **The user that a look-up ends with**: the one found, or the bare one when it failed or when
nobody is looked up. -/
def Cast.identity (cast : Cast) (user : String) : User :=
  match cast.lookup with
  | none => .bare user
  | some table =>
    match (table user).outcome with
    | .ok u => u
    | .error _ => .bare user

/-- **Whom a message brings into the chat that is made for it**: its sender, unless that is the
owner. -/
def Cast.founder (cast : Cast) (owner : User) (m : Message) : Option User :=
  if m.sender = owner.id then none else some (cast.identity m.sender)

/-- The room that a message makes. -/
def Cast.opened (cast : Cast) (owner : User) (m : Message) : Chat :=
  { Company.chatFor owner m (cast.founder owner m) with last := some m }

/-- **What an event makes of the room of a stream.** -/
def Cast.follow (cast : Cast) (owner : User) (stream : String) (room : Option Chat) :
    Event → Option Chat
  | .sent m =>
    if m.stream = stream then
      some ((room.map fun c => { c with last := some m }).getD (cast.opened owner m))
    else room
  | .joined s u =>
    if s = stream ∧ u.id ≠ owner.id then
      room.map fun c => { c with remotes := c.remotes.insert u }
    else room
  | .left s u =>
    if s = stream then
      if u.id = owner.id then none
      else room.map fun c => { c with remotes := c.remotes.erase u.id }
    else room
  | .other _ => room

/-- **Two worlds between which users have been looked up at most**: only the journal and the time
are others, and look-ups are noted. -/
structure World.Asked (w v : World) : Prop where
  directory : v.directory = w.directory
  folder : v.folder = w.folder
  news : v.news = w.news
  received : v.received = w.received
  notes : ∃ users : List String, v.notes = w.notes ++ users.map .lookup

theorem World.Asked.refl (w : World) : w.Asked w := ⟨rfl, rfl, rfl, rfl, [], by simp⟩

theorem World.Asked.trans {w v u : World} (h : w.Asked v) (h' : v.Asked u) : w.Asked u where
  directory := h'.directory.trans h.directory
  folder := h'.folder.trans h.folder
  news := h'.news.trans h.news
  received := h'.received.trans h.received
  notes := by
    obtain ⟨users, husers⟩ := h.notes
    obtain ⟨more, hmore⟩ := h'.notes
    exact ⟨users ++ more, by simp [hmore, husers]⟩

/-- The journal and the time are no matter. -/
theorem World.asked_of_same (w : World) (journal : Journal) (clock : Nat) :
    w.Asked { w with journal := journal, clock := clock } := ⟨rfl, rfl, rfl, rfl, [], by simp⟩

namespace Company

variable {k : Company} {m : Message} {e : Event} {w v u : World} {s : Stage} {n : Nat}
  {P : World → Prop}

/-! ## Senders -/

theorem senderOf_ends {table : String → LookupResult} (htable : k.lookup = some table)
    (user : String) : (senderOf user (table user)).EndsIn w fun u v =>
      u = k.identity user ∧ w.Asked v := by
  have hidentity : k.identity user = match (table user).outcome with
      | .ok u => u
      | .error _ => .bare user := by rw [Cast.identity, htable]
  unfold senderOf
  cases hr : (table user).outcome with
  | ok u =>
    rw [hr] at hidentity
    exact Run.endsIn_pure ⟨hidentity.symm, .refl w⟩
  | error chain =>
    rw [hr] at hidentity
    have hremark : (Run.remark (.warn "Failed to resolve sender identity, using bare id"
        [("user_id", .text user), ("error", .text (chain.headD ""))])).EndsIn w fun _ v =>
          w.Asked v := Run.endsIn_modify (w.asked_of_same _ _)
    exact hremark.bind fun _ v hv => Run.endsIn_pure ⟨hidentity.symm, hv⟩

theorem lookedUp_ends (user : String) : (k.lookedUp user).EndsIn w fun u v =>
    u = k.identity user ∧ w.Asked v := by
  unfold lookedUp
  cases htable : k.lookup with
  | none => exact Run.endsIn_pure ⟨by rw [Cast.identity, htable], .refl w⟩
  | some table => exact senderOf_ends htable user

/-- A look-up ends with its user at once, or falls asleep. -/
theorem lookUp_ends (user : String) : (k.lookUp user).EndsIn w fun s v => w.Asked v
    ∧ (s = .knocking (some (k.identity user)) ∨ ∃ wake, s = .asleep wake user) := by
  unfold lookUp
  cases htable : k.lookup with
  | none => exact Run.endsIn_pure ⟨.refl w, .inl (by rw [Cast.identity, htable])⟩
  | some table =>
    have hnote : (Run.note (.lookup user)).EndsIn w fun _ v => w.Asked v :=
      Run.endsIn_modify ⟨rfl, rfl, rfl, rfl, [user], rfl⟩
    refine hnote.bind fun _ v hv => ?_
    by_cases hdelay : (table user).delay = 0
    · rw [if_pos hdelay]
      refine (senderOf_ends htable user).bind ?_
      rintro - v' ⟨rfl, hv'⟩
      exact Run.endsIn_pure ⟨hv.trans hv', .inl rfl⟩
    · rw [if_neg hdelay]
      exact Run.endsIn_pure ⟨hv, .inr ⟨_, rfl⟩⟩

/-! ## The way of a message -/

/-- **A message reaches its answer**, within so many steps, and the world is then as it should
be. -/
def Arrives (k : Company) (m : Message) (n : Nat) (s : Stage) (w : World) (P : World → Prop) :
    Prop :=
  ∀ more, (k.goOn m (n + more) s).EndsIn w fun s' v => (∃ report, s' = .answered report) ∧ P v

theorem arrives_answered {report : Report} (h : P w) : Arrives k m 0 (.answered report) w P := by
  intro more
  cases more with
  | zero => exact Run.endsIn_pure ⟨⟨report, rfl⟩, h⟩
  | succ more => exact ⟨_, w, rfl, ⟨report, rfl⟩, h⟩

/-- **One step nearer.** -/
theorem Arrives.step (h : (k.step m s).EndsIn w fun next v =>
    ∃ s', next = some s' ∧ Arrives k m n s' v P) : Arrives k m (n + 1) s w P := by
  intro more
  rw [Nat.add_right_comm]
  refine h.bind ?_
  rintro - v ⟨s', rfl, hs'⟩
  exact hs' more

/-- A message that arrives within some steps does so within more. -/
theorem Arrives.add (h : Arrives k m n s w P) (extra : Nat) : Arrives k m (n + extra) s w P := by
  intro more
  rw [Nat.add_assoc]
  exact h _

/-- **A message that has found its chat**, with its gate open, is delivered there. -/
theorem arrives_gated {id : ChatId} (hgate : (w.directory.chat id).gateOpen = true)
    (h : (k.deliver id m).EndsIn w fun _ v => P v) : Arrives k m 2 (.gated id) w P := by
  refine .step (Run.endsIn_chat_bind ?_)
  rw [if_pos hgate]
  refine Run.endsIn_pure ⟨_, rfl, .step (h.bind fun _ v hv => ?_)⟩
  exact Run.endsIn_pure ⟨_, rfl, arrives_answered hv⟩

/-- **A message that has made its chat** tells the observers, is handed over and opens the gate. -/
theorem arrives_announcing {id : ChatId} (observers : List String)
    (h : (k.informAll .arrived id observers).EndsIn w fun _ v =>
      (k.deliver id m).EndsIn v fun _ u => P (u.onChat id fun c => { c with gateOpen := true })) :
    Arrives k m (observers.length + 3) (.announcing id observers) w P := by
  induction observers generalizing w with
  | nil =>
    have hdeliver : (k.deliver id m).EndsIn w fun _ u =>
        P (u.onChat id fun c => { c with gateOpen := true }) := h.elim rfl
    refine .step (Run.endsIn_pure ⟨_, rfl, .step (hdeliver.bind fun _ u hu => ?_)⟩)
    refine Run.endsIn_pure ⟨_, rfl, .step ?_⟩
    exact ⟨_, _, rfl, _, rfl, arrives_answered hu⟩
  | cons o os ih =>
    exact .step (h.of_bind.bind fun _ v hv => Run.endsIn_pure ⟨_, rfl, ih hv⟩)

/-- **A message that makes its chat.** -/
theorem arrives_knocking (hroom : w.directory.rooms.find? m.stream = none) (sender : Option User)
    (h : (changed "Chat created for new stream" m.stream).EndsIn
      { w with directory := withChat w.directory m.stream (chatFor w.directory.owner m sender) }
      fun _ v => (k.informAll .arrived w.directory.nextId w.directory.observers.members).EndsIn v
        fun _ v => (k.deliver w.directory.nextId m).EndsIn v fun _ u =>
          P (u.onChat w.directory.nextId fun c => { c with gateOpen := true })) :
    Arrives k m (w.directory.observers.size + 4) (.knocking sender) w P := by
  have hprovide : (provide m.stream (chatFor w.directory.owner m sender)).EndsIn w fun r v =>
      r = (w.directory.nextId, true)
        ∧ Arrives k m (w.directory.observers.size + 3)
          (.announcing w.directory.nextId w.directory.observers.members) v P := by
    refine Run.endsIn_directory_bind ?_
    rw [hroom]
    have hmake : (Run.onDirectory fun d =>
        { d.make { chatFor w.directory.owner m sender with gateOpen := false } with
          rooms := d.rooms.insert m.stream w.directory.nextId }).EndsIn w fun _ v => v = { w with
            directory := withChat w.directory m.stream (chatFor w.directory.owner m sender) } :=
      Run.endsIn_modify rfl
    refine hmake.bind ?_
    rintro - v rfl
    exact h.bind fun _ v hv => Run.endsIn_pure ⟨rfl, arrives_announcing _ hv⟩
  refine .step (Run.endsIn_directory_bind (hprovide.bind ?_))
  rintro - v ⟨rfl, hv⟩
  exact Run.endsIn_pure ⟨_, rfl, hv⟩

theorem advance_ends (h : Arrives k m n s w P) (hn : n ≤ w.directory.observers.size + 8) :
    (k.advance m s).EndsIn w fun s' v => (∃ report, s' = .answered report) ∧ P v := by
  obtain ⟨more, hmore⟩ := Nat.exists_eq_add_of_le hn
  refine Run.endsIn_directory_bind ?_
  rw [hmore]
  exact h more

/-- **A message that sleeps once at most comes to its end.** -/
theorem finish_ends (h : (k.advance m s).EndsIn w fun s' v =>
    ((∃ report, s' = .answered report) ∧ P v)
      ∨ ∃ wake user, s' = .asleep wake user
        ∧ Arrives k m (v.directory.observers.size + 5) s'
          { v with clock := max v.clock wake } P) :
    (k.finish m s).EndsIn w fun _ v => P v := by
  refine h.bind fun s' v hv => ?_
  rcases hv with ⟨⟨report, rfl⟩, hP⟩ | ⟨wake, user, rfl, hwake⟩
  · refine (Run.endsIn_pure rfl : (wait (.answered report)).EndsIn v fun _ u => u = v).bind ?_
    rintro - u rfl
    refine (advance_ends (arrives_answered hP) (Nat.zero_le _)).bind ?_
    rintro - u ⟨⟨report, rfl⟩, hu⟩
    exact Run.endsIn_pure hu
  · refine (Run.endsIn_modify rfl : (wait (.asleep wake user)).EndsIn v fun _ u =>
      u = { v with clock := max v.clock wake }).bind ?_
    rintro - u rfl
    refine (advance_ends hwake (Nat.add_le_add_left (by decide) _)).bind ?_
    rintro - u ⟨⟨report, rfl⟩, hu⟩
    exact Run.endsIn_pure hu

/-- One step, and then the others. -/
theorem goOn_ends {Q : Stage → World → Prop} (h : (k.step m s).EndsIn w fun next v =>
    (next = none ∧ Q s v) ∨ ∃ s', next = some s' ∧ (k.goOn m n s').EndsIn v Q) :
    (k.goOn m (n + 1) s).EndsIn w Q := by
  refine h.bind ?_
  rintro - v (⟨rfl, hQ⟩ | ⟨s', rfl, hs'⟩)
  · exact Run.endsIn_pure hQ
  · exact hs'

/-- A message that wakes and finds nothing under its stream. -/
theorem arrives_asleep {wake : Nat} {user : String} (hclock : wake ≤ w.clock)
    (h : ∀ v, w.Asked v → Arrives k m n (.knocking (some (k.identity user))) v P) :
    Arrives k m (n + 1) (.asleep wake user) w P := by
  refine .step (Run.endsIn_get_bind ?_)
  rw [if_neg (Nat.not_lt.mpr hclock)]
  refine (lookedUp_ends user).bind ?_
  rintro - v ⟨rfl, hv⟩
  exact Run.endsIn_pure ⟨_, rfl, h v hv⟩

/-- **A message whose sender has to be looked up** is answered, or sleeps until the answer is
sure. -/
theorem advance_unknown_ends (hroom : w.directory.rooms.find? m.stream = none)
    (hsender : m.sender ≠ w.directory.owner.id)
    (h : ∀ v, w.Asked v → Arrives k m (w.directory.observers.size + 4)
      (.knocking (some (k.identity m.sender))) v P) :
    (k.advance m .fresh).EndsIn w fun s' v =>
      ((∃ report, s' = .answered report) ∧ P v)
        ∨ ∃ wake user, s' = .asleep wake user
          ∧ Arrives k m (v.directory.observers.size + 5) s'
            { v with clock := max v.clock wake } P := by
  refine Run.endsIn_directory_bind (goOn_ends (n := w.directory.observers.size + 7) ?_)
  refine Run.endsIn_directory_bind ?_
  rw [hroom]
  dsimp only
  rw [if_neg hsender]
  refine (lookUp_ends m.sender).bind ?_
  rintro s v ⟨hv, hs⟩
  refine Run.endsIn_pure (.inr ⟨s, rfl, ?_⟩)
  rcases hs with rfl | ⟨wake, rfl⟩
  · exact (h v hv 3).mono fun _ _ h => .inl h
  · by_cases hclock : v.clock < wake
    · refine goOn_ends (n := w.directory.observers.size + 6) (Run.endsIn_get_bind ?_)
      rw [if_pos hclock]
      refine Run.endsIn_pure (.inl ⟨rfl, .inr ⟨wake, m.sender, rfl, ?_⟩⟩)
      have hlater : v.Asked { v with clock := max v.clock wake } := v.asked_of_same _ _
      have hwake := arrives_asleep (w := { v with clock := max v.clock wake })
        (Nat.le_max_right _ _) fun u hu => h u ((hv.trans hlater).trans hu)
      rwa [← hv.directory] at hwake
    · have hwake := arrives_asleep (Nat.not_lt.mp hclock) fun u hu => h u (hv.trans hu)
      exact (hwake 2).mono fun _ _ h => .inl h

/-- **A message goes to the chat of its stream**, or, when there is none, knocks once its sender is
known. -/
theorem receive_ends_of
    (hfound : ∀ id, w.directory.rooms.find? m.stream = some id → Arrives k m 2 (.gated id) w P)
    (hnone : w.directory.rooms.find? m.stream = none → ∀ v, w.Asked v →
      Arrives k m (w.directory.observers.size + 4) (.knocking (k.founder w.directory.owner m)) v P) :
    (k.receive m).EndsIn w fun _ v => P v := by
  refine finish_ends ?_
  cases hroom : w.directory.rooms.find? m.stream with
  | some id =>
    have hfresh : Arrives k m 3 .fresh w P := by
      refine .step (Run.endsIn_directory_bind ?_)
      rw [hroom]
      exact Run.endsIn_pure ⟨_, rfl, hfound id hroom⟩
    exact (advance_ends hfresh (Nat.le_add_left_of_le (by decide))).mono fun _ _ h => .inl h
  | none =>
    have hknock := hnone hroom
    by_cases hsender : m.sender = w.directory.owner.id
    · rw [Cast.founder, if_pos hsender] at hknock
      have hfresh : Arrives k m (w.directory.observers.size + 5) .fresh w P := by
        refine .step (Run.endsIn_directory_bind ?_)
        rw [hroom]
        dsimp only
        rw [if_pos hsender]
        exact Run.endsIn_pure ⟨_, rfl, hknock w (.refl w)⟩
      exact (advance_ends hfresh (Nat.add_le_add_left (by decide) _)).mono fun _ _ h => .inl h
    · rw [Cast.founder, if_neg hsender] at hknock
      exact advance_unknown_ends hroom hsender hknock

/-! ## The ways of the other events -/

/-- **A user joins**: nothing happens, or the chat of the stream has one more participant. -/
theorem joined_ends_of {stream : String} {user : User}
    (hsame : user.id = w.directory.owner.id ∨ w.directory.rooms.find? stream = none → P w)
    (hjoin : ∀ id, user.id ≠ w.directory.owner.id → w.directory.rooms.find? stream = some id →
      P (w.onChat id fun c => { c with remotes := c.remotes.insert user })) :
    (joined stream user).EndsIn w fun _ v => P v := by
  refine Run.endsIn_directory_bind ?_
  by_cases howner : user.id = w.directory.owner.id
  · rw [if_pos howner]
    exact Run.endsIn_pure (hsame (.inl howner))
  · rw [if_neg howner]
    cases hroom : w.directory.rooms.find? stream with
    | none => exact Run.endsIn_pure (hsame (.inr hroom))
    | some id => exact Run.endsIn_modify (hjoin id howner hroom)

/-- **A chat is removed**, if there is one, and its end is announced. -/
theorem removeStream_ends {stream : String} (hsame : w.directory.rooms.find? stream = none → P w)
    (hgone : ∀ id, w.directory.rooms.find? stream = some id →
      (do changed "Chat removed" stream; k.announce .gone id : Run Unit).EndsIn
        { w with directory := { w.directory with rooms := w.directory.rooms.erase stream } }
        fun _ v => P v) :
    (k.removeStream stream).EndsIn w fun _ v => P v := by
  refine Run.endsIn_directory_bind ?_
  cases hroom : w.directory.rooms.find? stream with
  | none => exact Run.endsIn_pure (hsame hroom)
  | some id =>
    have herase : (Run.onDirectory fun d => { d with rooms := d.rooms.erase stream }).EndsIn w
        fun _ v => v = { w with
          directory := { w.directory with rooms := w.directory.rooms.erase stream } } :=
      Run.endsIn_modify rfl
    refine herase.bind ?_
    rintro - v rfl
    exact (hgone id hroom).of_bind.bind fun _ v hv => hv.bind fun _ u hu => Run.endsIn_pure hu

/-- **A user leaves**: nothing happens, or the chat of the stream has one participant less, or, when
it is the owner, the chat is removed. -/
theorem left_ends_of {stream : String} {user : User}
    (hsame : w.directory.rooms.find? stream = none → P w)
    (hgone : ∀ id, user.id = w.directory.owner.id → w.directory.rooms.find? stream = some id →
      (do changed "Chat removed" stream; k.announce .gone id : Run Unit).EndsIn
        { w with directory := { w.directory with rooms := w.directory.rooms.erase stream } }
        fun _ v => P v)
    (hleave : ∀ id, user.id ≠ w.directory.owner.id → w.directory.rooms.find? stream = some id →
      P (w.onChat id fun c => { c with remotes := c.remotes.erase user.id }))
    (hremark : ∀ v r, P v → P { v with journal := v.journal ++ [r] }) :
    (k.left stream user).EndsIn w fun _ v => P v := by
  refine Run.endsIn_directory_bind ?_
  by_cases howner : user.id = w.directory.owner.id
  · rw [if_pos howner]
    refine (removeStream_ends hsame fun id => hgone id howner).bind fun r v hv => ?_
    by_cases hr : r.isSome = true
    · rw [if_pos hr]
      exact Run.endsIn_modify (hremark v _ hv)
    · rw [if_neg hr]
      exact Run.endsIn_pure hv
  · rw [if_neg howner]
    cases hroom : w.directory.rooms.find? stream with
    | none => exact Run.endsIn_pure (hsame hroom)
    | some id => exact Run.endsIn_modify (hleave id howner hroom)

/-- **An event is counted**, and then what its kind asks for is done. -/
theorem dispatch_ends_of (h : ∀ v, w.Asked v →
    match e with
    | .sent m => (k.receive m).EndsIn v fun _ u => P u
    | .joined stream user => (joined stream user).EndsIn v fun _ u => P u
    | .left stream user => (k.left stream user).EndsIn v fun _ u => P u
    | .other _ => P v) : (k.dispatch e).EndsIn w fun _ v => P v := by
  have hcount : (Run.remark (.count (.dispatched e.kindName))).EndsIn w fun _ v => w.Asked v :=
    Run.endsIn_modify (w.asked_of_same _ _)
  cases e with
  | sent m =>
    have hobserve : (k.observe (.sent m)).EndsIn w fun _ v =>
        (k.receive m).EndsIn v fun _ u => P u :=
      hcount.bind fun _ v hv => Run.endsIn_pure (h v hv)
    exact hobserve.bind fun _ v hv => hv.bind fun _ u hu => Run.endsIn_pure hu
  | joined stream user =>
    have hobserve : (k.observe (.joined stream user)).EndsIn w fun _ v => P v :=
      hcount.bind fun _ => h
    exact hobserve.bind fun _ v hv => Run.endsIn_pure hv
  | left stream user =>
    have hobserve : (k.observe (.left stream user)).EndsIn w fun _ v => P v :=
      hcount.bind fun _ => h
    exact hobserve.bind fun _ v hv => Run.endsIn_pure hv
  | other kind =>
    have hobserve : (k.observe (.other kind)).EndsIn w fun _ v => P v :=
      hcount.bind fun _ v hv => Run.endsIn_pure (h v hv)
    exact hobserve.bind fun _ v hv => Run.endsIn_pure hv

/-! ## What becomes of the rooms -/

/-- **What becomes of the rooms**: a tidy world of the same owner, each room as an event makes
it. -/
structure Follows (k : Company) (e : Event) (w v : World) : Prop where
  tidy : v.Tidy
  owner : v.directory.owner = w.directory.owner
  rooms : ∀ stream, v.room? stream = k.follow w.directory.owner stream (w.room? stream) e

theorem Follows.after (h : k.Follows e v u) (hv : w.Unmoved v) : k.Follows e w u where
  tidy := h.tidy
  owner := h.owner.trans hv.owner
  rooms := by
    intro stream
    rw [h.rooms, hv.owner, hv.room?_eq]

theorem Follows.before (h : k.Follows e w v) (hu : v.Unmoved u) : k.Follows e w u where
  tidy := hu.tidy h.tidy
  owner := hu.owner.trans h.owner
  rooms := by
    intro stream
    rw [hu.room?_eq, h.rooms]

/-- A message that has found its chat. -/
theorem follows_gated (quiet : k.toCast.Quiet) (tidy : w.Tidy) {id : ChatId}
    (hroom : w.directory.rooms.find? m.stream = some id) :
    Arrives k m 2 (.gated id) w (k.Follows (.sent m) w) := by
  refine arrives_gated (tidy.gate hroom) ((deliver_ends quiet id m w).mono fun _ v hv => ?_)
  obtain ⟨htidy, hrooms⟩ := tidy.onChat hroom (f := fun c => { c with last := some m })
    (fun _ => rfl) fun _ => rfl
  refine Follows.before ⟨htidy, rfl, fun stream => ?_⟩ hv
  rw [hrooms]
  by_cases hstream : stream = m.stream
  · subst hstream
    rw [if_pos rfl, World.room?_of_find? hroom, Cast.follow, if_pos rfl]
    rfl
  · rw [if_neg hstream, Cast.follow, if_neg (Ne.symm hstream)]

/-- **A message that makes its chat.** -/
theorem follows_knocking (quiet : k.toCast.Quiet) (tidy : w.Tidy)
    (hroom : w.directory.rooms.find? m.stream = none) :
    Arrives k m (w.directory.observers.size + 4)
      (.knocking (k.founder w.directory.owner m)) w (k.Follows (.sent m) w) := by
  let make : Chat := chatFor w.directory.owner m (k.founder w.directory.owner m)
  refine arrives_knocking hroom _ ((still_changed _ _ _).mono fun _ v hv => ?_)
  refine (still_informAll quiet .arrived _ _ v).mono fun _ v' hv' => ?_
  refine (deliver_ends quiet _ m v').mono fun _ u hu => ?_
  obtain ⟨htidy, hrooms⟩ := tidy.withChat hroom make (k.opened w.directory.owner m)
    (f := fun c => { c with last := some m, gateOpen := true }) rfl rfl rfl rfl
  have hlast := (hv.trans hv').onChat w.directory.nextId (f := fun c => { c with last := some m })
    (g := fun c => { c with last := some m }) fun _ => rfl
  have hmade := (hlast.trans hu).onChat w.directory.nextId
    (f := fun c => { c with gateOpen := true }) (g := fun c => { c with gateOpen := true })
    fun _ => rfl
  rw [World.onChat_onChat] at hmade
  refine Follows.before ⟨htidy, rfl, fun stream => ?_⟩ hmade
  rw [hrooms]
  by_cases hstream : stream = m.stream
  · subst hstream
    rw [if_pos rfl, World.room?_eq_none hroom, Cast.follow, if_pos rfl]
    rfl
  · rw [if_neg hstream, Cast.follow, if_neg (Ne.symm hstream)]

/-- **A message reaches its chat**, which is made for it when there is none. -/
theorem receive_ends (quiet : k.toCast.Quiet) (tidy : w.Tidy) (m : Message) :
    (k.receive m).EndsIn w fun _ v => k.Follows (.sent m) w v := by
  refine receive_ends_of (fun id hroom => follows_gated quiet tidy hroom) fun hroom v hv => ?_
  have hmoved : w.Unmoved v := .of_directory hv.directory
  have hknock := follows_knocking (m := m) quiet (hmoved.tidy tidy) (by rw [hv.directory, hroom])
  rw [hv.directory] at hknock
  exact fun more => (hknock more).mono fun _ _ h => ⟨h.1, h.2.after hmoved⟩

/-! ## Events -/

theorem follow_of_other {cast : Cast} {owner : User} {stream : String} {room : Option Chat}
    (h : e.stream? ≠ some stream) : cast.follow owner stream room e = room := by
  cases e with
  | other kind => rfl
  | sent m => exact if_neg fun hm => h (congrArg some hm)
  | joined s u => exact if_neg fun hs => h (congrArg some hs.1)
  | left s u => exact if_neg fun hs => h (congrArg some hs)

/-- An event that changes the chat of its stream at most. -/
theorem follows_onChat (tidy : w.Tidy) {stream : String} {id : ChatId}
    (hroom : w.directory.rooms.find? stream = some id) (he : e.stream? = some stream)
    {f : Chat → Chat} (hstream : ∀ c, (f c).stream = c.stream)
    (hgate : ∀ c, (f c).gateOpen = c.gateOpen)
    (hfollow : ∀ c : Chat, k.follow w.directory.owner stream (some c.alone) e
      = some (f c).alone) : k.Follows e w (w.onChat id f) := by
  obtain ⟨htidy, hrooms⟩ := tidy.onChat hroom hstream hgate
  refine ⟨htidy, rfl, fun other => ?_⟩
  rw [hrooms]
  by_cases hother : other = stream
  · subst hother
    rw [if_pos rfl, World.room?_of_find? hroom, hfollow]
  · rw [if_neg hother, follow_of_other (by rw [he]; simpa using Ne.symm hother)]

/-- An event that leaves all rooms as they are. -/
theorem follows_of_same (tidy : w.Tidy)
    (hsame : ∀ stream, k.follow w.directory.owner stream (w.room? stream) e = w.room? stream) :
    k.Follows e w w := ⟨tidy, rfl, fun stream => (hsame stream).symm⟩

/-- **A user joins.** -/
theorem joined_ends (tidy : w.Tidy) (stream : String) (u : User) :
    (joined stream u).EndsIn w fun _ v => k.Follows (.joined stream u) w v := by
  refine joined_ends_of (fun hsame => follows_of_same tidy fun s => ?_) fun id howner hroom => ?_
  · by_cases hs : stream = s
    · subst hs
      rcases hsame with howner | hroom
      · exact if_neg fun h => h.2 howner
      · rw [World.room?_eq_none hroom, Cast.follow, Option.map_none, ite_self]
    · exact if_neg fun h => hs h.1
  · refine follows_onChat tidy hroom rfl (fun _ => rfl) (fun _ => rfl) fun c => ?_
    rw [Cast.follow, if_pos ⟨rfl, howner⟩]
    rfl

/-- **A user leaves**, and the chat too when it is the owner. -/
theorem left_ends (quiet : k.toCast.Quiet) (tidy : w.Tidy) (stream : String) (u : User) :
    (k.left stream u).EndsIn w fun _ v => k.Follows (.left stream u) w v := by
  refine left_ends_of (fun hroom => follows_of_same tidy fun s => ?_)
    (fun id howner hroom => ?_) (fun id howner hroom => ?_)
    fun v r hv => hv.before (.of_directory rfl)
  · by_cases hs : stream = s
    · subst hs
      rw [World.room?_eq_none hroom, Cast.follow, if_pos rfl, Option.map_none, ite_self]
    · exact if_neg hs
  · obtain ⟨htidy, hrooms⟩ := tidy.erase stream
    have hfollows : k.Follows (.left stream u) w
        { w with directory := { w.directory with rooms := w.directory.rooms.erase stream } } := by
      refine ⟨htidy, rfl, fun s => (hrooms s).trans ?_⟩
      by_cases hs : s = stream
      · subst hs
        rw [if_pos rfl, Cast.follow, if_pos rfl, if_pos howner]
      · rw [if_neg hs, Cast.follow, if_neg (Ne.symm hs)]
    have hrest := (still_changed "Chat removed" stream).bind fun _ => still_announce quiet .gone id
    exact (hrest _).mono fun _ _ hv => hfollows.before hv
  · refine follows_onChat tidy hroom rfl (fun _ => rfl) (fun _ => rfl) fun c => ?_
    rw [Cast.follow, if_pos rfl, if_neg howner]
    rfl

/-- **Every event is seen through**, and does to the rooms what it should. -/
theorem dispatch_ends (quiet : k.toCast.Quiet) (tidy : w.Tidy) (e : Event) :
    (k.dispatch e).EndsIn w fun _ v => k.Follows e w v := by
  refine dispatch_ends_of fun v hasked => ?_
  have hv : w.Unmoved v := .of_directory hasked.directory
  cases e with
  | sent m => exact (receive_ends quiet (hv.tidy tidy) m).mono fun _ _ h => h.after hv
  | joined s u => exact (joined_ends (hv.tidy tidy) s u).mono fun _ _ h => h.after hv
  | left s u => exact (left_ends quiet (hv.tidy tidy) s u).mono fun _ _ h => h.after hv
  | other kind => exact (follows_of_same (hv.tidy tidy) fun _ => rfl).after hv

end Company

/-! ## A session -/

/-- **A session**: events are dispatched one after the other, the users being looked up in other
ways, and the callbacks doing other things, each time. -/
def session (depth : Nat) (events : List (Cast × Event)) : Run Unit :=
  events.forM fun x => (x.1.company depth).dispatch x.2

/-- What the events of a session make of the room of a stream. -/
def followAll (owner : User) (stream : String) (room : Option Chat) (events : List (Cast × Event)) :
    Option Chat :=
  events.foldl (fun room x => x.1.follow owner stream room x.2) room

/-- **All events are seen through**, and every room follows them. -/
theorem session_ends (depth : Nat) {events : List (Cast × Event)} {w : World}
    (quiet : ∀ x ∈ events, x.1.Quiet) (tidy : w.Tidy) :
    (session depth events).EndsIn w fun _ v => v.Tidy
      ∧ v.directory.owner = w.directory.owner
      ∧ ∀ stream, v.room? stream
        = followAll w.directory.owner stream (w.room? stream) events := by
  induction events generalizing w with
  | nil => exact Run.endsIn_pure ⟨tidy, rfl, fun _ => rfl⟩
  | cons x events ih =>
    have hfirst := Company.dispatch_ends (k := x.1.company depth) (quiet x List.mem_cons_self) tidy
    refine (hfirst x.2).bind fun _ v hv => ?_
    refine (ih (fun y hy => quiet y (List.mem_cons_of_mem _ hy)) hv.tidy).mono fun _ u hu => ?_
    refine ⟨hu.1, hu.2.1.trans hv.owner, fun stream => ?_⟩
    rw [hu.2.2, hv.owner, hv.rooms]
    rfl

end ChatFeed
