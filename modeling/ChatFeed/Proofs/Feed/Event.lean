import ChatFeed.Feed.Wire
import ChatFeed.Proofs.Data.Record
import ChatFeed.Proofs.Json.Printer

/-!
# Proofs/Feed/Event — which objects are events

An object tells a user, a message or an event when it has the members for it: the required ones
once, the optional ones at most once, each with a value that stands for what is told, and whatever
others besides (`User.ToldBy`, `Message.ToldBy`, `Event.ToldBy`).  In what order they stand is
nowhere in it.

The records of the feed are made of slots, so **a tree is read as a user, a message or an event of a
known kind exactly when it tells it** (`User.pick_table_iff`, `Message.pick_table_iff`,
`Event.record_iff`).  A list in the place of an object is another matter, and left out here.
-/

namespace ChatFeed

open Data Json

/-! ## What objects tell -/

/-- **The members that make a user.** -/
structure User.ToldBy (es : List (String × Value)) (u : User) : Prop where
  id : Once IsText "id" es u.id
  displayName : AtMostOnce IsOptionalText "display_name" es none u.displayName
  email : AtMostOnce IsOptionalText "email" es none u.email

/-- **The members that make a message**; the kind of its stream may be an object whose only member
has nothing as its value. -/
structure Message.ToldBy (nothing : Value → Prop) (es : List (String × Value)) (m : Message) :
    Prop where
  id : Once IsText "message_id" es m.id
  stream : Once IsText "stream_id" es m.stream
  sender : Once IsText "from_user_id" es m.sender
  body : Once IsText "body" es m.body
  timestamp : AtMostOnce (IsInteger minTime maxTime) "timestamp" es 0 m.timestamp
  kind : AtMostOnce (IsChoice StreamKind.table nothing) "stream_type" es .room m.kind

/-- The name of an event's kind. -/
def IsEventKind (v : Value) (k : EventKind) : Prop :=
  ∃ s, v = .text s ∧ EventKind.table.lookup s = some k

/-- **The members that make an event of a kind.** -/
inductive Event.ToldAs (nothing : Value → Prop) (es : List (String × Value)) :
    EventKind → Event → Prop
  | sent {m : Message} (message : Once (InTable (Message.ToldBy nothing)) "message" es m) :
      ToldAs nothing es .sent (.sent m)
  | joined {s : String} {u : User} (stream : Once IsText "stream_id" es s)
      (user : Once (InTable User.ToldBy) "user" es u) : ToldAs nothing es .joined (.joined s u)
  | left {s : String} {u : User} (stream : Once IsText "stream_id" es s)
      (user : Once (InTable User.ToldBy) "user" es u) : ToldAs nothing es .left (.left s u)
  | other {k : String} (kind : Once IsText "kind" es k) : ToldAs nothing es .other (.other k)

/-- **The members that make an event**, its kind among them. -/
def Event.ToldBy (nothing : Value → Prop) (es : List (String × Value)) (e : Event) : Prop :=
  ∃ k, Once IsEventKind "type" es k ∧ Event.ToldAs nothing es k e

/-! ## Users and messages -/

variable {es : List (String × Value)}

theorem required_bind_iff {α β : Type} {name : String} {o : Option α}
    {f : α → Except Mismatch β} {b : β} :
    (required name o >>= f) = .ok b ↔ ∃ a, o = some a ∧ f a = .ok b := by
  cases o <;> simp [required, bind, Except.bind]

theorem required_map_iff {α β : Type} {name : String} {o : Option α} {f : α → β} {b : β} :
    (f <$> required name o) = .ok b ↔ ∃ a, o = some a ∧ f a = b := by
  cases o <;> simp [required, Functor.map, Except.map]

/-- The places of a user's draft. -/
def User.slots : List (Slot User.Draft) := [
  ⟨"id", false, .text, (·.id), fun v d => { d with id := some v }⟩,
  ⟨"display_name", true, .optionalText, (·.displayName),
    fun v d => { d with displayName := some v }⟩,
  ⟨"email", true, .optionalText, (·.email), fun v d => { d with email := some v }⟩]

theorem User.hasSlots : (User.record treeLeaves).HasSlots User.slots where
  fields := rfl
  names := by decide
  blank := by simp [User.slots, User.record]
  get_put := by simp [User.slots]
  get_put_other := by simp [User.slots]
  finish := by simp +contextual [User.slots, User.record]

/-- What the members make of each place of a user's draft. -/
theorem User.taken_iff {d : User.Draft} :
    (∀ s ∈ User.slots, Taken s.pick.Gives s.name es none (s.get d))
      ↔ Taken IsText "id" es none d.id
        ∧ Taken IsOptionalText "display_name" es none d.displayName
        ∧ Taken IsOptionalText "email" es none d.email := by
  simp [User.slots]

theorem User.finish_iff {d : User.Draft} {u : User} :
    (User.record treeLeaves).finish d = .ok u ↔ d.id = some u.id
      ∧ d.displayName.getD none = u.displayName ∧ d.email.getD none = u.email := by
  have hjoin : ∀ o : Option (Option String), o.join = o.getD none := by rintro (_ | _) <;> rfl
  simp only [User.record, required_bind_iff, hjoin]
  constructor
  · rintro ⟨id, hid, h⟩
    cases h
    exact ⟨hid, rfl, rfl⟩
  · rintro ⟨hid, hname, hemail⟩
    exact ⟨u.id, hid, by rw [hname, hemail]⟩

/-- **A table is read as a user exactly when it tells it.** -/
theorem User.pick_table_iff {u : User} : User.pick.run (.table es) = .ok u ↔ u.ToldBy es := by
  refine (User.hasSlots.pick_iff true u).trans ⟨?_, fun h => ?_⟩
  · rintro ⟨d, htaken, hfinish⟩
    obtain ⟨hid, hname, hemail⟩ := User.finish_iff.mp hfinish
    obtain ⟨id, displayName, email⟩ := User.taken_iff.mp htaken
    rw [hid] at id
    exact ⟨id, atMostOnce_iff.mpr ⟨_, displayName, hname⟩, atMostOnce_iff.mpr ⟨_, email, hemail⟩⟩
  · obtain ⟨name, htaken, hname⟩ := atMostOnce_iff.mp h.displayName
    obtain ⟨email, htaken', hemail⟩ := atMostOnce_iff.mp h.email
    exact ⟨⟨some u.id, name, email⟩, User.taken_iff.mpr ⟨h.id, htaken, htaken'⟩,
      User.finish_iff.mpr ⟨rfl, hname, hemail⟩⟩

/-- The places of a message's draft. -/
def Message.slots : List (Slot Message.Draft) := [
  ⟨"message_id", false, .text, (·.id), fun v d => { d with id := some v }⟩,
  ⟨"stream_id", false, .text, (·.stream), fun v d => { d with stream := some v }⟩,
  ⟨"from_user_id", false, .text, (·.sender), fun v d => { d with sender := some v }⟩,
  ⟨"body", false, .text, (·.body), fun v d => { d with body := some v }⟩,
  ⟨"timestamp", true, treeLeaves.time, (·.timestamp), fun v d => { d with timestamp := some v }⟩,
  ⟨"stream_type", true, treeLeaves.kind, (·.kind), fun v d => { d with kind := some v }⟩]

theorem Message.hasSlots : (Message.record treeLeaves).HasSlots Message.slots where
  fields := rfl
  names := by decide
  blank := by simp [Message.slots, Message.record]
  get_put := by simp [Message.slots]
  get_put_other := by simp [Message.slots]
  finish := by simp +contextual [Message.slots, Message.record]

/-- What the members make of each place of a message's draft. -/
theorem Message.taken_iff {d : Message.Draft} :
    (∀ s ∈ Message.slots, Taken s.pick.Gives s.name es none (s.get d))
      ↔ Taken IsText "message_id" es none d.id
        ∧ Taken IsText "stream_id" es none d.stream
        ∧ Taken IsText "from_user_id" es none d.sender
        ∧ Taken IsText "body" es none d.body
        ∧ Taken (IsInteger minTime maxTime) "timestamp" es none d.timestamp
        ∧ Taken (IsChoice StreamKind.table IsNothing) "stream_type" es none d.kind := by
  simp [Message.slots, treeLeaves]

theorem Message.finish_iff {d : Message.Draft} {m : Message} :
    (Message.record treeLeaves).finish d = .ok m ↔ d.id = some m.id ∧ d.stream = some m.stream
      ∧ d.sender = some m.sender ∧ d.body = some m.body ∧ d.timestamp.getD 0 = m.timestamp
      ∧ d.kind.getD .room = m.kind := by
  simp only [Message.record, required_bind_iff]
  constructor
  · rintro ⟨id, hid, stream, hstream, sender, hsender, body, hbody, h⟩
    cases h
    exact ⟨hid, hstream, hsender, hbody, rfl, rfl⟩
  · rintro ⟨hid, hstream, hsender, hbody, htime, hkind⟩
    exact ⟨m.id, hid, m.stream, hstream, m.sender, hsender, m.body, hbody, by rw [htime, hkind]⟩

/-- **A table is read as a message exactly when it tells it.** -/
theorem Message.pick_table_iff {m : Message} :
    Message.pick.run (.table es) = .ok m ↔ m.ToldBy IsNothing es := by
  refine (Message.hasSlots.pick_iff true m).trans ⟨?_, fun h => ?_⟩
  · rintro ⟨d, htaken, hfinish⟩
    obtain ⟨hid, hstream, hsender, hbody, htime, hkind⟩ := Message.finish_iff.mp hfinish
    obtain ⟨id, stream, sender, body, time, kind⟩ := Message.taken_iff.mp htaken
    rw [hid] at id
    rw [hstream] at stream
    rw [hsender] at sender
    rw [hbody] at body
    exact ⟨id, stream, sender, body, atMostOnce_iff.mpr ⟨_, time, htime⟩,
      atMostOnce_iff.mpr ⟨_, kind, hkind⟩⟩
  · obtain ⟨time, htaken, htime⟩ := atMostOnce_iff.mp h.timestamp
    obtain ⟨kind, htaken', hkind⟩ := atMostOnce_iff.mp h.kind
    exact ⟨⟨some m.id, some m.stream, some m.sender, some m.body, time, kind⟩,
      Message.taken_iff.mpr ⟨h.id, h.stream, h.sender, h.body, htaken, htaken'⟩,
      Message.finish_iff.mpr ⟨rfl, rfl, rfl, rfl, htime, hkind⟩⟩

/-! ## Events as trees -/

/-- The place of an event's message. -/
def Event.messageSlot : Slot Event.Draft :=
  ⟨"message", false, Message.pick, (·.message), fun v d => { d with message := some v }⟩

/-- The places of an event that tells of a user and a stream. -/
def Event.membershipSlots : List (Slot Event.Draft) := [
  ⟨"stream_id", false, .text, (·.stream), fun v d => { d with stream := some v }⟩,
  ⟨"user", false, User.pick, (·.user), fun v d => { d with user := some v }⟩]

/-- The place of the kind that an event names itself. -/
def Event.kindSlot : Slot Event.Draft :=
  ⟨"kind", false, .text, (·.kind), fun v d => { d with kind := some v }⟩

theorem Event.sent_hasSlots : (Event.record .sent).HasSlots [Event.messageSlot] where
  fields := rfl
  names := by decide
  blank := by simp [Event.messageSlot, Event.record]
  get_put := by simp [Event.messageSlot]
  get_put_other := by simp [Event.messageSlot]
  finish := by simp +contextual [Event.messageSlot, Event.record]

theorem Event.membership_hasSlots (label : String) (make : String → User → Event) :
    (Event.membership label make).HasSlots Event.membershipSlots where
  fields := rfl
  names := by decide
  blank := by simp [Event.membershipSlots, Event.membership]
  get_put := by simp [Event.membershipSlots]
  get_put_other := by simp [Event.membershipSlots]
  finish := by simp +contextual [Event.membershipSlots, Event.membership]

theorem Event.other_hasSlots : (Event.record .other).HasSlots [Event.kindSlot] where
  fields := rfl
  names := by decide
  blank := by simp [Event.kindSlot, Event.record]
  get_put := by simp [Event.kindSlot]
  get_put_other := by simp [Event.kindSlot]
  finish := by simp +contextual [Event.kindSlot, Event.record]

section

variable {e : Event}

/-- When the members of a name are tables, what a reader of tables makes of them is what they
tell. -/
theorem once_table_iff {α : Type} {p : Pick α} {told : List (String × Value) → α → Prop}
    {name : String} {a : α} (tables : ∀ v ∈ valuesOf name es, ∃ t, v = .table t)
    (hp : ∀ t, p.run (.table t) = .ok a ↔ told t a) :
    Once p.Gives name es a ↔ Once (InTable told) name es a := by
  refine once_congr fun v hv => ?_
  obtain ⟨t, rfl⟩ := tables v hv
  refine (hp t).trans ⟨fun h => ⟨t, rfl, h⟩, ?_⟩
  rintro ⟨t', ht, h⟩
  cases ht
  exact h

theorem Event.sent_iff (messages : ∀ v ∈ valuesOf "message" es, ∃ t, v = .table t) :
    (Pick.record true (Event.record .sent)).run (.table es) = .ok e
      ↔ ∃ m, Event.sent m = e ∧ Once (InTable (Message.ToldBy IsNothing)) "message" es m := by
  refine (Event.sent_hasSlots.pick_iff true e).trans ⟨?_, ?_⟩
  · rintro ⟨d, htaken, hfinish⟩
    obtain ⟨m, hm, rfl⟩ := required_map_iff.mp hfinish
    have hmessage : Taken Message.pick.Gives "message" es none d.message :=
      htaken _ List.mem_cons_self
    rw [hm] at hmessage
    exact ⟨m, rfl, (once_table_iff messages fun _ => Message.pick_table_iff).mp hmessage⟩
  · rintro ⟨m, rfl, message⟩
    refine ⟨{ message := some m }, List.forall_mem_singleton.mpr ?_, rfl⟩
    exact (once_table_iff messages fun _ => Message.pick_table_iff).mpr message

theorem Event.membership_iff (users : ∀ v ∈ valuesOf "user" es, ∃ t, v = .table t)
    {label : String} {make : String → User → Event} :
    (Pick.record true (Event.membership label make)).run (.table es) = .ok e
      ↔ ∃ s u, make s u = e ∧ Once IsText "stream_id" es s
        ∧ Once (InTable User.ToldBy) "user" es u := by
  refine ((Event.membership_hasSlots label make).pick_iff true e).trans ⟨?_, ?_⟩
  · rintro ⟨d, htaken, hfinish⟩
    obtain ⟨s, hs, h⟩ := required_bind_iff.mp hfinish
    obtain ⟨u, hu, h⟩ := required_bind_iff.mp h
    have hstream : Taken Pick.text.Gives "stream_id" es none d.stream :=
      htaken _ List.mem_cons_self
    have huser : Taken User.pick.Gives "user" es none d.user :=
      htaken _ (List.mem_cons_of_mem _ List.mem_cons_self)
    rw [Pick.text_gives, hs] at hstream
    rw [hu] at huser
    exact ⟨s, u, Except.ok.inj h, hstream,
      (once_table_iff users fun _ => User.pick_table_iff).mp huser⟩
  · rintro ⟨s, u, rfl, stream, user⟩
    refine ⟨{ stream := some s, user := some u }, ?_, rfl⟩
    rw [← Pick.text_gives] at stream
    rw [← once_table_iff users fun _ => User.pick_table_iff] at user
    exact List.forall_mem_cons.mpr ⟨stream, List.forall_mem_singleton.mpr user⟩

theorem Event.other_iff : (Pick.record true (Event.record .other)).run (.table es) = .ok e
    ↔ ∃ k, Event.other k = e ∧ Once IsText "kind" es k := by
  refine (Event.other_hasSlots.pick_iff true e).trans ⟨?_, ?_⟩
  · rintro ⟨d, htaken, hfinish⟩
    obtain ⟨k, hk, rfl⟩ := required_map_iff.mp hfinish
    have hkind : Taken Pick.text.Gives "kind" es none d.kind := htaken _ List.mem_cons_self
    rw [Pick.text_gives, hk] at hkind
    exact ⟨k, rfl, hkind⟩
  · rintro ⟨k, rfl, kind⟩
    refine ⟨{ kind := some k }, List.forall_mem_singleton.mpr ?_, rfl⟩
    rw [← Pick.text_gives] at kind
    exact kind

/-- **A table is read as an event of a kind exactly when it tells one.** -/
theorem Event.record_iff {k : EventKind}
    (messages : ∀ v ∈ valuesOf "message" es, ∃ t, v = .table t)
    (users : ∀ v ∈ valuesOf "user" es, ∃ t, v = .table t) :
    (Pick.record true (Event.record k)).run (.table es) = .ok e
      ↔ Event.ToldAs IsNothing es k e := by
  cases k with
  | sent =>
    refine (Event.sent_iff messages).trans ⟨?_, ?_⟩
    · rintro ⟨m, rfl, message⟩
      exact .sent message
    · rintro ⟨message⟩
      exact ⟨_, rfl, message⟩
  | joined =>
    refine (Event.membership_iff users).trans ⟨?_, ?_⟩
    · rintro ⟨s, u, rfl, stream, user⟩
      exact .joined stream user
    · rintro (_ | ⟨stream, user⟩)
      exact ⟨_, _, rfl, stream, user⟩
  | left =>
    refine (Event.membership_iff users).trans ⟨?_, ?_⟩
    · rintro ⟨s, u, rfl, stream, user⟩
      exact .left stream user
    · rintro (_ | _ | ⟨stream, user⟩)
      exact ⟨_, _, rfl, stream, user⟩
  | other =>
    refine Event.other_iff.trans ⟨?_, ?_⟩
    · rintro ⟨k, rfl, kind⟩
      exact .other kind
    · rintro (_ | _ | _ | ⟨kind⟩)
      exact ⟨_, rfl, kind⟩

end

end ChatFeed
