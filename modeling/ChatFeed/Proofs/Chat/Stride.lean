import ChatFeed.Proofs.Chat.Calm

/-!
# Proofs/Chat/Stride — one step of a message on its way into its chat

`Company.Stride` lists what a step can be, one case for each way to go on or to wait, with what is
known of the world there; `stride_of_step` says that there are no others.
-/

namespace ChatFeed

/-- Whether a message has not come to a chat yet. -/
def Stage.isOutside : Stage → Bool
  | .fresh => true
  | .asleep _ _ => true
  | .knocking _ => true
  | _ => false

/-- **Two worlds alike**: only books, files and time differ. -/
structure World.Alike (w w' : World) : Prop where
  directory : w'.directory = w.directory
  news : w'.news = w.news
  received : w'.received = w.received

namespace World.Alike

variable {w v w' : World}

theorem refl (w : World) : w.Alike w := ⟨rfl, rfl, rfl⟩

theorem trans (h : w.Alike v) (h' : v.Alike w') : w.Alike w' :=
  ⟨h'.directory.trans h.directory, h'.news.trans h.news, h'.received.trans h.received⟩

theorem calm (h : w.Alike w') (id : ChatId) : World.Calm id w w' :=
  .of_same h.directory h.news h.received

theorem of_remark {r : Remark} {u : Unit} (h : (Run.remark r).run w = some (u, w')) :
    w.Alike w' := by
  obtain rfl := Run.run_modify_eq_some.mp h
  exact ⟨rfl, rfl, rfl⟩

end World.Alike

/-- **Only books differ**: what has been noted and reported, marks and files; nor is a label new. -/
structure World.Aside (w w' : World) : Prop extends World.Alike w w' where
  labels : w'.labels = w.labels

theorem World.Aside.refl (w : World) : w.Aside w := ⟨.refl w, rfl⟩

namespace Run

variable {w w' : World}

theorem aside_note {n : Note} {u : Unit} (h : (note n).run w = some (u, w')) : w.Aside w' := by
  obtain rfl := run_modify_eq_some.mp h
  exact ⟨⟨rfl, rfl, rfl⟩, rfl⟩

theorem aside_failure {message : String} {details : List (String × Detail)} {u : Unit}
    (h : (failure message details).run w = some (u, w')) : w.Aside w' := by
  obtain ⟨_, v, hcount, hwarn⟩ := run_bind_eq_some.mp h
  obtain rfl := run_modify_eq_some.mp hcount
  obtain rfl := run_modify_eq_some.mp hwarn
  exact ⟨⟨rfl, rfl, rfl⟩, rfl⟩

theorem aside_enter {mark : Option String} {b : Bool}
    (h : (Company.enter mark).run w = some (b, w')) : w.Aside w' := by
  rcases enter_cases h with rfl | ⟨name, rfl⟩
  · exact .refl w'
  · exact ⟨⟨rfl, rfl, rfl⟩, rfl⟩

theorem aside_recording {k : Company} {directory : Option String} {m : Message} {e : Ending}
    (h : (k.recording directory m).run w = some (e, w')) : w.Aside w' := by
  obtain ⟨_, v, hremark, h⟩ := run_bind_eq_some.mp h
  obtain rfl := run_modify_eq_some.mp hremark
  obtain rfl := (Prod.mk.inj (Option.some.inj h)).2
  exact ⟨⟨rfl, rfl, rfl⟩, rfl⟩

end Run

/-- The directory changes, which is reported. -/
def World.change (w : World) (d : Directory) (message stream : String) : World :=
  { w with directory := d, journal := w.journal ++ [.info message [("stream_id", .text stream)]]
                                        ++ [.activeChats d.rooms.size] }

namespace Company

/-- A directory with a new chat under a stream, its gate shut. -/
def withChat (d : Directory) (stream : String) (make : Chat) : Directory :=
  { d.make { make with gateOpen := false } with rooms := d.rooms.insert stream d.nextId }

/-- **What one step of a message can be**, from a stage in a world: the next stage, none if it has
to wait, and the world then. -/
inductive Stride (k : Company) (m : Message) (w : World) : Stage → Option Stage → World → Prop
  | found {id : ChatId} (room : w.directory.rooms.find? m.stream = some id) :
      Stride k m w .fresh (some (.gated id)) w
  | absent {s : Stage} {w' : World} (room : w.directory.rooms.find? m.stream = none)
      (outside : s.isOutside = true) (alike : w.Alike w') : Stride k m w .fresh (some s) w'
  | shut {id : ChatId} (gate : (w.directory.chat id).gateOpen = false) :
      Stride k m w (.gated id) none w
  | enter {id : ChatId} (gate : (w.directory.chat id).gateOpen = true) :
      Stride k m w (.gated id) (some (.admitted id)) w
  | serve {id : ChatId} {report : Report} {w' : World}
      (delivery : (k.deliver id m).run w = some (report, w')) :
      Stride k m w (.admitted id) (some (.answered report)) w'
  | sleep {wake : Nat} {user : String} : Stride k m w (.asleep wake user) none w
  | wake {wake : Nat} {user : String} {sender : Option User} {w' : World} (alike : w.Alike w') :
      Stride k m w (.asleep wake user) (some (.knocking sender)) w'
  | join {sender : Option User} {id : ChatId} (room : w.directory.rooms.find? m.stream = some id) :
      Stride k m w (.knocking sender) (some (.gated id)) w
  | make {sender : Option User} {w' : World} (room : w.directory.rooms.find? m.stream = none)
      (directory : w'.directory
        = withChat w.directory m.stream (chatFor w.directory.owner m sender))
      (news : w'.news = w.news) (received : w'.received = w.received) :
      Stride k m w (.knocking sender)
        (some (.announcing w.directory.nextId w.directory.observers.members)) w'
  | announced {id : ChatId} : Stride k m w (.announcing id []) (some (.handing id)) w
  | tell {id : ChatId} {o : String} {os : List String} {u : Unit} {w' : World}
      (telling : (k.inform o .arrived id).run w = some (u, w')) :
      Stride k m w (.announcing id (o :: os)) (some (.announcing id os)) w'
  | hand {id : ChatId} {report : Report} {w' : World}
      (delivery : (k.deliver id m).run w = some (report, w')) :
      Stride k m w (.handing id) (some (.opening id report)) w'
  | openUp {id : ChatId} {report : Report} :
      Stride k m w (.opening id report) (some (.answered report))
        (w.onChat id fun c => { c with gateOpen := true })
  | answered {report : Report} : Stride k m w (.answered report) none w

variable {k : Company} {m : Message} {w w' : World}

theorem alike_senderOf {user : String} {r : LookupResult} {u : User}
    (h : (senderOf user r).run w = some (u, w')) : w.Alike w' := by
  unfold senderOf at h
  cases hr : r.outcome with
  | ok u =>
    rw [hr] at h
    obtain ⟨-, rfl⟩ := Run.run_pure_eq_some.mp h
    exact .refl w'
  | error chain =>
    rw [hr] at h
    obtain ⟨_, v, hremark, h⟩ := Run.run_bind_eq_some.mp h
    obtain ⟨-, rfl⟩ := Run.run_pure_eq_some.mp h
    exact .of_remark hremark

/-- A look-up leads no further than to knocking. -/
theorem alike_lookUp {user : String} {s : Stage} (h : (k.lookUp user).run w = some (s, w')) :
    s.isOutside = true ∧ w.Alike w' := by
  unfold lookUp at h
  cases htable : k.lookup with
  | none =>
    rw [htable] at h
    obtain ⟨rfl, rfl⟩ := Run.run_pure_eq_some.mp h
    exact ⟨rfl, .refl w'⟩
  | some table =>
    rw [htable] at h
    obtain ⟨_, v, hnote, h⟩ := Run.run_bind_eq_some.mp h
    obtain rfl := Run.run_modify_eq_some.mp hnote
    by_cases hdelay : (table user).delay = 0
    · rw [if_pos hdelay] at h
      obtain ⟨u, v, hsender, h⟩ := Run.run_bind_eq_some.mp h
      obtain ⟨rfl, rfl⟩ := Run.run_pure_eq_some.mp h
      have hnoted : w.Alike { w with notes := w.notes ++ [.lookup user] } := ⟨rfl, rfl, rfl⟩
      exact ⟨rfl, hnoted.trans (alike_senderOf hsender)⟩
    · rw [if_neg hdelay] at h
      obtain ⟨rfl, rfl⟩ := Prod.mk.inj (Option.some.inj h)
      exact ⟨rfl, rfl, rfl, rfl⟩

theorem alike_lookedUp {user : String} {u : User} (h : (k.lookedUp user).run w = some (u, w')) :
    w.Alike w' := by
  unfold lookedUp at h
  cases htable : k.lookup with
  | none =>
    rw [htable] at h
    obtain ⟨-, rfl⟩ := Run.run_pure_eq_some.mp h
    exact .refl w'
  | some table =>
    rw [htable] at h
    exact alike_senderOf h

section

variable {stream : String} {make : Chat}

theorem provide_of_some {id : ChatId} (hroom : w.directory.rooms.find? stream = some id) :
    (provide stream make).run w = some ((id, false), w) := by
  unfold provide
  rw [Run.run_directory_bind, hroom]
  rfl

theorem provide_of_none (hroom : w.directory.rooms.find? stream = none) :
    (provide stream make).run w = some ((w.directory.nextId, true),
      w.change (withChat w.directory stream make) "Chat created for new stream" stream) := by
  unfold provide
  rw [Run.run_directory_bind, hroom]
  rfl

/-- **A chat is there or is made**, and only then anything changes. -/
theorem provide_cases {r : ChatId × Bool} (h : (provide stream make).run w = some (r, w')) :
    (∃ id, w.directory.rooms.find? stream = some id ∧ r = (id, false) ∧ w' = w)
      ∨ (w.directory.rooms.find? stream = none ∧ r = (w.directory.nextId, true)
        ∧ w' = w.change (withChat w.directory stream make) "Chat created for new stream"
          stream) := by
  cases hroom : w.directory.rooms.find? stream with
  | some id =>
    rw [provide_of_some hroom] at h
    obtain ⟨rfl, rfl⟩ := Prod.mk.inj (Option.some.inj h)
    exact .inl ⟨id, rfl, rfl, rfl⟩
  | none =>
    rw [provide_of_none hroom] at h
    obtain ⟨rfl, rfl⟩ := Prod.mk.inj (Option.some.inj h)
    exact .inr ⟨rfl, rfl, rfl⟩

end

variable {next : Option Stage}

/-- A message that is new finds its chat, or goes to look for its sender. -/
theorem stride_of_fresh (h : (k.step m .fresh).run w = some (next, w')) :
    Stride k m w .fresh next w' := by
  unfold step at h
  rw [Run.run_directory_bind] at h
  cases hroom : w.directory.rooms.find? m.stream with
  | some id =>
    rw [hroom] at h
    obtain ⟨rfl, rfl⟩ := Run.run_pure_eq_some.mp h
    exact .found hroom
  | none =>
    rw [hroom] at h
    by_cases howner : m.sender = w.directory.owner.id
    · rw [if_pos howner] at h
      obtain ⟨rfl, rfl⟩ := Run.run_pure_eq_some.mp h
      exact .absent hroom rfl (.refl w')
    · rw [if_neg howner] at h
      obtain ⟨s, v, hlook, h⟩ := Run.run_bind_eq_some.mp h
      obtain ⟨rfl, rfl⟩ := Run.run_pure_eq_some.mp h
      obtain ⟨houtside, halike⟩ := alike_lookUp hlook
      exact .absent hroom houtside halike

/-- A message at a gate enters when the gate is open. -/
theorem stride_of_gated {id : ChatId} (h : (k.step m (.gated id)).run w = some (next, w')) :
    Stride k m w (.gated id) next w' := by
  unfold step at h
  rw [Run.run_chat_bind] at h
  cases hgate : (w.directory.chat id).gateOpen with
  | true =>
    rw [hgate, if_pos rfl] at h
    obtain ⟨rfl, rfl⟩ := Run.run_pure_eq_some.mp h
    exact .enter hgate
  | false =>
    rw [hgate, if_neg (by simp)] at h
    obtain ⟨rfl, rfl⟩ := Run.run_pure_eq_some.mp h
    exact .shut hgate

/-- A message whose sender is being looked for goes on when the time has come. -/
theorem stride_of_asleep {wake : Nat} {user : String}
    (h : (k.step m (.asleep wake user)).run w = some (next, w')) :
    Stride k m w (.asleep wake user) next w' := by
  unfold step at h
  rw [Run.run_get_bind] at h
  by_cases hclock : w.clock < wake
  · rw [if_pos hclock] at h
    obtain ⟨rfl, rfl⟩ := Run.run_pure_eq_some.mp h
    exact .sleep
  · rw [if_neg hclock] at h
    obtain ⟨u, v, hlook, h⟩ := Run.run_bind_eq_some.mp h
    obtain ⟨rfl, rfl⟩ := Run.run_pure_eq_some.mp h
    exact .wake (alike_lookedUp hlook)

/-- A message that knocks joins the chat of its stream, or makes one. -/
theorem stride_of_knocking {sender : Option User}
    (h : (k.step m (.knocking sender)).run w = some (next, w')) :
    Stride k m w (.knocking sender) next w' := by
  unfold step at h
  rw [Run.run_directory_bind] at h
  obtain ⟨r, v, hprovide, h⟩ := Run.run_bind_eq_some.mp h
  obtain ⟨rfl, rfl⟩ := Run.run_pure_eq_some.mp h
  rcases provide_cases hprovide with ⟨id, hroom, rfl, rfl⟩ | ⟨hroom, rfl, rfl⟩
  · exact .join hroom
  · exact .make hroom rfl rfl rfl

/-- A message that has made its chat tells the observers one by one. -/
theorem stride_of_announcing {id : ChatId} {observers : List String}
    (h : (k.step m (.announcing id observers)).run w = some (next, w')) :
    Stride k m w (.announcing id observers) next w' := by
  cases observers with
  | nil =>
    obtain ⟨rfl, rfl⟩ := Run.run_pure_eq_some.mp h
    exact .announced
  | cons o os =>
    obtain ⟨u, v, hinform, h⟩ := Run.run_bind_eq_some.mp h
    obtain ⟨rfl, rfl⟩ := Run.run_pure_eq_some.mp h
    exact .tell hinform

/-- **Every step is one of the listed ones.** -/
theorem stride_of_step {s : Stage} (h : (k.step m s).run w = some (next, w')) :
    Stride k m w s next w' := by
  cases s with
  | fresh => exact stride_of_fresh h
  | gated id => exact stride_of_gated h
  | admitted id =>
    obtain ⟨report, v, hdeliver, h⟩ := Run.run_bind_eq_some.mp h
    obtain ⟨rfl, rfl⟩ := Run.run_pure_eq_some.mp h
    exact .serve hdeliver
  | asleep wake user => exact stride_of_asleep h
  | knocking sender => exact stride_of_knocking h
  | announcing id observers => exact stride_of_announcing h
  | handing id =>
    obtain ⟨report, v, hdeliver, h⟩ := Run.run_bind_eq_some.mp h
    obtain ⟨rfl, rfl⟩ := Run.run_pure_eq_some.mp h
    exact .hand hdeliver
  | opening id report =>
    obtain ⟨u, v, hopen, h⟩ := Run.run_bind_eq_some.mp h
    obtain rfl := Run.run_modify_eq_some.mp hopen
    obtain ⟨rfl, rfl⟩ := Run.run_pure_eq_some.mp h
    exact .openUp
  | answered report =>
    obtain ⟨rfl, rfl⟩ := Run.run_pure_eq_some.mp h
    exact .answered

end Company

end ChatFeed
