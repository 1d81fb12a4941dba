import ChatFeed.Proofs.Chat.Stride
import ChatFeed.Proofs.Chat.Watch

/-!
# Proofs/Chat/Newest — who has the newest message of a chat last

Listeners may register, unregister and deliver on the chat that calls them (`Cast.Devoted`), so a
message may become the last one in the middle of the delivery of an older one, and a listener
further down still gets the older one afterwards (`Newest.stale_after_nested`).
`Newest.newest_or_missed` says that this is the only way: a listener whose latest message is not the
last one of the chat was pending when that one came.

What is kept on the way is `World.UpToDate`: a listener of the chat has the last message last, or is
pending, or was when the message came.
-/

namespace ChatFeed

/-- An action that is a call on a chat. -/
def ChatAction.isCall : ChatAction → Bool
  | .register _ => true
  | .unregister _ => true
  | .deliver _ => true
  | _ => false

/-- The chat to which a target leads, beside the one that a callback is about. -/
def Target.leadsTo (w : World) (about : Option ChatId) : Target → Option ChatId
  | .labelled label => w.labels.lookup label
  | .onStream stream => w.directory.rooms.find? stream
  | .current => about

/-- **Listeners that keep to one chat**: whatever they do when they are called is to register, to
unregister or to deliver there. -/
def Cast.Devoted (cast : Cast) (w : World) (id : ChatId) : Prop :=
  ∀ name react, cast.listener name = .scripted react → ∀ m n, ∀ s ∈ (react m n).steps,
    ∃ target action, s.action = .onChat target action ∧ action.isCall = true
      ∧ target.leadsTo w (w.directory.rooms.find? m.stream) = some id

/-- **Some listener delivers** when it is called. -/
def Cast.Delivers (cast : Cast) : Prop :=
  ∃ name react m n target m', cast.listener name = .scripted react
    ∧ ∃ s ∈ (react m n).steps, s.action = .onChat target (.deliver m')

namespace World

/-- The chat is there, and what leads to it is as it was. -/
structure Home (w₀ : World) (id : ChatId) (w : World) : Prop where
  labels : w.labels = w₀.labels
  rooms : w.directory.rooms = w₀.directory.rooms
  lt : id < w.directory.chats.length

/-- **A listener has the last message of a chat last.** -/
def CaughtUp (w : World) (id : ChatId) (l : String) : Prop :=
  ∀ m, (w.directory.chat id).last = some m → (heardBy l w.received).getLast? = some m

/-- **Every listener of a chat has its last message last**, unless it is pending or has missed
it. -/
def UpToDate (id : ChatId) (missed pending : List String) (w : World) : Prop :=
  ∀ l ∈ w.members id, l ∈ missed ∨ l ∈ pending ∨ w.CaughtUp id l

/-- **No message has come**: the last one is as it was, and nothing else has been handed over. -/
structure Idle (id : ChatId) (w w' : World) : Prop where
  last : (w'.directory.chat id).last = (w.directory.chat id).last
  received : ∃ more, w'.received = w.received ++ more
    ∧ ∀ x ∈ more, (w.directory.chat id).last = some x.2

variable {w₀ w v w' : World} {id : ChatId} {l : String} {m : Message}
  {missed pending rest : List String}

theorem Idle.refl (id : ChatId) (w : World) : Idle id w w where
  last := rfl
  received := ⟨[], (List.append_nil _).symm, by simp⟩

theorem Idle.trans (h : Idle id w v) (h' : Idle id v w') : Idle id w w' := by
  obtain ⟨more, hmore, hall⟩ := h.received
  obtain ⟨more', hmore', hall'⟩ := h'.received
  refine ⟨h'.last.trans h.last, more ++ more', ?_, fun x hx => ?_⟩
  · rw [hmore', hmore, List.append_assoc]
  · rcases List.mem_append.mp hx with hx | hx
    · exact hall x hx
    · rw [← h.last]
      exact hall' x hx

theorem Aside.home (h : Aside w w') (home : Home w₀ id w) : Home w₀ id w' where
  labels := h.labels.trans home.labels
  rooms := by rw [h.directory, home.rooms]
  lt := by rw [h.directory]; exact home.lt

theorem Aside.upToDate (h : Aside w w') (upToDate : UpToDate id missed pending w) :
    UpToDate id missed pending w' := by
  unfold UpToDate CaughtUp World.members
  rw [h.directory, h.received]
  exact upToDate

theorem Aside.idle (h : Aside w w') (id : ChatId) : Idle id w w' where
  last := by rw [h.directory]
  received := ⟨[], by rw [h.received, List.append_nil], by simp⟩

theorem UpToDate.mono (upToDate : UpToDate id missed pending w)
    (h : ∀ l ∈ pending, l ∈ rest) : UpToDate id missed rest w := fun l hl =>
  (upToDate l hl).imp_right (Or.imp_left (h l))

/-- What one listener is handed is no matter of another. -/
theorem CaughtUp.hear {x : String} (h : w.CaughtUp id l) (hx : x ≠ l) :
    (w.hear [(x, m)]).CaughtUp id l := by
  intro m' hm'
  have hsame : heardBy l (w.hear [(x, m)]).received = heardBy l w.received := by
    rw [World.hear, heardBy_append, heardBy_single, if_neg hx, List.append_nil]
  rw [hsame]
  exact h m' hm'

/-- Who is handed the last message has it last. -/
theorem caughtUp_hear (last : (w.directory.chat id).last = some m) :
    (w.hear [(l, m)]).CaughtUp id l := by
  intro m' hm'
  obtain rfl : m = m' := Option.some.inj (last.symm.trans hm')
  rw [World.hear, heardBy_append, heardBy_single, if_pos rfl, List.getLast?_concat]

/-- **A pending listener is served**, with the last message, or with an older one if it has missed
that. -/
theorem UpToDate.hear (upToDate : UpToDate id missed (l :: rest) w)
    (served : (w.directory.chat id).last = some m ∨ l ∈ missed) :
    UpToDate id missed rest (w.hear [(l, m)]) := by
  intro x hx
  by_cases hxl : x = l
  · subst hxl
    exact served.elim (fun last => .inr (.inr (caughtUp_hear last))) .inl
  · rcases upToDate x hx with hmissed | hpending | hcaught
    · exact .inl hmissed
    · exact .inr (.inl ((List.mem_cons.mp hpending).resolve_left hxl))
    · exact .inr (.inr (hcaught.hear fun h => hxl h.symm))

/-- Where no message has come, who has the last one last still does. -/
theorem Idle.caughtUp (h : Idle id w w') (caught : w.CaughtUp id l) : w'.CaughtUp id l := by
  intro m hm
  have hlast : (w.directory.chat id).last = some m := h.last.symm.trans hm
  obtain ⟨more, hmore, hall⟩ := h.received
  have hsame : ∀ x ∈ heardBy l more, x = m := by
    intro x hx
    obtain ⟨y, hy, rfl⟩ := List.mem_map.mp hx
    exact Option.some.inj ((hall y (List.mem_filter.mp hy).1).symm.trans hlast)
  rw [hmore, heardBy_append, List.getLast?_append]
  cases htail : (heardBy l more).getLast? with
  | none => exact caught m hlast
  | some x => rw [hsame x (List.mem_of_getLast? htail), Option.some_or]

/-- A chat changes in its place. -/
theorem Home.onChat (home : Home w₀ id w) (f : Chat → Chat) : Home w₀ id (w.onChat id f) where
  labels := home.labels
  rooms := home.rooms
  lt := (Directory.length_update _ _ _).symm ▸ home.lt

/-- What a target leads to is found. -/
theorem Home.run_find (home : Home w₀ id w) (o : Occasion) (target : Target) :
    (Company.find o target).run w = some (target.leadsTo w₀ o.chat, w) := by
  cases target with
  | labelled label =>
    change some (w.labels.lookup label, w) = _
    rw [home.labels]
    rfl
  | onStream stream =>
    change some (w.directory.rooms.find? stream, w) = _
    rw [home.rooms]
    rfl
  | current => rfl

/-- Who listens is no matter of the last message. -/
theorem idle_onListeners (hlt : id < w.directory.chats.length) (f : Roster String → Roster String) :
    Idle id w (w.onChat id fun c => { c with listeners := f c.listeners }) where
  last := by rw [onChat, Directory.chat_update hlt]
  received := ⟨[], (List.append_nil _).symm, by simp⟩

/-- **The listeners of a chat change**, and all that it has then are up to date. -/
theorem UpToDate.onListeners (hlt : id < w.directory.chats.length)
    (f : Roster String → Roster String) (upToDate : ∀ l ∈ (f (w.directory.chat id).listeners).members,
      l ∈ missed ∨ l ∈ pending ∨ w.CaughtUp id l) :
    UpToDate id missed pending (w.onChat id fun c => { c with listeners := f c.listeners }) := by
  intro l hl
  have hchange := idle_onListeners hlt f
  rw [members, onChat, Directory.chat_update hlt] at hl
  exact (upToDate l hl).imp_right (Or.imp_right hchange.caughtUp)

/-- **What may have come of a callback** that was called with some listeners pending: no message has
come; or one has, from a callback that delivers, and they have all missed it. -/
def Moved (id : ChatId) (delivers : Prop) (pending missed : List String) (w : World)
    (missed' : List String) (w' : World) : Prop :=
  (Idle id w w' ∧ missed' = missed) ∨ (delivers ∧ ∀ l ∈ pending, l ∈ missed')

variable {delivers : Prop} {missed' missed'' : List String}

theorem Idle.moved (h : Idle id w w') (delivers : Prop) (pending missed : List String) :
    Moved id delivers pending missed w missed w' := .inl ⟨h, rfl⟩

theorem Moved.trans (h : Moved id delivers pending missed w missed' v)
    (h' : Moved id delivers pending missed' v missed'' w') :
    Moved id delivers pending missed w missed'' w' := by
  rcases h' with ⟨hidle', rfl⟩ | hloud
  · exact h.imp_left fun ⟨hidle, heq⟩ => ⟨hidle.trans hidle', heq⟩
  · exact .inr hloud

theorem Moved.aside (h : Moved id delivers pending missed w missed' v) (aside : Aside v w') :
    Moved id delivers pending missed w missed' w' :=
  h.trans ((aside.idle id).moved _ _ _)

/-- Of those who were pending some are left. -/
theorem Moved.mono (h : Moved id delivers pending missed w missed' w')
    (sub : ∀ l ∈ rest, l ∈ pending) : Moved id delivers rest missed w missed' w' :=
  h.imp_right (And.imp_right fun hmissed l hl => hmissed l (sub l hl))

/-- **A message that is handed round** stays the last one, or else those who are still to get it
have missed the last one. -/
theorem Moved.served (h : Moved id delivers pending missed w missed' w')
    (served : (w.directory.chat id).last = some m ∨ delivers ∧ ∀ l ∈ pending, l ∈ missed) :
    (w'.directory.chat id).last = some m ∨ delivers ∧ ∀ l ∈ pending, l ∈ missed' := by
  rcases h with ⟨hidle, rfl⟩ | hloud
  · exact served.imp_left hidle.last.trans
  · exact .inr hloud

end World

open World

/-- **A watch that minds the chat**: it stays in its place, its listeners stay up to date, and who
is pending is not forgotten. -/
def Watch.Minds {α : Type} (w₀ : World) (id : ChatId) (delivers : Prop) (pending : List String)
    (x : Watch α) : Prop :=
  ∀ missed w a missed' w', Home w₀ id w → UpToDate id missed pending w →
    (x.run missed).run w = some ((a, missed'), w') →
      Home w₀ id w' ∧ UpToDate id missed' pending w' ∧ Moved id delivers pending missed w missed' w'

namespace Watch

variable {α β : Type} {w₀ w w' : World} {id : ChatId} {delivers : Prop}
  {pending missed missed' : List String}

theorem run_bind_eq_some {x : Watch α} {f : α → Watch β} {b : β} :
    ((x >>= f).run missed).run w = some ((b, missed'), w') ↔ ∃ a missed₁ v,
      (x.run missed).run w = some ((a, missed₁), v)
        ∧ ((f a).run missed₁).run v = some ((b, missed'), w') := by
  rw [StateT.run_bind, Run.run_bind_eq_some]
  exact ⟨fun ⟨p, v, hx, hf⟩ => ⟨p.1, p.2, v, hx, hf⟩, fun ⟨a, m, v, hx, hf⟩ => ⟨(a, m), v, hx, hf⟩⟩

theorem run_lift_eq_some {x : Run α} {a : α} :
    ((liftM x : Watch α).run missed).run w = some ((a, missed'), w')
      ↔ x.run w = some (a, w') ∧ missed' = missed := by
  have hlift : ((liftM x : Watch α).run missed).run w
      = (x.run w).map fun p => ((p.1, missed), p.2) := by
    change (x.run w).bind (fun p => some ((p.1, missed), p.2)) = _
    cases x.run w <;> rfl
  rw [hlift, Option.map_eq_some_iff]
  constructor
  · rintro ⟨⟨b, v⟩, hx, h⟩
    obtain ⟨hpair, rfl⟩ := Prod.mk.inj h
    obtain ⟨rfl, rfl⟩ := Prod.mk.inj hpair
    exact ⟨hx, rfl⟩
  · rintro ⟨hx, rfl⟩
    exact ⟨(a, w'), hx, rfl⟩

theorem run_pure_eq_some {a b : α} :
    ((pure a : Watch α).run missed).run w = some ((b, missed'), w')
      ↔ b = a ∧ missed' = missed ∧ w' = w := by
  have hpure : ((pure a : Watch α).run missed).run w = some ((a, missed), w) := rfl
  rw [hpure, Option.some.injEq, Prod.mk.injEq, Prod.mk.injEq]
  exact ⟨fun ⟨⟨ha, hm⟩, hw⟩ => ⟨ha.symm, hm.symm, hw.symm⟩,
    fun ⟨ha, hm, hw⟩ => ⟨⟨ha.symm, hm.symm⟩, hw.symm⟩⟩

theorem minds_pure (a : α) : (pure a : Watch α).Minds w₀ id delivers pending := by
  intro missed w b missed' w' home upToDate h
  obtain ⟨-, rfl, rfl⟩ := run_pure_eq_some.mp h
  exact ⟨home, upToDate, (Idle.refl id w').moved _ _ _⟩

theorem Minds.bind {x : Watch α} {f : α → Watch β} (hx : x.Minds w₀ id delivers pending)
    (hf : ∀ a, (f a).Minds w₀ id delivers pending) : (x >>= f).Minds w₀ id delivers pending := by
  intro missed w b missed' w' home upToDate h
  obtain ⟨a, missed₁, v, hrun, h⟩ := run_bind_eq_some.mp h
  obtain ⟨home₁, upToDate₁, hmoved⟩ := hx missed w a missed₁ v home upToDate hrun
  obtain ⟨home', upToDate', hmoved'⟩ := hf a missed₁ v b missed' w' home₁ upToDate₁ h
  exact ⟨home', upToDate', hmoved.trans hmoved'⟩

/-- Books are no matter of a chat. -/
theorem minds_aside {x : Run α} (hx : ∀ w a w', x.run w = some (a, w') → Aside w w') :
    (liftM x : Watch α).Minds w₀ id delivers pending := by
  intro missed w a missed' w' home upToDate h
  obtain ⟨hrun, rfl⟩ := run_lift_eq_some.mp h
  have haside := hx w a w' hrun
  exact ⟨haside.home home, haside.upToDate upToDate, (haside.idle id).moved _ _ _⟩

end Watch

namespace Lookout

variable {k : Lookout} {plain : Company} {w₀ w w' : World} {id : ChatId} {delivers : Prop}
  {pending missed missed' : List String} {l : String} {m : Message}

/-- What a callback may do: a call on the chat, a delivery only if any callback delivers. -/
def Allowed (w₀ : World) (id : ChatId) (delivers : Prop) (o : Occasion) (a : Action) : Prop :=
  ∃ target action, a = .onChat target action ∧ action.isCall = true
    ∧ target.leadsTo w₀ o.chat = some id ∧ ∀ m, action = .deliver m → delivers

/-- **A lookout that minds the chat** in all that its callbacks may do. -/
def Mindful (k : Lookout) (w₀ : World) (id : ChatId) (delivers : Prop) : Prop :=
  ∀ pending o a, Allowed w₀ id delivers o a → (k.act pending o a).Minds w₀ id delivers pending

theorem minds_take (mindful : k.Mindful w₀ id delivers) {o : Occasion} {steps : List Step}
    (allowed : ∀ s ∈ steps, Allowed w₀ id delivers o s.action) :
    (k.take pending o steps).Minds w₀ id delivers pending := by
  induction steps with
  | nil => exact Watch.minds_pure ()
  | cons s steps ih =>
    have hrest := ih fun s' hs => allowed s' (List.mem_cons_of_mem _ hs)
    have hact := mindful pending o s.action (allowed s List.mem_cons_self)
    refine (Watch.minds_aside fun _ _ _ => Run.aside_enter).bind fun entered => ?_
    cases entered with
    | false => exact hrest
    | true =>
      exact hact.bind fun reply => (Watch.minds_aside fun _ _ _ => Run.aside_note).bind fun _ => hrest

/-- What a listener does when it has been handed a message. -/
def respond (k : Lookout) (plain : Company) (pending : List String) (l : String) (m : Message)
    (turn : Nat) (about : Option ChatId) : Watch (Option CallbackError) := do
  let ending ← match k.listener l with
    | .transcript directory => plain.recording directory m
    | .scripted react => k.play pending ⟨l, about⟩ (react m turn)
  return ending.error?

/-- What callbacks of a devoted cast do is allowed. -/
theorem allowed_of_devoted {cast : Cast} (devoted : cast.Devoted w₀ id) {react : Message → Nat → Part}
    (hrole : cast.listener l = .scripted react) (m : Message) (turn : Nat) :
    ∀ s ∈ (react m turn).steps, Allowed w₀ id cast.Delivers
      ⟨l, w₀.directory.rooms.find? m.stream⟩ s.action := by
  intro s hs
  obtain ⟨target, action, haction, hcall, hleads⟩ := devoted l react hrole m turn s hs
  refine ⟨target, action, haction, hcall, hleads, ?_⟩
  rintro m' rfl
  exact ⟨l, react, m, turn, target, m', hrole, s, hs, haction⟩

theorem minds_respond (mindful : k.Mindful w₀ id k.Delivers) (devoted : k.toCast.Devoted w₀ id)
    (turn : Nat) : (k.respond plain pending l m turn
      (w₀.directory.rooms.find? m.stream)).Minds w₀ id k.Delivers pending := by
  unfold respond
  cases hrole : k.listener l with
  | transcript directory =>
    exact (Watch.minds_aside fun _ _ _ => Run.aside_recording).bind fun _ => Watch.minds_pure _
  | scripted react =>
    have htake : (k.take pending ⟨l, w₀.directory.rooms.find? m.stream⟩
        (react m turn).steps).Minds w₀ id k.Delivers pending :=
      minds_take mindful (allowed_of_devoted devoted hrole m turn)
    exact (htake.bind fun _ => Watch.minds_pure _).bind fun _ => Watch.minds_pure _

/-- **A listener is called**: it is handed the message, and the chat is minded from then on. -/
theorem call_minds (mindful : k.Mindful w₀ id k.Delivers) (devoted : k.toCast.Devoted w₀ id)
    {e : Option CallbackError} (home : Home w₀ id w)
    (upToDate : UpToDate id missed pending (w.hear [(l, m)]))
    (h : ((k.call plain pending l m).run missed).run w = some ((e, missed'), w')) :
    Home w₀ id w' ∧ UpToDate id missed' pending w'
      ∧ Moved id k.Delivers pending missed (w.hear [(l, m)]) missed' w' := by
  obtain ⟨x, missed₁, v, hlift, h⟩ := Watch.run_bind_eq_some.mp h
  obtain ⟨hhand, rfl⟩ := Watch.run_lift_eq_some.mp hlift
  obtain ⟨rfl, rfl⟩ := Prod.mk.inj (Option.some.inj hhand)
  have haside : Aside (w.hear [(l, m)])
      { w.hear [(l, m)] with notes := w.notes ++ [.call l m.id] } := ⟨⟨rfl, rfl, rfl⟩, rfl⟩
  have hhome : Home w₀ id (w.hear [(l, m)]) := ⟨home.labels, home.rooms, home.lt⟩
  have habout : w.directory.rooms.find? m.stream = w₀.directory.rooms.find? m.stream := by
    rw [home.rooms]
  have hminds : (k.respond plain pending l m (w.received.countP (·.1 = l))
      (w₀.directory.rooms.find? m.stream)).Minds w₀ id k.Delivers pending :=
    minds_respond mindful devoted _
  rw [← habout] at hminds
  obtain ⟨home', upToDate', hmoved⟩ := hminds _ _ _ _ _ (haside.home hhome)
    (haside.upToDate upToDate) h
  exact ⟨home', upToDate', ((haside.idle id).moved _ _ _).trans hmoved⟩

/-- **The first of a snapshot is called**, its failure is told, and the others come next. -/
theorem handTo_cons_eq_some {ls : List String} {r : Report}
    (h : ((k.handTo plain pending m (l :: ls)).run missed).run w = some ((r, missed'), w')) :
    ∃ e missed₁ v v' r', ((k.call plain (ls ++ pending) l m).run missed).run w
        = some ((e, missed₁), v) ∧ Aside v v'
      ∧ ((k.handTo plain pending m ls).run missed₁).run v' = some ((r', missed'), w') := by
  obtain ⟨e, missed₁, v, hcall, h⟩ := Watch.run_bind_eq_some.mp h
  cases e with
  | none =>
    obtain ⟨r', missed₂, v', hrest, hend⟩ := Watch.run_bind_eq_some.mp h
    obtain ⟨-, rfl, rfl⟩ := Watch.run_pure_eq_some.mp hend
    exact ⟨none, missed₁, v, v, r', hcall, .refl v, hrest⟩
  | some e =>
    obtain ⟨_, missed₂, u, hlift, htail⟩ := Watch.run_bind_eq_some.mp h
    obtain ⟨hfail, rfl⟩ := Watch.run_lift_eq_some.mp hlift
    obtain ⟨r', missed₃, v', hrest, hend⟩ := Watch.run_bind_eq_some.mp htail
    obtain ⟨-, rfl, rfl⟩ := Watch.run_pure_eq_some.mp hend
    exact ⟨some e, missed₂, v, u, r', hcall, Run.aside_failure hfail, hrest⟩

/-- **A snapshot is handed a message.**  As long as the message is the last one, or those who are
left have missed the last one, the chat's listeners are up to date in the end. -/
theorem handTo_minds (mindful : k.Mindful w₀ id k.Delivers) (devoted : k.toCast.Devoted w₀ id)
    {ls : List String} {r : Report} (home : Home w₀ id w)
    (upToDate : UpToDate id missed (ls ++ pending) w)
    (served : (w.directory.chat id).last = some m ∨ k.Delivers ∧ ∀ l ∈ ls ++ pending, l ∈ missed)
    (h : ((k.handTo plain pending m ls).run missed).run w = some ((r, missed'), w')) :
    Home w₀ id w' ∧ UpToDate id missed' pending w'
      ∧ (missed' = missed ∨ k.Delivers ∧ ∀ l ∈ pending, l ∈ missed') := by
  induction ls generalizing w missed r with
  | nil =>
    obtain ⟨-, rfl, rfl⟩ := Watch.run_pure_eq_some.mp h
    exact ⟨home, upToDate, .inl rfl⟩
  | cons l ls ih =>
    obtain ⟨e, missed₁, v, v', r', hcall, aside, hrest⟩ := handTo_cons_eq_some h
    have hhand := upToDate.hear (served.imp_right fun hmissed => hmissed.2 l List.mem_cons_self)
    obtain ⟨home₁, upToDate₁, hmoved⟩ := call_minds mindful devoted home hhand hcall
    have hleft : (w.directory.chat id).last = some m
        ∨ k.Delivers ∧ ∀ x ∈ ls ++ pending, x ∈ missed :=
      served.imp_right (And.imp_right fun hmissed x hx => hmissed x (List.mem_cons_of_mem l hx))
    obtain ⟨home', upToDate', hmissed⟩ := ih (aside.home home₁) (aside.upToDate upToDate₁)
      ((hmoved.aside aside).served hleft) hrest
    refine ⟨home', upToDate', ?_⟩
    rcases hmissed with rfl | hloud
    · exact (hmoved.mono fun x hx => List.mem_append_right ls hx).imp_left And.right
    · exact .inr hloud

/-- **A message is delivered**: the chat's listeners are up to date in the end, where those who have
missed the last message were pending, or a callback has delivered meanwhile. -/
theorem deliver_minds (mindful : k.Mindful w₀ id k.Delivers) (devoted : k.toCast.Devoted w₀ id)
    {r : Report} (home : Home w₀ id w)
    (h : ((k.deliver plain pending id m).run missed).run w = some ((r, missed'), w')) :
    Home w₀ id w' ∧ UpToDate id missed' pending w'
      ∧ (missed' = pending ∨ k.Delivers ∧ ∀ l ∈ pending, l ∈ missed') := by
  have hlast : ((w.onChat id fun c => { c with last := some m }).directory.chat id).last
      = some m := by
    rw [World.onChat, Directory.chat_update home.lt]
  -- the snapshot has all listeners, so all are still to be served
  have hall : UpToDate id pending
      ((w.onChat id fun c => { c with last := some m }).members id ++ pending)
      (w.onChat id fun c => { c with last := some m }) := fun l hl =>
    .inr (.inl (List.mem_append_left _ hl))
  exact handTo_minds mindful devoted (home.onChat _) hall (.inl hlast) h

/-- **A listener is unregistered**; the others stay up to date. -/
theorem minds_unregister (l : String) :
    (liftM (Run.unregister id l) : Watch Bool).Minds w₀ id delivers pending := by
  intro missed w b missed' w' home upToDate h
  obtain ⟨hrun, rfl⟩ := Watch.run_lift_eq_some.mp h
  obtain rfl := (Prod.mk.inj (Option.some.inj hrun)).2
  have hidle := idle_onListeners home.lt (·.erase l)
  refine ⟨home.onChat _, .onListeners home.lt (·.erase l) fun x hx => ?_, hidle.moved _ _ _⟩
  rw [Roster.members_erase] at hx
  exact upToDate x (List.mem_filter.mp hx).1

/-- **A listener is inserted** that has been caught up, or has missed the last message meanwhile. -/
theorem insert_minds (home : Home w₀ id w) (upToDate : UpToDate id missed (l :: pending) w)
    (caught : l ∈ missed ∨ w.CaughtUp id l) :
    UpToDate id missed pending
      (w.onChat id fun c => { c with listeners := c.listeners.insert l }) := by
  refine .onListeners home.lt (·.insert l) fun x hx => ?_
  by_cases hxl : x = l
  · subst hxl
    exact caught.imp_right .inr
  · have hold : x ∈ w.members id := by
      rw [Roster.members_insert] at hx
      split at hx
      · exact hx
      · exact (List.mem_append.mp hx).resolve_right fun h => hxl (List.mem_singleton.mp h)
    exact (upToDate x hold).imp_right
      (Or.imp_left fun hpending => (List.mem_cons.mp hpending).resolve_left hxl)

/-- **Catching up** hands over the last message, if there is one, and tells of a failure. -/
theorem catchUp_eq_some {u : Unit}
    (h : ((k.catchUp plain pending id l).run missed).run w = some ((u, missed'), w')) :
    ((w.directory.chat id).last = none ∧ missed' = missed ∧ w' = w)
      ∨ ∃ m e v, (w.directory.chat id).last = some m
        ∧ ((k.call plain (l :: pending) l m).run missed).run w = some ((e, missed'), v)
        ∧ Aside v w' := by
  obtain ⟨c, missed₀, w₀, hchat, h⟩ := Watch.run_bind_eq_some.mp h
  obtain ⟨hc, rfl⟩ := Watch.run_lift_eq_some.mp hchat
  obtain ⟨rfl, rfl⟩ := Prod.mk.inj (Option.some.inj hc)
  cases hlast : (w.directory.chat id).last with
  | none =>
    rw [hlast] at h
    exact .inl ⟨rfl, (Watch.run_pure_eq_some.mp h).2⟩
  | some m =>
    rw [hlast] at h
    obtain ⟨e, missed₁, v, hcall, htail⟩ := Watch.run_bind_eq_some.mp h
    cases e with
    | none =>
      obtain ⟨-, rfl, rfl⟩ := Watch.run_pure_eq_some.mp htail
      exact .inr ⟨m, none, w', rfl, hcall, .refl w'⟩
    | some e =>
      obtain ⟨hfail, rfl⟩ := Watch.run_lift_eq_some.mp htail
      exact .inr ⟨m, some e, v, rfl, hcall, Run.aside_failure hfail⟩

/-- **A new listener is caught up**: it has the last message last, or has missed it, the callback of
its own catching up having delivered it. -/
theorem catchUp_minds (mindful : k.Mindful w₀ id k.Delivers) (devoted : k.toCast.Devoted w₀ id)
    {u : Unit} (home : Home w₀ id w) (upToDate : UpToDate id missed pending w)
    (h : ((k.catchUp plain pending id l).run missed).run w = some ((u, missed'), w')) :
    Home w₀ id w' ∧ UpToDate id missed' (l :: pending) w' ∧ (l ∈ missed' ∨ w'.CaughtUp id l)
      ∧ Moved id k.Delivers pending missed w missed' w' := by
  have hmore := upToDate.mono fun x hx => List.mem_cons_of_mem l hx
  rcases catchUp_eq_some h with ⟨hlast, rfl, rfl⟩ | ⟨m, e, v, hlast, hcall, aside⟩
  · exact ⟨home, hmore, .inr fun m hm => (nomatch hlast.symm.trans hm),
      (Idle.refl id w').moved _ _ _⟩
  · have hhand : UpToDate id missed (l :: pending) (w.hear [(l, m)]) :=
      (hmore.mono fun x hx => List.mem_cons_of_mem l hx).hear (.inl hlast)
    obtain ⟨home₁, upToDate₁, hmoved⟩ := call_minds mindful devoted home hhand hcall
    have hend := hmoved.aside aside
    have hgiven : Idle id w (w.hear [(l, m)]) := ⟨rfl, [(l, m)], rfl, by simp [hlast]⟩
    refine ⟨aside.home home₁, aside.upToDate upToDate₁, ?_,
      (hgiven.moved _ _ _).trans (hend.mono fun x hx => List.mem_cons_of_mem l hx)⟩
    rcases hend with ⟨hidle, -⟩ | hloud
    · exact .inr (hidle.caughtUp (caughtUp_hear hlast))
    · exact .inl (hloud.2 l List.mem_cons_self)

/-- **A listener is registered**, and the chat is minded. -/
theorem minds_register (mindful : k.Mindful w₀ id k.Delivers) (devoted : k.toCast.Devoted w₀ id)
    (l : String) : (k.register plain pending id l).Minds w₀ id k.Delivers pending := by
  intro missed w b missed' w' home upToDate h
  unfold register at h
  change ((if (w.directory.chat id).listeners.contains l then pure false else _ : Watch Bool).run
    missed).run w = _ at h
  split at h
  · obtain ⟨-, rfl, rfl⟩ := Watch.run_pure_eq_some.mp h
    exact ⟨home, upToDate, (Idle.refl id w').moved _ _ _⟩
  · obtain ⟨_, missed₁, v, hcatch, htail⟩ := Watch.run_bind_eq_some.mp h
    obtain ⟨home₁, upToDate₁, hcaught, hmoved⟩ := catchUp_minds mindful devoted home upToDate hcatch
    obtain ⟨hpair, rfl⟩ := Prod.mk.inj (Option.some.inj htail)
    obtain ⟨-, rfl⟩ := Prod.mk.inj hpair
    have hidle := idle_onListeners home₁.lt (·.insert l)
    exact ⟨home₁.onChat _, insert_minds home₁ upToDate₁ hcaught,
      hmoved.trans (hidle.moved _ _ _)⟩

/-- **A call on the chat minds it**, a delivery as one that a callback makes. -/
theorem minds_actOn (mindful : k.Mindful w₀ id k.Delivers) (devoted : k.toCast.Devoted w₀ id)
    {action : ChatAction} (hcall : action.isCall = true)
    (delivering : ∀ m, action = .deliver m → k.Delivers) :
    (k.actOn plain pending id action).Minds w₀ id k.Delivers pending := by
  cases action with
  | register l => exact (minds_register mindful devoted l).bind fun _ => Watch.minds_pure _
  | unregister l =>
    have hlift : (k.actOn plain pending id (.unregister l))
        = (do return .flag (← (liftM (Run.unregister id l) : Watch Bool))) := by
      change (liftM (do return Reply.flag (← Run.unregister id l) : Run Reply) : Watch Reply) = _
      simp
    rw [hlift]
    exact (minds_unregister l).bind fun _ => Watch.minds_pure _
  | deliver m =>
    intro missed w a missed' w' home upToDate h
    obtain ⟨r, missed₁, v, hdeliver, hend⟩ := Watch.run_bind_eq_some.mp h
    obtain ⟨-, rfl, rfl⟩ := Watch.run_pure_eq_some.mp hend
    obtain ⟨home', upToDate', hmissed⟩ := deliver_minds mindful devoted home hdeliver
    refine ⟨home', upToDate', .inr ⟨delivering m rfl, ?_⟩⟩
    rcases hmissed with rfl | hloud
    · exact fun l hl => hl
    · exact hloud.2
  | _ => simp [ChatAction.isCall] at hcall

/-- An action that is allowed finds the chat. -/
theorem minds_takeAction (mindful : k.Mindful w₀ id k.Delivers) (devoted : k.toCast.Devoted w₀ id)
    {o : Occasion} {a : Action} (allowed : Allowed w₀ id k.Delivers o a) :
    (k.takeAction plain pending o a).Minds w₀ id k.Delivers pending := by
  obtain ⟨target, action, rfl, hcall, hleads, delivering⟩ := allowed
  intro missed w b missed' w' home upToDate h
  obtain ⟨found, missed₁, v, hlift, hact⟩ := Watch.run_bind_eq_some.mp h
  obtain ⟨hfind, rfl⟩ := Watch.run_lift_eq_some.mp hlift
  rw [home.run_find, hleads] at hfind
  obtain ⟨rfl, rfl⟩ := Prod.mk.inj (Option.some.inj hfind)
  exact minds_actOn mindful devoted hcall delivering _ _ _ _ _ home upToDate hact

end Lookout

/-- **A devoted cast minds its chat**, however deep callbacks go. -/
theorem Cast.Devoted.mindful {cast : Cast} {w₀ : World} {id : ChatId} (devoted : cast.Devoted w₀ id)
    (depth : Nat) : (cast.lookout depth).Mindful w₀ id cast.Delivers := by
  intro pending o a allowed
  induction depth generalizing pending o a with
  | zero =>
    intro missed w b missed' w' home upToDate h
    obtain ⟨hrun, -⟩ := Watch.run_lift_eq_some.mp h
    cases hrun
  | succ n ih => exact Lookout.minds_takeAction (k := cast.lookout n) ih devoted allowed

namespace Newest

open Lookout

variable {cast : Cast} {depth : Nat} {w₀ w w' : World} {id : ChatId} {missed missed' : List String}

/-- **One call after the other**: the listeners of the chat stay up to date but for those who have
missed the last message, and nobody has where no callback delivers. -/
theorem actAll_minds (devoted : cast.Devoted w₀ id) {actions : List ChatAction}
    (calls : ∀ a ∈ actions, a.isCall = true) {u : Unit} (home : Home w₀ id w)
    (upToDate : UpToDate id missed [] w) (hmissed : missed = [] ∨ cast.Delivers)
    (h : (((cast.lookout depth).actAll (cast.company depth) id actions).run missed).run w
      = some ((u, missed'), w')) :
    UpToDate id missed' [] w' ∧ (missed' = [] ∨ cast.Delivers) := by
  have mindful := devoted.mindful depth
  induction actions generalizing w missed with
  | nil =>
    obtain ⟨-, rfl, rfl⟩ := Watch.run_pure_eq_some.mp h
    exact ⟨upToDate, hmissed⟩
  | cons a actions ih =>
    obtain ⟨r, missed₁, v, hact, hrest⟩ := Watch.run_bind_eq_some.mp h
    have hlater := fun b hb => calls b (List.mem_cons_of_mem a hb)
    by_cases hdeliver : ∃ m, a = .deliver m
    · obtain ⟨m, rfl⟩ := hdeliver
      obtain ⟨_, _, _, hrun, hend⟩ := Watch.run_bind_eq_some.mp hact
      obtain ⟨-, rfl, rfl⟩ := Watch.run_pure_eq_some.mp hend
      obtain ⟨home₁, upToDate₁, hmissed₁⟩ := deliver_minds mindful devoted home hrun
      exact ih hlater home₁ upToDate₁ (hmissed₁.imp_right And.left) hrest
    · have hcall := calls a List.mem_cons_self
      obtain ⟨home₁, upToDate₁, hmoved⟩ := minds_actOn mindful devoted hcall
        (fun m hm => absurd ⟨m, hm⟩ hdeliver) missed w r missed₁ v home upToDate hact
      refine ih hlater home₁ upToDate₁ ?_ hrest
      rcases hmoved with ⟨-, rfl⟩ | hloud
      · exact hmissed
      · exact .inr hloud.1

/-- **Whoever has not got the newest message last was still to be served when it came.**  Take any
calls on a chat, one after the other, with callbacks that make any calls on it themselves, to any
depth, and end in any way.  In the end every listener of the chat has been handed its last message
last, but for those who were pending when that message was delivered: it came from inside a
callback, and a call further out had still to hand the listener its own message, or was just
registering it.  Where no callback delivers there are none. -/
theorem newest_or_missed (devoted : cast.Devoted w₀ id) (lt : id < w₀.directory.chats.length)
    (start : ∀ l ∈ w₀.members id, w₀.CaughtUp id l) {actions : List ChatAction}
    (calls : ∀ a ∈ actions, a.isCall = true) {u : Unit}
    (h : ((cast.company depth).actAll id actions).run w₀ = some (u, w)) :
    ∃ missed, (((cast.lookout depth).actAll (cast.company depth) id actions).run []).run w₀
        = some ((u, missed), w)
      ∧ (∀ l ∈ w.members id, l ∉ missed → ∀ m, (w.directory.chat id).last = some m →
        (heardBy l w.received).getLast? = some m)
      ∧ (¬ cast.Delivers → missed = []) := by
  have herased := erases_actAll (cast.watches depth) id actions []
  rw [← herased, StateT.run'_eq, StateT.run_map, Option.map_eq_map, Option.map_eq_some_iff] at h
  obtain ⟨⟨⟨u', missed⟩, v⟩, hrun, hpair⟩ := h
  obtain ⟨rfl, rfl⟩ := Prod.mk.inj hpair
  have hstart : UpToDate id [] [] w₀ := fun l hl => .inr (.inr (start l hl))
  obtain ⟨upToDate, hmissed⟩ :=
    actAll_minds devoted calls ⟨rfl, rfl, lt⟩ hstart (.inl rfl) hrun
  refine ⟨missed, hrun, fun l hl hnot => ?_, fun hnone => hmissed.resolve_right hnone⟩
  exact ((upToDate l hl).resolve_left hnot).resolve_left (by simp)

/-- The first of two listeners answers a message from inside its callback: it has the answer last,
and the second, who was still to be handed the message, has missed it. -/
theorem newest_or_missed_in_reply :
    let reply : Action := .onChat (.labelled "room") (.deliver (.plain "2" "room" "bot" "hi"))
    let cast : Cast := { listener := fun l => .scripted fun m _ =>
      { steps := if l = "first" ∧ m.id = "1" then [⟨none, reply⟩] else [] } }
    let w₀ : World := {
      directory := { owner := .bare "bot", chats := [.fresh (some "room")] }
      labels := [("room", 0)] }
    let actions : List ChatAction := [.register "first", .register "second",
      .deliver (.plain "1" "room" "ann" "hello")]
    ∃ w missed, ((cast.company 3).actAll 0 actions).run w₀ = some ((), w)
      ∧ (((cast.lookout 3).actAll (cast.company 3) 0 actions).run []).run w₀
        = some (((), missed), w)
      ∧ missed = ["second"]
      ∧ (heardBy "first" w.received).getLast? = some (.plain "2" "room" "bot" "hi") := by
  intro reply cast w₀ actions
  have devoted : cast.Devoted w₀ 0 := by
    intro name react h m n s hs
    obtain rfl := ListenerRole.scripted.inj h
    by_cases hfirst : name = "first" ∧ m.id = "1"
    · simp only [if_pos hfirst, List.mem_singleton] at hs
      exact ⟨_, _, by rw [hs], rfl, rfl⟩
    · simp [if_neg hfirst] at hs
  have hview : (((cast.company 3).actAll 0 actions).run w₀).map (fun r =>
      (r.2.members 0, (r.2.directory.chat 0).last))
        = some (["first", "second"], some (.plain "2" "room" "bot" "hi")) := by
    decide +kernel
  have hwatch : ((((cast.lookout 3).actAll (cast.company 3) 0 actions).run []).run w₀).map
      (fun r => r.1.2) = some ["second"] := by
    decide +kernel
  obtain ⟨⟨u, w⟩, hrun, hw⟩ := Option.map_eq_some_iff.mp hview
  obtain ⟨hmembers, hlast⟩ := Prod.mk.inj hw
  obtain ⟨missed, hlook, hnewest, -⟩ :=
    newest_or_missed devoted (by decide) (fun l hl => (nomatch hl)) (by decide) hrun
  rw [hlook] at hwatch
  obtain rfl := Option.some.inj hwatch
  exact ⟨w, _, hrun, hlook, rfl,
    hnewest "first" (by rw [hmembers]; decide) (by decide) _ hlast⟩

/-- **An older message last**: the first of two listeners delivers an answer when it is called,
which both are handed at once; then the second is handed the message that was answered. -/
theorem stale_after_nested :
    let reply : Action := .onChat (.labelled "room") (.deliver (.plain "2" "room" "bot" "hi"))
    let cast : Cast := { listener := fun l => .scripted fun m _ =>
      { steps := if l = "first" ∧ m.id = "1" then [⟨none, reply⟩] else [] } }
    let w₀ : World := {
      directory := { owner := .bare "bot", chats := [.fresh (some "room")] }
      labels := [("room", 0)] }
    let actions : List ChatAction := [.register "first", .register "second",
      .deliver (.plain "1" "room" "ann" "hello")]
    ∃ w m, ((cast.company 3).actAll 0 actions).run w₀ = some ((), w)
      ∧ "second" ∈ w.members 0 ∧ (w.directory.chat 0).last = some m
      ∧ (heardBy "second" w.received).getLast? ≠ some m
      ∧ (heardBy "second" w.received).map (·.id) = ["2", "1"] := by
  intro reply cast w₀ actions
  have hview : (((cast.company 3).actAll 0 actions).run w₀).map (fun r =>
      (r.2.members 0, (r.2.directory.chat 0).last, heardBy "second" r.2.received))
        = some (["first", "second"], some (.plain "2" "room" "bot" "hi"),
          [.plain "2" "room" "bot" "hi", .plain "1" "room" "ann" "hello"]) := by
    decide +kernel
  obtain ⟨⟨u, w⟩, hrun, hw⟩ := Option.map_eq_some_iff.mp hview
  obtain ⟨hmembers, hw⟩ := Prod.mk.inj hw
  obtain ⟨hlast, hheard⟩ := Prod.mk.inj hw
  refine ⟨w, _, hrun, by rw [hmembers]; decide, hlast, ?_, ?_⟩
  · rw [hheard]
    decide
  · rw [hheard]
    rfl

end Newest

end ChatFeed
