import ChatFeed.Proofs.Chat.Dispatch
import ChatFeed.Proofs.Chat.Reentry

/-!
# Proofs/Chat/Guests — the host is no guest

The owner of a directory, its host, is not among the participants of its chats, its guests.  Guests
come in with the message that makes a chat, and when a user joins.  Who joins is compared with the
host himself; of a message only the name of the sender is, before the sender is looked up.  So the
host stays out exactly as long as nobody else is taken for him (`host_no_guest_iff`): when a look-up
answers another name with a user of the host's identifier, the host is a guest of his own chat.

What carries the proof is `World.HostApart`, which no callback breaks that does not add the host
itself, together with the stage of each message on its way (`Stage.HostApart`): the user that it is
going to let in, or to look up, is not the host.
-/

namespace ChatFeed

/-- **The host is apart**: he owns the directory and takes part in no chat that there is. -/
structure World.HostApart (host : String) (w : World) : Prop where
  owner : w.directory.owner.id = host
  chats : ∀ c ∈ w.directory.chats, c.remotes.has host = false

/-- Whom a message on its way brings in or looks up is not the host. -/
def Stage.HostApart (host : String) : Stage → Prop
  | .asleep _ user => user ≠ host
  | .knocking sender => ∀ u ∈ sender, u.id ≠ host
  | _ => True

/-- **Nobody is taken for the host** but he himself. -/
def Cast.TellsApart (cast : Cast) (host : String) : Prop :=
  ∀ user, user ≠ host → (cast.identity user).id ≠ host

/-- Whether an action leaves the host out; all do that do not add him to a chat. -/
def Action.LeavesOut (host : String) : Action → Prop
  | .onChat _ (.addRemote u) => u.id ≠ host
  | _ => True

/-- **What a look-up answers** for a name; a failure answers nobody. -/
def Cast.Answers (cast : Cast) (user : String) (u : User) : Prop :=
  ∃ table, cast.lookup = some table ∧ (table user).outcome = .ok u

/-- The look-ups tell the host apart when they answer no other name with him. -/
theorem Cast.tellsApart {cast : Cast} {host : String}
    (h : ∀ user u, cast.Answers user u → user ≠ host → u.id ≠ host) : cast.TellsApart host := by
  intro user hne
  unfold Cast.identity
  cases htable : cast.lookup with
  | none => exact hne
  | some table =>
    dsimp only
    cases houtcome : (table user).outcome with
    | ok u => exact h user u ⟨table, htable, houtcome⟩ hne
    | error chain => exact hne

namespace World

variable {host : String} {w v : World} {id : ChatId} {u : User}

/-- Only what changes chats or the owner matters. -/
theorem HostApart.of_chats (h : w.HostApart host) (owner : v.directory.owner = w.directory.owner)
    (chats : v.directory.chats = w.directory.chats) : v.HostApart host where
  owner := by rw [owner]; exact h.owner
  chats := by rw [chats]; exact h.chats

/-- A chat changes, and still leaves the host out. -/
theorem HostApart.onChat (h : w.HostApart host) (id : ChatId) {f : Chat → Chat}
    (hf : ∀ c : Chat, c.remotes.has host = false → (f c).remotes.has host = false) :
    (w.onChat id f).HostApart host where
  owner := h.owner
  chats := by
    intro c hc
    obtain ⟨n, hn⟩ := List.mem_iff_getElem?.mp hc
    change (w.directory.chats.modify id f)[n]? = some c at hn
    rw [List.getElem?_modify] at hn
    obtain ⟨c', hc', rfl⟩ := Option.map_eq_some_iff.mp hn
    have hapart := h.chats c' (List.mem_of_getElem? hc')
    by_cases hid : id = n
    · simpa [hid] using hf c' hapart
    · simpa [hid] using hapart

/-- A guest comes who is not the host. -/
theorem HostApart.welcome (h : w.HostApart host) (id : ChatId) (hu : u.id ≠ host) :
    (w.onChat id fun c => { c with remotes := c.remotes.insert u }).HostApart host :=
  h.onChat id fun c hc => by simp [Participants.has_insert, hc, hu]

/-- **A chat is made** that leaves the host out. -/
theorem HostApart.withChat (h : w.HostApart host) {make : Chat}
    (hmake : make.remotes.has host = false) (stream message : String) :
    (w.change (Company.withChat w.directory stream make) message stream).HostApart host where
  owner := h.owner
  chats := by
    intro c hc
    rcases List.mem_append.mp hc with hc | hc
    · exact h.chats c hc
    · obtain rfl := List.mem_singleton.mp hc
      exact hmake

/-- The host is no guest of any chat, whatever its number. -/
theorem HostApart.chat (h : w.HostApart host) (id : ChatId) :
    (w.directory.chat id).remotes.has host = false := by
  rw [Directory.chat, List.getD_eq_getElem?_getD]
  cases hc : w.directory.chats[id]? with
  | none => rfl
  | some c => exact h.chats c (List.mem_of_getElem? hc)

/-- **Nothing brings the host in.** -/
def KeepsHostApart (host : String) (w v : World) : Prop := w.HostApart host → v.HostApart host

theorem enduring_keepsHostApart (host : String) : World.Enduring (KeepsHostApart host) where
  trans := fun h h' apart => h' (h apart)
  beside := fun h apart => apart.of_chats (by rw [h.directory]) (by rw [h.directory])
  onChat := fun _ id f _ hremotes apart => apart.onChat id fun c hc => by rwa [hremotes]
  learn := fun _ _ _ _ apart => apart.of_chats rfl rfl
  observers := fun _ _ apart => apart.of_chats rfl rfl
  insert := fun _ _ _ apart => apart.of_chats rfl rfl
  erase := fun _ _ _ apart => apart.of_chats rfl rfl

end World

namespace Company

variable {k : Company} {host : String} {allowed : Action → Prop} {w v : World} {m : Message}
  {s s' : Stage}

/-! ## Messages on their way -/

/-- The chat that a message makes leaves the host out when its sender is not the host. -/
theorem has_chatFor {owner : User} {sender : Option User} (h : ∀ u ∈ sender, u.id ≠ host) :
    (chatFor owner m sender).remotes.has host = false := by
  cases sender with
  | none => rfl
  | some u =>
    have hu : u.id ≠ host := h u rfl
    change (Participants.empty.insert u).has host = false
    rw [Participants.has_insert]
    simp [Participants.has, Participants.empty, hu]

/-- **One step of a message** does not bring the host in, and nor will the next. -/
theorem hostApart_step (heeds : k.Heeds (World.KeepsHostApart host) allowed)
    (tells : k.TellsApart host) (apart : w.HostApart host) (hs : s.HostApart host)
    {next : Option Stage} (h : (k.step m s).run w = some (next, v)) :
    v.HostApart host ∧ ∀ s' ∈ next, s'.HostApart host := by
  have hworld : (k.step m s).Leads (World.KeepsHostApart host) := by
    refine leads_step heeds (World.enduring_keepsHostApart host) ?_
    rintro sender rfl w - apart
    exact apart.withChat (has_chatFor hs) _ _
  refine ⟨hworld w next v h apart, ?_⟩
  cases s with
  | fresh =>
    unfold step at h
    rw [Run.run_directory_bind] at h
    cases hroom : w.directory.rooms.find? m.stream with
    | some id =>
      rw [hroom] at h
      obtain ⟨rfl, -⟩ := Run.run_pure_eq_some.mp h
      rintro s' ⟨⟩
      trivial
    | none =>
      rw [hroom] at h
      by_cases howner : m.sender = w.directory.owner.id
      · simp only [if_pos howner] at h
        obtain ⟨rfl, -⟩ := Run.run_pure_eq_some.mp h
        rintro s' ⟨⟩ u ⟨⟩
      · simp only [if_neg howner] at h
        have hsender : m.sender ≠ host := by rwa [apart.owner] at howner
        obtain ⟨t, x, hlook, h⟩ := Run.run_bind_eq_some.mp h
        obtain ⟨rfl, -⟩ := Run.run_pure_eq_some.mp h
        rintro s' ⟨⟩
        rcases ((lookUp_ends m.sender).elim hlook).2 with rfl | ⟨wake, rfl⟩
        · rintro u ⟨⟩
          exact tells m.sender hsender
        · exact hsender
  | asleep wake user =>
    unfold step at h
    rw [Run.run_get_bind] at h
    split at h
    · obtain ⟨rfl, -⟩ := Run.run_pure_eq_some.mp h
      rintro s' ⟨⟩
    · obtain ⟨u, x, hlook, h⟩ := Run.run_bind_eq_some.mp h
      obtain ⟨rfl, -⟩ := Run.run_pure_eq_some.mp h
      obtain ⟨rfl, -⟩ := (lookedUp_ends user).elim hlook
      rintro s' ⟨⟩ u ⟨⟩
      exact tells user hs
  | _ =>
    cases stride_of_step h <;> rintro s' ⟨⟩ <;> trivial

theorem hostApart_goOn (heeds : k.Heeds (World.KeepsHostApart host) allowed)
    (tells : k.TellsApart host) (n : Nat) (apart : w.HostApart host) (hs : s.HostApart host)
    (h : (k.goOn m n s).run w = some (s', v)) : v.HostApart host ∧ s'.HostApart host := by
  induction n generalizing w s with
  | zero =>
    obtain ⟨rfl, rfl⟩ := Run.run_pure_eq_some.mp h
    exact ⟨apart, hs⟩
  | succ n ih =>
    obtain ⟨next, x, hstep, h⟩ := Run.run_bind_eq_some.mp h
    obtain ⟨hx, hnext⟩ := hostApart_step heeds tells apart hs hstep
    cases next with
    | none =>
      obtain ⟨rfl, rfl⟩ := Run.run_pure_eq_some.mp h
      exact ⟨hx, hs⟩
    | some t => exact ih hx (hnext t rfl) h

/-- **A message that has just come in** brings in nobody who is the host. -/
theorem keepsHostApart_receive (heeds : k.Heeds (World.KeepsHostApart host) allowed)
    (tells : k.TellsApart host) (m : Message) :
    (k.receive m).Leads (World.KeepsHostApart host) := by
  intro w report v h apart
  obtain ⟨s₁, x, hfirst, h⟩ := Run.run_bind_eq_some.mp h
  obtain ⟨hx, hs₁⟩ := hostApart_goOn (s := .fresh) heeds tells _ apart trivial hfirst
  obtain ⟨_, y, hwait, h⟩ := Run.run_bind_eq_some.mp h
  have hy : y.HostApart host := leads_wait heeds.lasting s₁ x _ y hwait hx
  obtain ⟨s₂, z, hsecond, h⟩ := Run.run_bind_eq_some.mp h
  obtain ⟨hz, -⟩ := hostApart_goOn heeds tells _ hy hs₁ hsecond
  cases s₂ with
  | answered report' =>
    obtain ⟨-, rfl⟩ := Run.run_pure_eq_some.mp h
    exact hz
  | _ => cases h

theorem keepsHostApart_send (heeds : k.Heeds (World.KeepsHostApart host) allowed)
    (tells : k.TellsApart host) (m : Message) : (k.send m).Leads (World.KeepsHostApart host) := by
  intro w reply v h apart
  obtain ⟨s, x, hadvance, hv⟩ := send_cases h
  obtain ⟨hx, -⟩ := hostApart_goOn (s := .fresh) heeds tells _ apart trivial hadvance
  rcases hv with ⟨-, rfl⟩ | rfl
  · exact hx
  · exact hx.of_chats rfl rfl

/-! ## Events -/

/-- **An event** does not bring the host in: whoever joins is compared with him. -/
theorem keepsHostApart_dispatch (heeds : k.Heeds (World.KeepsHostApart host) allowed)
    (tells : k.TellsApart host) (e : Event) :
    (k.dispatch e).Leads (World.KeepsHostApart host) := by
  have enduring := World.enduring_keepsHostApart host
  have hpure : ∀ {α : Type} (a : α), (pure a : Run α).Leads (World.KeepsHostApart host) :=
    Run.leads_pure heeds.lasting
  refine Run.Leads.bind ((Run.leads_remark heeds.lasting (by rfl)).bind heeds.lasting fun _ => ?_)
    heeds.lasting fun _ => ?_
  · cases e with
    | sent m => exact hpure ()
    | joined stream user =>
      intro w u v h apart
      unfold joined at h
      rw [Run.run_directory_bind] at h
      by_cases howner : user.id = w.directory.owner.id
      · rw [if_pos howner] at h
        obtain ⟨-, rfl⟩ := Run.run_pure_eq_some.mp h
        exact apart
      · rw [if_neg howner] at h
        cases hroom : w.directory.rooms.find? stream with
        | none =>
          rw [hroom] at h
          obtain ⟨-, rfl⟩ := Run.run_pure_eq_some.mp h
          exact apart
        | some id =>
          rw [hroom] at h
          obtain rfl := Run.run_modify_eq_some.mp h
          exact apart.welcome id (by rwa [apart.owner] at howner)
    | left stream user =>
      intro w u v h apart
      unfold left at h
      rw [Run.run_directory_bind] at h
      by_cases howner : user.id = w.directory.owner.id
      · rw [if_pos howner] at h
        refine (leads_removeStream heeds enduring stream).bind heeds.lasting (fun r => ?_) w u v h
          apart
        cases r with
        | none => exact hpure ()
        | some id => exact Run.leads_remark heeds.lasting rfl
      · rw [if_neg howner] at h
        cases hroom : w.directory.rooms.find? stream with
        | none =>
          rw [hroom] at h
          obtain ⟨-, rfl⟩ := Run.run_pure_eq_some.mp h
          exact apart
        | some id =>
          rw [hroom] at h
          obtain rfl := Run.run_modify_eq_some.mp h
          exact apart.onChat id fun c hc => by simp [Participants.has_erase, hc]
    | other kind => exact hpure ()
  · cases e with
    | sent m =>
      exact (keepsHostApart_receive heeds tells m).bind heeds.lasting fun _ => hpure ()
    | _ => exact hpure ()

end Company

/-- **Callbacks that do not add the host themselves** do not bring him in, however deep they go. -/
theorem Cast.heeds_keepsHostApart {cast : Cast} {host : String}
    (keepsTo : cast.KeepsTo (Action.LeavesOut host)) (tells : cast.TellsApart host) (depth : Nat) :
    (cast.company depth).Heeds (World.KeepsHostApart host) (Action.LeavesOut host) := by
  have enduring := World.enduring_keepsHostApart host
  refine Cast.heeds enduring.toLasting keepsTo (fun k hk heeds o a ha => ?_) depth
  subst hk
  refine Company.leads_takeAction heeds (Company.leads_addChat heeds enduring)
    (Company.leads_removeStream heeds enduring) (Company.keepsHostApart_send heeds tells)
    (Company.leads_addObserver enduring) (fun name _ => Company.leads_removeObserver enduring name)
    (fun target u haction id => ?_) o
  subst haction
  exact Company.leads_addRemote enduring.toLasting fun w apart => apart.welcome id ha

/-! ## Sessions -/

theorem keepsHostApart_session {host : String} {depth : Nat} {events : List (Cast × Event)}
    (keepsTo : ∀ x ∈ events, x.1.KeepsTo (Action.LeavesOut host))
    (tells : ∀ x ∈ events, x.1.TellsApart host) :
    (session depth events).Leads (World.KeepsHostApart host) := by
  have lasting := (World.enduring_keepsHostApart host).toLasting
  induction events with
  | nil => exact Run.leads_pure lasting ()
  | cons x events ih =>
    have heeds := Cast.heeds_keepsHostApart (keepsTo x List.mem_cons_self)
      (tells x List.mem_cons_self) depth
    exact (Company.keepsHostApart_dispatch heeds (tells x List.mem_cons_self) x.2).bind lasting
      fun _ => ih (fun y hy => keepsTo y (List.mem_cons_of_mem _ hy))
        fun y hy => tells y (List.mem_cons_of_mem _ hy)

/-! ### When somebody else is taken for the host -/

/-- Nobody does anything, and one name is answered with one user. -/
def Cast.answering (user : String) (u : User) : Cast where
  lookup := some fun name => { outcome := if name = user then .ok u else .error [] }

theorem Cast.quiet_answering (user : String) (u : User) : (Cast.answering user u).Quiet := by
  constructor <;> rintro name role ⟨⟩ <;> intros <;> rfl

theorem Cast.answers_answering {user name : String} {u u' : User}
    (h : (Cast.answering user u).Answers name u') : name = user ∧ u' = u := by
  obtain ⟨table, ⟨⟩, houtcome⟩ := h
  dsimp only at houtcome
  split at houtcome
  · cases houtcome
    exact ⟨‹_›, rfl⟩
  · cases houtcome

/-- **A message under a name that is answered with the host** makes him a guest. -/
theorem session_of_alias {owner u : User} {user : String} (hne : user ≠ owner.id)
    (hu : u.id = owner.id) (stream : String) :
    ∃ v id, (session 0 [(Cast.answering user u, .sent (.plain "" stream user ""))]).run
        { directory := { owner := owner } } = some ((), v)
      ∧ v.directory.rooms.find? stream = some id
      ∧ (v.directory.chat id).remotes.has owner.id = true := by
  let w : World := { directory := { owner := owner } }
  let k : Company := (Cast.answering user u).company 0
  let m : Message := .plain "" stream user ""
  have tidy : w.Tidy := ⟨nofun, nofun, nofun⟩
  obtain ⟨_, v, hrun, hfollows⟩ :=
    Company.dispatch_ends (k := k) (Cast.quiet_answering user u) tidy (.sent m)
  have hidentity : k.identity user = u := by simp [k, Cast.identity, Cast.company, Cast.answering]
  have hfounder : k.founder owner m = some u := (if_neg hne).trans (congrArg some hidentity)
  have hroom : v.room? stream = some (k.opened owner m) :=
    (hfollows.rooms stream).trans (if_pos rfl)
  obtain ⟨id, hid, hchat⟩ := Option.map_eq_some_iff.mp hroom
  have hremotes : (v.directory.chat id).remotes = .ofList [u] := by
    rw [Cast.opened, hfounder] at hchat
    exact congrArg Chat.remotes hchat
  refine ⟨v, id, Run.run_bind_eq_some.mpr ⟨(), v, hrun, rfl⟩, hid, ?_⟩
  rw [hremotes]
  change (Participants.empty.insert u).has owner.id = true
  simp [Participants.has_insert, hu]

/-- **The host is no guest exactly as long as nobody else is taken for him.**  Whatever events are
dispatched, in whatever order, to a directory none of whose chats had him as a guest, and whatever
else the callbacks do than to add him themselves, however deep: no chat of the directory has him as
a guest, just if the look-ups answer no name but his own with a user of his identifier. -/
theorem host_no_guest_iff (owner : User) (answers : String → User → Prop) :
    (∀ (depth : Nat) (w v : World) (events : List (Cast × Event)),
        w.directory.owner = owner → (∀ c ∈ w.directory.chats, c.remotes.has owner.id = false) →
        (∀ x ∈ events, x.1.KeepsTo (Action.LeavesOut owner.id)) →
        (∀ x ∈ events, ∀ user u, x.1.Answers user u → answers user u) →
        (session depth events).run w = some ((), v) →
        ∀ stream id, v.directory.rooms.find? stream = some id →
          (v.directory.chat id).remotes.has owner.id = false)
      ↔ ∀ user u, answers user u → user ≠ owner.id → u.id ≠ owner.id := by
  constructor
  · intro h user u hanswers hne hu
    obtain ⟨v, id, hrun, hid, hguest⟩ := session_of_alias hne hu "room"
    have hkeeps := (Cast.quiet_answering user u).keepsTo (Action.LeavesOut owner.id)
    have hanswering : ∀ name u', (Cast.answering user u).Answers name u' → answers name u' := by
      intro name u' hname
      obtain ⟨rfl, rfl⟩ := Cast.answers_answering hname
      exact hanswers
    have hout := h 0 _ v _ rfl (List.forall_mem_nil _) (List.forall_mem_singleton.mpr hkeeps)
      (List.forall_mem_singleton.mpr hanswering) hrun "room" id hid
    rw [hguest] at hout
    cases hout
  · rintro h depth w v events rfl hchats keepsTo hanswers hrun stream id -
    have tells : ∀ x ∈ events, x.1.TellsApart w.directory.owner.id := fun x hx =>
      Cast.tellsApart fun user u hu => h user u (hanswers x hx user u hu)
    exact (keepsHostApart_session keepsTo tells w () v hrun ⟨rfl, hchats⟩).chat id

/-- A chat that is made for a message, left by the host, and made again: who wrote is its guest, and
the host, who joined it too, is not. -/
theorem host_no_guest_when_made_again :
    let owner : User := .bare "bot"
    let ann : User := .named "1001" "Ann"
    let cast : Cast := .answering "1001" ann
    let m : Message := .plain "1" "room" "1001" "hello"
    let events : List (Cast × Event) := [(cast, .sent m), (cast, .left "room" owner),
      (cast, .sent m), (cast, .joined "room" owner)]
    ∃ v, (session 0 events).run { directory := { owner := owner } } = some ((), v)
      ∧ v.directory.rooms.find? "room" = some 1
      ∧ (v.directory.chat 1).remotes.users = [ann]
      ∧ (v.directory.chat 1).remotes.has owner.id = false := by
  intro owner ann cast m events
  have hview : ((session 0 events).run { directory := { owner := owner } }).map (fun r =>
      (r.2.directory.rooms.find? "room", (r.2.directory.chat 1).remotes.users))
        = some (some 1, [ann]) := by decide +kernel
  obtain ⟨⟨_, v⟩, hrun, hview⟩ := Option.map_eq_some_iff.mp hview
  obtain ⟨hroom, husers⟩ := Prod.mk.inj hview
  have hcast : ∀ x ∈ events, x.1 = cast := by simp [events]
  have hkeeps : cast.KeepsTo (Action.LeavesOut owner.id) := (Cast.quiet_answering _ _).keepsTo _
  refine ⟨v, hrun, hroom, husers, ?_⟩
  refine (host_no_guest_iff owner cast.Answers).mpr (fun user u h _ => ?_) 0 _ v events rfl
    (List.forall_mem_nil _) (fun x hx => ?_) (fun x hx user u h => ?_) hrun "room" 1 hroom
  · rw [(Cast.answers_answering h).2]
    decide
  · rwa [hcast x hx]
  · rwa [hcast x hx] at h

/-- **The host as a guest**: somebody writes under a name that is answered with the host. -/
theorem host_is_guest_under_alias :
    let owner : User := .bare "bot"
    ∃ v, (session 0 [(.answering "alias" owner, .sent (.plain "m1" "S1" "alias" "body m1"))]).run
        { directory := { owner := owner } } = some ((), v)
      ∧ v.directory.rooms.find? "S1" = some 0
      ∧ (v.directory.chat 0).remotes.users = [owner]
      ∧ ¬ ∀ stream id, v.directory.rooms.find? stream = some id →
        (v.directory.chat id).remotes.has v.directory.owner.id = false := by
  intro owner
  have hview : ((session 0 [(.answering "alias" owner,
      .sent (.plain "m1" "S1" "alias" "body m1"))]).run { directory := { owner := owner } }).map
      (fun r => (r.2.directory.rooms.find? "S1", (r.2.directory.chat 0).remotes.users,
        r.2.directory.owner)) = some (some 0, [owner], owner) := by decide +kernel
  obtain ⟨⟨_, v⟩, hrun, hview⟩ := Option.map_eq_some_iff.mp hview
  obtain ⟨hroom, hview⟩ := Prod.mk.inj hview
  obtain ⟨husers, howner⟩ := Prod.mk.inj hview
  refine ⟨v, hrun, hroom, husers, fun h => ?_⟩
  have hout := h "S1" 0 hroom
  rw [Participants.has, husers, howner] at hout
  simp [owner] at hout

end ChatFeed
