import ChatFeed.Proofs.Chat.Newest
import ChatFeed.Proofs.Chat.Quiet
import Mathlib.Data.Finset.Card
import Mathlib.Logic.Relation

/-!
# Proofs/Chat/Recruits — listeners that register listeners

A listener that is registered is handed the last message first and is one of the chat only then.  So
if it registers others from inside its callback, those are caught up meanwhile; and if the way leads
back to it, it is caught up once more, and so on (`Recruits.never_returns`).

`Cast.Leads` is the relation of who may register whom that is not registered yet, and a **ring** is
a way along it that comes back to where it was.  `Recruits.returns_iff_no_ring` has every
registration and every delivery come to its end where no ring can be reached, for each registration
inside another one leaves fewer listeners beyond (`Cast.card_beyond_lt`).  If listeners do the same
whenever they are called, this is the only way to come to an end: all who join are **grounded**,
which is to say accessible along the relation, since those whom they lead to have joined before.
-/

namespace ChatFeed

open Relation

/-! ## Who registers whom -/

namespace Cast

variable (cast : Cast) (m : Message) (members : List String)

/-- **Whom a listener may register** when it is handed a message. -/
def Recruits (l x : String) : Prop :=
  ∃ react n, cast.listener l = .scripted react
    ∧ ∃ s ∈ (react m n).steps, ∃ target, s.action = .onChat target (.register x)

/-- **Listeners that only register listeners** of some crowd, on one chat, when they are handed a
message. -/
def Recruiting (w : World) (id : ChatId) (crowd : Finset String) : Prop :=
  ∀ l ∈ crowd, ∀ react, cast.listener l = .scripted react → ∀ n, ∀ s ∈ (react m n).steps,
    ∃ target x, s.action = .onChat target (.register x) ∧ x ∈ crowd
      ∧ target.leadsTo w (w.directory.rooms.find? m.stream) = some id

/-- **Listeners that do the same whenever they are handed a message**: no step is left out, and none
depends on what came before. -/
def Steady (crowd : Finset String) : Prop :=
  ∀ l ∈ crowd, ∀ react, cast.listener l = .scripted react → ∀ n,
    (react m n).steps = (react m 0).steps ∧ ∀ s ∈ (react m n).steps, s.mark = none

/-- **One listener leads to another** that it may register and that is not registered yet. -/
def Leads (l x : String) : Prop := cast.Recruits m l x ∧ x ∉ members

/-- One listener leads to another in the end, over others that join meanwhile. -/
def LeadsOn : String → String → Prop := TransGen (cast.Leads m members)

/-- **A ring can be reached** from a listener: a way that comes back to where it was. -/
def Ring (l : String) : Prop :=
  ∃ x, ReflTransGen (cast.Leads m members) l x ∧ cast.LeadsOn m members x x

/-- **A grounded listener**: every way from it comes to an end. -/
def Grounded (l : String) : Prop := Acc (fun x y => cast.Leads m members y x) l

open Classical in
/-- Those of a crowd to which a listener leads in the end. -/
noncomputable def beyond (crowd : Finset String) (l : String) : Finset String :=
  crowd.filter fun x => cast.LeadsOn m members l x

variable {cast m members} {l x : String} {crowd : Finset String}

theorem Ring.of_leads (h : cast.Leads m members l x) (ring : cast.Ring m members x) :
    cast.Ring m members l := by
  obtain ⟨y, hway, hback⟩ := ring
  exact ⟨y, .head h hway, hback⟩

theorem Ring.of_back (h : cast.LeadsOn m members l l) : cast.Ring m members l :=
  ⟨l, .refl, h⟩

/-- A number that becomes less on every step leaves no room for a ring. -/
theorem not_ring_of_rank (rank : String → Nat)
    (h : ∀ l x, cast.Leads m members l x → rank x < rank l) (l : String) :
    ¬ cast.Ring m members l := by
  rintro ⟨x, -, hback⟩
  have hless : ∀ y, cast.LeadsOn m members x y → rank y < rank x := by
    intro y hway
    induction hway with
    | single hstep => exact h _ _ hstep
    | tail _ hstep ih => exact (h _ _ hstep).trans ih
  exact Nat.lt_irrefl _ (hless x hback)

/-- **No ring can be reached from a grounded listener.** -/
theorem Grounded.not_ring (h : cast.Grounded m members l) : ¬ cast.Ring m members l := by
  induction h with
  | intro l _ ih =>
    rintro ⟨x, hway, hback⟩
    rcases hway.cases_head with rfl | ⟨y, hstep, hway⟩
    · -- the ring is at the listener itself, and the next one on it reaches it as well
      obtain ⟨y, hstep, hway⟩ := TransGen.head'_iff.mp hback
      exact ih y hstep ⟨l, hway, hback⟩
    · exact ih y hstep ⟨x, hway, hback⟩

theorem mem_beyond : x ∈ cast.beyond m members crowd l
    ↔ x ∈ crowd ∧ cast.LeadsOn m members l x := by
  simp only [beyond, Finset.mem_filter]

/-- **Each step leaves fewer listeners beyond**, where there is no ring. -/
theorem card_beyond_lt (apart : ¬ cast.Ring m members l) (h : cast.Leads m members l x)
    (hx : x ∈ crowd) :
    (cast.beyond m members crowd x).card < (cast.beyond m members crowd l).card := by
  have hsub : cast.beyond m members crowd x ⊆ cast.beyond m members crowd l := by
    intro y hy
    obtain ⟨hy, hway⟩ := mem_beyond.mp hy
    exact mem_beyond.mpr ⟨hy, .head h hway⟩
  have hback : x ∉ cast.beyond m members crowd x := fun hback =>
    apart (.of_leads h (.of_back (mem_beyond.mp hback).2))
  exact Finset.card_lt_card
    ((Finset.ssubset_iff_of_subset hsub).mpr ⟨x, mem_beyond.mpr ⟨hx, .single h⟩, hback⟩)

/-- Beyond a listener that is on no ring there are fewer than all. -/
theorem card_beyond_lt_card (apart : ¬ cast.Ring m members l) (hl : l ∈ crowd) :
    (cast.beyond m members crowd l).card < crowd.card := by
  have hsub : cast.beyond m members crowd l ⊆ crowd := fun y hy => (mem_beyond.mp hy).1
  have hback : l ∉ cast.beyond m members crowd l := fun hback =>
    apart (.of_back (mem_beyond.mp hback).2)
  exact Finset.card_lt_card ((Finset.ssubset_iff_of_subset hsub).mpr ⟨l, hl, hback⟩)

end Cast

/-! ## A chat that gathers listeners -/

namespace World

/-- **A chat gathers listeners**: it keeps its place, its last message and those it has, and all who
are new are of some kind. -/
structure Gathers (id : ChatId) (new : String → Prop) (w v : World) : Prop where
  labels : v.labels = w.labels
  rooms : v.directory.rooms = w.directory.rooms
  count : v.directory.chats.length = w.directory.chats.length
  last : (v.directory.chat id).last = (w.directory.chat id).last
  keeps : ∀ x ∈ w.members id, x ∈ v.members id
  only : ∀ x ∈ v.members id, x ∈ w.members id ∨ new x

variable {id : ChatId} {new new' : String → Prop} {w v u : World} {l : String}

theorem Gathers.refl (id : ChatId) (new : String → Prop) (w : World) : Gathers id new w w :=
  ⟨rfl, rfl, rfl, rfl, fun _ h => h, fun _ h => .inl h⟩

theorem Gathers.trans (h : Gathers id new w v) (h' : Gathers id new v u) : Gathers id new w u where
  labels := h'.labels.trans h.labels
  rooms := h'.rooms.trans h.rooms
  count := h'.count.trans h.count
  last := h'.last.trans h.last
  keeps := fun x hx => h'.keeps x (h.keeps x hx)
  only := fun x hx => (h'.only x hx).elim (h.only x) .inr

theorem Gathers.mono (h : Gathers id new w v) (hnew : ∀ x, new x → new' x) :
    Gathers id new' w v where
  labels := h.labels
  rooms := h.rooms
  count := h.count
  last := h.last
  keeps := h.keeps
  only := fun x hx => (h.only x hx).imp_right (hnew x)

/-- Of whatever kind the new ones are. -/
theorem Gathers.near (h : Gathers id new w v) : Gathers id (fun _ => True) w v :=
  h.mono fun _ _ => trivial

theorem Gathers.home (h : Gathers id new w v) (lt : id < w.directory.chats.length) :
    Home w id v :=
  ⟨h.labels, h.rooms, h.count ▸ lt⟩

/-- Books are no matter of a chat. -/
theorem Aside.gathers (h : Aside w v) (id : ChatId) (new : String → Prop) :
    Gathers id new w v := by
  have hmembers : v.members id = w.members id := by rw [members, members, h.directory]
  exact ⟨h.labels, by rw [h.directory], by rw [h.directory], by rw [h.directory],
    fun x hx => hmembers ▸ hx, fun x hx => .inl (hmembers ▸ hx)⟩

theorem gathers_hear (id : ChatId) (new : String → Prop) (w : World)
    (heard : List (String × Message)) : Gathers id new w (w.hear heard) :=
  ⟨rfl, rfl, rfl, rfl, fun _ h => h, fun _ h => .inl h⟩

/-- A listener joins. -/
theorem gathers_insert (lt : id < w.directory.chats.length) (hl : new l) :
    Gathers id new w (w.onChat id fun c => { c with listeners := c.listeners.insert l })
      ∧ l ∈ (w.onChat id fun c => { c with listeners := c.listeners.insert l }).members id := by
  have hmembers : (w.onChat id fun c => { c with listeners := c.listeners.insert l }).members id
      = if l ∈ w.members id then w.members id else w.members id ++ [l] := by
    rw [members, onChat, Directory.chat_update lt, Roster.members_insert]
    rfl
  refine ⟨⟨rfl, rfl, Directory.length_update _ _ _, ?_, fun x hx => ?_, fun x hx => ?_⟩, ?_⟩
  · rw [onChat, Directory.chat_update lt]
  · rw [hmembers]
    split
    · exact hx
    · exact List.mem_append_left _ hx
  · rw [hmembers] at hx
    split at hx
    · exact .inl hx
    · refine (List.mem_append.mp hx).imp_right fun h => ?_
      rw [List.mem_singleton.mp h]
      exact hl
  · rw [hmembers]
    split
    · assumption
    · exact List.mem_append_right _ List.mem_cons_self

end World

namespace Run

variable {w : World}

theorem enter_ends (mark : Option String) (w : World) :
    (Company.enter mark).EndsIn w fun _ v => w.Aside v := by
  cases mark with
  | none => exact endsIn_pure (.refl w)
  | some name =>
    by_cases hspent : w.spent.contains name = true
    · exact ⟨false, w, by rw [run_enter, if_pos hspent], .refl w⟩
    · exact ⟨true, { w with spent := w.spent ++ [name] }, by rw [run_enter, if_neg hspent],
        ⟨rfl, rfl, rfl⟩, rfl⟩

theorem note_ends (n : Note) (w : World) : (note n).EndsIn w fun _ v => w.Aside v :=
  endsIn_modify ⟨⟨rfl, rfl, rfl⟩, rfl⟩

theorem failure_ends (message : String) (details : List (String × Detail)) (w : World) :
    (failure message details).EndsIn w fun _ v => w.Aside v :=
  ⟨_, _, rfl, aside_failure rfl⟩

theorem recording_ends (k : Company) (directory : Option String) (m : Message) (w : World) :
    (k.recording directory m).EndsIn w fun _ v => w.Aside v :=
  ⟨_, _, rfl, aside_recording rfl⟩

end Run

namespace Company

variable {k : Company} {w₀ w v : World} {id : ChatId} {m : Message} {crowd : Finset String}
  {n : Nat} {l : String} {o : Occasion}

/-! ## Without a ring every call comes to its end -/

/-- Who joins a chat when a listener is registered: nobody if it is one of the chat, and otherwise
the listener itself and those to whom it leads in the end. -/
def Joins (cast : Cast) (m : Message) (w₀ w : World) (id : ChatId) (x y : String) : Prop :=
  x ∉ w.members id ∧ ReflTransGen (cast.Leads m (w₀.members id)) x y

/-- Whether callbacks may go deep enough for a listener to be registered: it is one of the chat, or
it leads to fewer listeners than that. -/
def InDepth (cast : Cast) (m : Message) (w₀ w : World) (id : ChatId) (crowd : Finset String)
    (n : Nat) (x : String) : Prop :=
  x ∈ w.members id ∨ ¬ cast.Ring m (w₀.members id) x
    ∧ (cast.beyond m (w₀.members id) crowd x).card < n

/-- **A company that enlists listeners**: whoever acts to register one comes to an end, in a chat
whose last message has stayed the same. -/
def Enlists (k : Company) (w₀ : World) (id : ChatId) (m : Message) (crowd : Finset String)
    (n : Nat) : Prop :=
  ∀ w o target x, World.Gathers id (fun _ => True) w₀ w → x ∈ crowd →
    target.leadsTo w₀ o.chat = some id → 0 < n → InDepth k.toCast m w₀ w id crowd (n - 1) x →
    (k.act o (.onChat target (.register x))).EndsIn w fun _ v =>
      World.Gathers id (Joins k.toCast m w₀ w id x) w v

/-- **A part that registers listeners comes to its end**, when it is played by one that leads to
them. -/
theorem take_gathers (enlists : k.Enlists w₀ id m crowd n)
    (near : World.Gathers id (fun _ => True) w₀ w)
    (apart : ¬ k.toCast.Ring m (w₀.members id) l)
    (deep : (k.toCast.beyond m (w₀.members id) crowd l).card < n) {steps : List Step}
    (registers : ∀ s ∈ steps, ∃ target x, s.action = .onChat target (.register x) ∧ x ∈ crowd
      ∧ target.leadsTo w₀ o.chat = some id ∧ k.toCast.Recruits m l x) :
    (k.take o steps).EndsIn w fun _ v =>
      World.Gathers id (k.toCast.LeadsOn m (w₀.members id) l) w v := by
  induction steps generalizing w with
  | nil => exact Run.endsIn_pure (.refl id _ w)
  | cons s steps ih =>
    have hlater := fun s' hs => registers s' (List.mem_cons_of_mem s hs)
    refine (Run.enter_ends s.mark w).bind fun entered v hv => ?_
    have near' : World.Gathers id (fun _ => True) w₀ v := near.trans (hv.gathers id _)
    have hgather : World.Gathers id (k.toCast.LeadsOn m (w₀.members id) l) w v :=
      hv.gathers id _
    cases entered with
    | false => exact (ih near' hlater).mono fun _ u hu => hgather.trans hu
    | true =>
      obtain ⟨target, x, haction, hx, hleads, hrecruits⟩ := registers s List.mem_cons_self
      -- a newcomer is one to whom the listener leads, so fewer are beyond it
      have hstep : x ∉ v.members id → k.toCast.Leads m (w₀.members id) l x :=
        fun hnew => ⟨hrecruits, fun hold => hnew (near'.keeps x hold)⟩
      have hdeep : InDepth k.toCast m w₀ v id crowd (n - 1) x := by
        by_cases hmem : x ∈ v.members id
        · exact .inl hmem
        · have hless := Cast.card_beyond_lt apart (hstep hmem) hx
          exact .inr ⟨fun ring => apart (.of_leads (hstep hmem) ring), by omega⟩
      have hact := enlists v o target x near' hx hleads (by omega) hdeep
      rw [← haction] at hact
      have hjoins : ∀ y, Joins k.toCast m w₀ v id x y →
          k.toCast.LeadsOn m (w₀.members id) l y :=
        fun y hy => .head' (hstep hy.1) hy.2
      refine hact.bind fun reply u hu => (Run.note_ends _ u).bind fun _ u' hu' => ?_
      have hmore : World.Gathers id (k.toCast.LeadsOn m (w₀.members id) l) v u' :=
        (hu.mono hjoins).trans (hu'.gathers id _)
      exact (ih (near'.trans hmore.near) hlater).mono fun _ t ht =>
        (hgather.trans hmore).trans ht

/-- What a listener does that leads to no ring comes to its end. -/
theorem respond_gathers (enlists : k.Enlists w₀ id m crowd n)
    (recruiting : k.toCast.Recruiting m w₀ id crowd)
    (near : World.Gathers id (fun _ => True) w₀ w) (hl : l ∈ crowd)
    (apart : ¬ k.toCast.Ring m (w₀.members id) l)
    (deep : (k.toCast.beyond m (w₀.members id) crowd l).card < n) (turn : Nat) :
    (k.respond l m (w₀.directory.rooms.find? m.stream) turn).EndsIn w fun _ v =>
      World.Gathers id (k.toCast.LeadsOn m (w₀.members id) l) w v := by
  refine (Run.note_ends _ _).bind fun _ v hv => ?_
  have hnoted : World.Gathers id (k.toCast.LeadsOn m (w₀.members id) l) w v := hv.gathers id _
  cases hrole : k.listener l with
  | transcript directory =>
    exact (Run.recording_ends k directory m v).bind fun _ u hu =>
      Run.endsIn_pure (hnoted.trans (hu.gathers id _))
  | scripted react =>
    have hplay : (k.play ⟨l, w₀.directory.rooms.find? m.stream⟩ (react m turn)).EndsIn v
        fun _ u => World.Gathers id (k.toCast.LeadsOn m (w₀.members id) l) w u := by
      refine (take_gathers enlists (near.trans hnoted.near) apart deep
        fun s hs => ?_).bind fun _ u hu => Run.endsIn_pure (hnoted.trans hu)
      obtain ⟨target, x, haction, hx, hleads⟩ := recruiting l hl react hrole turn s hs
      exact ⟨target, x, haction, hx, hleads, react, turn, hrole, s, hs, target, haction⟩
    exact hplay.bind fun _ u hu => Run.endsIn_pure hu

/-- **A listener that leads to no ring is called**, and all who join are those to whom it leads. -/
theorem call_gathers (enlists : k.Enlists w₀ id m crowd n)
    (recruiting : k.toCast.Recruiting m w₀ id crowd)
    (near : World.Gathers id (fun _ => True) w₀ w) (hl : l ∈ crowd)
    (apart : ¬ k.toCast.Ring m (w₀.members id) l)
    (deep : (k.toCast.beyond m (w₀.members id) crowd l).card < n) :
    (k.call l m).EndsIn w fun _ v =>
      World.Gathers id (k.toCast.LeadsOn m (w₀.members id) l) w v := by
  have hhear := World.gathers_hear id (k.toCast.LeadsOn m (w₀.members id) l) w [(l, m)]
  obtain ⟨e, v, hrun, hv⟩ := respond_gathers enlists recruiting (near.trans hhear.near) hl apart
    deep (w.received.countP (·.1 = l))
  rw [← near.rooms] at hrun
  exact ⟨e, v, (run_call k l m w).trans hrun, hhear.trans hv⟩

/-- A listener that leads to no ring is caught up. -/
theorem catchUp_gathers (enlists : k.Enlists w₀ id m crowd n)
    (recruiting : k.toCast.Recruiting m w₀ id crowd)
    (last : (w₀.directory.chat id).last = some m)
    (near : World.Gathers id (fun _ => True) w₀ w) (hl : l ∈ crowd)
    (apart : ¬ k.toCast.Ring m (w₀.members id) l)
    (deep : (k.toCast.beyond m (w₀.members id) crowd l).card < n) :
    (k.catchUp id l).EndsIn w fun _ v =>
      World.Gathers id (k.toCast.LeadsOn m (w₀.members id) l) w v := by
  refine Run.endsIn_chat_bind ?_
  rw [near.last, last]
  refine (call_gathers enlists recruiting near hl apart deep).bind fun e v hv => ?_
  cases e with
  | none => exact Run.endsIn_pure hv
  | some e => exact (Run.failure_ends _ _ v).mono fun _ u hu => hv.trans (hu.gathers id _)

/-- **A registration comes to its end**, if callbacks may go deep enough, and tells whether the
listener is new. -/
theorem register_gathers (enlists : k.Enlists w₀ id m crowd n)
    (recruiting : k.toCast.Recruiting m w₀ id crowd) (lt : id < w₀.directory.chats.length)
    (last : (w₀.directory.chat id).last = some m)
    (near : World.Gathers id (fun _ => True) w₀ w) (hl : l ∈ crowd)
    (deep : InDepth k.toCast m w₀ w id crowd n l) :
    (k.register id l).EndsIn w fun b v =>
      b = decide (l ∉ w.members id) ∧ World.Gathers id (Joins k.toCast m w₀ w id l) w v := by
  refine Run.endsIn_chat_bind ?_
  by_cases hmem : l ∈ w.members id
  · rw [if_pos (Roster.contains_iff.mpr hmem)]
    exact Run.endsIn_pure ⟨by simp [hmem], .refl id _ w⟩
  · obtain ⟨apart, hdeep⟩ := deep.resolve_left hmem
    rw [if_neg (mt Roster.contains_iff.mp hmem)]
    refine (catchUp_gathers enlists recruiting last near hl apart hdeep).bind fun _ v hv =>
      Run.endsIn_chat_bind ?_
    -- all who have joined meanwhile are those to whom the listener leads, and it is none of them
    have hnew : l ∉ v.members id := fun hjoined =>
      (hv.only l hjoined).elim hmem fun hback => apart (.of_back hback)
    have hlt : id < v.directory.chats.length := by
      rw [hv.count, near.count]
      exact lt
    have hself : Joins k.toCast m w₀ w id l l := ⟨hmem, .refl⟩
    have hjoin := World.gathers_insert hlt hself
    refine ⟨_, _, rfl, ?_, (hv.mono fun y hy => ⟨hmem, hy.to_reflTransGen⟩).trans hjoin.1⟩
    have hcontains : (v.directory.chat id).listeners.contains l = false :=
      Bool.eq_false_iff.mpr (mt Roster.contains_iff.mp hnew)
    simp [hcontains, hmem]

end Company

/-- **A recruiting cast enlists listeners** as deep as its callbacks may go. -/
theorem Cast.Recruiting.enlists {cast : Cast} {w₀ : World} {id : ChatId} {m : Message}
    {crowd : Finset String} (recruiting : cast.Recruiting m w₀ id crowd)
    (lt : id < w₀.directory.chats.length) (last : (w₀.directory.chat id).last = some m)
    (depth : Nat) : (cast.company depth).Enlists w₀ id m crowd depth := by
  induction depth with
  | zero => exact fun w o target x near hx hleads hdeep => absurd hdeep (Nat.lt_irrefl 0)
  | succ n ih =>
    intro w o target x near hx hleads _ deep
    have hfind : (Company.find o target).EndsIn w fun found v => found = some id ∧ v = w :=
      ⟨_, _, (near.home lt).run_find o target, hleads, rfl⟩
    refine hfind.bind fun found v hv => ?_
    obtain ⟨rfl, rfl⟩ := hv
    exact (Company.register_gathers (k := cast.company n) ih recruiting lt last near hx deep).bind
      fun _ u hu => Run.endsIn_pure hu.2

namespace Company

variable {k : Company} {w₀ w w' : World} {id : ChatId} {m : Message} {crowd : Finset String}
  {n : Nat} {l : String} {o : Occasion}

/-- **A snapshot is handed a message to its end**, if none of it leads to a ring. -/
theorem handTo_gathers (enlists : k.Enlists w₀ id m crowd n)
    (recruiting : k.toCast.Recruiting m w₀ id crowd)
    (near : World.Gathers id (fun _ => True) w₀ w) {ls : List String} (hls : ∀ l ∈ ls, l ∈ crowd
      ∧ ¬ k.toCast.Ring m (w₀.members id) l
      ∧ (k.toCast.beyond m (w₀.members id) crowd l).card < n) :
    (k.handTo m ls).EndsIn w fun _ v => World.Gathers id (fun _ => True) w₀ v := by
  induction ls generalizing w with
  | nil => exact Run.endsIn_pure near
  | cons l ls ih =>
    obtain ⟨hl, apart, deep⟩ := hls l List.mem_cons_self
    have hlater := fun x hx => hls x (List.mem_cons_of_mem l hx)
    refine (call_gathers enlists recruiting near hl apart deep).bind fun e v hv => ?_
    have near' := near.trans hv.near
    cases e with
    | none => exact (ih near' hlater).bind fun r u hu => Run.endsIn_pure hu
    | some e =>
      refine (Run.failure_ends _ _ v).bind fun _ u hu => ?_
      exact (ih (near'.trans (hu.gathers id _)) hlater).bind fun r t ht => Run.endsIn_pure ht

/-! ## A call that comes to its end has met no ring -/

/-- **A company that grounds listeners**: where only grounded listeners have joined, and it has
registered one, this one has joined and only grounded ones still. -/
def Grounds (k : Company) (w₀ : World) (id : ChatId) (m : Message) (crowd : Finset String) :
    Prop :=
  ∀ w w' o target x reply, World.Gathers id (k.toCast.Grounded m (w₀.members id)) w₀ w →
    x ∈ crowd → target.leadsTo w₀ o.chat = some id →
    (k.act o (.onChat target (.register x))).run w = some (reply, w') →
      World.Gathers id (k.toCast.Grounded m (w₀.members id)) w w' ∧ x ∈ w'.members id

/-- **A part without marks registers all whom it names.** -/
theorem take_grounds (grounds : k.Grounds w₀ id m crowd)
    (near : World.Gathers id (k.toCast.Grounded m (w₀.members id)) w₀ w) {steps : List Step}
    (unmarked : ∀ s ∈ steps, s.mark = none)
    (registers : ∀ s ∈ steps, ∃ target x, s.action = .onChat target (.register x) ∧ x ∈ crowd
      ∧ target.leadsTo w₀ o.chat = some id) {u : Unit}
    (h : (k.take o steps).run w = some (u, w')) :
    World.Gathers id (k.toCast.Grounded m (w₀.members id)) w w'
      ∧ ∀ s ∈ steps, ∀ target x, s.action = .onChat target (.register x) → x ∈ w'.members id := by
  induction steps generalizing w with
  | nil =>
    obtain ⟨-, rfl⟩ := Run.run_pure_eq_some.mp h
    exact ⟨.refl id _ w', by simp⟩
  | cons s steps ih =>
    obtain ⟨target, x, haction, hx, hleads⟩ := registers s List.mem_cons_self
    have hmark := unmarked s List.mem_cons_self
    have hlater := fun s' hs => registers s' (List.mem_cons_of_mem s hs)
    have hfree := fun s' hs => unmarked s' (List.mem_cons_of_mem s hs)
    obtain ⟨entered, v, henter, hgo⟩ := Run.run_bind_eq_some.mp h
    rw [hmark] at henter
    obtain ⟨rfl, rfl⟩ := Run.run_pure_eq_some.mp henter
    obtain ⟨reply, v₁, hact, hgo⟩ := Run.run_bind_eq_some.mp hgo
    obtain ⟨_, v₂, hnote, hrest⟩ := Run.run_bind_eq_some.mp hgo
    rw [haction] at hact
    obtain ⟨hgather, hjoined⟩ := grounds _ _ o target x reply near hx hleads hact
    have hsofar := hgather.trans ((Run.aside_note hnote).gathers id _)
    obtain ⟨hmore, hothers⟩ := ih (near.trans hsofar) hfree hlater hrest
    refine ⟨hsofar.trans hmore, fun s' hs' target' x' haction' => ?_⟩
    rcases List.mem_cons.mp hs' with rfl | hs'
    · obtain ⟨-, hsame⟩ := Action.onChat.inj (haction.symm.trans haction')
      obtain rfl := ChatAction.register.inj hsame
      exact hmore.keeps x (((Run.aside_note hnote).gathers id fun _ => True).keeps x hjoined)
    · exact hothers s' hs' target' x' haction'

/-- What a listener does registers all whom it recruits, if it comes to its end. -/
theorem respond_grounds (grounds : k.Grounds w₀ id m crowd)
    (recruiting : k.toCast.Recruiting m w₀ id crowd) (steady : k.toCast.Steady m crowd)
    (near : World.Gathers id (k.toCast.Grounded m (w₀.members id)) w₀ w) (hl : l ∈ crowd)
    {turn : Nat} {e : Option CallbackError}
    (h : (k.respond l m (w₀.directory.rooms.find? m.stream) turn).run w = some (e, w')) :
    World.Gathers id (k.toCast.Grounded m (w₀.members id)) w w'
      ∧ ∀ x, k.toCast.Recruits m l x → x ∈ w'.members id := by
  obtain ⟨_, v, hnote, h⟩ := Run.run_bind_eq_some.mp h
  have hnoted : World.Gathers id (k.toCast.Grounded m (w₀.members id)) w v :=
    (Run.aside_note hnote).gathers id _
  cases hrole : k.listener l with
  | transcript directory =>
    rw [hrole] at h
    obtain ⟨_, u, hrecord, h⟩ := Run.run_bind_eq_some.mp h
    obtain ⟨-, rfl⟩ := Run.run_pure_eq_some.mp h
    refine ⟨hnoted.trans ((Run.aside_recording hrecord).gathers id _), fun x hx => ?_⟩
    obtain ⟨react, -, hscript, -⟩ := hx
    cases hrole.symm.trans hscript
  | scripted react =>
    rw [hrole] at h
    obtain ⟨_, u, hplay, h⟩ := Run.run_bind_eq_some.mp h
    obtain ⟨-, rfl⟩ := Run.run_pure_eq_some.mp h
    obtain ⟨_, u', htake, h⟩ := Run.run_bind_eq_some.mp hplay
    obtain ⟨-, rfl⟩ := Run.run_pure_eq_some.mp h
    have hsteady := steady l hl react hrole turn
    obtain ⟨hmore, hjoined⟩ := take_grounds grounds (near.trans hnoted) hsteady.2
      (recruiting l hl react hrole turn) htake
    refine ⟨hnoted.trans hmore, fun x hx => ?_⟩
    obtain ⟨react', turn', hscript, s, hs, target, haction⟩ := hx
    obtain rfl := ListenerRole.scripted.inj (hrole.symm.trans hscript)
    rw [(steady l hl react hrole turn').1, ← hsteady.1] at hs
    exact hjoined s hs target x haction

/-- **A listener whose call comes to its end is grounded**: whom it leads to have joined by then. -/
theorem call_grounds (grounds : k.Grounds w₀ id m crowd)
    (recruiting : k.toCast.Recruiting m w₀ id crowd) (steady : k.toCast.Steady m crowd)
    (near : World.Gathers id (k.toCast.Grounded m (w₀.members id)) w₀ w) (hl : l ∈ crowd)
    {e : Option CallbackError} (h : (k.call l m).run w = some (e, w')) :
    World.Gathers id (k.toCast.Grounded m (w₀.members id)) w w'
      ∧ k.toCast.Grounded m (w₀.members id) l := by
  rw [run_call, near.rooms] at h
  have hhear := World.gathers_hear id (k.toCast.Grounded m (w₀.members id)) w [(l, m)]
  obtain ⟨hmore, hjoined⟩ := respond_grounds grounds recruiting steady (near.trans hhear) hl h
  have hgather := hhear.trans hmore
  refine ⟨hgather, .intro l fun x hx => ?_⟩
  exact ((near.trans hgather).only x (hjoined x hx.1)).resolve_left hx.2

/-- **Catching up** hands over the last message, if there is one, and tells of a failure. -/
theorem catchUp_eq_some {u : Unit} (h : (k.catchUp id l).run w = some (u, w')) :
    ((w.directory.chat id).last = none ∧ w' = w) ∨ ∃ m e v, (w.directory.chat id).last = some m
      ∧ (k.call l m).run w = some (e, v) ∧ World.Aside v w' := by
  unfold catchUp at h
  rw [Run.run_chat_bind] at h
  cases hlast : (w.directory.chat id).last with
  | none =>
    rw [hlast] at h
    exact .inl ⟨rfl, (Run.run_pure_eq_some.mp h).2⟩
  | some m =>
    rw [hlast] at h
    obtain ⟨e, v, hcall, htail⟩ := Run.run_bind_eq_some.mp h
    cases e with
    | none =>
      obtain ⟨-, rfl⟩ := Run.run_pure_eq_some.mp htail
      exact .inr ⟨m, none, w', rfl, hcall, .refl w'⟩
    | some e => exact .inr ⟨m, some e, v, rfl, hcall, Run.aside_failure htail⟩

/-- **A registration that comes to its end**: the listener has joined, and it is grounded unless it
was one of the chat before. -/
theorem register_grounds (grounds : k.Grounds w₀ id m crowd)
    (recruiting : k.toCast.Recruiting m w₀ id crowd) (steady : k.toCast.Steady m crowd)
    (lt : id < w₀.directory.chats.length) (last : (w₀.directory.chat id).last = some m)
    (near : World.Gathers id (k.toCast.Grounded m (w₀.members id)) w₀ w) (hl : l ∈ crowd) {b : Bool}
    (h : (k.register id l).run w = some (b, w')) :
    World.Gathers id (k.toCast.Grounded m (w₀.members id)) w w' ∧ l ∈ w'.members id
      ∧ (l ∈ w.members id ∨ k.toCast.Grounded m (w₀.members id) l) := by
  have hlast : (w.directory.chat id).last = some m := near.last.trans last
  rcases register_cases h with ⟨hmem, rfl⟩ | ⟨hmem, u, v, hcatch, rfl⟩
  · exact ⟨.refl id _ w', hmem, .inl hmem⟩
  · rcases catchUp_eq_some hcatch with ⟨hnone, -⟩ | ⟨m', e, v', hsome, hcall, aside⟩
    · cases hnone.symm.trans hlast
    · obtain rfl : m' = m := Option.some.inj (hsome.symm.trans hlast)
      obtain ⟨hgather, hgrounded⟩ := call_grounds grounds recruiting steady near hl hcall
      have hsofar := hgather.trans (aside.gathers id _)
      have hlt : id < v.directory.chats.length := by
        rw [hsofar.count, near.count]
        exact lt
      have hjoin := World.gathers_insert hlt hgrounded
      exact ⟨hsofar.trans hjoin.1, hjoin.2, .inr hgrounded⟩

/-- **The first of a snapshot is called**, its failure is told, and the others come next. -/
theorem handTo_cons_eq_some {ls : List String} {r : Report}
    (h : (k.handTo m (l :: ls)).run w = some (r, w')) :
    ∃ e v v' r', (k.call l m).run w = some (e, v) ∧ World.Aside v v'
      ∧ (k.handTo m ls).run v' = some (r', w') := by
  obtain ⟨e, v, hcall, h⟩ := Run.run_bind_eq_some.mp h
  cases e with
  | none =>
    obtain ⟨r', v', hrest, hend⟩ := Run.run_bind_eq_some.mp h
    obtain ⟨-, rfl⟩ := Run.run_pure_eq_some.mp hend
    exact ⟨none, v, v, r', hcall, .refl v, hrest⟩
  | some e =>
    obtain ⟨_, u, hfail, h⟩ := Run.run_bind_eq_some.mp h
    obtain ⟨r', v', hrest, hend⟩ := Run.run_bind_eq_some.mp h
    obtain ⟨-, rfl⟩ := Run.run_pure_eq_some.mp hend
    exact ⟨some e, v, u, r', hcall, Run.aside_failure hfail, hrest⟩

/-- **A snapshot that is handed a message to the end is grounded.** -/
theorem handTo_grounds (grounds : k.Grounds w₀ id m crowd)
    (recruiting : k.toCast.Recruiting m w₀ id crowd) (steady : k.toCast.Steady m crowd)
    (near : World.Gathers id (k.toCast.Grounded m (w₀.members id)) w₀ w) {ls : List String}
    (hls : ∀ l ∈ ls, l ∈ crowd) {r : Report} (h : (k.handTo m ls).run w = some (r, w')) :
    ∀ l ∈ ls, k.toCast.Grounded m (w₀.members id) l := by
  induction ls generalizing w r with
  | nil => simp
  | cons l ls ih =>
    obtain ⟨e, v, v', r', hcall, aside, hrest⟩ := handTo_cons_eq_some h
    obtain ⟨hgather, hgrounded⟩ := call_grounds grounds recruiting steady near
      (hls l List.mem_cons_self) hcall
    have near' := (near.trans hgather).trans (aside.gathers id _)
    have hothers := ih near' (fun x hx => hls x (List.mem_cons_of_mem l hx)) hrest
    exact List.forall_mem_cons.mpr ⟨hgrounded, hothers⟩

end Company

/-- **A steady cast that recruits grounds listeners**, however deep its callbacks may go. -/
theorem Cast.Recruiting.grounds {cast : Cast} {w₀ : World} {id : ChatId} {m : Message}
    {crowd : Finset String} (recruiting : cast.Recruiting m w₀ id crowd)
    (steady : cast.Steady m crowd) (lt : id < w₀.directory.chats.length)
    (last : (w₀.directory.chat id).last = some m) (depth : Nat) :
    (cast.company depth).Grounds w₀ id m crowd := by
  induction depth with
  | zero => exact fun w w' o target x reply near hx hleads h => nomatch h
  | succ n ih =>
    intro w w' o target x reply near hx hleads h
    obtain ⟨found, v, hfind, hact⟩ := Run.run_bind_eq_some.mp h
    rw [(near.home lt).run_find, hleads] at hfind
    obtain ⟨rfl, rfl⟩ := Prod.mk.inj (Option.some.inj hfind)
    obtain ⟨b, u, hregister, hend⟩ := Run.run_bind_eq_some.mp hact
    obtain ⟨-, rfl⟩ := Run.run_pure_eq_some.mp hend
    obtain ⟨hgather, hmem, -⟩ := Company.register_grounds (k := cast.company n) ih recruiting
      steady lt last near hx hregister
    exact ⟨hgather, hmem⟩

namespace Recruits

variable {cast : Cast} {w w' : World} {id : ChatId} {m : Message} {crowd : Finset String}
  {l : String} {depth : Nat}

/-! ## Registrations and deliveries -/

/-- A delivery is the message becoming the last one, and then being handed round. -/
theorem run_deliver (k : Company) (m : Message) (lt : id < w.directory.chats.length) :
    (k.deliver id m).run w = (k.handTo m (w.members id)).run
      (w.onChat id fun c => { c with last := some m }) := by
  have hmembers : ((w.directory.update id fun c => { c with last := some m }).chat
      id).listeners.members = w.members id := by
    rw [Directory.chat_update lt]
    rfl
  rw [← hmembers]
  rfl

/-- A chat to which a message has come, and its members. -/
theorem onLast (m : Message) (lt : id < w.directory.chats.length) :
    ((w.onChat id fun c => { c with last := some m }).directory.chat id).last = some m
      ∧ (w.onChat id fun c => { c with last := some m }).members id = w.members id
      ∧ id < (w.onChat id fun c => { c with last := some m }).directory.chats.length := by
  refine ⟨?_, ?_, ?_⟩
  · rw [World.onChat, Directory.chat_update lt]
  · rw [World.members, World.onChat, Directory.chat_update lt]
    rfl
  · rw [World.onChat, Directory.length_update]
    exact lt

/-- Without a last message a registration calls nobody. -/
theorem register_of_last_none (none : (w.directory.chat id).last = none) (k : Company)
    (l : String) : ∃ w', (k.register id l).run w = some (decide (l ∉ w.members id), w') := by
  unfold Company.register
  rw [Run.run_chat_bind]
  by_cases hmem : l ∈ w.members id
  · rw [if_pos (Roster.contains_iff.mpr hmem), decide_eq_false (not_not_intro hmem)]
    exact ⟨w, rfl⟩
  · have hcontains : (w.directory.chat id).listeners.contains l = false :=
      Bool.eq_false_iff.mpr (mt Roster.contains_iff.mp hmem)
    have hcatch : (k.catchUp id l).run w = some ((), w) := by
      unfold Company.catchUp
      rw [Run.run_chat_bind, none]
      rfl
    rw [hcontains, decide_eq_true hmem]
    refine ⟨w.onChat id fun c => { c with listeners := c.listeners.insert l },
      Run.run_bind_eq_some.mpr ⟨(), w, hcatch, ?_⟩⟩
    rw [Run.run_chat_bind, hcontains]
    rfl

/-- Where no ring can be reached a registration comes to its end. -/
theorem register_returns (lt : id < w.directory.chats.length)
    (recruiting : cast.Recruiting m w id crowd) (last : (w.directory.chat id).last = some m)
    (hl : l ∈ crowd) (apart : l ∈ w.members id ∨ ¬ cast.Ring m (w.members id) l)
    (deep : crowd.card ≤ depth) : ∃ w', ((cast.company depth).register id l).run w
      = some (decide (l ∉ w.members id), w') := by
  have hdeep : Company.InDepth cast m w w id crowd depth l := apart.imp_right fun apart =>
    ⟨apart, (Cast.card_beyond_lt_card apart hl).trans_le deep⟩
  obtain ⟨b, w', hrun, hb, -⟩ := Company.register_gathers (recruiting.enlists lt last depth)
    recruiting lt last (.refl id _ w) hl hdeep
  exact ⟨w', hb ▸ hrun⟩

/-- Where no listener of a chat leads to a ring a delivery comes to its end. -/
theorem deliver_returns (lt : id < w.directory.chats.length)
    (recruiting : cast.Recruiting m w id crowd) (within : ∀ l ∈ w.members id, l ∈ crowd)
    (apart : ∀ l ∈ w.members id, ¬ cast.Ring m (w.members id) l) (deep : crowd.card ≤ depth) :
    ∃ r w', ((cast.company depth).deliver id m).run w = some (r, w') := by
  obtain ⟨last, hmembers, hlt⟩ := onLast m lt
  have hrecruiting : cast.Recruiting m (w.onChat id fun c => { c with last := some m }) id crowd :=
    recruiting
  obtain ⟨r, w', hrun, -⟩ := Company.handTo_gathers (hrecruiting.enlists hlt last depth)
    hrecruiting (.refl id _ _) fun l hl => ⟨within l hl, hmembers ▸ apart l hl,
      (Cast.card_beyond_lt_card (hmembers ▸ apart l hl) (within l hl)).trans_le deep⟩
  exact ⟨r, w', (run_deliver _ m lt).trans hrun⟩

/-- A registration that comes to its end has met no ring, if listeners are steady. -/
theorem not_ring_of_register (lt : id < w.directory.chats.length)
    (recruiting : cast.Recruiting m w id crowd) (steady : cast.Steady m crowd)
    (last : (w.directory.chat id).last = some m) (hl : l ∈ crowd) {b : Bool}
    (h : ((cast.company depth).register id l).run w = some (b, w')) :
    l ∈ w.members id ∨ ¬ cast.Ring m (w.members id) l := by
  obtain ⟨-, -, hgrounded⟩ := Company.register_grounds (recruiting.grounds steady lt last depth)
    recruiting steady lt last (.refl id _ w) hl h
  exact hgrounded.imp_right Cast.Grounded.not_ring

/-- A delivery that comes to its end has met no ring, if listeners are steady. -/
theorem not_ring_of_deliver (lt : id < w.directory.chats.length)
    (recruiting : cast.Recruiting m w id crowd) (steady : cast.Steady m crowd)
    (within : ∀ l ∈ w.members id, l ∈ crowd) {r : Report}
    (h : ((cast.company depth).deliver id m).run w = some (r, w')) :
    ∀ l ∈ w.members id, ¬ cast.Ring m (w.members id) l := by
  obtain ⟨last, hmembers, hlt⟩ := onLast m lt
  have hrecruiting : cast.Recruiting m (w.onChat id fun c => { c with last := some m }) id crowd :=
    recruiting
  have hall := Company.handTo_grounds (hrecruiting.grounds steady hlt last depth) hrecruiting
    steady (.refl id _ _) within ((run_deliver _ m lt).symm.trans h)
  rw [hmembers] at hall
  exact fun l hl => (hall l hl).not_ring

/-- **Listeners that only register listeners** on the chat that calls them, all of one finite crowd:
when do registrations and deliveries come to their end?

* Without a last message every registration does.
* A registration does if no ring can be reached from the listener, or it is one of the chat already,
  and then it tells whether the listener is new.  A delivery does if no ring can be reached from any
  listener of the chat.  Callbacks go no deeper than there are listeners.
* These are the only ones, if listeners do the same whenever they are called. -/
theorem returns_iff_no_ring (lt : id < w.directory.chats.length)
    (recruiting : cast.Recruiting m w id crowd) (within : ∀ l ∈ w.members id, l ∈ crowd) :
    ((w.directory.chat id).last = none → ∀ l depth, ∃ w',
        ((cast.company depth).register id l).run w = some (decide (l ∉ w.members id), w'))
      ∧ ((w.directory.chat id).last = some m → ∀ l ∈ crowd,
        (l ∈ w.members id ∨ ¬ cast.Ring m (w.members id) l → ∀ depth, crowd.card ≤ depth →
          ∃ w', ((cast.company depth).register id l).run w
            = some (decide (l ∉ w.members id), w'))
        ∧ (cast.Steady m crowd → ∀ depth b w',
          ((cast.company depth).register id l).run w = some (b, w') →
            l ∈ w.members id ∨ ¬ cast.Ring m (w.members id) l))
      ∧ ((∀ l ∈ w.members id, ¬ cast.Ring m (w.members id) l) → ∀ depth, crowd.card ≤ depth →
        ∃ r w', ((cast.company depth).deliver id m).run w = some (r, w'))
      ∧ (cast.Steady m crowd → ∀ depth r w',
        ((cast.company depth).deliver id m).run w = some (r, w') →
          ∀ l ∈ w.members id, ¬ cast.Ring m (w.members id) l) := by
  refine ⟨fun none l depth => ?_, fun last l hl => ⟨fun apart depth deep => ?_, ?_⟩, ?_, ?_⟩
  · exact register_of_last_none none _ l
  · exact register_returns lt recruiting last hl apart deep
  · exact fun steady depth b w' h => not_ring_of_register lt recruiting steady last hl h
  · exact fun apart depth deep => deliver_returns lt recruiting within apart deep
  · exact fun steady depth r w' h => not_ring_of_deliver lt recruiting steady within h

/-- Three listeners, of which the first registers the other two, and the second the third: all come
to be registered, the third while the second is. -/
theorem returns_iff_no_ring_of_three :
    let names : String → List String := fun l =>
      if l = "a" then ["b", "c"] else if l = "b" then ["c"] else []
    let cast : Cast := { listener := fun l => .scripted fun _ _ =>
      { steps := (names l).map fun x => ⟨none, .onChat (.labelled "room") (.register x)⟩ } }
    let m : Message := .plain "1" "room" "ann" "hello"
    let w : World := {
      directory := { owner := .bare "bot", chats := [{ Chat.fresh (some "room") with last := m }] }
      labels := [("room", 0)] }
    ∃ w', ((cast.company 3).register 0 "a").run w = some (true, w')
      ∧ w'.members 0 = ["c", "b", "a"] := by
  intro names cast m w
  have hnames : ∀ l, ∀ x ∈ names l, l = "a" ∧ (x = "b" ∨ x = "c") ∨ l = "b" ∧ x = "c" := by
    intro l x hx
    by_cases ha : l = "a"
    · exact .inl ⟨ha, by simpa [names, ha] using hx⟩
    · by_cases hb : l = "b"
      · exact .inr ⟨hb, by simpa [names, hb] using hx⟩
      · simp [names, ha, hb] at hx
  have hrecruits : ∀ l x, cast.Recruits m l x → x ∈ names l := by
    rintro l x ⟨react, n, hrole, s, hs, target, haction⟩
    obtain rfl := ListenerRole.scripted.inj hrole
    obtain ⟨y, hy, rfl⟩ := List.mem_map.mp hs
    obtain ⟨-, hsame⟩ := Action.onChat.inj haction
    obtain rfl := ChatAction.register.inj hsame
    exact hy
  have recruiting : cast.Recruiting m w 0 {"a", "b", "c"} := by
    intro l _ react hrole n s hs
    obtain rfl := ListenerRole.scripted.inj hrole
    obtain ⟨x, hx, rfl⟩ := List.mem_map.mp hs
    refine ⟨_, x, rfl, ?_, rfl⟩
    rcases hnames l x hx with ⟨-, rfl | rfl⟩ | ⟨-, rfl⟩ <;> decide
  have apart : ¬ cast.Ring m (w.members 0) "a" := by
    let rank : String → Nat := fun l => if l = "a" then 2 else if l = "b" then 1 else 0
    refine Cast.not_ring_of_rank rank (fun l x hleads => ?_) "a"
    rcases hnames l x (hrecruits l x hleads.1) with ⟨rfl, rfl | rfl⟩ | ⟨rfl, rfl⟩ <;> decide
  have hnobody : w.members 0 = [] := rfl
  obtain ⟨-, hregister, -⟩ := returns_iff_no_ring (by decide) recruiting (by simp [hnobody])
  obtain ⟨w', hrun⟩ := (hregister rfl "a" (by decide)).1 (.inr apart) 3 (by decide)
  have hview : (((cast.company 3).register 0 "a").run w).map (fun r => r.2.members 0)
      = some ["c", "b", "a"] := by decide +kernel
  rw [hrun] at hview
  exact ⟨w', hrun, Option.some.inj hview⟩

/-- **A listener that registers itself** is caught up again and again, and its registration never
comes to its end.  If it does so only once the registration does, but tells that the listener was
one of the chat before, which it was not. -/
theorem never_returns :
    let register : Option String → Cast := fun mark => { listener := fun l => .scripted fun _ _ =>
      { steps := [⟨mark, .onChat (.labelled "room") (.register l)⟩] } }
    let w : World := {
      directory := { owner := .bare "bot", chats := [{ Chat.fresh (some "room") with
        last := some (.plain "m1" "S1" "u" "body m1") }] }
      labels := [("room", 0)] }
    "L" ∉ w.members 0
      ∧ (∀ depth, (((register none).company depth).register 0 "L").run w = none)
      ∧ ((((register (some "once")).company 2).register 0 "L").run w).map (·.1) = some false := by
  intro register w
  refine ⟨by decide, fun depth => ?_, by decide +kernel⟩
  have recruiting : (register none).Recruiting (.plain "m1" "S1" "u" "body m1") w 0 {"L"} := by
    intro l hl react hrole n s hs
    obtain rfl := ListenerRole.scripted.inj hrole
    obtain rfl := List.mem_singleton.mp hs
    exact ⟨_, l, rfl, hl, rfl⟩
  have steady : (register none).Steady (.plain "m1" "S1" "u" "body m1") {"L"} := by
    intro l _ react hrole n
    obtain rfl := ListenerRole.scripted.inj hrole
    exact ⟨rfl, fun s hs => by rw [List.mem_singleton.mp hs]⟩
  have hself : (register none).Leads (.plain "m1" "S1" "u" "body m1") (w.members 0) "L" "L" :=
    ⟨⟨_, 0, rfl, _, List.mem_singleton_self _, _, rfl⟩, by decide⟩
  cases hrun : (((register none).company depth).register 0 "L").run w with
  | none => rfl
  | some p =>
    rcases not_ring_of_register (by decide) recruiting steady rfl (by decide) hrun
      with hmem | apart
    · exact absurd hmem (by decide)
    · exact absurd (.of_back (.single hself)) apart

end Recruits

end ChatFeed
