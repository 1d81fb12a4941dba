import ChatFeed.Proofs.Chat.Stride
import ChatFeed.Proofs.History
import Mathlib.Data.List.Nodup
import Mathlib.Data.List.Sigma

/-!
# Proofs/Chat/Crowd — first messages of a stream that come at once

A `Crowd` is some messages on their way, in one world, each at its stage; turns are given to them in
any order, and time goes by between.  It remembers which of them made a chat, and which were handed
over, in order.  A crowd on a stream that has no chat goes through two phases, and every turn keeps
to them:

* `Crowd.Unseen` — nobody has come to a chat yet;
* `Crowd.Led` — one message has made the chat and goes ahead of the others, who wait at its gate
  until it is open.

`Crowd.one_chat_hears_all` tells what comes of it.
-/

namespace ChatFeed

namespace Stage

/-- Whether a message has made a chat whose gate is not open yet. -/
def isCreating : Stage → Bool
  | .announcing _ _ => true
  | .handing _ => true
  | .opening _ _ => true
  | _ => false

/-- Whether a message makes a chat in going from one stage to another. -/
def makes : Stage → Stage → Bool
  | .knocking _, .announcing _ _ => true
  | _, _ => false

/-- Whether a message is handed over next. -/
def delivers : Stage → Bool
  | .admitted _ => true
  | .handing _ => true
  | _ => false

/-- Whether a message has been handed over. -/
def isServed : Stage → Bool
  | .opening _ _ => true
  | .answered _ => true
  | _ => false

/-- Whether a message is at its end. -/
def isAnswered : Stage → Bool
  | .answered _ => true
  | _ => false

/-- Whether a message is at no other chat than one. -/
def IsAbout (id : ChatId) : Stage → Prop
  | .gated a => a = id
  | .admitted a => a = id
  | .announcing a _ => a = id
  | .handing a => a = id
  | .opening a _ => a = id
  | _ => True

end Stage

/-- **Whose turn it is**, or how much time goes by. -/
inductive Turn
  | call (i : Nat)
  | wait (millis : Nat)

/-- **Messages on their way**, which of them made a chat, and which have been handed over, in order,
each with its place in the crowd. -/
structure Crowd where
  world : World
  calls : List (Message × Stage)
  made : List Nat := []
  handed : List (Message × Nat) := []

namespace Crowd

/-- Messages that all have just come. -/
def gather (w : World) (ms : List Message) : Crowd where
  world := w
  calls := ms.map (·, .fresh)

/-- A crowd in which one message has come to another stage. -/
def moved (c : Crowd) (i : Nat) (m : Message) (s s' : Stage) (w : World) : Crowd where
  world := w
  calls := c.calls.set i (m, s')
  made := if s.makes s' then c.made ++ [i] else c.made
  handed := if s.delivers then c.handed ++ [(m, i)] else c.handed

/-- **A turn is taken**; a message that has to wait stays where it is. -/
def step (k : Company) (c : Crowd) : Turn → Option Crowd
  | .wait millis => some { c with world := { c.world with clock := c.world.clock + millis } }
  | .call i => do
    let (m, s) ← c.calls[i]?
    let (next, w) ← (k.step m s).run c.world
    match next with
    | none => some { c with world := w }
    | some s' => some (c.moved i m s s' w)

/-- **Turns in some order.** -/
def run (k : Company) (turns : List Turn) (c : Crowd) : Option Crowd := turns.foldlM (step k) c

variable {k : Company} {ms : List Message} {c c' : Crowd} {t : Turn} {i j : Nat} {m m' : Message}
  {s s' s₁ s₂ : Stage} {w w' : World}

/-- **What a turn does**: time goes by or a message waits, which is then not to be handed over, or
the message whose turn it is takes a step. -/
theorem turn_cases (h : c.step k t = some c') :
    (∃ w, c.world.Alike w ∧ c' = { c with world := w }
        ∧ ∀ i m s, t = .call i → c.calls[i]? = some (m, s) → s.delivers = false)
      ∨ ∃ i m s s' w, t = .call i ∧ c.calls[i]? = some (m, s)
        ∧ Company.Stride k m c.world s (some s') w ∧ c' = c.moved i m s s' w := by
  cases t with
  | wait millis =>
    obtain rfl := Option.some.inj h
    exact .inl ⟨{ c.world with clock := c.world.clock + millis }, ⟨rfl, rfl, rfl⟩, rfl, by simp⟩
  | call i =>
    obtain ⟨⟨m, s⟩, hcall, h⟩ := Option.bind_eq_some_iff.mp h
    obtain ⟨⟨next, w⟩, hstep, h⟩ := Option.bind_eq_some_iff.mp h
    have hstride := Company.stride_of_step hstep
    cases next with
    | none =>
      obtain rfl := Option.some.inj h
      refine .inl ⟨w, by cases hstride <;> exact .refl c.world, rfl, ?_⟩
      rintro j m' s₁ ⟨⟩ hj
      obtain ⟨rfl, rfl⟩ := Prod.mk.inj (Option.some.inj (hcall.symm.trans hj))
      cases hstride <;> rfl
    | some s' =>
      obtain rfl := Option.some.inj h
      exact .inr ⟨i, m, s, s', w, rfl, hcall, hstride, rfl⟩

/-- What a turn does, whosever it is. -/
theorem step_cases (h : c.step k t = some c') :
    (∃ w, c.world.Alike w ∧ c' = { c with world := w })
      ∨ ∃ i m s s' w, c.calls[i]? = some (m, s)
        ∧ Company.Stride k m c.world s (some s') w ∧ c' = c.moved i m s s' w := by
  rcases turn_cases h with ⟨w, alike, rfl, -⟩ | ⟨i, m, s, s', w, -, hcall, hstride, rfl⟩
  · exact .inl ⟨w, alike, rfl⟩
  · exact .inr ⟨i, m, s, s', w, hcall, hstride, rfl⟩

/-- The call that took a step, and the others. -/
theorem getElem?_moved (hcall : c.calls[i]? = some (m, s))
    (h : (c.moved i m s s' w).calls[j]? = some (m', s₁)) :
    (j = i ∧ m' = m ∧ s₁ = s') ∨ (j ≠ i ∧ c.calls[j]? = some (m', s₁)) := by
  have h : (c.calls.set i (m, s'))[j]? = some (m', s₁) := h
  by_cases hj : j = i
  · subst hj
    rw [List.getElem?_set_self (List.getElem?_eq_some_iff.mp hcall).1] at h
    obtain ⟨hm, ht⟩ := Prod.mk.inj (Option.some.inj h)
    exact .inl ⟨rfl, hm.symm, ht.symm⟩
  · rw [List.getElem?_set_ne (Ne.symm hj)] at h
    exact .inr ⟨hj, h⟩

theorem getElem?_moved_self (hcall : c.calls[i]? = some (m, s)) :
    (c.moved i m s s' w).calls[i]? = some (m, s') :=
  List.getElem?_set_self (List.getElem?_eq_some_iff.mp hcall).1

theorem getElem?_moved_ne (hj : j ≠ i) : (c.moved i m s s' w).calls[j]? = c.calls[j]? :=
  List.getElem?_set_ne (Ne.symm hj)

/-! ## The roll of those handed over -/

/-- **The roll is kept**: the messages stay who they are, and those handed over are those whose
stage says so, each once. -/
structure Rolled (ms : List Message) (c : Crowd) : Prop where
  messages : c.calls.map Prod.fst = ms
  nodup : c.handed.Nodup
  mem_iff : ∀ m i, (m, i) ∈ c.handed ↔ ∃ s, c.calls[i]? = some (m, s) ∧ s.isServed = true

theorem rolled_gather (w : World) (ms : List Message) : Rolled ms (gather w ms) where
  messages := by simp [gather, Function.comp_def]
  nodup := List.nodup_nil
  mem_iff := fun m i => by simp [gather, Stage.isServed]

/-- A step hands a message over where its stage says so. -/
theorem isServed_of_stride (h : Company.Stride k m w s (some s') w') :
    s'.isServed = (s.isServed || s.delivers) := by
  cases h with
  | absent room outside => cases s' <;> simp_all [Stage.isServed, Stage.delivers, Stage.isOutside]
  | _ => rfl

theorem not_isServed_of_delivers (h : s.delivers = true) : s.isServed = false := by
  cases s <;> simp_all [Stage.isServed, Stage.delivers]

/-- The messages stay who they are. -/
theorem map_fst_moved (hcall : c.calls[i]? = some (m, s)) :
    (c.moved i m s s' w).calls.map Prod.fst = c.calls.map Prod.fst := by
  have hm : (c.calls.map Prod.fst)[i]? = some m := by
    rw [List.getElem?_map, hcall]
    rfl
  rw [moved, List.map_set]
  refine List.ext_getElem? fun j => ?_
  by_cases hj : i = j
  · subst hj
    rw [List.getElem?_set_self (List.getElem?_eq_some_iff.mp hm).1, hm]
  · rw [List.getElem?_set_ne hj]

/-- One message at most is added to those handed over. -/
theorem mem_handed_moved : (m', j) ∈ (c.moved i m s s' w).handed
      ↔ (m', j) ∈ c.handed ∨ (s.delivers = true ∧ m' = m ∧ j = i) := by
  by_cases hdelivers : s.delivers = true <;> simp [moved, hdelivers]

/-- A message that is handed over next has not been handed over. -/
theorem Rolled.not_mem (rolled : c.Rolled ms) (hcall : c.calls[i]? = some (m, s))
    (hdelivers : s.delivers = true) : (m, i) ∉ c.handed := by
  intro hmem
  obtain ⟨s₁, hs₁, hserved⟩ := (rolled.mem_iff m i).mp hmem
  obtain rfl := (Prod.mk.inj (Option.some.inj (hcall.symm.trans hs₁))).2
  rw [not_isServed_of_delivers hdelivers] at hserved
  exact absurd hserved (by simp)

theorem Rolled.nodup_moved (rolled : c.Rolled ms) (hcall : c.calls[i]? = some (m, s)) :
    (c.moved i m s s' w).handed.Nodup := by
  unfold moved
  dsimp only
  split
  · rename_i hdelivers
    have hnew : (m, i) ∉ c.handed := rolled.not_mem hcall hdelivers
    refine List.nodup_append.mpr ⟨rolled.nodup, List.nodup_singleton _, ?_⟩
    intro x hx y hy hxy
    obtain rfl := List.mem_singleton.mp hy
    exact hnew (hxy ▸ hx)
  · exact rolled.nodup

/-- Those handed over are those whose stage says so, also after a step. -/
theorem Rolled.mem_moved (rolled : c.Rolled ms) (hcall : c.calls[i]? = some (m, s))
    (hserved : s'.isServed = (s.isServed || s.delivers)) (m' : Message) (j : Nat) :
    (m', j) ∈ (c.moved i m s s' w).handed
      ↔ ∃ t, (c.moved i m s s' w).calls[j]? = some (m', t) ∧ t.isServed = true := by
  rw [mem_handed_moved, rolled.mem_iff]
  by_cases hj : j = i
  · subst hj
    rw [getElem?_moved_self hcall, hcall]
    constructor
    · rintro (⟨s₁, hs₁, hserved₁⟩ | ⟨hdelivers, rfl, -⟩)
      · obtain ⟨rfl, rfl⟩ := Prod.mk.inj (Option.some.inj hs₁)
        exact ⟨s', rfl, by simp [hserved, hserved₁]⟩
      · exact ⟨s', rfl, by simp [hserved, hdelivers]⟩
    · rintro ⟨s₁, hs₁, hserved₁⟩
      obtain ⟨rfl, rfl⟩ := Prod.mk.inj (Option.some.inj hs₁)
      rw [hserved, Bool.or_eq_true] at hserved₁
      exact hserved₁.imp (fun hs => ⟨s, rfl, hs⟩) fun hd => ⟨hd, rfl, rfl⟩
  · rw [getElem?_moved_ne hj]
    simp [hj]

/-- **Every turn keeps the roll.** -/
theorem Rolled.step (rolled : c.Rolled ms) (h : c.step k t = some c') : c'.Rolled ms := by
  rcases step_cases h with ⟨w, -, rfl⟩ | ⟨i, m, s, s', w, hcall, hstride, rfl⟩
  · exact ⟨rolled.messages, rolled.nodup, rolled.mem_iff⟩
  · have hserved := isServed_of_stride hstride
    exact ⟨(map_fst_moved hcall).trans rolled.messages, rolled.nodup_moved hcall,
      rolled.mem_moved hcall hserved⟩

/-! ## What a listener hears -/

/-- **A listener hears all that is handed over**: it is one of the chat, and it has been handed each
message once and in order, after what it had in the beginning. -/
structure Hears (w₀ : World) (id : ChatId) (w : World) (handed : List (Message × Nat))
    (l : String) : Prop where
  member : l ∈ w.members id
  received : w.received.filter (·.1 = l)
    = w₀.received.filter (·.1 = l) ++ handed.map fun x => (l, x.1)

variable {w₀ : World} {id : ChatId} {stream : String} {handed : List (Message × Nat)} {l : String}

theorem Hears.calm (h : Hears w₀ id w handed l) (hcalm : World.Calm id w w') :
    Hears w₀ id w' handed l where
  member := hcalm.members l h.member
  received := (hcalm.received l h.member).trans h.received

/-- News are nothing that a listener hears. -/
theorem Hears.told (h : Hears w₀ id w handed l) (observer stream : String) :
    Hears w₀ id (Company.told w observer stream) handed l := ⟨h.member, h.received⟩

/-- A message for each member of a roster is one message for a member. -/
theorem filter_members {r : Roster String} (hl : l ∈ r.members) (m : Message) :
    (r.members.map (·, m)).filter (·.1 = l) = [(l, m)] := by
  have hone : r.members.filter (fun x => decide (x = l)) = [l] := by
    rw [List.filter_eq, List.count_eq_one_of_mem r.distinct hl, List.replicate_one]
  rw [List.filter_map]
  change (r.members.filter fun x => decide (x = l)).map (·, m) = _
  rw [hone]
  rfl

/-- **A delivery is heard.** -/
theorem Hears.deliver (h : Hears w₀ id w handed l) (hosts : w.Hosts id stream) (i : Nat)
    (hcalm : World.Calm id ((w.onChat id fun c => { c with last := some m }).hear
      ((w.members id).map (·, m))) w') : Hears w₀ id w' (handed ++ [(m, i)]) l := by
  have hmember : l ∈ ((w.onChat id fun c => { c with last := some m }).hear
      ((w.members id).map (·, m))).members id := by
    change l ∈ ((w.directory.update id _).chat id).listeners.members
    rw [Directory.chat_update hosts.lt]
    exact h.member
  refine ⟨hcalm.members l hmember, ?_⟩
  rw [hcalm.received l hmember, World.hear, List.filter_append, World.onChat]
  change w.received.filter _ ++ _ = _
  rw [h.received, World.members, filter_members h.member, List.map_append, List.append_assoc]
  rfl

/-- A gate that is opened is no matter of who listens. -/
theorem Hears.openUp (h : Hears w₀ id w handed l) (hosts : w.Hosts id stream) :
    Hears w₀ id (w.onChat id fun c => { c with gateOpen := true }) handed l := by
  refine ⟨?_, h.received⟩
  rw [World.members, World.onChat, Directory.chat_update hosts.lt]
  exact h.member

/-- **A step of a message keeps a listener hearing** all that is handed over. -/
theorem Hears.stride (h : Hears w₀ id w handed l) (keeps : k.Keeps id stream)
    (modest : k.toCast.Modest) (hosts : w.Hosts id stream) (hm : m.stream = stream) (i : Nat)
    (about : s.IsAbout id) (hstride : Company.Stride k m w s (some s') w') :
    Hears w₀ id w' (if s.delivers then handed ++ [(m, i)] else handed) l := by
  subst hm
  cases hstride with
  | found => exact h
  | absent room outside alike => exact h.calm (alike.calm id)
  | enter => exact h
  | serve delivery =>
    obtain rfl : _ = id := about
    exact h.deliver hosts i (Company.calm_deliver keeps modest rfl hosts delivery)
  | wake alike => exact h.calm (alike.calm id)
  | join => exact h
  | make room => exact absurd (room.symm.trans hosts.room) (by simp)
  | announced => exact h
  | tell telling =>
    obtain rfl : _ = id := about
    obtain ⟨hcalm, -⟩ := Company.calm_inform keeps modest hosts telling
    exact (h.told _ _).calm hcalm
  | hand delivery =>
    obtain rfl : _ = id := about
    exact h.deliver hosts i (Company.calm_deliver keeps modest rfl hosts delivery)
  | openUp =>
    obtain rfl : _ = id := about
    exact h.openUp hosts

/-! ## The two phases -/

/-- **Nobody has come to a chat yet**, and nothing has happened. -/
structure Unseen (w₀ : World) (c : Crowd) : Prop where
  alike : w₀.Alike c.world
  outside : ∀ (i : Nat) (m : Message) (s : Stage), c.calls[i]? = some (m, s) → s.isOutside = true
  made : c.made = []
  handed : c.handed = []

/-- **Nothing has been handed over yet**: the gate is shut, and nobody has been handed anything
since the beginning. -/
structure Quiet (w₀ : World) (id : ChatId) (w : World) (handed : List (Message × Nat)) : Prop where
  shut : (w.directory.chat id).gateOpen = false
  none : handed = []
  last : (w.directory.chat id).last = Option.none
  received : w.received = w₀.received

/-- **How far the message is that has made the chat**, and which observers have not been told. -/
inductive Leading (w₀ : World) (id : ChatId) (w : World) (handed : List (Message × Nat))
    (first : Message × Nat) : Stage → List String → Prop
  | announcing {left : List String} (quiet : Quiet w₀ id w handed) :
      Leading w₀ id w handed first (.announcing id left) left
  | handing (quiet : Quiet w₀ id w handed) : Leading w₀ id w handed first (.handing id) []
  | opening {report : Report} (shut : (w.directory.chat id).gateOpen = false)
      (only : handed = [first]) : Leading w₀ id w handed first (.opening id report) []
  | answered {report : Report} (gate : (w.directory.chat id).gateOpen = true)
      (first_eq : handed.head? = some first) :
      Leading w₀ id w handed first (.answered report) []

/-- Whether a message may be at a stage that has not made the chat: it waits at the gate until that
is open. -/
def Follows (id : ChatId) (gate : Bool) : Stage → Prop
  | .gated a => a = id
  | .admitted a => a = id ∧ gate = true
  | .answered _ => gate = true
  | .fresh => True
  | .asleep _ _ => True
  | .knocking _ => True
  | _ => False

/-- **One message has made the chat and goes ahead of the others.** -/
structure Led (k : Company) (w₀ : World) (stream : String) (c : Crowd) (i : Nat) (m : Message)
    (s : Stage) (left : List String) : Prop where
  lead : c.calls[i]? = some (m, s)
  hosts : c.world.Hosts w₀.directory.nextId stream
  count : c.world.directory.chats.length = w₀.directory.chats.length + 1
  made : c.made = [i]
  leading : Leading w₀ w₀.directory.nextId c.world c.handed (m, i) s left
  told : ∃ done, w₀.directory.observers.members = done ++ left
    ∧ c.world.news = w₀.news ++ done.map (·, .arrived, stream)
    ∧ ∀ o ∈ done, ∀ l ∈ k.attaches? o, Hears w₀ w₀.directory.nextId c.world c.handed l
  others : ∀ (j : Nat) (m' : Message) (s' : Stage), j ≠ i → c.calls[j]? = some (m', s') →
    Follows w₀.directory.nextId (c.world.directory.chat w₀.directory.nextId).gateOpen s'

variable {first : Message × Nat} {left left' : List String}

theorem Leading.isAbout (h : Leading w₀ id w handed first s left) : s.IsAbout id := by
  cases h <;> simp [Stage.IsAbout]

theorem isAbout_of_follows {gate : Bool} (h : Follows id gate s) : s.IsAbout id := by
  cases s <;> simp_all [Follows, Stage.IsAbout]

/-- Every message is at no other chat than the one that was made. -/
theorem Led.isAbout (led : Led k w₀ stream c i m s left) (h : c.calls[j]? = some (m', s')) :
    s'.IsAbout w₀.directory.nextId := by
  by_cases hj : j = i
  · subst hj
    obtain ⟨-, rfl⟩ := Prod.mk.inj (Option.some.inj (h.symm.trans led.lead))
    exact led.leading.isAbout
  · exact isAbout_of_follows (led.others j m' s' hj h)

theorem Follows.mono {gate gate' : Bool} (h : Follows id gate s)
    (hgate : gate = true → gate' = true) : Follows id gate' s := by
  cases s <;> simp_all [Follows]

/-- **A crowd in one of its phases.** -/
def Orderly (k : Company) (w₀ : World) (stream : String) (c : Crowd) : Prop :=
  Unseen w₀ c ∨ ∃ i m s left, Led k w₀ stream c i m s left

/-- The chat that is made for a message. -/
theorem hosts_withChat {make : Chat} (absent : w₀.directory.rooms.find? stream = none)
    (hmake : make.stream = some stream ∧ make.last = none)
    (hdirectory : w.directory = Company.withChat w₀.directory stream make) :
    w.Hosts w₀.directory.nextId stream
      ∧ w.directory.chat w₀.directory.nextId = { make with gateOpen := false }
      ∧ w.directory.chats.length = w₀.directory.chats.length + 1 := by
  have hchat : w.directory.chat w₀.directory.nextId = { make with gateOpen := false } := by
    simp [hdirectory, Company.withChat, Directory.make, Directory.chat, Directory.nextId]
  have hcount : w.directory.chats.length = w₀.directory.chats.length + 1 := by
    simp [hdirectory, Company.withChat, Directory.make]
  refine ⟨⟨?_, ?_, ?_, ?_⟩, hchat, hcount⟩
  · rw [hdirectory]
    exact Rooms.find?_insert_self _ absent
  · rw [hcount]
    exact Nat.lt_succ_self _
  · rw [hchat]
    exact hmake.1
  · rw [hchat]
    exact fun m hm => absurd (hmake.2.symm.trans hm) (by simp)

/-- A crowd stays unseen while its messages only go about outside. -/
theorem Unseen.moved (unseen : Unseen w₀ c) (hcall : c.calls[i]? = some (m, s))
    (outside : s'.isOutside = true) (alike : c.world.Alike w) : Unseen w₀ (c.moved i m s s' w) := by
  have houtside : s.isOutside = true := unseen.outside i m s hcall
  refine ⟨unseen.alike.trans alike, fun j m' t hj => ?_, ?_, ?_⟩
  · rcases getElem?_moved hcall hj with ⟨-, -, rfl⟩ | ⟨-, hj⟩
    · exact outside
    · exact unseen.outside j m' t hj
  · have hmakes : s.makes s' = false := by
      cases s <;> cases s' <;> simp_all [Stage.makes, Stage.isOutside]
    simp [Crowd.moved, hmakes, unseen.made]
  · have hdelivers : s.delivers = false := by cases s <;> simp_all [Stage.delivers, Stage.isOutside]
    simp [Crowd.moved, hdelivers, unseen.handed]

/-- **Somebody makes the chat** and goes ahead, with all observers to be told. -/
theorem Unseen.make {sender : Option User} (unseen : Unseen w₀ c)
    (absent : w₀.directory.rooms.find? m.stream = none)
    (hcall : c.calls[i]? = some (m, .knocking sender))
    (hmade : w.directory
      = Company.withChat w₀.directory m.stream (Company.chatFor w₀.directory.owner m sender))
    (hnews : w.news = c.world.news) (hreceived : w.received = c.world.received) :
    Led k w₀ m.stream (c.moved i m (.knocking sender)
        (.announcing w₀.directory.nextId w₀.directory.observers.members) w) i m
      (.announcing w₀.directory.nextId w₀.directory.observers.members)
      w₀.directory.observers.members := by
  obtain ⟨hosts, hchat, hcount⟩ := hosts_withChat absent ⟨rfl, rfl⟩ hmade
  refine ⟨getElem?_moved_self hcall, hosts, hcount, ?_, .announcing ⟨?_, ?_, ?_, ?_⟩,
    ⟨[], rfl, ?_, by simp⟩, ?_⟩
  · simp [Crowd.moved, Stage.makes, unseen.made]
  · simp [Crowd.moved, hchat]
  · simp [Crowd.moved, Stage.delivers, unseen.handed]
  · simp [Crowd.moved, hchat, Company.chatFor, Chat.between, Chat.fresh]
  · exact hreceived.trans unseen.alike.received
  · simpa [Crowd.moved] using hnews.trans unseen.alike.news
  · intro j m' t hj hcall'
    rw [getElem?_moved_ne hj] at hcall'
    have houtside : t.isOutside = true := unseen.outside j m' t hcall'
    cases t <;> simp_all [Follows, Stage.isOutside]

/-- **The first step to a chat**: nobody comes to one, or somebody makes it. -/
theorem Unseen.step (unseen : Unseen w₀ c) (absent : w₀.directory.rooms.find? stream = none)
    (hm : m.stream = stream) (hcall : c.calls[i]? = some (m, s))
    (hstride : Company.Stride k m c.world s (some s') w) :
    Orderly k w₀ stream (c.moved i m s s' w) := by
  subst hm
  have houtside : s.isOutside = true := unseen.outside i m s hcall
  have hdirectory := unseen.alike.directory
  cases hstride with
  | found room => exact absurd (room.symm.trans (hdirectory ▸ absent)) (by simp)
  | absent room outside alike => exact .inl (unseen.moved hcall outside alike)
  | wake alike => exact .inl (unseen.moved hcall rfl alike)
  | join room => exact absurd (room.symm.trans (hdirectory ▸ absent)) (by simp)
  | make room hmade news received =>
    rw [hdirectory] at hmade ⊢
    exact .inr ⟨i, m, _, _, unseen.make absent hcall hmade news received⟩
  | _ => simp [Stage.isOutside] at houtside

theorem Quiet.told (h : Quiet w₀ id w handed) (observer stream : String) :
    Quiet w₀ id (Company.told w observer stream) handed := ⟨h.shut, h.none, h.last, h.received⟩

theorem Quiet.calm (h : Quiet w₀ id w handed) (hcalm : World.Calm id w w') :
    Quiet w₀ id w' handed where
  shut := hcalm.gate.trans h.shut
  none := h.none
  last := hcalm.last.trans h.last
  received := (hcalm.silent h.last).trans h.received

/-- Who listens while nothing has been handed over has heard all of it. -/
theorem Quiet.hears (h : Quiet w₀ id w handed) (hl : l ∈ w.members id) :
    Hears w₀ id w handed l where
  member := hl
  received := by rw [h.received, h.none, List.map_nil, List.append_nil]

/-- What is calm leads on as before. -/
theorem Leading.calm (h : Leading w₀ id w handed first s left) (hcalm : World.Calm id w w') :
    Leading w₀ id w' handed first s left := by
  cases h with
  | announcing quiet => exact .announcing (quiet.calm hcalm)
  | handing quiet => exact .handing (quiet.calm hcalm)
  | opening shut only => exact .opening (hcalm.gate.trans shut) only
  | answered gate first_eq => exact .answered (hcalm.gate.trans gate) first_eq

/-- When the gate is open, one more is handed over behind the one that leads. -/
theorem Leading.deliver (h : Leading w₀ id w handed first s left)
    (gate : (w.directory.chat id).gateOpen = true)
    (gate' : (w'.directory.chat id).gateOpen = true) (x : Message × Nat) :
    Leading w₀ id w' (handed ++ [x]) first s left := by
  cases h with
  | announcing quiet => simp [quiet.shut] at gate
  | handing quiet => simp [quiet.shut] at gate
  | opening shut only => simp [shut] at gate
  | answered _ first_eq => exact .answered gate' (by simp [first_eq])

theorem makes_eq_false_of_follows {gate : Bool} (h : Follows id gate s') : s.makes s' = false := by
  cases s <;> cases s' <;> simp_all [Follows, Stage.makes]

/-- **Time may go by.** -/
theorem Led.calm (led : Led k w₀ stream c i m s left)
    (hcalm : World.Calm w₀.directory.nextId c.world w) :
    Led k w₀ stream { c with world := w } i m s left where
  lead := led.lead
  hosts := hcalm.hosts led.hosts
  count := hcalm.count.trans led.count
  made := led.made
  leading := led.leading.calm hcalm
  told := by
    obtain ⟨done, hdone, hnews, hhears⟩ := led.told
    exact ⟨done, hdone, hcalm.news.trans hnews, fun o ho l hl => (hhears o ho l hl).calm hcalm⟩
  others := by
    intro j m' s' hj hcall
    rw [hcalm.gate]
    exact led.others j m' s' hj hcall

/-- Who hears goes on hearing when any message takes a step. -/
theorem Led.hears (led : Led k w₀ stream c i m s left)
    (keeps : k.Keeps w₀.directory.nextId stream) (modest : k.toCast.Modest)
    (hm : m'.stream = stream) (hcall : c.calls[j]? = some (m', s₁))
    (hstride : Company.Stride k m' c.world s₁ (some s₂) w)
    (hl : Hears w₀ w₀.directory.nextId c.world c.handed l) :
    Hears w₀ w₀.directory.nextId w (c.moved j m' s₁ s₂ w).handed l :=
  hl.stride keeps modest led.hosts hm j (led.isAbout hcall) hstride

/-- A message that has not made the chat comes to another stage. -/
theorem Led.follow (led : Led k w₀ stream c i m s left) (hj : j ≠ i)
    (hcall : c.calls[j]? = some (m', s₁)) (hosts : w.Hosts w₀.directory.nextId stream)
    (hcount : w.directory.chats.length = c.world.directory.chats.length)
    (hnews : w.news = c.world.news)
    (hgate : (w.directory.chat w₀.directory.nextId).gateOpen
      = (c.world.directory.chat w₀.directory.nextId).gateOpen)
    (hleading : Leading w₀ w₀.directory.nextId w (c.moved j m' s₁ s₂ w).handed (m, i) s left)
    (hhears : ∀ l, Hears w₀ w₀.directory.nextId c.world c.handed l →
      Hears w₀ w₀.directory.nextId w (c.moved j m' s₁ s₂ w).handed l)
    (hfollows : Follows w₀.directory.nextId
      (c.world.directory.chat w₀.directory.nextId).gateOpen s₂) :
    Led k w₀ stream (c.moved j m' s₁ s₂ w) i m s left where
  lead := by rw [getElem?_moved_ne (Ne.symm hj), led.lead]
  hosts := hosts
  count := hcount.trans led.count
  made := by
    rw [moved, makes_eq_false_of_follows hfollows]
    exact led.made
  leading := hleading
  told := by
    obtain ⟨done, hdone, hold, hheard⟩ := led.told
    exact ⟨done, hdone, hnews.trans hold, fun o ho l hl => hhears l (hheard o ho l hl)⟩
  others := by
    intro n m₁ t hn hcall'
    change Follows _ (w.directory.chat _).gateOpen t
    rw [hgate]
    rcases getElem?_moved hcall hcall' with ⟨-, -, rfl⟩ | ⟨-, hcall'⟩
    · exact hfollows
    · exact led.others n m₁ t hn hcall'

/-- A message goes on outside of the chat, or comes to its gate. -/
theorem Led.follow_alike (led : Led k w₀ stream c i m s left) (hj : j ≠ i)
    (hcall : c.calls[j]? = some (m', s₁)) (hdelivers : s₁.delivers = false)
    (halike : c.world.Alike w) (hfollows : Follows w₀.directory.nextId
      (c.world.directory.chat w₀.directory.nextId).gateOpen s₂) :
    Led k w₀ stream (c.moved j m' s₁ s₂ w) i m s left := by
  have hcalm := halike.calm w₀.directory.nextId
  have hhanded : (c.moved j m' s₁ s₂ w).handed = c.handed := by simp [moved, hdelivers]
  refine led.follow hj hcall (hcalm.hosts led.hosts) hcalm.count hcalm.news hcalm.gate ?_ ?_
    hfollows
  · rw [hhanded]
    exact led.leading.calm hcalm
  · rw [hhanded]
    exact fun l hl => hl.calm hcalm

/-- **A message that has not made the chat takes a step.** -/
theorem Led.step_other (led : Led k w₀ stream c i m s left)
    (keeps : k.Keeps w₀.directory.nextId stream) (modest : k.toCast.Modest) (hj : j ≠ i)
    (hm : m'.stream = stream) (hcall : c.calls[j]? = some (m', s₁))
    (hstride : Company.Stride k m' c.world s₁ (some s₂) w) :
    Led k w₀ stream (c.moved j m' s₁ s₂ w) i m s left := by
  have hfollows := led.others j m' s₁ hj hcall
  have room : ∀ a, c.world.directory.rooms.find? m'.stream = some a → a = w₀.directory.nextId :=
    fun a ha => Option.some.inj (ha.symm.trans (hm ▸ led.hosts.room))
  have taken : c.world.directory.rooms.find? m'.stream ≠ none := by
    rw [hm, led.hosts.room]
    simp
  cases hstride with
  | found hroom => exact led.follow_alike hj hcall rfl (.refl _) (room _ hroom)
  | absent hroom => exact absurd hroom taken
  | enter gate =>
    obtain rfl : _ = w₀.directory.nextId := hfollows
    exact led.follow_alike hj hcall rfl (.refl _) ⟨rfl, gate⟩
  | serve delivery =>
    obtain ⟨rfl, gate⟩ := hfollows
    obtain ⟨hosts, hcount, hnews, hgate⟩ :=
      Company.frame_deliver keeps modest hm led.hosts delivery
    refine led.follow hj hcall hosts hcount hnews hgate ?_ ?_ gate
    · exact led.leading.deliver gate (hgate.trans gate) (m', j)
    · exact fun l => led.hears keeps modest hm hcall (.serve delivery)
  | wake halike => exact led.follow_alike hj hcall rfl halike trivial
  | join hroom => exact led.follow_alike hj hcall rfl (.refl _) (room _ hroom)
  | make hroom => exact absurd hroom taken
  | announced => exact hfollows.elim
  | tell => exact hfollows.elim
  | hand => exact hfollows.elim
  | openUp => exact hfollows.elim

/-- The message that has made the chat comes to another stage. -/
theorem Led.advance (led : Led k w₀ stream c i m s left)
    (hosts : w.Hosts w₀.directory.nextId stream)
    (hcount : w.directory.chats.length = c.world.directory.chats.length)
    (hmakes : s.makes s' = false)
    (hleading : Leading w₀ w₀.directory.nextId w (c.moved i m s s' w).handed (m, i) s' left')
    (htold : ∃ done, w₀.directory.observers.members = done ++ left'
      ∧ w.news = w₀.news ++ done.map (·, .arrived, stream)
      ∧ ∀ o ∈ done, ∀ l ∈ k.attaches? o,
        Hears w₀ w₀.directory.nextId w (c.moved i m s s' w).handed l)
    (hgate : (c.world.directory.chat w₀.directory.nextId).gateOpen = true →
      (w.directory.chat w₀.directory.nextId).gateOpen = true) :
    Led k w₀ stream (c.moved i m s s' w) i m s' left' where
  lead := getElem?_moved_self led.lead
  hosts := hosts
  count := hcount.trans led.count
  made := by
    rw [moved, hmakes]
    exact led.made
  leading := hleading
  told := htold
  others := by
    intro j m' t hj hcall
    rw [getElem?_moved_ne hj] at hcall
    exact (led.others j m' t hj hcall).mono hgate

/-- The observers that have been told hear on when the message that goes ahead takes a step. -/
theorem Led.told_moved (led : Led k w₀ stream c i m s left)
    (keeps : k.Keeps w₀.directory.nextId stream) (modest : k.toCast.Modest)
    (hm : m.stream = stream) (hstride : Company.Stride k m c.world s (some s') w) :
    ∃ done, w₀.directory.observers.members = done ++ left
      ∧ c.world.news = w₀.news ++ done.map (·, .arrived, stream)
      ∧ ∀ o ∈ done, ∀ l ∈ k.attaches? o,
        Hears w₀ w₀.directory.nextId w (c.moved i m s s' w).handed l := by
  obtain ⟨done, hdone, hnews, hheard⟩ := led.told
  refine ⟨done, hdone, hnews, ?_⟩
  intro o ho l hl
  exact led.hears keeps modest hm led.lead hstride (hheard o ho l hl)

/-- **One more observer is told.** -/
theorem Led.tell {o : String} {os : List String} {u : Unit}
    (led : Led k w₀ stream c i m (.announcing w₀.directory.nextId (o :: os)) (o :: os))
    (keeps : k.Keeps w₀.directory.nextId stream) (modest : k.toCast.Modest)
    (hm : m.stream = stream) (quiet : Quiet w₀ w₀.directory.nextId c.world c.handed)
    (telling : (k.inform o .arrived w₀.directory.nextId).run c.world = some (u, w)) :
    Led k w₀ stream (c.moved i m (.announcing w₀.directory.nextId (o :: os))
      (.announcing w₀.directory.nextId os) w) i m (.announcing w₀.directory.nextId os) os := by
  obtain ⟨done, hdone, hnews, hheard⟩ := led.told_moved keeps modest hm (.tell telling)
  obtain ⟨hcalm, hattach⟩ := Company.calm_inform keeps modest led.hosts telling
  have hosts : (Company.told c.world o stream).Hosts w₀.directory.nextId stream :=
    led.hosts.of_directory rfl
  have hquiet : Quiet w₀ w₀.directory.nextId w c.handed := (quiet.told o stream).calm hcalm
  refine led.advance (hcalm.hosts hosts) hcalm.count rfl (.announcing hquiet)
    ⟨done ++ [o], by simp [hdone], ?_, ?_⟩ fun gate => hcalm.gate.trans gate
  · rw [hcalm.news, Company.told, hnews]
    simp
  · intro o' ho' l hl
    rcases List.mem_append.mp ho' with ho' | ho'
    · exact hheard o' ho' l hl
    · obtain rfl := List.mem_singleton.mp ho'
      exact hquiet.hears (hattach l hl)

/-- **The message that has made the chat is the first one to be handed over.** -/
theorem Led.hand {report : Report} (led : Led k w₀ stream c i m (.handing w₀.directory.nextId) [])
    (keeps : k.Keeps w₀.directory.nextId stream) (modest : k.toCast.Modest)
    (hm : m.stream = stream) (quiet : Quiet w₀ w₀.directory.nextId c.world c.handed)
    (delivery : (k.deliver w₀.directory.nextId m).run c.world = some (report, w)) :
    Led k w₀ stream (c.moved i m (.handing w₀.directory.nextId)
      (.opening w₀.directory.nextId report) w) i m (.opening w₀.directory.nextId report) [] := by
  obtain ⟨done, hdone, hnews, hheard⟩ := led.told_moved keeps modest hm (.hand delivery)
  obtain ⟨hosts, hcount, hsame, hgate⟩ :=
    Company.frame_deliver keeps modest hm led.hosts delivery
  have honly : (c.moved i m (.handing w₀.directory.nextId)
      (.opening w₀.directory.nextId report) w).handed = [(m, i)] := by
    simp [moved, Stage.delivers, quiet.none]
  exact led.advance hosts hcount rfl (.opening (hgate.trans quiet.shut) honly)
    ⟨done, hdone, hsame.trans hnews, hheard⟩ fun gate => hgate.trans gate

/-- **The gate is opened** when all that has been done. -/
theorem Led.openUp {report : Report}
    (led : Led k w₀ stream c i m (.opening w₀.directory.nextId report) [])
    (keeps : k.Keeps w₀.directory.nextId stream) (modest : k.toCast.Modest)
    (hm : m.stream = stream) (only : c.handed = [(m, i)]) :
    Led k w₀ stream (c.moved i m (.opening w₀.directory.nextId report) (.answered report)
      (c.world.onChat w₀.directory.nextId fun c => { c with gateOpen := true })) i m
      (.answered report) [] := by
  obtain ⟨done, hdone, hnews, hheard⟩ := led.told_moved keeps modest hm .openUp
  have gate : ((c.world.onChat w₀.directory.nextId fun c => { c with gateOpen := true
      }).directory.chat w₀.directory.nextId).gateOpen = true := by
    rw [World.onChat, Directory.chat_update led.hosts.lt]
  have hosts := led.hosts.onChat (f := fun c => { c with gateOpen := true }) (fun _ => rfl)
    led.hosts.last
  have hfirst : (c.moved i m (.opening w₀.directory.nextId report) (.answered report)
      (c.world.onChat w₀.directory.nextId fun c => { c with gateOpen := true })).handed.head?
        = some (m, i) := by
    simp [moved, Stage.delivers, only]
  exact led.advance hosts (Directory.length_update _ _ _) rfl (.answered gate hfirst)
    ⟨done, hdone, hnews, hheard⟩ fun _ => gate

/-- **The message that has made the chat takes a step.** -/
theorem Led.step_lead (led : Led k w₀ stream c i m s left)
    (keeps : k.Keeps w₀.directory.nextId stream) (modest : k.toCast.Modest)
    (hm : m.stream = stream) (hstride : Company.Stride k m c.world s (some s') w) :
    ∃ left', Led k w₀ stream (c.moved i m s s' w) i m s' left' := by
  have hleading := led.leading
  cases hleading with
  | announcing quiet =>
    cases hstride with
    | announced =>
      have htold := led.told_moved keeps modest hm .announced
      exact ⟨[], led.advance led.hosts rfl rfl (.handing quiet) htold id⟩
    | @tell _ o os u _ telling => exact ⟨os, led.tell keeps modest hm quiet telling⟩
  | handing quiet =>
    cases hstride with
    | hand delivery => exact ⟨[], led.hand keeps modest hm quiet delivery⟩
  | opening shut only =>
    cases hstride with
    | openUp => exact ⟨[], led.openUp keeps modest hm only⟩
  | answered gate first_eq => cases hstride

/-! ## Any turns in any order -/

/-- Whose stream a message is on can be read from the roll. -/
theorem Rolled.stream_eq (rolled : c.Rolled ms) (here : ∀ m ∈ ms, m.stream = stream)
    (hcall : c.calls[i]? = some (m, s)) : m.stream = stream := by
  refine here m ?_
  rw [← rolled.messages]
  exact List.mem_map.mpr ⟨(m, s), List.mem_of_getElem? hcall, rfl⟩

/-- **Once a message leads, it does so for ever**, and who hears goes on hearing. -/
theorem Led.step (led : Led k w₀ stream c i m s left) (rolled : c.Rolled ms)
    (here : ∀ m ∈ ms, m.stream = stream) (keeps : k.Keeps w₀.directory.nextId stream)
    (modest : k.toCast.Modest) (h : c.step k t = some c') :
    (∃ s' left', Led k w₀ stream c' i m s' left')
      ∧ ∀ l, Hears w₀ w₀.directory.nextId c.world c.handed l →
        Hears w₀ w₀.directory.nextId c'.world c'.handed l := by
  rcases step_cases h with ⟨w, alike, rfl⟩ | ⟨j, m', s₁, s₂, w, hcall, hstride, rfl⟩
  · exact ⟨⟨s, left, led.calm (alike.calm _)⟩, fun l hl => hl.calm (alike.calm _)⟩
  · have hm : m'.stream = stream := rolled.stream_eq here hcall
    refine ⟨?_, fun l hl => hl.stride keeps modest led.hosts hm j (led.isAbout hcall) hstride⟩
    by_cases hj : j = i
    · subst hj
      obtain ⟨rfl, rfl⟩ := Prod.mk.inj (Option.some.inj (hcall.symm.trans led.lead))
      obtain ⟨left', led'⟩ := led.step_lead keeps modest hm hstride
      exact ⟨s₂, left', led'⟩
    · exact ⟨s, left, led.step_other keeps modest hj hm hcall hstride⟩

/-- **Every turn keeps a crowd in order.** -/
theorem Orderly.step (orderly : Orderly k w₀ stream c) (rolled : c.Rolled ms)
    (here : ∀ m ∈ ms, m.stream = stream) (absent : w₀.directory.rooms.find? stream = none)
    (keeps : k.Keeps w₀.directory.nextId stream) (modest : k.toCast.Modest)
    (h : c.step k t = some c') : Orderly k w₀ stream c' := by
  rcases orderly with unseen | ⟨i, m, s, left, led⟩
  · rcases step_cases h with ⟨w, alike, rfl⟩ | ⟨i, m, s, s', w, hcall, hstride, rfl⟩
    · exact .inl ⟨unseen.alike.trans alike, unseen.outside, unseen.made, unseen.handed⟩
    · exact unseen.step absent (rolled.stream_eq here hcall) hcall hstride
  · obtain ⟨⟨s', left', led'⟩, -⟩ := led.step rolled here keeps modest h
    exact .inr ⟨i, m, s', left', led'⟩

/-- **A crowd is in order along any turns.** -/
theorem Orderly.run {turns : List Turn} (orderly : Orderly k w₀ stream c) (rolled : c.Rolled ms)
    (here : ∀ m ∈ ms, m.stream = stream) (absent : w₀.directory.rooms.find? stream = none)
    (keeps : k.Keeps w₀.directory.nextId stream) (modest : k.toCast.Modest)
    (h : c.run k turns = some c') : c'.Rolled ms ∧ Orderly k w₀ stream c' := by
  refine foldlM_keeps (P := fun c => c.Rolled ms ∧ Orderly k w₀ stream c) ?_ ⟨rolled, orderly⟩ h
  rintro t - b b' ⟨hrolled, horderly⟩ hstep
  exact ⟨hrolled.step hstep, horderly.step hrolled here absent keeps modest hstep⟩

/-- **Who hears goes on hearing along any turns.** -/
theorem Hears.run {turns : List Turn} (hears : Hears w₀ w₀.directory.nextId c.world c.handed l)
    (led : ∃ i m s left, Led k w₀ stream c i m s left) (rolled : c.Rolled ms)
    (here : ∀ m ∈ ms, m.stream = stream) (keeps : k.Keeps w₀.directory.nextId stream)
    (modest : k.toCast.Modest) (h : c.run k turns = some c') :
    Hears w₀ w₀.directory.nextId c'.world c'.handed l := by
  refine (foldlM_keeps (P := fun c => Hears w₀ w₀.directory.nextId c.world c.handed l
    ∧ (∃ i m s left, Led k w₀ stream c i m s left) ∧ c.Rolled ms) ?_ ⟨hears, led, rolled⟩ h).1
  rintro t - b b' ⟨hhears, ⟨i, m, s, left, hled⟩, hrolled⟩ hstep
  obtain ⟨⟨s', left', hled'⟩, hkeep⟩ := hled.step hrolled here keeps modest hstep
  exact ⟨hkeep l hhears, ⟨i, m, s', left', hled'⟩, hrolled.step hstep⟩

/-- A crowd that has just come is in order. -/
theorem orderly_gather (w : World) (ms : List Message) : Orderly k w stream (gather w ms) := by
  refine .inl ⟨.refl w, fun i m s h => ?_, rfl, rfl⟩
  obtain ⟨m', -, hm⟩ := List.mem_map.mp (List.mem_of_getElem? h)
  obtain ⟨-, rfl⟩ := Prod.mk.inj hm
  rfl

variable (k w₀)

/-- **Whom the observers have registered**: a listener that an observer registers on every new chat,
or one that is there at a moment at which observers are being told. -/
def Enlisted (ms : List Message) (turns : List Turn) (l : String) : Prop :=
  (∃ o ∈ w₀.directory.observers.members, k.attaches? o = some l)
    ∨ ∃ (before after : List Turn) (c : Crowd) (i : Nat) (m : Message) (id : ChatId)
        (left : List String), turns = before ++ after ∧ (gather w₀ ms).run k before = some c
      ∧ c.calls[i]? = some (m, .announcing id left) ∧ l ∈ c.world.members id

variable {k w₀}

/-- **While observers are being told nothing has been handed over**, and who listens then hears all
that is. -/
theorem Orderly.hears {a : ChatId} (orderly : Orderly k w₀ stream c)
    (hcall : c.calls[i]? = some (m, .announcing a left)) (hl : l ∈ c.world.members a) :
    Hears w₀ w₀.directory.nextId c.world c.handed l
      ∧ ∃ i m s left, Led k w₀ stream c i m s left := by
  rcases orderly with unseen | ⟨j, m', s, left', led⟩
  · exact absurd (unseen.outside i m _ hcall) (by simp [Stage.isOutside])
  · by_cases hi : i = j
    · subst hi
      obtain ⟨-, rfl⟩ := Prod.mk.inj (Option.some.inj (hcall.symm.trans led.lead))
      have hleading := led.leading
      cases hleading with
      | announcing quiet => exact ⟨quiet.hears hl, i, m', _, _, led⟩
    · exact (led.others i m _ hi hcall).elim

/-- **Whom the observers have registered hears all**, when there is nobody left to tell. -/
theorem hears_of_enlisted {turns : List Turn} (here : ∀ m ∈ ms, m.stream = stream)
    (absent : w₀.directory.rooms.find? stream = none) (keeps : k.Keeps w₀.directory.nextId stream)
    (modest : k.toCast.Modest) (h : (gather w₀ ms).run k turns = some c)
    (led : Led k w₀ stream c i m s []) (enlisted : Enlisted k w₀ ms turns l) :
    Hears w₀ w₀.directory.nextId c.world c.handed l := by
  rcases enlisted with ⟨o, ho, hl⟩ | ⟨before, after, b, j, m', a, left, rfl, hbefore, hcall, hl⟩
  · obtain ⟨done, hdone, -, hheard⟩ := led.told
    rw [List.append_nil] at hdone
    exact hheard o (hdone ▸ ho) l hl
  · obtain ⟨rolled, orderly⟩ :=
      (orderly_gather w₀ ms).run (rolled_gather w₀ ms) here absent keeps modest hbefore
    obtain ⟨hears, hled⟩ := orderly.hears hcall hl
    obtain ⟨b', hb', hafter⟩ := foldlM_append.mp h
    obtain rfl := Option.some.inj (hbefore.symm.trans hb')
    exact hears.run hled rolled here keeps modest hafter

/-- **When all are answered, the roll has everyone**, each once. -/
theorem Rolled.perm (rolled : c.Rolled ms) (done : ∀ x ∈ c.calls, x.2.isAnswered = true) :
    c.handed.Perm ms.zipIdx := by
  have hplaces : ms.zipIdx.Nodup := (List.nodup_zipIdx_map_snd ms).of_map _
  refine (List.perm_ext_iff_of_nodup rolled.nodup hplaces).mpr ?_
  rintro ⟨m, i⟩
  rw [rolled.mem_iff, List.mk_mem_zipIdx_iff_getElem?, ← rolled.messages, List.getElem?_map,
    Option.map_eq_some_iff]
  constructor
  · rintro ⟨s, hs, -⟩
    exact ⟨(m, s), hs, rfl⟩
  · rintro ⟨⟨m', s⟩, hs, rfl⟩
    have hanswered : s.isAnswered = true := done _ (List.mem_of_getElem? hs)
    exact ⟨s, hs, by cases s <;> simp_all [Stage.isAnswered, Stage.isServed]⟩

/-- The one that leads is through when nobody is making a chat. -/
theorem Leading.of_not_isCreating (h : Leading w₀ id w handed first s left)
    (hs : s.isCreating = false) :
    left = [] ∧ (w.directory.chat id).gateOpen = true ∧ handed.head? = some first := by
  cases h with
  | answered gate first_eq => exact ⟨rfl, gate, first_eq⟩
  | _ => simp [Stage.isCreating] at hs

/-- Whom nobody has to wait for enters. -/
theorem Orderly.enters (orderly : Orderly k w₀ stream c)
    (nobody : ∀ x ∈ c.calls, x.2.isCreating = false) {a : ChatId}
    (hcall : (m, .gated a) ∈ c.calls) :
    (k.step m (.gated a)).run c.world = some (some (.admitted a), c.world) := by
  obtain ⟨j, hj⟩ := List.mem_iff_getElem?.mp hcall
  rcases orderly with unseen | ⟨i, m', s, left, led⟩
  · exact absurd (unseen.outside j m _ hj) (by simp [Stage.isOutside])
  · obtain ⟨-, gate, -⟩ :=
      led.leading.of_not_isCreating (nobody _ (List.mem_of_getElem? led.lead))
    obtain rfl : a = w₀.directory.nextId := led.isAbout hj
    unfold Company.step
    rw [Run.run_chat_bind, gate]
    rfl

/-- When no observer is left, each has been told once, and nobody is telling any more. -/
theorem Led.all_told (led : Led k w₀ stream c i m s []) (hs : ∀ a left, s ≠ .announcing a left) :
    c.world.news = w₀.news ++ w₀.directory.observers.members.map (·, .arrived, stream)
      ∧ ∀ x ∈ c.calls, ∀ a left, x.2 ≠ .announcing a left := by
  obtain ⟨done, hdone, hnews, -⟩ := led.told
  rw [List.append_nil] at hdone
  refine ⟨hdone ▸ hnews, ?_⟩
  intro x hx a left hx'
  obtain ⟨j, hj⟩ := List.mem_iff_getElem?.mp hx
  by_cases hji : j = i
  · subst hji
    obtain rfl := Option.some.inj (hj.symm.trans led.lead)
    exact hs a left hx'
  · have hfollows := led.others j x.1 x.2 hji hj
    rw [hx'] at hfollows
    exact hfollows

/-- **Before all observers have been told nothing is handed over.** -/
theorem Orderly.silent_or_told (orderly : Orderly k w₀ stream c) :
    (c.handed = [] ∧ c.world.received = w₀.received)
      ∨ (c.world.news = w₀.news ++ w₀.directory.observers.members.map (·, .arrived, stream)
        ∧ ∀ x ∈ c.calls, ∀ a left, x.2 ≠ .announcing a left) := by
  rcases orderly with unseen | ⟨i, m, s, left, led⟩
  · exact .inl ⟨unseen.handed, unseen.alike.received⟩
  · have hleading := led.leading
    cases hleading with
    | announcing quiet => exact .inl ⟨quiet.none, quiet.received⟩
    | handing quiet => exact .inl ⟨quiet.none, quiet.received⟩
    | opening => exact .inr (led.all_told fun a left h => nomatch h)
    | answered => exact .inr (led.all_told fun a left h => nomatch h)

/-- Where nobody has come to a chat nobody is answered. -/
theorem Unseen.not_answered (unseen : Unseen w₀ c) (rolled : c.Rolled ms) (hne : ms ≠ []) :
    ¬ ∀ x ∈ c.calls, x.2.isAnswered = true := by
  intro answered
  obtain ⟨m, ms', rfl⟩ := List.exists_cons_of_ne_nil hne
  have hfirst : (c.calls.map Prod.fst)[0]? = some m := by
    rw [rolled.messages]
    rfl
  rw [List.getElem?_map, Option.map_eq_some_iff] at hfirst
  obtain ⟨⟨m', s⟩, hcall, -⟩ := hfirst
  have houtside : s.isOutside = true := unseen.outside 0 m' s hcall
  have hanswered : s.isAnswered = true := answered _ (List.mem_of_getElem? hcall)
  cases s <;> simp_all [Stage.isOutside, Stage.isAnswered]

/-- **Messages that come at once to a stream without a chat make one chat, and all of it hears
all.** Whatever the turns, when callbacks only register listeners:

* Nothing is handed over before every observer has been told of the chat, once, and nobody is handed
  anything meanwhile.
* Nobody has to wait at the gate unless the one that has made the chat is between making it and
  opening the gate.
* When all are answered, one of them has made the chat, it was handed over first, each was handed
  over once, and every listener that an observer registered was handed all of them in that order. -/
theorem one_chat_hears_all {cast : Cast} {depth : Nat} (modest : cast.Modest) {w₀ : World}
    {stream : String} {ms : List Message} (absent : w₀.directory.rooms.find? stream = none)
    (here : ∀ m ∈ ms, m.stream = stream) {turns : List Turn} {c : Crowd}
    (h : (gather w₀ ms).run (cast.company depth) turns = some c) :
    ((c.handed = [] ∧ c.world.received = w₀.received)
        ∨ (c.world.news = w₀.news ++ w₀.directory.observers.members.map (·, .arrived, stream)
          ∧ ∀ x ∈ c.calls, ∀ a left, x.2 ≠ .announcing a left))
      ∧ ((∀ x ∈ c.calls, x.2.isCreating = false) → ∀ m a, (m, .gated a) ∈ c.calls →
        ((cast.company depth).step m (.gated a)).run c.world = some (some (.admitted a), c.world))
      ∧ (ms ≠ [] → (∀ x ∈ c.calls, x.2.isAnswered = true) →
        ∃ i m, c.made = [i] ∧ c.handed.head? = some (m, i) ∧ c.handed.Perm ms.zipIdx
          ∧ c.world.directory.rooms.find? stream = some w₀.directory.nextId
          ∧ c.world.directory.chats.length = w₀.directory.chats.length + 1
          ∧ c.world.news = w₀.news ++ w₀.directory.observers.members.map (·, .arrived, stream)
          ∧ ∀ l, Enlisted (cast.company depth) w₀ ms turns l →
            c.world.received.filter (·.1 = l)
              = w₀.received.filter (·.1 = l) ++ c.handed.map fun x => (l, x.1)) := by
  have keeps := modest.keeps depth w₀.directory.nextId stream
  obtain ⟨rolled, orderly⟩ :=
    (orderly_gather w₀ ms).run (rolled_gather w₀ ms) here absent keeps modest h
  refine ⟨orderly.silent_or_told, fun nobody m a hcall => orderly.enters nobody hcall,
    fun hne answered => ?_⟩
  rcases orderly with unseen | ⟨i, m, s, left, led⟩
  · exact absurd answered (unseen.not_answered rolled hne)
  · have hanswered : s.isAnswered = true := answered _ (List.mem_of_getElem? led.lead)
    have hdone : s.isCreating = false := by
      cases s <;> simp_all [Stage.isAnswered, Stage.isCreating]
    obtain ⟨rfl, -, hfirst⟩ := led.leading.of_not_isCreating hdone
    obtain ⟨told, htold, hnews, -⟩ := led.told
    rw [List.append_nil] at htold
    exact ⟨i, m, led.made, hfirst, rolled.perm answered, led.hosts.room, led.count, htold ▸ hnews,
      fun l hl => (hears_of_enlisted here absent keeps modest h led hl).received⟩

/-- Two messages whose senders are looked up in vain: the second one makes the chat while the first
one waits, and the listener that the observer registers is handed both. -/
theorem one_chat_hears_all_of_two :
    let cast : Cast := {
      observer := fun _ => .scripted { attach := some "ear" }
      lookup := some fun _ => { delay := 5, outcome := .error ["nobody"] } }
    let w : World := {
      directory := { owner := .bare "bot", observers := Roster.empty.insert "desk" } }
    let ms : List Message := [.plain "1" "room" "ann" "hello", .plain "2" "room" "bob" "hello"]
    let turns : List Turn := [.call 0, .call 1, .wait 5, .call 1, .call 1, .call 0, .call 0,
      .call 0, .call 1, .call 1, .call 0, .call 1, .call 1, .call 0, .call 0]
    ∃ c, (gather w ms).run (cast.company 2) turns = some c ∧ c.handed.Perm ms.zipIdx
      ∧ c.world.received.filter (·.1 = "ear") = c.handed.map fun x => ("ear", x.1) := by
  intro cast w ms turns
  have modest : cast.Modest := {
    listeners := fun name react h m n => by
      obtain rfl := ListenerRole.scripted.inj h
      rfl
    observers := fun name script h stream n => by
      obtain rfl := ObserverRole.scripted.inj h
      rfl }
  have hanswered : ((gather w ms).run (cast.company 2) turns).map
      (fun c => c.calls.all (·.2.isAnswered)) = some true := by
    decide +kernel
  obtain ⟨c, hrun, hall⟩ := Option.map_eq_some_iff.mp hanswered
  obtain ⟨-, -, hend⟩ := @one_chat_hears_all cast 2 modest w "room" ms rfl (by decide) turns c hrun
  obtain ⟨i, m, -, -, hperm, -, -, -, hears⟩ := hend (by decide) (List.all_eq_true.mp hall)
  exact ⟨c, hrun, hperm, hears "ear" (.inl ⟨"desk", by decide, rfl⟩)⟩

end Crowd

end ChatFeed
