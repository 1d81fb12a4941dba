import ChatFeed.Proofs.Chat.Filing
import ChatFeed.Proofs.Chat.Journey
import Mathlib.Data.List.Chain
import Mathlib.Data.List.Infix

/-!
# Proofs/Chat/Tidings — what observers are told of chats that come and go

Every chat that comes or goes is announced to the observers in the order of their registration, and
the callback of one may have further chats come or go before the next is told.  So what happens
inside a callback is told to everybody, and what happened before it is told to the others only
afterwards.

News of a stream **settle** for two observers (`Settles`) when what the first is told of it
alternates and the other is told the same, perhaps later and in another order.  An announcement is
the first telling, then news that settle, then the second telling, and then news that settle
(`Settles.announce`), like one pair of brackets; `World.Settling` carries that through all that
callbacks do.

The first observer is the measure, since it is told of a change before anything else can happen: in
any world that is at rest, each change that the directory has reported is one notice of it, and in
the same order (`World.Told`).

* `Company.told_of_altered` — one change: the first observer is told at once, the other in the end.
* `Company.told_chores` — whatever is done, the first observer is told of each change.
* `Company.observers_told_of_all` — what each observer has been told when the directory is at rest.
* `Company.departure_told_before_arrival` — an observer that is not told in time hears it backwards.
-/

namespace ChatFeed

/-! ## What observers are told of a stream -/

/-- All that an observer has been told. -/
def toldTo (o : String) (news : List (String × News × String)) : List (News × String) :=
  news.filterMap fun x => if x.1 = o then some x.2 else none

/-- What an observer has been told of a stream, out of all the news. -/
def noticesOf (o stream : String) (news : List (String × News × String)) : List News :=
  news.filterMap fun x => if x.1 = o ∧ x.2.2 = stream then some x.2.1 else none

/-- **Notices that alternate**, from what was said last before to what is said last then. -/
structure Alternates (before : News) (notices : List News) (after : News) : Prop where
  chain : (before :: notices).IsChain (· ≠ ·)
  last : (before :: notices).getLast? = some after

/-- By how many notices of a stream an observer is behind another. -/
def behind (a o stream : String) (news : List (String × News × String)) : Int :=
  (noticesOf a stream news).length - (noticesOf o stream news).length

/-- **An observer is told in time**: of each change of a stream before the other is told of the
next. -/
def InTime (a o stream : String) (news : List (String × News × String)) : Prop :=
  ∀ part, part <+: news → behind a o stream part ≤ 1

instance (a o stream : String) (news : List (String × News × String)) :
    Decidable (InTime a o stream news) :=
  decidable_of_iff (∀ part ∈ news.inits, behind a o stream part ≤ 1)
    (forall_congr' fun _ => by rw [List.mem_inits])

/-- **What comes of some news for two observers**, of whom the first is told first.  The notices of
the first alternate; the other is never ahead, gets the same notices in some order, and in the same
order if it gets them in time. -/
structure Settles (a o stream : String) (before : News) (news : List (String × News × String))
    (after : News) : Prop where
  first : Alternates before (noticesOf a stream news) after
  never_ahead : ∀ part, part <+: news → 0 ≤ behind a o stream part
  perm : (noticesOf o stream news).Perm (noticesOf a stream news)
  in_time : InTime a o stream news → noticesOf o stream news = noticesOf a stream news

variable {a o stream : String} {n before mid after : News} {l l' : List News}
  {t t₁ t₂ part : List (String × News × String)} {x : String × News × String}

theorem toldTo_append (o : String) (t t' : List (String × News × String)) :
    toldTo o (t ++ t') = toldTo o t ++ toldTo o t' := List.filterMap_append

theorem toldTo_cons_self (o : String) (n : News) (stream : String)
    (t : List (String × News × String)) :
    toldTo o ((o, n, stream) :: t) = (n, stream) :: toldTo o t := by
  simp [toldTo]

theorem toldTo_cons_ne (h : a ≠ o) (n : News) (stream : String)
    (t : List (String × News × String)) : toldTo o ((a, n, stream) :: t) = toldTo o t := by
  simp [toldTo, h]

theorem noticesOf_append (o stream : String) (t t' : List (String × News × String)) :
    noticesOf o stream (t ++ t') = noticesOf o stream t ++ noticesOf o stream t' :=
  List.filterMap_append

theorem noticesOf_cons_self (o : String) (n : News) (stream : String)
    (t : List (String × News × String)) :
    noticesOf o stream ((o, n, stream) :: t) = n :: noticesOf o stream t := by
  simp [noticesOf]

theorem noticesOf_cons_ne (h : a ≠ o) (n : News) (stream : String)
    (t : List (String × News × String)) :
    noticesOf o stream ((a, n, stream) :: t) = noticesOf o stream t := by
  simp [noticesOf, h]

theorem noticesOf_of_not (h : ¬ (x.1 = o ∧ x.2.2 = stream)) : noticesOf o stream [x] = [] := by
  simp [noticesOf, h]

theorem behind_append (a o stream : String) (t t' : List (String × News × String)) :
    behind a o stream (t ++ t') = behind a o stream t + behind a o stream t' := by
  simp only [behind, noticesOf_append, List.length_append]
  omega

/-- An observer is behind when the other is told, -/
theorem behind_cons_first (hne : o ≠ a) (n : News) (stream : String)
    (t : List (String × News × String)) :
    behind a o stream ((a, n, stream) :: t) = behind a o stream t + 1 := by
  simp only [behind, noticesOf_cons_self, noticesOf_cons_ne hne.symm, List.length_cons]
  omega

/-- and not so much when it is told itself. -/
theorem behind_cons_second (hne : o ≠ a) (n : News) (stream : String)
    (t : List (String × News × String)) :
    behind a o stream ((o, n, stream) :: t) = behind a o stream t - 1 := by
  simp only [behind, noticesOf_cons_self, noticesOf_cons_ne hne, List.length_cons]
  omega

/-! ## Notices that alternate -/

theorem Alternates.nil (n : News) : Alternates n [] n := ⟨List.isChain_singleton n, rfl⟩

theorem Alternates.cons (h : Alternates n l after) (hne : before ≠ n) :
    Alternates before (n :: l) after where
  chain := List.isChain_cons_cons.mpr ⟨hne, h.chain⟩
  last := by rw [List.getLast?_cons_cons, h.last]

theorem Alternates.append (h : Alternates before l mid) (h' : Alternates mid l' after) :
    Alternates before (l ++ l') after := by
  obtain ⟨init, hinit⟩ := List.getLast?_eq_some_iff.mp h.last
  have hsplit : before :: (l ++ l') = init ++ mid :: l' := by
    rw [← List.cons_append, hinit, List.append_assoc]
    rfl
  have hchain : (init ++ [mid]).IsChain (· ≠ ·) := hinit ▸ h.chain
  refine ⟨?_, ?_⟩
  · rw [hsplit]
    exact List.isChain_split.mpr ⟨hchain, h'.chain⟩
  · rw [hsplit, List.getLast?_append, h'.last, Option.some_or]

/-- **Where notices alternate** arrivals and departures are as many, but for what was said last
before and what is said last then. -/
theorem Alternates.count (h : Alternates before l after) :
    l.count .arrived + (if before = .arrived then 1 else 0)
      = l.count .gone + if after = .arrived then 1 else 0 := by
  induction l generalizing before with
  | nil =>
    obtain rfl := Option.some.inj h.last
    rfl
  | cons n l ih =>
    obtain ⟨hne, hchain⟩ := List.isChain_cons_cons.mp h.chain
    have hrest := ih ⟨hchain, (List.getLast?_cons_cons).symm.trans h.last⟩
    cases before <;> cases n <;> simp_all
    omega

/-! ## Prefixes -/

theorem prefix_append_cases (h : part <+: t₁ ++ t₂) :
    part <+: t₁ ∨ ∃ rest, rest <+: t₂ ∧ part = t₁ ++ rest := by
  obtain ⟨tail, htail⟩ := h
  rcases List.append_eq_append_iff.mp htail with ⟨c, rfl, rfl⟩ | ⟨c, rfl, rfl⟩
  · exact .inl ⟨c, rfl⟩
  · exact .inr ⟨c, ⟨tail, rfl⟩, rfl⟩

theorem InTime.left (h : InTime a o stream (t₁ ++ t₂)) : InTime a o stream t₁ := fun part hpart =>
  h part (hpart.trans (List.prefix_append t₁ t₂))

theorem InTime.right (h : InTime a o stream (t₁ ++ t₂)) (even : behind a o stream t₁ = 0) :
    InTime a o stream t₂ := by
  intro part hpart
  have hle := h (t₁ ++ part) (List.prefix_append_right_inj t₁ |>.mpr hpart)
  rwa [behind_append, even, Int.zero_add] at hle

/-! ## News that settle -/

namespace Settles

theorem even (h : Settles a o stream before t after) : behind a o stream t = 0 := by
  rw [behind, h.perm.length_eq, Int.sub_self]

/-- News that are none of theirs. -/
theorem of_not (ha : ¬ (x.1 = a ∧ x.2.2 = stream)) (ho : ¬ (x.1 = o ∧ x.2.2 = stream)) :
    Settles a o stream n [x] n := by
  have hfirst := noticesOf_of_not ha
  have hsecond := noticesOf_of_not ho
  refine ⟨?_, fun part hpart => ?_, ?_, fun _ => ?_⟩
  · rw [hfirst]
    exact .nil n
  · rcases List.prefix_cons_iff.mp hpart with rfl | ⟨rest, rfl, hrest⟩
    · exact le_rfl
    · obtain rfl := List.prefix_nil.mp hrest
      simp [behind, hfirst, hsecond]
  · rw [hfirst, hsecond]
  · rw [hfirst, hsecond]

theorem nil : Settles a o stream n [] n := by
  refine ⟨.nil n, fun part hpart => ?_, .nil, fun _ => rfl⟩
  obtain rfl := List.prefix_nil.mp hpart
  exact le_rfl

theorem append (h : Settles a o stream before t₁ mid) (h' : Settles a o stream mid t₂ after) :
    Settles a o stream before (t₁ ++ t₂) after where
  first := by
    rw [noticesOf_append]
    exact h.first.append h'.first
  never_ahead := by
    intro part hpart
    rcases prefix_append_cases hpart with hpart | ⟨rest, hrest, rfl⟩
    · exact h.never_ahead part hpart
    · rw [behind_append, h.even, Int.zero_add]
      exact h'.never_ahead rest hrest
  perm := by
    rw [noticesOf_append, noticesOf_append]
    exact h.perm.append h'.perm
  in_time := by
    intro inTime
    rw [noticesOf_append, noticesOf_append, h.in_time inTime.left, h'.in_time (inTime.right h.even)]

/-- Where somebody is told in time, nothing happens while he is still to be told of something. -/
theorem silent (h : Settles a o stream before t after) (hne : o ≠ a)
    (none_more : ∀ part, part <+: t → behind a o stream part ≤ 0) :
    noticesOf a stream t = [] ∧ noticesOf o stream t = [] := by
  have hfirst : noticesOf a stream t = [] := by
    rw [noticesOf, List.filterMap_eq_nil_iff]
    intro x hx
    obtain ⟨part, rest, rfl⟩ := List.append_of_mem hx
    rw [if_neg]
    obtain ⟨who, n, what⟩ := x
    rintro ⟨rfl, rfl⟩
    have hpart := h.never_ahead part (List.prefix_append _ _)
    have hnext := none_more (part ++ [(who, n, what)]) ⟨rest, by rw [List.append_assoc]; rfl⟩
    have hzero : behind who o what [] = 0 := rfl
    rw [behind_append, behind_cons_first hne, hzero] at hnext
    omega
  exact ⟨hfirst, List.perm_nil.mp (hfirst ▸ h.perm)⟩

/-- What the second observer is behind once it has been told of a change, too. -/
theorem behind_announced (hne : o ≠ a) (h : Settles a o stream before t₁ mid)
    (t : List (String × News × String)) :
    behind a o stream ((a, n, stream) :: (t₁ ++ (o, n, stream) :: t)) = behind a o stream t := by
  rw [behind_cons_first hne, behind_append, behind_cons_second hne, h.even]
  omega

/-- While a change is announced the second observer is never ahead. -/
theorem never_ahead_announced (hne : o ≠ a) (h : Settles a o stream before t₁ mid)
    (h' : Settles a o stream mid t₂ after)
    (hpart : part <+: (a, n, stream) :: (t₁ ++ (o, n, stream) :: t₂)) :
    0 ≤ behind a o stream part := by
  rcases List.prefix_cons_iff.mp hpart with rfl | ⟨rest, rfl, hrest⟩
  · exact le_rfl
  rcases prefix_append_cases hrest with hfirst | ⟨tail, htail, rfl⟩
  · rw [behind_cons_first hne]
    have hbehind := h.never_ahead rest hfirst
    omega
  rcases List.prefix_cons_iff.mp htail with rfl | ⟨tail, rfl, hsecond⟩
  · rw [behind_cons_first hne, List.append_nil, h.even]
    decide
  · rw [h.behind_announced hne]
    exact h'.never_ahead tail hsecond

/-- Who is told in time of a change is told in time of what happens afterwards, and nothing happens
before. -/
theorem in_time_announced (hne : o ≠ a) (h : Settles a o stream before t₁ mid)
    (inTime : InTime a o stream ((a, n, stream) :: (t₁ ++ (o, n, stream) :: t₂))) :
    (noticesOf a stream t₁ = [] ∧ noticesOf o stream t₁ = []) ∧ InTime a o stream t₂ := by
  refine ⟨h.silent hne fun part hpart => ?_, fun part hpart => ?_⟩
  · have hbehind := inTime ((a, n, stream) :: part)
      (List.cons_prefix_cons.mpr ⟨rfl, hpart.trans (List.prefix_append _ _)⟩)
    rw [behind_cons_first hne] at hbehind
    omega
  · have hbehind := inTime ((a, n, stream) :: (t₁ ++ (o, n, stream) :: part))
      (List.cons_prefix_cons.mpr ⟨rfl, (List.prefix_append_right_inj t₁).mpr
        (List.cons_prefix_cons.mpr ⟨rfl, hpart⟩)⟩)
    rwa [h.behind_announced hne] at hbehind

/-- **A change is announced**: the first observer is told of it, then something may happen, then the
other is told, and then something more may happen. -/
theorem announce (hne : o ≠ a) (hchange : before ≠ n) (h : Settles a o stream n t₁ mid)
    (h' : Settles a o stream mid t₂ after) :
    Settles a o stream before ((a, n, stream) :: (t₁ ++ (o, n, stream) :: t₂)) after := by
  have hfirst : noticesOf a stream ((a, n, stream) :: (t₁ ++ (o, n, stream) :: t₂))
      = n :: (noticesOf a stream t₁ ++ noticesOf a stream t₂) := by
    rw [noticesOf_cons_self, noticesOf_append, noticesOf_cons_ne hne]
  have hsecond : noticesOf o stream ((a, n, stream) :: (t₁ ++ (o, n, stream) :: t₂))
      = noticesOf o stream t₁ ++ n :: noticesOf o stream t₂ := by
    rw [noticesOf_cons_ne hne.symm, noticesOf_append, noticesOf_cons_self]
  refine ⟨?_, fun part => h.never_ahead_announced hne h', ?_, fun inTime => ?_⟩
  · rw [hfirst]
    exact (h.first.append h'.first).cons hchange
  · rw [hfirst, hsecond]
    exact List.perm_middle.trans ((h.perm.append h'.perm).cons n)
  · obtain ⟨⟨hnone, hnone'⟩, hrest⟩ := h.in_time_announced hne inTime
    rw [hfirst, hsecond, hnone, hnone', h'.in_time hrest]
    rfl

/-- A change of another stream is announced. -/
theorem aside {other : String} (hother : stream ≠ other) (h : Settles a o other before t₁ mid)
    (h' : Settles a o other mid t₂ after) :
    Settles a o other before ((a, n, stream) :: (t₁ ++ (o, n, stream) :: t₂)) after := by
  have hnot : ∀ who, Settles a o other before [(who, n, stream)] before := fun who =>
    .of_not (fun h => hother h.2) fun h => hother h.2
  have hnot' : ∀ who, Settles a o other mid [(who, n, stream)] mid := fun who =>
    .of_not (fun h => hother h.2) fun h => hother h.2
  exact (hnot a).append (h.append ((hnot' o).append h'))

/-- News settle for one observer alone when its notices alternate. -/
theorem self (h : Alternates before (noticesOf a stream t) after) :
    Settles a a stream before t after where
  first := h
  never_ahead := fun part _ => by rw [behind, Int.sub_self]
  perm := .refl _
  in_time := fun _ => rfl

end Settles

/-! ## Worlds in which news settle -/

namespace World

/-- What is to be said of a stream: that its chat has arrived, or that it has none. -/
def standing (w : World) (stream : String) : News :=
  if (w.directory.rooms.find? stream).isSome then .arrived else .gone

/-- **Two observers are there**, one of them the first of all; and no message is held in the middle
of an announcement. -/
structure Attended (a o : String) (w : World) : Prop where
  first : w.directory.observers.members.head? = some a
  second : o ∈ w.directory.observers.members
  held : ∀ x ∈ w.held, x.2.isResting = true

/-- **What has been told on the way from a world to another**, for two observers that stay: the
first has been told of each change that the directory has reported, and the news settle. -/
structure Told (a o : String) (w v : World) (t : List (String × News × String)) : Prop where
  attended : v.Attended a o
  news : v.news = w.news ++ t
  changes : v.journal.changes = w.journal.changes ++ toldTo a t
  settles : ∀ stream, Settles a o stream (w.standing stream) t (v.standing stream)

/-- **News settle on the way from a world to another**, for two observers that stay. -/
structure Settling (a o : String) (w v : World) : Prop extends World.Onward w v where
  told : w.Neat → w.Attended a o → ∃ t, w.Told a o v t

/-- **One stream has come to stand otherwise**, which has been reported, and nobody has been told of
it. -/
structure Altered (n : News) (stream : String) (w v : World) : Prop where
  news : v.news = w.news
  changes : v.journal.changes = w.journal.changes ++ [(n, stream)]
  before : w.standing stream ≠ n
  after : v.standing stream = n
  others : ∀ other, other ≠ stream → v.standing other = w.standing other

variable {w v u : World} {a o stream : String} {t t' : List (String × News × String)}

theorem standing_of_some {id : ChatId} (h : w.directory.rooms.find? stream = some id) :
    w.standing stream = .arrived := by rw [standing, h, Option.isSome_some, if_pos rfl]

theorem standing_of_none (h : w.directory.rooms.find? stream = none) :
    w.standing stream = .gone := by
  rw [standing, h, Option.isSome_none, if_neg (by decide)]

theorem standing_eq_arrived :
    w.standing stream = .arrived ↔ (w.directory.rooms.find? stream).isSome = true := by
  unfold standing
  split <;> simp_all

theorem standing_congr (h : v.directory.rooms = w.directory.rooms) (stream : String) :
    v.standing stream = w.standing stream := by rw [standing, h, standing]

theorem Attended.congr (h : w.Attended a o)
    (observers : v.directory.observers = w.directory.observers) (held : v.held = w.held) :
    v.Attended a o where
  first := by rw [observers]; exact h.first
  second := by rw [observers]; exact h.second
  held := by rw [held]; exact h.held

/-- **Who is told when**: the first one, and then the second one, if it is another, and the others
are told before or after. -/
theorem Attended.order (h : w.Attended a o) :
    (o = a ∧ ∃ rest, w.directory.observers.members = a :: rest ∧ ∀ x ∈ rest, x ≠ a ∧ x ≠ o)
      ∨ (o ≠ a ∧ ∃ between rest, w.directory.observers.members = a :: (between ++ o :: rest)
        ∧ (∀ x ∈ between, x ≠ a ∧ x ≠ o) ∧ ∀ x ∈ rest, x ≠ a ∧ x ≠ o) := by
  obtain ⟨tail, hmembers⟩ := List.head?_eq_some_iff.mp h.first
  have hnodup := w.directory.observers.distinct
  have hsecond := h.second
  rw [hmembers] at hnodup hsecond
  obtain ⟨hfirst, htail⟩ := List.nodup_cons.mp hnodup
  have hne : ∀ x ∈ tail, x ≠ a := by
    rintro x hx rfl
    exact hfirst hx
  by_cases ho : o = a
  · subst ho
    exact .inl ⟨rfl, tail, hmembers, fun x hx => ⟨hne x hx, hne x hx⟩⟩
  · obtain ⟨between, rest, rfl⟩ := List.append_of_mem ((List.mem_cons.mp hsecond).resolve_left ho)
    obtain ⟨-, hlast, hbetween⟩ := List.nodup_append.mp htail
    refine .inr ⟨ho, between, rest, hmembers, fun x hx => ⟨?_, ?_⟩, fun x hx => ⟨?_, ?_⟩⟩
    · exact hne x (List.mem_append_left _ hx)
    · exact hbetween x hx o List.mem_cons_self
    · exact hne x (List.mem_append_right _ (List.mem_cons_of_mem _ hx))
    · rintro rfl
      exact (List.nodup_cons.mp hlast).1 hx

theorem Told.trans (h : w.Told a o v t) (h' : v.Told a o u t') : w.Told a o u (t ++ t') where
  attended := h'.attended
  news := by rw [h'.news, h.news, List.append_assoc]
  changes := by rw [h'.changes, h.changes, toldTo_append, List.append_assoc]
  settles := fun stream => (h.settles stream).append (h'.settles stream)

/-- Nobody is told anything. -/
theorem Onward.settling (h : w.Onward v) (news : v.news = w.news)
    (changes : v.journal.changes = w.journal.changes)
    (rooms : v.directory.rooms = w.directory.rooms)
    (attended : w.Attended a o → v.Attended a o) : w.Settling a o v where
  toOnward := h
  told := fun _ there => ⟨[], {
    attended := attended there
    news := by rw [news, List.append_nil]
    changes := changes.trans (List.append_nil _).symm
    settles := fun stream => by
      rw [standing_congr rooms]
      exact .nil }⟩

theorem Settling.trans (h : w.Settling a o v) (h' : v.Settling a o u) : w.Settling a o u where
  toOnward := h.toOnward.trans h'.toOnward
  told := by
    intro neat there
    obtain ⟨t, ht⟩ := h.told neat there
    obtain ⟨t', ht'⟩ := h'.told (h.neat neat) ht.attended
    exact ⟨t ++ t', ht.trans ht'⟩

/-- A chat changes in all but its stream. -/
theorem settling_onChat (w : World) (id : ChatId) {f : Chat → Chat}
    (hf : ∀ c, (f c).stream = c.stream) : w.Settling a o (w.onChat id f) :=
  (w.onward_onChat id hf).settling rfl rfl rfl fun there => there.congr rfl rfl

theorem lasting_settling (a o : String) : World.Lasting (World.Settling a o) where
  trans := Settling.trans
  beside := fun h => (lasting_onward.beside h).settling h.news h.changes (by rw [h.directory])
    fun there => there.congr (by rw [h.directory]) h.held
  onChat := fun w id _ hf _ => w.settling_onChat id hf

/-- Another observer learns of something. -/
theorem settling_learn {x : String} (ha : x ≠ a) (ho : x ≠ o) (w : World) (n : News)
    (stream : String) : w.Settling a o (w.learn x n stream) where
  toOnward := w.onward_learn x n stream
  told := fun _ there => ⟨[(x, n, stream)], {
    attended := there.congr rfl rfl
    news := rfl
    changes := by
      rw [toldTo_cons_ne ha]
      exact (List.append_nil _).symm
    settles := fun _ => .of_not (fun h => ha h.1) fun h => ho h.1 }⟩

end World

namespace Company

variable {k : Company} {allowed : Action → Prop} {w₀ w v : World} {a o stream : String} {n : News}
  {id : ChatId} {m : Message} {s s' : Stage}

theorem Heeds.onward (heeds : k.Heeds (World.Settling a o) allowed) :
    k.Heeds World.Onward allowed :=
  heeds.mono World.lasting_onward fun _ _ h => h.toOnward

/-! ## Announcements -/

/-- The other observers are told. -/
theorem settling_others (heeds : k.Heeds (World.Settling a o) allowed) {os : List String}
    (hos : ∀ x ∈ os, x ≠ a ∧ x ≠ o) (n : News) (id : ChatId) :
    (k.informAll n id os).Leads (World.Settling a o) := by
  induction os with
  | nil => exact Run.leads_pure heeds.lasting ()
  | cons x os ih =>
    obtain ⟨ha, ho⟩ := hos x List.mem_cons_self
    have hinform : (k.inform x n id).Leads (World.Settling a o) := by
      intro w u v h
      refine World.Settling.trans ?_ (inform_leads heeds h)
      unfold learnt
      split
      · exact World.settling_learn ha ho w n _
      · exact heeds.lasting.refl w
    exact hinform.bind heeds.lasting fun _ => ih fun y hy => hos y (List.mem_cons_of_mem _ hy)

/-- An observer that cares is told of a chat, and its callback does what it does. -/
theorem settling_inform (heeds : k.Heeds (World.Settling a o) allowed) {x : String}
    (hcares : cares (k.observer x) n = true) (hid : (w.directory.chat id).stream = some stream)
    {u : Unit} (h : (k.inform x n id).run w = some (u, v)) :
    (w.learn x n stream).Settling a o v := by
  have hlearnt : k.learnt w x n id = w.learn x n stream := by
    rw [learnt, if_pos hcares, Chat.streamText, hid, Option.getD_some]
  exact hlearnt ▸ inform_leads heeds h

/-- The first observer is told of a chat, and then others. -/
theorem told_first (heeds : k.Heeds (World.Settling a a) allowed)
    (ha : cares (k.observer a) n = true) (altered : w₀.Altered n stream w) (neat : w.Neat)
    (there : w.Attended a a) (hid : (w.directory.chat id).stream = some stream)
    {rest : List String} (hrest : ∀ x ∈ rest, x ≠ a ∧ x ≠ a) {u : Unit}
    (h : (k.informAll n id (a :: rest)).run w = some (u, v)) :
    ∃ t, w₀.Told a a v ((a, n, stream) :: t) := by
  obtain ⟨_, w₁, hfirst, hlast⟩ := Run.run_bind_eq_some.mp h
  have hthen : (w.learn a n stream).Settling a a v :=
    (settling_inform heeds ha hid hfirst).trans (settling_others heeds hrest n id _ _ _ hlast)
  obtain ⟨t, ht⟩ := hthen.told ((w.onward_learn a n stream).neat neat) (there.congr rfl rfl)
  refine ⟨t, ht.attended, ?_, ?_, fun other => ?_⟩
  · rw [ht.news, World.learn, altered.news, List.append_assoc]
    rfl
  · rw [ht.changes, World.learn, altered.changes, toldTo_cons_self, List.append_assoc]
    rfl
  · have hsettles : Settles a a other (w.standing other) t (v.standing other) := ht.settles other
    by_cases hother : other = stream
    · subst hother
      rw [altered.after] at hsettles
      refine .self ?_
      rw [noticesOf_cons_self]
      exact hsettles.first.cons altered.before
    · rw [altered.others other hother] at hsettles
      have hnot : Settles a a other (w₀.standing other) [(a, n, stream)] (w₀.standing other) :=
        .of_not (fun h => hother h.2.symm) fun h => hother h.2.symm
      exact hnot.append hsettles

/-- Two observers are told of a chat, with others before, between and after. -/
theorem told_both (heeds : k.Heeds (World.Settling a o) allowed)
    (ha : cares (k.observer a) n = true) (ho : cares (k.observer o) n = true) (hne : o ≠ a)
    (altered : w₀.Altered n stream w) (neat : w.Neat) (there : w.Attended a o)
    (hid : (w.directory.chat id).stream = some stream) {between rest : List String}
    (hbetween : ∀ x ∈ between, x ≠ a ∧ x ≠ o) (hrest : ∀ x ∈ rest, x ≠ a ∧ x ≠ o) {u : Unit}
    (h : (k.informAll n id (a :: (between ++ o :: rest))).run w = some (u, v)) :
    ∃ t, w₀.Told a o v ((a, n, stream) :: t) := by
  obtain ⟨_, w₁, hfirst, h⟩ := Run.run_bind_eq_some.mp h
  obtain ⟨w₂, hmiddle, h⟩ := informAll_append h
  obtain ⟨_, w₃, hsecond, hlast⟩ := Run.run_bind_eq_some.mp h
  have hlearns := w.onward_learn a n stream
  have hbegin : (w.learn a n stream).Settling a o w₂ :=
    (settling_inform heeds ha hid hfirst).trans (settling_others heeds hbetween n id _ _ _ hmiddle)
  have honward : w.Onward w₂ := hlearns.trans hbegin.toOnward
  have hend : (w₂.learn o n stream).Settling a o v :=
    (settling_inform heeds ho (honward.keeps hid) hsecond).trans
      (settling_others heeds hrest n id _ _ _ hlast)
  obtain ⟨t₁, ht₁⟩ := hbegin.told (hlearns.neat neat) (there.congr rfl rfl)
  obtain ⟨t₂, ht₂⟩ := hend.told ((honward.trans (w₂.onward_learn o n stream)).neat neat)
    (ht₁.attended.congr rfl rfl)
  refine ⟨t₁ ++ (o, n, stream) :: t₂, ht₂.attended, ?_, ?_, fun other => ?_⟩
  · rw [ht₂.news, World.learn, ht₁.news, World.learn, altered.news]
    simp
  · rw [ht₂.changes, World.learn, ht₁.changes, World.learn, altered.changes, toldTo_cons_self,
      toldTo_append, toldTo_cons_ne hne]
    simp
  · have hbefore : Settles a o other (w.standing other) t₁ (w₂.standing other) := ht₁.settles other
    have hafter : Settles a o other (w₂.standing other) t₂ (v.standing other) := ht₂.settles other
    by_cases hother : other = stream
    · subst hother
      rw [altered.after] at hbefore
      exact hbefore.announce hne altered.before hafter
    · rw [altered.others other hother] at hbefore
      exact .aside (Ne.symm hother) hbefore hafter

/-- **All observers are told that a stream stands otherwise**, the first one before anything else
happens, and each of them may do what it likes then. -/
theorem told_of_altered (heeds : k.Heeds (World.Settling a o) allowed)
    (ha : cares (k.observer a) n = true) (ho : cares (k.observer o) n = true)
    (altered : w₀.Altered n stream w) (neat : w.Neat) (there : w.Attended a o)
    (hid : (w.directory.chat id).stream = some stream) {u : Unit}
    (h : (k.informAll n id w.directory.observers.members).run w = some (u, v)) :
    ∃ t, w₀.Told a o v ((a, n, stream) :: t) := by
  rcases there.order with ⟨rfl, rest, hmembers, hrest⟩
    | ⟨hne, between, rest, hmembers, hbetween, hrest⟩
  · rw [hmembers] at h
    exact told_first heeds ha altered neat there hid hrest h
  · rw [hmembers] at h
    exact told_both heeds ha ho hne altered neat there hid hbetween hrest h

/-! ## Chats that come and go -/

/-- Everybody is told of arrivals. -/
theorem cares_arrived (role : ObserverRole) : cares role .arrived = true := by
  cases role <;> rfl

/-- **A new chat is put under its stream**, which had none. -/
theorem altered_arrival {d : Directory} {message : String}
    (hmessage : (Remark.info message [("stream_id", .text stream)]).change?
      = some (.arrived, stream))
    (absent : w.directory.rooms.find? stream = none)
    (hrooms : d.rooms = w.directory.rooms.insert stream id) :
    w.Altered .arrived stream (w.change d message stream) := by
  have hfind : ∀ other, (w.change d message stream).directory.rooms.find? other
      = (w.directory.rooms.insert stream id).find? other :=
    fun other => congrArg (·.find? other) hrooms
  refine ⟨rfl, w.changes_change hmessage, ?_, ?_, fun other hother => ?_⟩
  · rw [World.standing_of_none absent]
    decide
  · exact World.standing_of_some ((hfind stream).trans (Rooms.find?_insert_self id absent))
  · rw [World.standing, hfind, Rooms.find?_insert_of_ne _ _ hother, World.standing]

/-- **The chat of a stream is taken away.** -/
theorem altered_departure (room : w.directory.rooms.find? stream = some id) :
    w.Altered .gone stream (w.change
      { w.directory with rooms := w.directory.rooms.erase stream } "Chat removed" stream) := by
  refine ⟨rfl, w.changes_change (by rfl), ?_, ?_, fun other hother => ?_⟩
  · rw [World.standing_of_some room]
    decide
  · exact World.standing_of_none (Rooms.find?_erase_self _ _)
  · unfold World.standing World.change
    rw [Rooms.find?_erase_of_ne _ hother]

/-- **All are told of a new chat.** -/
theorem told_arrival (heeds : k.Heeds (World.Settling a o) allowed)
    (altered : w₀.Altered .arrived stream w) (neat : w.Neat) (there : w.Attended a o)
    (hid : (w.directory.chat id).stream = some stream) {u : Unit}
    (h : (k.informAll .arrived id w.directory.observers.members).run w = some (u, v)) :
    ∃ t, w₀.Told a o v ((a, .arrived, stream) :: t) :=
  told_of_altered heeds (cares_arrived _) (cares_arrived _) altered neat there hid h

theorem settling_addChat (heeds : k.Heeds (World.Settling a o) allowed) (id : ChatId) :
    (k.addChat id).Leads (World.Settling a o) := by
  intro w r v h
  refine ⟨leads_addChat heeds.onward World.enduring_onward id w r v h, fun neat there => ?_⟩
  rcases addChat_cases h with ⟨-, rfl⟩ | ⟨stream, u, hstream, absent, -, hannounce⟩
  · exact (heeds.lasting.refl v).told neat there
  · obtain ⟨t, ht⟩ := told_arrival heeds (altered_arrival (by rfl) absent rfl)
      ((World.onward_insert hstream absent _).neat neat) (there.congr rfl rfl) hstream hannounce
    exact ⟨_, ht⟩

theorem settling_removeStream (heeds : k.Heeds (World.Settling a o) allowed)
    (ha : cares (k.observer a) .gone = true) (ho : cares (k.observer o) .gone = true)
    (stream : String) : (k.removeStream stream).Leads (World.Settling a o) := by
  intro w r v h
  refine ⟨leads_removeStream heeds.onward World.enduring_onward stream w r v h,
    fun neat there => ?_⟩
  rcases removeStream_cases h with ⟨-, -, rfl⟩ | ⟨id, u, room, -, hannounce⟩
  · exact (heeds.lasting.refl v).told neat there
  · obtain ⟨t, ht⟩ := told_of_altered heeds ha ho (altered_departure room)
      ((w.onward_erase stream _).neat neat) (there.congr rfl rfl) (neat.filed stream id room)
      hannounce
    exact ⟨_, ht⟩

theorem settling_findOrMake (heeds : k.Heeds (World.Settling a o) allowed) {make : Chat}
    {r : ChatId × Bool} (hmake : make.stream = some stream)
    (h : (k.findOrMake stream make).run w = some (r, v)) : w.Settling a o v := by
  refine ⟨onward_findOrMake heeds.onward (fun _ => hmake) h, fun neat there => ?_⟩
  rcases findOrMake_cases h with ⟨id, -, -, rfl⟩ | ⟨u, y, absent, -, hannounce, rfl⟩
  · exact (heeds.lasting.refl v).told neat there
  · obtain ⟨t, ht⟩ := told_arrival heeds (altered_arrival (by rfl) absent rfl)
      ((World.onward_withChat hmake absent _).neat neat) (there.congr rfl rfl)
      ((w.stream_withChat stream make).trans hmake) hannounce
    exact ⟨_, ht.attended.congr rfl rfl, ht.news, ht.changes, ht.settles⟩

/-! ## Messages -/

/-- **A message that gets as far as it can**: if it makes a chat, all observers are told. -/
theorem Journey.settling (heeds : k.Heeds (World.Settling a o) allowed) (h : Journey k m w s v) :
    w.Settling a o v := by
  have lasting := heeds.lasting
  cases h with
  | waits _ beside => exact lasting.beside beside
  | served beside delivery =>
    exact (lasting.beside beside).trans (leads_deliver heeds _ m _ _ _ delivery)
  | @founded sender report x y v beside absent telling delivery =>
    have hstream : (chatFor x.directory.owner m sender).stream = some m.stream := rfl
    have hmade := World.onward_withChat hstream absent "Chat created for new stream"
    have htold : x.Settling a o y := by
      refine ⟨hmade.trans (leads_informAll heeds.onward World.enduring_onward _ _ _ _ _ _ telling),
        fun neat there => ?_⟩
      obtain ⟨t, ht⟩ := told_arrival heeds (altered_arrival (by rfl) absent rfl) (hmade.neat neat)
        (there.congr rfl rfl) ((x.stream_withChat m.stream _).trans hstream) telling
      exact ⟨_, ht⟩
    exact (lasting.beside beside).trans (htold.trans
      ((leads_deliver heeds _ m _ _ _ delivery).trans (v.settling_onChat _ fun _ => rfl)))

theorem settling_send (heeds : k.Heeds (World.Settling a o) allowed) (m : Message) :
    (k.send m).Leads (World.Settling a o) := by
  intro w reply v h
  refine ⟨onward_send heeds.onward m w reply v h, fun neat there => ?_⟩
  obtain ⟨s, x, hadvance, hv⟩ := send_cases h
  have hjourney := journey_of_advance (.inl rfl) hadvance
  obtain ⟨t, ht⟩ := (hjourney.settling heeds).told neat there
  rcases hv with ⟨-, rfl⟩ | rfl
  · exact ⟨t, ht⟩
  · refine ⟨t, ⟨ht.attended.first, ht.attended.second, fun y hy => ?_⟩, ht.news, ht.changes,
      ht.settles⟩
    rcases List.mem_append.mp hy with hy | hy
    · exact ht.attended.held y hy
    · obtain rfl := List.mem_singleton.mp hy
      exact hjourney.resting

theorem settling_finish (heeds : k.Heeds (World.Settling a o) allowed)
    (hs : s = .fresh ∨ s.isResting = true) (m : Message) :
    (k.finish m s).Leads (World.Settling a o) := by
  intro w report v h
  obtain ⟨s₁, x, y, hfirst, hbeside, hsecond⟩ := finish_cases hs h
  exact (hfirst.settling heeds).trans
    ((heeds.lasting.beside hbeside).trans (hsecond.settling heeds))

/-- **The messages that are held** go on. -/
theorem settling_release (heeds : k.Heeds (World.Settling a o) allowed) (n : Nat) :
    (k.release n).Leads (World.Settling a o) := by
  induction n with
  | zero => exact fun w u v h => nomatch h
  | succ n ih =>
    intro w u v h
    refine ⟨onward_release heeds.onward (n + 1) w u v h, fun neat there => ?_⟩
    rcases release_cases h with rfl | ⟨m, s, rest, report, x, hheld, hfinish, hrest⟩
    · exact (heeds.lasting.refl v).told neat there
    · have hdrop : w.Settling a o { w with held := rest } := by
        have honward := w.onward_drop 1
        rw [hheld] at honward
        refine honward.settling rfl rfl rfl fun there => ⟨there.first, there.second, fun y hy => ?_⟩
        exact there.held y (hheld ▸ List.mem_cons_of_mem _ hy)
      have hresting : s.isResting = true := there.held (m, s) (hheld ▸ List.mem_cons_self)
      have hnote : x.Settling a o { x with notes := x.notes ++ [.resumed m.id report] } :=
        heeds.lasting.beside ⟨rfl, rfl, rfl, rfl⟩
      exact (hdrop.trans ((settling_finish heeds (.inr hresting) m _ _ _ hfinish).trans
        (hnote.trans (ih _ _ _ hrest)))).told neat there

/-! ## Observers -/

/-- An observer comes, as the last one. -/
theorem settling_addObserver (a o name : String) :
    (addObserver name).Leads (World.Settling a o) := by
  intro w known v h
  obtain rfl := (Prod.mk.inj (Option.some.inj h)).2
  have honward : w.Onward _ := leads_addObserver World.enduring_onward name w known _ h
  refine honward.settling rfl rfl rfl fun there => ?_
  have hinsert := Roster.members_insert w.directory.observers name
  refine ⟨?_, ?_, there.held⟩
  · change (w.directory.observers.insert name).members.head? = some a
    rw [hinsert]
    split
    · exact there.first
    · rw [List.head?_append, there.first, Option.some_or]
  · change o ∈ (w.directory.observers.insert name).members
    rw [hinsert]
    split
    · exact there.second
    · exact List.mem_append_left _ there.second

/-- Another observer goes. -/
theorem settling_removeObserver {name : String} (ha : name ≠ a) (ho : name ≠ o) :
    (removeObserver name).Leads (World.Settling a o) := by
  intro w known v h
  obtain rfl := (Prod.mk.inj (Option.some.inj h)).2
  have honward : w.Onward _ := leads_removeObserver World.enduring_onward name w known _ h
  refine honward.settling rfl rfl rfl fun there => ?_
  have herase := Roster.members_erase w.directory.observers name
  obtain ⟨tail, hmembers⟩ := List.head?_eq_some_iff.mp there.first
  refine ⟨?_, ?_, there.held⟩
  · change (w.directory.observers.erase name).members.head? = some a
    rw [herase, hmembers, List.filter_cons_of_pos (by simpa using ha.symm), List.head?_cons]
  · change o ∈ (w.directory.observers.erase name).members
    rw [herase]
    exact List.mem_filter.mpr ⟨there.second, by simpa using ho.symm⟩

end Company

/-! ## Whatever callbacks do -/

/-- Whether an action leaves some observers where they are. -/
def Action.spares (observers : List String) : Action → Bool
  | .removeObserver name => !observers.contains name
  | _ => true

/-- **Whatever callbacks do** to the directory, however deep they go, news settle. -/
theorem Cast.heeds_settling {cast : Cast} {a o : String} {observers : List String}
    (keepsTo : cast.KeepsTo (·.spares observers = true)) (ha : a ∈ observers) (ho : o ∈ observers)
    (hears : ∀ x ∈ [a, o], Company.cares (cast.observer x) .gone = true) (depth : Nat) :
    (cast.company depth).Heeds (World.Settling a o) (·.spares observers = true) := by
  refine Cast.heeds (World.lasting_settling a o) keepsTo
    (fun k hk heeds occasion action hspares => ?_)
    depth
  subst hk
  refine Company.leads_takeAction heeds (Company.settling_addChat heeds)
    (Company.settling_removeStream heeds (hears a (by simp)) (hears o (by simp)))
    (Company.settling_send heeds) (Company.settling_addObserver a o) (fun name hname => ?_)
    (fun _ _ _ id => Company.leads_addRemote heeds.lasting fun w =>
      w.settling_onChat id fun _ => rfl) occasion
  subst hname
  have hnot : name ∉ observers := by simpa [Action.spares] using hspares
  exact Company.settling_removeObserver (fun h => hnot (h ▸ ha)) fun h => hnot (h ▸ ho)

/-! ## Chores -/

/-- **A chore of the one thread**: the directory is dealt with, an action is taken, a message is
received, or the messages that are held go on. -/
inductive Chore
  | deal (d : Deal)
  | act (a : Action)
  | receive (m : Message)
  | release (n : Nat)

/-- **Do a chore.** -/
def Company.chore (k : Company) : Chore → Run Unit
  | .deal d => do let _ ← k.deal d
  | .act a => do let _ ← k.takeAction ⟨"", none⟩ a
  | .receive m => do let _ ← k.receive m
  | .release n => k.release n

/-- Whether a chore leaves some observers where they are, and makes a chat, if it makes one for
whoever asks for that of a stream, on that stream. -/
def Chore.Spares (observers : List String) : Chore → Prop
  | .deal (.removeObserver name) => name ∉ observers
  | .deal (.findOrMake stream make) => make.stream = some stream
  | .act a => a.spares observers = true
  | _ => True

namespace Company

variable {k : Company} {allowed : Action → Prop} {w v : World} {a o : String}
  {observers : List String}

theorem settling_deal (heeds : k.Heeds (World.Settling a o) allowed) (ha : a ∈ observers)
    (ho : o ∈ observers) (hears : ∀ x ∈ [a, o], cares (k.observer x) .gone = true) {d : Deal}
    (spares : (Chore.deal d).Spares observers) : (k.deal d).Leads (World.Settling a o) := by
  have hthen : ∀ {α β : Type} {x : Run α} {f : α → β}, x.Leads (World.Settling a o) →
      (do return f (← x) : Run β).Leads (World.Settling a o) := fun hx =>
    hx.bind heeds.lasting fun _ => Run.leads_pure heeds.lasting _
  have hlook : ∀ {β : Type} {f : Directory → β},
      (do return f (← Run.directory) : Run β).Leads (World.Settling a o) :=
    Run.leads_directory_bind fun _ => Run.leads_pure heeds.lasting _
  have hremove := settling_removeStream heeds (hears a (by simp)) (hears o (by simp))
  cases d with
  | make chat =>
    intro w receipt v h
    obtain rfl := (Prod.mk.inj (Option.some.inj h)).2
    exact (w.onward_make chat).settling rfl rfl rfl fun there => there.congr rfl rfl
  | add id => exact hthen (settling_addChat heeds id)
  | remove id =>
    refine hthen (Run.leads_chat_bind fun c => ?_)
    cases c.stream with
    | none => exact Run.leads_pure heeds.lasting false
    | some stream => exact hthen (hremove stream)
  | removeStream stream => exact hthen (hremove stream)
  | findOrMake stream make =>
    intro w receipt v h
    obtain ⟨p, x, hfind, h⟩ := Run.run_bind_eq_some.mp h
    obtain rfl : v = x := (Run.run_pure_eq_some.mp h).2
    exact settling_findOrMake heeds spares hfind
  | find stream => exact hlook
  | chats => exact hthen hlook
  | size => exact hlook
  | addObserver name => exact hthen (settling_addObserver a o name)
  | removeObserver name =>
    exact hthen (settling_removeObserver (fun h => spares (h ▸ ha)) fun h => spares (h ▸ ho))

/-- **Chores**, whatever callbacks do. -/
theorem settling_chores {cast : Cast} {depth : Nat}
    (keepsTo : cast.KeepsTo (·.spares observers = true)) (ha : a ∈ observers) (ho : o ∈ observers)
    (hears : ∀ x ∈ [a, o], cares (cast.observer x) .gone = true) {chores : List Chore}
    (spares : ∀ e ∈ chores, e.Spares observers) :
    (chores.forM (cast.company depth).chore).Leads (World.Settling a o) := by
  have heeds := cast.heeds_settling keepsTo ha ho hears
  have hone : ∀ e ∈ chores, ((cast.company depth).chore e).Leads (World.Settling a o) := by
    intro e he
    have hspares := spares e he
    have hthen : ∀ {α : Type} {x : Run α}, x.Leads (World.Settling a o) →
        (do let _ ← x : Run Unit).Leads (World.Settling a o) := fun hx =>
      hx.bind (heeds depth).lasting fun _ => Run.leads_pure (heeds depth).lasting ()
    cases e with
    | deal d => exact hthen (settling_deal (heeds depth) ha ho hears hspares)
    | act action => exact hthen ((heeds (depth + 1)).act ⟨"", none⟩ action hspares)
    | receive m => exact hthen (settling_finish (heeds depth) (.inl rfl) m)
    | release n => exact settling_release (heeds depth) n
  induction chores with
  | nil => exact Run.leads_pure (heeds depth).lasting ()
  | cons e chores ih =>
    refine (hone e List.mem_cons_self).bind (heeds depth).lasting fun _ => ?_
    exact ih (fun e he => spares e (List.mem_cons_of_mem _ he))
      fun e he => hone e (List.mem_cons_of_mem _ he)

/-- **Each change of the directory is one notice of the first observer**, in the same order, and the
news settle for it and any other, whatever chores are done and whatever callbacks do. -/
theorem told_chores {cast : Cast} {depth : Nat} (neat : w.Neat) (there : w.Attended a o)
    (keepsTo : cast.KeepsTo (·.spares w.directory.observers.members = true))
    (hears : ∀ x ∈ [a, o], cares (cast.observer x) .gone = true) {chores : List Chore}
    (spares : ∀ e ∈ chores, e.Spares w.directory.observers.members) {u : Unit}
    (h : (chores.forM (cast.company depth).chore).run w = some (u, v)) : ∃ t, w.Told a o v t :=
  (settling_chores keepsTo (List.mem_of_head? there.first) there.second hears spares w u v h).told
    neat there

/-- **Observers are told of all that comes and goes.**  Whatever is done with a directory that is
empty at first, by one thread, and whatever callbacks do with it meanwhile, however deep, as long as
they leave the observers registered.

What the first observer has been told is what the directory has reported, each change once and in
the same order.  Of every stream that alternates, beginning with an arrival, and the last of it says
whether the stream has a chat.  Every other observer has been told just as often of an arrival and
of a departure, so that it has been told of one arrival more exactly when the stream has a chat; and
in the same order, if it has always been told of one change of the stream before the first observer
was told of the next. -/
theorem observers_told_of_all {cast : Cast} {depth : Nat} {w v : World} {first : String}
    (empty : w.directory.rooms = .empty) (free : w.held = [])
    (head : w.directory.observers.members.head? = some first)
    (hears : cares (cast.observer first) .gone = true)
    (keepsTo : cast.KeepsTo (·.spares w.directory.observers.members = true))
    {chores : List Chore} (spares : ∀ e ∈ chores, e.Spares w.directory.observers.members)
    (h : (chores.forM (cast.company depth).chore).run w = some ((), v)) :
    ∃ news, v.news = w.news ++ news ∧ v.journal.changes = w.journal.changes ++ toldTo first news
      ∧ ∀ stream, Alternates .gone (noticesOf first stream news) (v.standing stream)
        ∧ ∀ o ∈ w.directory.observers.members, cares (cast.observer o) .gone = true →
          (noticesOf o stream news).Perm (noticesOf first stream news)
            ∧ (noticesOf o stream news).count .arrived = (noticesOf o stream news).count .gone
              + (if (v.directory.rooms.find? stream).isSome then 1 else 0)
            ∧ (InTime first o stream news →
              noticesOf o stream news = noticesOf first stream news) := by
  have hnothing : ∀ stream, w.directory.rooms.find? stream = none := fun stream => by
    rw [empty, Rooms.find?_empty]
  have neat : w.Neat := by
    constructor
    · intro stream id room
      rw [hnothing] at room
      cases room
    · intro x hx
      rw [free] at hx
      cases hx
  have htold : ∀ o ∈ w.directory.observers.members, cares (cast.observer o) .gone = true →
      ∃ t, w.Told first o v t := fun o ho hears' =>
    told_chores neat ⟨head, ho, by simp [free]⟩ keepsTo (by simpa using ⟨hears, hears'⟩) spares h
  obtain ⟨news, hself⟩ := htold first (List.mem_of_head? head) hears
  have hsettles : ∀ o ∈ w.directory.observers.members, cares (cast.observer o) .gone = true →
      ∀ stream, Settles first o stream .gone news (v.standing stream) := by
    intro o ho hears' stream
    obtain ⟨t, ht⟩ := htold o ho hears'
    obtain rfl := List.append_cancel_left (hself.news.symm.trans ht.news)
    exact World.standing_of_none (hnothing stream) ▸ ht.settles stream
  refine ⟨news, hself.news, hself.changes, fun stream => ⟨?_, fun o ho hears' => ?_⟩⟩
  · exact (hsettles first (List.mem_of_head? head) hears stream).first
  · have hother := hsettles o ho hears' stream
    have hcount := hother.first.count
    simp only [reduceCtorEq, if_false, Nat.add_zero, World.standing_eq_arrived] at hcount
    refine ⟨hother.perm, ?_, hother.in_time⟩
    rw [hother.perm.count_eq, hother.perm.count_eq, hcount]

/-- The first of two observers has another chat added when it is told of a new one, and the second
has that one removed: both are told of all of it in the order in which it has been reported. -/
theorem observers_told_of_all_when_in_time :
    let script (o stream : String) : Part := { steps :=
      if o = "desk" then [⟨some "once", .onChat (.labelled "hall") .addChat⟩]
      else if stream = "room" then [⟨none, .removeChat stream⟩] else [] }
    let cast : Cast := { observer := fun o => .scripted { onNew := fun stream _ => script o stream } }
    let w : World := {
      directory := {
        owner := .bare "bot", chats := [.fresh (some "room"), .fresh (some "hall")]
        observers := (Roster.empty.insert "desk").insert "office" }
      labels := [("hall", 1)] }
    ∃ v, ([Chore.deal (.add 0)].forM (cast.company 3).chore).run w = some ((), v)
      ∧ v.journal.changes = toldTo "desk" v.news
      ∧ noticesOf "desk" "room" v.news = [.arrived, .gone]
      ∧ noticesOf "office" "room" v.news = noticesOf "desk" "room" v.news
      ∧ noticesOf "office" "hall" v.news = noticesOf "desk" "hall" v.news
      ∧ v.directory.rooms.entries = [("hall", 1)] := by
  intro script cast w
  have hview : (([Chore.deal (.add 0)].forM (cast.company 3).chore).run w).map
      (fun r => (r.2.news, r.2.directory.rooms.entries))
        = some ([("desk", .arrived, "room"), ("desk", .arrived, "hall"), ("office", .arrived, "hall"),
          ("office", .arrived, "room"), ("desk", .gone, "room"), ("office", .gone, "room")],
          [("hall", 1)]) := by
    decide +kernel
  obtain ⟨⟨⟨⟩, v⟩, hrun, hview⟩ := Option.map_eq_some_iff.mp hview
  obtain ⟨hnews, hrooms⟩ := Prod.mk.inj hview
  have keepsTo : cast.KeepsTo (·.spares w.directory.observers.members = true) := {
    listeners := fun name react h m n s hs => by
      obtain rfl := ListenerRole.scripted.inj h
      cases hs
    arrivals := fun name scripted h stream n s hs => by
      obtain rfl := ObserverRole.scripted.inj h
      dsimp only [script] at hs
      split at hs
      · obtain rfl := List.mem_singleton.mp hs
        rfl
      · split at hs
        · obtain rfl := List.mem_singleton.mp hs
          rfl
        · cases hs
    departures := fun name scripted h stream n s hs => by
      obtain rfl := ObserverRole.scripted.inj h
      cases hs }
  have spares : ∀ e ∈ [Chore.deal (.add 0)], e.Spares w.directory.observers.members := by
    intro e he
    obtain rfl := List.mem_singleton.mp he
    trivial
  obtain ⟨news, happend, hchanges, hall⟩ :=
    @observers_told_of_all cast 3 w v "desk" rfl rfl rfl rfl keepsTo _ spares hrun
  obtain rfl : news = v.news := happend.symm
  have inTime : ∀ stream ∈ ["room", "hall"], InTime "desk" "office" stream v.news := by
    rw [hnews]
    decide
  refine ⟨v, hrun, hchanges, by rw [hnews]; decide, ?_, ?_, hrooms⟩
  · exact ((hall "room").2 "office" (by decide) rfl).2.2 (inTime _ (by simp))
  · exact ((hall "hall").2 "office" (by decide) rfl).2.2 (inTime _ (by simp))

/-- **A departure before the arrival**: the first of two observers has every new chat removed, so
the second is told that the chat is gone, and then that it has arrived, and it is gone. -/
theorem departure_told_before_arrival :
    let cast : Cast := { observer := fun o => .scripted {
      onNew := fun stream _ =>
        { steps := if o = "desk" then [⟨none, .removeChat stream⟩] else [] } } }
    let w : World := { directory := {
      owner := .bare "bot", chats := [.fresh (some "room")]
      observers := (Roster.empty.insert "desk").insert "office" } }
    ∃ v, ([Chore.deal (.add 0)].forM (cast.company 2).chore).run w = some ((), v)
      ∧ noticesOf "desk" "room" v.news = [.arrived, .gone]
      ∧ noticesOf "office" "room" v.news = [.gone, .arrived]
      ∧ v.directory.rooms.find? "room" = none
      ∧ ∀ after, ¬ Alternates .gone (noticesOf "office" "room" v.news) after := by
  intro cast w
  have hview : (([Chore.deal (.add 0)].forM (cast.company 2).chore).run w).map
      (fun r => (noticesOf "desk" "room" r.2.news, noticesOf "office" "room" r.2.news,
        r.2.directory.rooms.find? "room")) = some ([.arrived, .gone], [.gone, .arrived], none) := by
    decide +kernel
  obtain ⟨⟨⟨⟩, v⟩, hrun, hview⟩ := Option.map_eq_some_iff.mp hview
  obtain ⟨hdesk, hview⟩ := Prod.mk.inj hview
  obtain ⟨hoffice, hroom⟩ := Prod.mk.inj hview
  refine ⟨v, hrun, hdesk, hoffice, hroom, fun after h => ?_⟩
  rw [hoffice] at h
  exact (List.isChain_cons_cons.mp h.chain).1 rfl

end Company

end ChatFeed
