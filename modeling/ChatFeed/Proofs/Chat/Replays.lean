import ChatFeed.Proofs.Chat.Muster

/-!
# Proofs/Chat/Replays — how often a listener gets a message while it is being delivered

A listener that is registered while a message is being delivered gets it through its registration.
So a listener is handed the message once if it was there when the delivery started, and once for
every time that it has become a listener since (`Story.Plays.gives`).

It gets the message once at most exactly if the callbacks are **patient** (`Story.Patient`): nobody
is registered again after having been removed, or from within its own registration, where the
message is just being handed to it and it is not a listener yet (`Replays.handed_once_iff_patient`).
What one listener gets is followed through a story by `Tracks`, which holds of the parts of a story
and so of the whole.
-/

namespace ChatFeed

/-- A pair comes in a list of two parts: in one of them, or first the one and then the other. -/
theorem pair_sublist_append {α : Type} {x y : α} {xs ys : List α} :
    [x, y].Sublist (xs ++ ys)
      ↔ [x, y].Sublist xs ∨ (x ∈ xs ∧ y ∈ ys) ∨ [x, y].Sublist ys := by
  rw [List.sublist_append_iff]
  constructor
  · rintro ⟨as, bs, heq, has, hbs⟩
    match as, bs, heq with
    | [], _, rfl => exact .inr (.inr hbs)
    | [_], _, rfl =>
      exact .inr (.inl ⟨List.singleton_sublist.mp has, List.singleton_sublist.mp hbs⟩)
    | [_, _], [], rfl => exact .inl has
  · rintro (h | ⟨hx, hy⟩ | h)
    · exact ⟨[x, y], [], rfl, h, List.nil_sublist ys⟩
    · exact ⟨[x], [y], rfl, List.singleton_sublist.mpr hx, List.singleton_sublist.mpr hy⟩
    · exact ⟨[], [x, y], rfl, List.nil_sublist xs, h⟩

/-- A listener becomes one. -/
def Incident.joining (l : String) : Incident := .registration l false

/-- A listener is one no longer. -/
def Incident.leaving (l : String) : Incident := .removal l true

namespace Story

/-- **A listener becomes one within its own becoming one.** -/
def Nested (l : String) (t : Story) : Prop :=
  ∃ within, (.joining l, within) ∈ t.parts ∧ .joining l ∈ within.incidents

/-- **Patient callbacks**: nobody becomes a listener again after having been removed, nor while it
is just becoming one. -/
structure Patient (t : Story) : Prop where
  settled : ∀ l, ¬ [.leaving l, .joining l].Sublist t.incidents
  single : ∀ l, ¬ t.Nested l

theorem nested_told {l : String} {what : Incident} {within after : Story} :
    (told what within after).Nested l
    ↔ (what = .joining l ∧ .joining l ∈ within.incidents) ∨ within.Nested l ∨ after.Nested l := by
  simp only [Nested, mem_parts_told, Prod.mk.injEq]
  grind

end Story

/-- **One listener through some incidents**, at the beginning of which it is there (`1`) or not
(`0`), and so at the end.  It is there at most as often as it has been there or joined; it leaves
only after that, and unless it leaves it stays.  If it joins again after leaving, or nested, it has
been there or joined twice; otherwise once at most. -/
structure Tracks (l : String) (start : Nat) (incidents : List Incident) (nesting : Prop)
    (stop : Nat) : Prop where
  comes : stop ≤ start + incidents.count (.joining l)
  goes : .leaving l ∈ incidents → 1 ≤ start + incidents.count (.joining l)
  stays : 1 ≤ start + incidents.count (.joining l) → stop = 1 ∨ .leaving l ∈ incidents
  again : [.leaving l, .joining l].Sublist incidents →
    2 ≤ start + incidents.count (.joining l)
  nested : nesting → 2 ≤ start + incidents.count (.joining l)
  once : ¬ [.leaving l, .joining l].Sublist incidents → ¬ nesting →
    start + incidents.count (.joining l) ≤ 1

namespace Tracks

variable {l : String} {start mid stop : Nat} {xs ys : List Incident} {p q : Prop} {what : Incident}

theorem nil (h : start ≤ 1) : Tracks l start [] False start where
  comes := by simp
  goes := by simp
  stays := fun hstart => .inl (by simp at hstart; omega)
  again := by simp
  nested := False.elim
  once := fun _ _ => by simpa using h

/-- One part, and then another. -/
theorem append (h : Tracks l start xs p mid) (h' : Tracks l mid ys q stop) :
    Tracks l start (xs ++ ys) (p ∨ q) stop where
  comes := by
    have hxs := h.comes
    have hys := h'.comes
    rw [List.count_append]
    omega
  goes := fun hmem => by
    have hxs := h.comes
    rw [List.count_append]
    rcases List.mem_append.mp hmem with hmem | hmem
    · have hgone := h.goes hmem
      omega
    · have hgone := h'.goes hmem
      omega
  stays := fun hsome => by
    rw [List.count_append] at hsome
    by_cases hlate : 1 ≤ mid + ys.count (.joining l)
    · exact (h'.stays hlate).imp_right (List.mem_append_right xs)
    · rcases h.stays (by omega) with hmid | hleft
      · omega
      · exact .inr (List.mem_append_left ys hleft)
  again := fun hpair => by
    have hxs := h.comes
    rw [List.count_append]
    rcases pair_sublist_append.mp hpair with hpair | ⟨hleft, hjoined⟩ | hpair
    · have htwice := h.again hpair
      omega
    · have hgone := h.goes hleft
      have hcount := List.count_pos_iff.mpr hjoined
      omega
    · have htwice := h'.again hpair
      omega
  nested := fun hnested => by
    have hxs := h.comes
    rw [List.count_append]
    rcases hnested with hp | hq
    · have htwice := h.nested hp
      omega
    · have htwice := h'.nested hq
      omega
  once := fun hpair hnested => by
    rw [pair_sublist_append, not_or, not_or] at hpair
    rw [not_or] at hnested
    have hxs := h.once hpair.1 hnested.1
    have hys := h'.once hpair.2.2 hnested.2
    rw [List.count_append]
    by_cases hjoined : .joining l ∈ ys
    · -- it has not left before it joins, so it was not there at all
      have hcount := List.count_pos_iff.mpr hjoined
      have hnone : ¬ 1 ≤ start + xs.count (.joining l) := fun hsome =>
        (h.stays hsome).elim (fun hmid => by omega) fun hleft => hpair.2.1 ⟨hleft, hjoined⟩
      omega
    · rw [List.count_eq_zero.mpr hjoined]
      omega

/-- An incident that is no matter of the listener. -/
theorem skip (h : Tracks l start xs p stop) (hjoin : what ≠ .joining l)
    (hleave : what ≠ .leaving l) : Tracks l start (what :: xs) p stop := by
  have hcount : (what :: xs).count (.joining l) = xs.count (.joining l) :=
    List.count_cons_of_ne hjoin
  have hleft : .leaving l ∈ what :: xs ↔ .leaving l ∈ xs := by
    rw [List.mem_cons, or_iff_right hleave.symm]
  have hpair : [.leaving l, .joining l].Sublist (what :: xs)
      ↔ [.leaving l, .joining l].Sublist xs := by
    rw [List.sublist_cons_iff]
    exact or_iff_left fun ⟨_, heq, _⟩ => hleave (List.cons.inj heq).1.symm
  constructor <;> simp only [hcount, hleft, hpair]
  exacts [h.comes, h.goes, h.stays, h.again, h.nested, h.once]

/-- A listener leaves. -/
theorem leave (l : String) : Tracks l 1 [.leaving l] False 0 := by
  have hcount : [Incident.leaving l].count (.joining l) = 0 := by
    simp [Incident.leaving, Incident.joining]
  constructor <;> simp [hcount]

/-- **A listener joins**: what happens within is before it is there. -/
theorem join (h : Tracks l 0 xs p mid) :
    Tracks l 0 (.joining l :: xs) (p ∨ .joining l ∈ xs) 1 where
  comes := by simp
  goes := fun _ => by simp
  stays := fun _ => .inl rfl
  again := fun hpair => by
    rw [List.sublist_cons_iff] at hpair
    have htwice := h.again (hpair.resolve_right fun ⟨_, heq, _⟩ => by
      simp [Incident.leaving, Incident.joining] at heq)
    rw [List.count_cons_self]
    omega
  nested := fun hnested => by
    rw [List.count_cons_self]
    rcases hnested with hp | hjoined
    · have htwice := h.nested hp
      omega
    · have hcount := List.count_pos_iff.mpr hjoined
      omega
  once := fun _ hnested => by
    rw [not_or] at hnested
    have hnone := List.count_eq_zero.mpr hnested.2
    rw [List.count_cons_self]
    omega

end Tracks

namespace Story

variable {l : String} {what : Incident} {within after t : Story} {start mid stop : Nat}

/-- **A story tracks a listener** from its being there or not to its being there or not. -/
def TracksIn (t : Story) (l : String) (start stop : Nat) : Prop :=
  Tracks l start t.incidents (t.Nested l) stop

theorem tracksIn_quiet (h : start ≤ 1) : quiet.TracksIn l start start := by
  have hnested : quiet.Nested l ↔ False := iff_false_intro fun ⟨_, hpart, _⟩ => nomatch hpart
  rw [TracksIn, hnested]
  exact .nil h

/-- An incident that is no matter of the listener, but for what happens within it. -/
theorem TracksIn.told (hwithin : within.TracksIn l start mid) (hafter : after.TracksIn l mid stop)
    (hjoin : what ≠ .joining l) (hleave : what ≠ .leaving l) :
    (told what within after).TracksIn l start stop := by
  rw [TracksIn, nested_told, or_iff_right fun h => hjoin h.1]
  exact (hwithin.append hafter).skip hjoin hleave

/-- The listener joins. -/
theorem TracksIn.join (hwithin : within.TracksIn l 0 mid) (hafter : after.TracksIn l 1 stop) :
    (Story.told (.joining l) within after).TracksIn l 0 stop := by
  have hnested : (Story.told (.joining l) within after).Nested l
      ↔ (within.Nested l ∨ .joining l ∈ within.incidents) ∨ after.Nested l := by
    rw [nested_told, eq_self, true_and, or_left_comm, or_assoc]
  rw [TracksIn, hnested]
  exact (Tracks.join hwithin).append hafter

/-- The listener leaves. -/
theorem TracksIn.leave (hafter : after.TracksIn l 0 stop) :
    (Story.told (.leaving l) .quiet after).TracksIn l 1 stop := by
  have hnested : (Story.told (.leaving l) .quiet after).Nested l ↔ False ∨ after.Nested l := by
    simp [Incident.joining, Incident.leaving, Nested, parts]
  rw [TracksIn, hnested]
  exact (Tracks.leave l).append hafter

/-- **Everybody is there or joins once at most** exactly if callbacks are patient. -/
theorem once_iff_patient {start stop : String → Nat}
    (tracks : ∀ l, t.TracksIn l (start l) (stop l)) :
    (∀ l, start l + t.incidents.count (.joining l) ≤ 1) ↔ t.Patient := by
  constructor
  · intro once
    refine ⟨fun l hpair => ?_, fun l hnested => ?_⟩
    · have htwice := (tracks l).again hpair
      have hatMost := once l
      omega
    · have htwice := (tracks l).nested hnested
      have hatMost := once l
      omega
  · exact fun patient l => (tracks l).once (patient.settled l) (patient.single l)

/-- **What has been handed over** in a story in which nobody delivers, while a message is the last
one: only that message, to everybody as often as it was due to be called, and once for every time
that it has joined. -/
structure Gives (t : Story) (m : Message) (due : List (String × Message)) : Prop where
  same : ∀ x ∈ t.hands, x.2 = m
  count : ∀ l, t.hands.countP (·.1 = l)
    = due.countP (·.1 = l) + t.incidents.count (.joining l)

/-- An incident gives what is given within it and after it. -/
theorem Gives.told {m : Message} {due due' whole : List (String × Message)}
    (hwithin : Gives within m due) (hafter : Gives after m due') (same : ∀ x ∈ what.hand?, x.2 = m)
    (count : ∀ l, what.hand?.toList.countP (·.1 = l) + due.countP (·.1 = l) + due'.countP (·.1 = l)
      = whole.countP (·.1 = l) + [what].count (.joining l)) :
    Gives (Story.told what within after) m whole where
  same := by
    intro x hx
    rw [hands_told, List.mem_append, List.mem_append] at hx
    rcases hx with hx | hx | hx
    · exact same x (Option.mem_toList.mp hx)
    · exact hwithin.same x hx
    · exact hafter.same x hx
  count := by
    intro l
    have hsum := count l
    rw [hands_told, incidents, ← List.singleton_append]
    simp only [List.countP_append, List.count_append, hwithin.count l, hafter.count l]
    omega

theorem gives_quiet (m : Message) : Gives .quiet m [] := ⟨nofun, fun _ => rfl⟩

/-- **Nobody delivers** in a story. -/
def HasNoDelivery (t : Story) : Prop :=
  ∀ m there report, .delivery m there report ∉ t.incidents

theorem HasNoDelivery.of_told (h : (told what within after).HasNoDelivery) :
    within.HasNoDelivery ∧ after.HasNoDelivery := by
  simp only [HasNoDelivery, incidents, List.mem_cons, List.mem_append, not_or] at h
  exact ⟨fun m there r => (h m there r).2.1, fun m there r => (h m there r).2.2⟩

end Story

/-- Whether somebody listens, as a number. -/
def Stand.has (s : Stand) (l : String) : Nat := if l ∈ s.listeners.members then 1 else 0

namespace Stand

variable {s : Stand} {l x : String}

theorem has_le (s : Stand) (l : String) : s.has l ≤ 1 := by
  unfold has
  split <;> omega

theorem has_of_contains (h : s.listeners.contains l = true) : s.has l = 1 :=
  if_pos (Roster.contains_iff.mp h)

theorem has_of_not_contains (h : s.listeners.contains l = false) : s.has l = 0 :=
  if_neg fun hl => by simp [Roster.contains_iff.mpr hl] at h

theorem has_insert_self (s : Stand) (l : String) :
    Stand.has { s with listeners := s.listeners.insert l } l = 1 := by
  rw [has, if_pos]
  rw [Roster.members_insert]
  split
  · assumption
  · exact List.mem_append_right _ List.mem_cons_self

theorem has_insert_of_ne (h : l ≠ x) :
    Stand.has { s with listeners := s.listeners.insert x } l = s.has l := by
  have hmem : l ∈ (s.listeners.insert x).members ↔ l ∈ s.listeners.members := by
    rw [Roster.members_insert]
    split
    · rfl
    · simp [h]
  simp only [has, hmem]

theorem has_erase_self (s : Stand) (l : String) :
    Stand.has { s with listeners := s.listeners.erase l } l = 0 := by
  simp [has, Roster.members_erase]

theorem has_erase_of_ne (h : l ≠ x) :
    Stand.has { s with listeners := s.listeners.erase x } l = s.has l := by
  simp [has, Roster.members_erase, h]

end Stand

namespace Story.Plays

variable {agenda : Agenda} {s s' : Stand} {t : Story} {l : String}

/-- **Every listener is tracked through a story.** -/
theorem tracks (h : Plays agenda s t s') (l : String) : t.TracksIn l (s.has l) (s'.has l) := by
  induction h with
  | quiet => exact tracksIn_quiet (Stand.has_le _ l)
  | ended => exact tracksIn_quiet (Stand.has_le _ l)
  | call _ _ hwithin hafter =>
    exact hwithin.told hafter (by simp [Incident.joining]) (by simp [Incident.leaving])
  | delivery _ _ hwithin hafter =>
    exact hwithin.told hafter (by simp [Incident.joining]) (by simp [Incident.leaving])
  | known _ _ hafter =>
    exact (tracksIn_quiet (Stand.has_le _ l)).told hafter (by simp [Incident.joining])
      (by simp [Incident.leaving])
  | @removal s t x after _ hafter =>
    by_cases hleave : x = l ∧ s.listeners.contains x = true
    · obtain ⟨rfl, hl⟩ := hleave
      rw [Stand.has_erase_self] at hafter
      rw [hl, Stand.has_of_contains hl]
      exact hafter.leave
    · have hsame : Stand.has { s with listeners := s.listeners.erase x } l = s.has l := by
        by_cases hx : l = x
        · subst hx
          rw [Stand.has_erase_self, Stand.has_of_not_contains]
          simpa using hleave
        · exact Stand.has_erase_of_ne hx
      rw [hsame] at hafter
      exact (tracksIn_quiet (Stand.has_le s l)).told hafter (by simp [Incident.joining])
        (by simpa [Incident.leaving] using hleave)
  | @registration s v t x within after new _ _ hwithin hafter =>
    by_cases hx : l = x
    · subst hx
      rw [Stand.has_insert_self] at hafter
      rw [Stand.has_of_not_contains new] at hwithin ⊢
      exact hwithin.join hafter
    · rw [Stand.has_insert_of_ne hx] at hafter
      exact hwithin.told hafter (by simp [Incident.joining, Ne.symm hx])
        (by simp [Incident.leaving])

/-- **Where nobody delivers**, the last message stays, and is all that is handed over. -/
theorem gives {m : Message} (h : Plays agenda s t s') (last : s.last = some m)
    (due : ∀ x ∈ agenda.due, x.2 = m) (still : t.HasNoDelivery) :
    s'.last = some m ∧ Gives t m agenda.due := by
  induction h with
  | quiet => exact ⟨last, gives_quiet m⟩
  | ended => exact ⟨last, gives_quiet m⟩
  | delivery => exact absurd List.mem_cons_self (still _ _ _)
  | call _ _ hwithin hafter =>
    obtain ⟨hlast, hgives⟩ := hwithin last (List.forall_mem_nil _) still.of_told.1
    obtain ⟨hlast', hgives'⟩ := hafter hlast (fun x hx => due x (List.mem_cons_of_mem _ hx))
      still.of_told.2
    refine ⟨hlast', hgives.told hgives' ?_ fun l => ?_⟩
    · rintro x ⟨⟩
      exact due _ List.mem_cons_self
    · simp [Incident.hand?, Incident.joining, Agenda.due, List.countP_cons, Nat.add_comm]
  | removal _ hafter =>
    obtain ⟨hlast, hgives⟩ := hafter last (List.forall_mem_nil _) still.of_told.2
    exact ⟨hlast, (gives_quiet m).told hgives (by rintro _ ⟨⟩) fun l => by
      simp [Incident.hand?, Incident.joining, Agenda.due]⟩
  | known _ _ hafter =>
    obtain ⟨hlast, hgives⟩ := hafter last (List.forall_mem_nil _) still.of_told.2
    exact ⟨hlast, (gives_quiet m).told hgives (by rintro _ ⟨⟩) fun l => by
      simp [Incident.hand?, Incident.joining, Agenda.due]⟩
  | @registration s v t x within after _ _ _ hwithin hafter =>
    obtain ⟨hlast, hgives⟩ := hwithin last (by simp [Agenda.replay, Agenda.due, last])
      still.of_told.1
    obtain ⟨hlast', hgives'⟩ := hafter hlast (List.forall_mem_nil _) still.of_told.2
    refine ⟨hlast', hgives.told hgives' (by rintro _ ⟨⟩) fun l => ?_⟩
    by_cases hx : x = l <;>
      simp [Incident.hand?, Incident.joining, Agenda.replay, Agenda.due, last, hx]

end Story.Plays

namespace Replays

open Chronicler

/-- Those who are there are due to be called once. -/
theorem countP_round (r : Roster String) (m : Message) (l : String) :
    (Agenda.round m r.members).due.countP (·.1 = l) = if l ∈ r.members then 1 else 0 := by
  have hcount := List.Nodup.count (a := l) r.distinct
  rw [Agenda.round, Agenda.due, List.countP_map, ← hcount, List.count]
  rfl

/-- **A delivery gives its message** to those who are there, and to those who join. -/
theorem gives_of_deliver {k : Chronicler} {plain : Company} {w₀ w v : World} {id : ChatId}
    {m : Message} {r : Report} {story : Story} (truthful : k.Truthful w₀ id k.Delivers)
    (devoted : k.toCast.Devoted w₀ id) (home : World.Home w₀ id w) (quiet : ¬ k.Delivers)
    (h : (k.deliver plain id m).run.run w = some ((r, story), v)) :
    story.Gives m (Agenda.round m (w.members id)).due := by
  obtain ⟨within, rfl, hround⟩ := recount_deliver truthful devoted home h
  have hlast := World.stand_onChat home.lt fun c => { c with last := some m }
  have hwithin := (hround.plays.gives (by rw [hlast]) (by simp [Agenda.round, Agenda.due])
    fun m' there report hmem => quiet (hround.delivers m' there report hmem)).2
  exact hwithin.told (Story.gives_quiet m) nofun fun l => by
    simp [Incident.hand?, Incident.joining]

/-- **A message is handed to everybody once exactly if callbacks are patient.**  Deliver a message
to a chat whose listeners register and remove listeners when they are called, and end in any way,
but do not deliver.  Until the delivery is over, nothing else is handed over, to a listener once if
it was there when the delivery started, and once for every time that it has joined since.  That is
once at most for all of them exactly if nobody joins after having left, nor from within its own
joining; and then whoever joins was not there and is handed the message once. -/
theorem handed_once_iff_patient {cast : Cast} {depth : Nat} {w₀ w : World} {id : ChatId}
    {m : Message} {r : Report} (devoted : cast.Devoted w₀ id)
    (lt : id < w₀.directory.chats.length) (quiet : ¬ cast.Delivers)
    (h : ((cast.company depth).deliver id m).run w₀ = some (r, w)) :
    ∃ story, ((cast.chronicler depth).deliver (cast.company depth) id m).run.run w₀
        = some ((r, story), w)
      ∧ w.received = w₀.received ++ story.hands
      ∧ (∀ x ∈ story.hands, x.2 = m)
      ∧ (∀ l, story.hands.countP (·.1 = l)
        = (if l ∈ w₀.members id then 1 else 0) + story.incidents.count (.joining l))
      ∧ ((∀ l, story.hands.countP (·.1 = l) ≤ 1) ↔ story.Patient)
      ∧ (story.Patient → ∀ l, .joining l ∈ story.incidents →
        l ∉ w₀.members id ∧ story.hands.countP (·.1 = l) = 1) := by
  obtain ⟨story, hrun⟩ := (recalls_deliver (cast.recalls depth) id m).exists_story h
  have home : World.Home w₀ id w₀ := ⟨rfl, rfl, lt⟩
  have truthful := devoted.truthful depth
  have hwhole := recounts_deliver truthful devoted m trivial (fun _ => trivial) w₀ r story w
    home hrun
  have hgives := gives_of_deliver truthful devoted home quiet hrun
  have hcount : ∀ l, story.hands.countP (·.1 = l)
      = (if l ∈ w₀.members id then 1 else 0) + story.incidents.count (.joining l) := fun l => by
    rw [hgives.count l, World.members, countP_round]
  have hpatient := Story.once_iff_patient hwhole.plays.tracks
  refine ⟨story, hrun, hwhole.received, hgives.same, hcount, ?_, fun patient l hjoins => ?_⟩
  · rw [← hpatient]
    exact forall_congr' fun l => by rw [hcount]; rfl
  · have hatMost : (if l ∈ w₀.members id then 1 else 0) + story.incidents.count (.joining l) ≤ 1 :=
      hpatient.mpr patient l
    have hjoined := List.count_pos_iff.mpr hjoins
    rw [hcount]
    by_cases hl : l ∈ w₀.members id
    · rw [if_pos hl] at hatMost
      omega
    · rw [if_neg hl] at hatMost ⊢
      exact ⟨hl, by omega⟩

/-- Listeners that find a chat under a label and only register and remove listeners there. -/
theorem quiet_of_steps {cast : Cast} {w : World} {id : ChatId} (label : String)
    (hlabel : w.labels.lookup label = some id)
    (h : ∀ name react, cast.listener name = .scripted react → ∀ m n, ∀ s ∈ (react m n).steps,
      ∃ l, s.action = .onChat (.labelled label) (.register l)
        ∨ s.action = .onChat (.labelled label) (.unregister l)) :
    cast.Devoted w id ∧ ¬ cast.Delivers := by
  constructor
  · intro name react hrole m n s hs
    obtain ⟨l, haction | haction⟩ := h name react hrole m n s hs <;>
      exact ⟨_, _, haction, rfl, hlabel⟩
  · rintro ⟨name, react, m, n, target, m', hrole, s, hs, haction⟩
    obtain ⟨l, haction' | haction'⟩ := h name react hrole m n s hs <;> simp [haction] at haction'

/-- The first of two listeners registers a third when it is called: the third is handed the message
once, through its registration, and so are the others. -/
theorem handed_once_when_one_joins :
    let message : Message := .plain "1" "room" "ann" "hello"
    let cast : Cast := { listener := fun l => .scripted fun _ _ =>
      { steps := if l = "first" then [⟨none, .onChat (.labelled "room") (.register "third")⟩]
        else [] } }
    let chat : Chat :=
      { Chat.fresh (some "room") with listeners := (Roster.empty.insert "first").insert "second" }
    let w₀ : World := {
      directory := { owner := .bare "bot", chats := [chat] }
      labels := [("room", 0)] }
    ∃ (w : World) (story : Story),
      ((cast.company 2).deliver 0 message).run w₀ = some (⟨2, 0⟩, w)
      ∧ w.received = [("first", message), ("third", message), ("second", message)]
      ∧ w.received = story.hands ∧ story.Patient
      ∧ "third" ∉ w₀.members 0 ∧ story.hands.countP (·.1 = "third") = 1 := by
  intro message cast chat w₀
  obtain ⟨devoted, quiet⟩ : cast.Devoted w₀ 0 ∧ ¬ cast.Delivers := by
    refine quiet_of_steps "room" rfl fun name react h m n s hs => ?_
    obtain rfl := ListenerRole.scripted.inj h
    by_cases hfirst : name = "first"
    · simp only [if_pos hfirst, List.mem_singleton] at hs
      exact ⟨_, .inl (by rw [hs])⟩
    · simp [if_neg hfirst] at hs
  have hview : (((cast.company 2).deliver 0 message).run w₀).map (fun r => (r.1, r.2.received))
      = some (⟨2, 0⟩, [("first", message), ("third", message), ("second", message)]) := by
    decide +kernel
  obtain ⟨⟨r, w⟩, hrun, hw⟩ := Option.map_eq_some_iff.mp hview
  obtain ⟨rfl, hreceived⟩ := Prod.mk.inj hw
  obtain ⟨story, htold, hhands, -, hcount, hpatient, hjoins⟩ :=
    handed_once_iff_patient devoted (by decide) quiet hrun
  have hall : story.hands = [("first", message), ("third", message), ("second", message)] :=
    hhands.symm.trans hreceived
  have patient : story.Patient := hpatient.mp fun l => by
    have hdistinct : (story.hands.map (·.1)).Nodup := by
      rw [hall]
      decide
    have honce := List.nodup_iff_count.mp hdistinct l
    rwa [List.count, List.countP_map] at honce
  have hthird : .joining "third" ∈ story.incidents := by
    have hsum := hcount "third"
    rw [hall, if_neg (by decide), Nat.zero_add] at hsum
    exact List.count_pos_iff.mp (hsum ▸ Nat.one_pos)
  exact ⟨w, story, hrun, hreceived, hhands, patient, hjoins patient "third" hthird⟩

/-- **Handed twice after a return**: the first of two listeners removes the second when it is called
and registers it again; the second gets the message through its registration, and then once more,
because it was there when the delivery started. -/
theorem handed_twice_after_return :
    let message : Message := .plain "1" "room" "ann" "hello"
    let again : List Step := [⟨none, .onChat (.labelled "room") (.unregister "second")⟩,
      ⟨none, .onChat (.labelled "room") (.register "second")⟩]
    let cast : Cast := { listener := fun l => .scripted fun _ _ =>
      { steps := if l = "first" then again else [] } }
    let chat : Chat :=
      { Chat.fresh (some "room") with listeners := (Roster.empty.insert "first").insert "second" }
    let w₀ : World := {
      directory := { owner := .bare "bot", chats := [chat] }
      labels := [("room", 0)] }
    cast.Devoted w₀ 0 ∧ ¬ cast.Delivers
      ∧ ∃ w, ((cast.company 2).deliver 0 message).run w₀ = some (⟨2, 0⟩, w)
        ∧ w.received = [("first", message), ("second", message), ("second", message)] := by
  intro message again cast chat w₀
  obtain ⟨devoted, quiet⟩ : cast.Devoted w₀ 0 ∧ ¬ cast.Delivers := by
    refine quiet_of_steps "room" rfl fun name react h m n s hs => ?_
    obtain rfl := ListenerRole.scripted.inj h
    by_cases hfirst : name = "first"
    · simp only [if_pos hfirst, again, List.mem_cons, List.not_mem_nil, or_false] at hs
      rcases hs with rfl | rfl
      · exact ⟨_, .inr rfl⟩
      · exact ⟨_, .inl rfl⟩
    · simp [if_neg hfirst] at hs
  have hview : (((cast.company 2).deliver 0 message).run w₀).map (fun r => (r.1, r.2.received))
      = some (⟨2, 0⟩, [("first", message), ("second", message), ("second", message)]) := by
    decide +kernel
  obtain ⟨⟨r, w⟩, hrun, hw⟩ := Option.map_eq_some_iff.mp hview
  obtain ⟨rfl, hreceived⟩ := Prod.mk.inj hw
  exact ⟨devoted, quiet, w, hrun, hreceived⟩

/-- A newcomer that registers itself while it is just being registered is handed the message twice
as well. -/
example :
    let message : Message := .plain "1" "room" "ann" "hello"
    let cast : Cast := { listener := fun _ => .scripted fun _ turn =>
      { steps := if turn = 0 then [⟨none, .onChat (.labelled "room") (.register "second")⟩]
        else [] } }
    let chat : Chat := { Chat.fresh (some "room") with listeners := Roster.empty.insert "first" }
    let w₀ : World := {
      directory := { owner := .bare "bot", chats := [chat] }
      labels := [("room", 0)] }
    (((cast.company 3).deliver 0 message).run w₀).map (fun r => r.2.received)
      = some [("first", message), ("second", message), ("second", message)] := by
  decide +kernel

end Replays

end ChatFeed
