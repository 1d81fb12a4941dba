import ChatFeed.Chat.Album
import Mathlib.Data.List.Basic
import Mathlib.Data.List.Induction
import Mathlib.Order.Bounds.Basic

/-!
# Proofs/Chat/Seniority — who has been on a roster for longer stands further in front

A call leaves some of the members, in their order, or puts a new one behind them all
(`members_call_cases`).  So whoever is listed has not been removed since they last joined
(`mem_listed_iff`), and **those who joined earlier stand further in front** (`pairwise_listed`): who
joins again after having left begins anew, at the end.  `lists_by_seniority` puts this together with
what the calls answer and with the snapshots, which stay as they were.

Members are told apart by who they are and not by what they are like, which `Renames` makes precise:
a roster under other names is the same one.
-/

namespace ChatFeed

variable {α β : Type}

/-- A call under other names. -/
def RosterCall.map (f : α → β) : RosterCall α → RosterCall β
  | .insert a => .insert (f a)
  | .remove a => .remove (f a)
  | .contains a => .contains (f a)
  | .snapshot => .snapshot
  | .size => .size

namespace Album

variable [DecidableEq α] [DecidableEq β] {calls : List (RosterCall α)} {c : RosterCall α} {a : α}
  {i : Nat}

/-! ## One call -/

theorem answer_insert (b : Album α) (a : α) : (b.call (.insert a)).1 = .flag (a ∉ b.members) := by
  by_cases h : a ∈ b.members
  · simp [call, Roster.contains_iff.mpr h, h]
  · simp [call, mt Roster.contains_iff.mp h, h]

theorem members_insert (b : Album α) (a : α) : (b.call (.insert a)).2.members
    = if a ∈ b.members then b.members else b.members ++ [a] := by
  by_cases h : a ∈ b.members
  · simp [call, Roster.contains_iff.mpr h, h]
  · rw [if_neg h, call, if_neg (mt Roster.contains_iff.mp h)]
    exact (Roster.members_insert b.roster a).trans (if_neg h)

theorem pages_insert (b : Album α) (a : α) : (b.call (.insert a)).2.pages = b.pages := by
  rw [call]
  split_ifs <;> rfl

/-- Fewer members are left just if there was one to be removed. -/
theorem answer_remove (b : Album α) (a : α) : (b.call (.remove a)).1 = .flag (a ∈ b.members) := by
  have hsize : (b.roster.erase a).size = b.roster.size ↔ a ∉ b.members := by
    rw [Roster.size, Roster.size, Roster.members_erase, List.length_filter_eq_length_iff]
    simp only [decide_eq_true_eq]
    exact List.forall_mem_ne'
  simp [call, hsize]

theorem members_remove (b : Album α) (a : α) :
    (b.call (.remove a)).2.members = b.members.filter (· ≠ a) :=
  Roster.members_erase b.roster a

theorem answer_contains (b : Album α) (a : α) :
    (b.call (.contains a)).1 = .flag (a ∈ b.members) :=
  congrArg RosterAnswer.flag (List.contains_eq_mem a b.members)

theorem answer_size (b : Album α) : (b.call .size).1 = .count b.members.length := rfl

/-- **Who is a member after a call**: who is inserted by it, or has been one and is not removed. -/
theorem mem_members_call_iff (b : Album α) :
    a ∈ (b.call c).2.members ↔ c = .insert a ∨ a ∈ b.members ∧ c ≠ .remove a := by
  cases c with
  | insert x =>
    rw [members_insert]
    split_ifs with hx
    · simp only [RosterCall.insert.injEq, ne_eq, reduceCtorEq, not_false_eq_true, and_true]
      exact (or_iff_right_of_imp fun h => h ▸ hx).symm
    · simp [or_comm, eq_comm]
  | remove x => simp [members_remove, @eq_comm _ x a]
  | _ => simp [call, members]

/-- **A call leaves some of the members, in their order, or puts a new one behind them all.** -/
theorem members_call_cases (b : Album α) (c : RosterCall α) :
    (b.call c).2.members.Sublist b.members
      ∨ ∃ a, c = .insert a ∧ a ∉ b.members ∧ (b.call c).2.members = b.members ++ [a] := by
  cases c with
  | insert a =>
    by_cases h : a ∈ b.members
    · exact .inl (by rw [members_insert, if_pos h])
    · exact .inr ⟨a, rfl, h, by rw [members_insert, if_neg h]⟩
  | remove a => exact .inl (by rw [members_remove]; exact List.filter_sublist)
  | _ => exact .inl (List.Sublist.refl _)

/-- No call touches the pages that there are. -/
theorem pages_call (b : Album α) (c : RosterCall α) : b.pages <+: (b.call c).2.pages := by
  cases c with
  | insert a => exact (pages_insert b a).symm ▸ List.prefix_refl _
  | snapshot => exact List.prefix_append _ _
  | _ => exact List.prefix_refl _

theorem pages_callAll (b : Album α) (calls : List (RosterCall α)) :
    b.pages <+: (b.callAll calls).pages := by
  induction calls generalizing b with
  | nil => exact List.prefix_refl _
  | cons c calls ih => exact (b.pages_call c).trans (ih (b.call c).2)

/-! ## Histories -/

/-- **A new roster after some calls.** -/
def after (calls : List (RosterCall α)) : Album α := ({} : Album α).callAll calls

/-- Whom it lists then. -/
def listed (calls : List (RosterCall α)) : List α := (after calls).members

/-- What the next call answers. -/
def answer (calls : List (RosterCall α)) (c : RosterCall α) : RosterAnswer :=
  ((after calls).call c).1

theorem after_append (calls later : List (RosterCall α)) :
    after (calls ++ later) = (after calls).callAll later :=
  List.foldl_append

theorem after_concat (calls : List (RosterCall α)) (c : RosterCall α) :
    after (calls ++ [c]) = ((after calls).call c).2 :=
  after_append calls [c]

theorem listed_concat (calls : List (RosterCall α)) (c : RosterCall α) :
    listed (calls ++ [c]) = ((after calls).call c).2.members :=
  congrArg members (after_concat calls c)

/-- **Who is listed after one more call.** -/
theorem mem_listed_concat_iff :
    a ∈ listed (calls ++ [c]) ↔ c = .insert a ∨ a ∈ listed calls ∧ c ≠ .remove a := by
  rw [listed_concat]
  exact mem_members_call_iff (after calls)

/-- **The call at a position makes somebody a member**: it is an insertion, and succeeds. -/
def JoinsAt (calls : List (RosterCall α)) (a : α) (i : Nat) : Prop :=
  calls[i]? = some (.insert a) ∧ answer (calls.take i) (.insert a) = .flag true

/-- **The last call that has made somebody a member.** -/
def Since (calls : List (RosterCall α)) (a : α) (i : Nat) : Prop :=
  IsGreatest {i | JoinsAt calls a i} i

theorem JoinsAt.lt (h : JoinsAt calls a i) : i < calls.length :=
  (List.getElem?_eq_some_iff.mp h.1).1

/-- **Who joins with one more call.** -/
theorem joinsAt_concat : JoinsAt (calls ++ [c]) a i
    ↔ JoinsAt calls a i ∨ i = calls.length ∧ c = .insert a ∧ a ∉ listed calls := by
  rcases lt_trichotomy i calls.length with hi | rfl | hi
  · rw [JoinsAt, JoinsAt, List.getElem?_append_left hi, List.take_append_of_le_length hi.le]
    simp [hi.ne]
  · have hnone : ¬ JoinsAt calls a calls.length := fun h => h.lt.false
    rw [or_iff_right hnone, JoinsAt, List.take_left, answer, answer_insert]
    simp [listed]
  · -- neither history is that long
    refine iff_of_false (fun h => ?_) ?_
    · have hlt := h.lt
      simp only [List.length_append, List.length_singleton] at hlt
      omega
    · rintro (h | ⟨rfl, -⟩)
      · exact hi.not_gt h.lt
      · exact hi.false

/-- A call with which somebody does not join leaves it as it is since when they are there. -/
theorem since_concat_of_imp (h : c = .insert a → a ∈ listed calls) :
    Since (calls ++ [c]) a i ↔ Since calls a i := by
  have hset : {i | JoinsAt (calls ++ [c]) a i} = {i | JoinsAt calls a i} := by
    ext i
    rw [Set.mem_ofPred_eq, joinsAt_concat]
    exact or_iff_left fun ⟨_, hc, hnew⟩ => hnew (h hc)
  rw [Since, Since, hset]

theorem since_concat_of_mem (h : a ∈ listed calls) :
    Since (calls ++ [c]) a i ↔ Since calls a i :=
  since_concat_of_imp fun _ => h

theorem since_concat_self (h : a ∉ listed calls) :
    Since (calls ++ [.insert a]) a i ↔ i = calls.length := by
  have hlast : Since (calls ++ [.insert a]) a calls.length := by
    refine ⟨joinsAt_concat.mpr (.inr ⟨rfl, rfl, h⟩), fun j hj => ?_⟩
    rcases joinsAt_concat.mp hj with hj | ⟨rfl, -⟩
    · exact hj.lt.le
    · exact le_rfl
  exact ⟨fun hi => hi.unique hlast, fun hi => hi ▸ hlast⟩

/-! ## Who is listed, and where -/

/-- **Somebody is listed just if they have not been removed since they last joined.** -/
theorem mem_listed_iff (calls : List (RosterCall α)) (a : α) :
    a ∈ listed calls ↔ ∃ i, Since calls a i ∧ .remove a ∉ calls.drop i := by
  induction calls using List.reverseRecOn with
  | nil => simp [listed, after, callAll, members, Roster.empty, Since, IsGreatest, JoinsAt]
  | append_singleton calls c ih =>
    rw [mem_listed_concat_iff]
    by_cases hjoin : c = .insert a → a ∈ listed calls
    · have hmem : c = .insert a ∨ a ∈ listed calls ∧ c ≠ .remove a
          ↔ a ∈ listed calls ∧ c ≠ .remove a :=
        or_iff_right_of_imp fun hc => ⟨hjoin hc, by simp [hc]⟩
      rw [hmem, ih, ← exists_and_right]
      refine exists_congr fun i => ?_
      rw [since_concat_of_imp hjoin, and_assoc]
      refine and_congr_right fun hi => ?_
      rw [List.drop_append_of_le_length hi.1.lt.le]
      simp [eq_comm]
    · obtain ⟨rfl, hnew⟩ := Classical.not_imp.mp hjoin
      refine iff_of_true (.inl rfl) ⟨calls.length, (since_concat_self hnew).mpr rfl, ?_⟩
      simp

/-- **Who joined earlier stands further in front.** -/
theorem pairwise_listed (calls : List (RosterCall α)) :
    (listed calls).Pairwise fun a b => ∀ i j, Since calls a i → Since calls b j → i < j := by
  induction calls using List.reverseRecOn with
  | nil => exact .nil
  | append_singleton calls c ih =>
    -- no call makes anybody join who is there already
    have hold : (listed calls).Pairwise
        fun a b => ∀ i j, Since (calls ++ [c]) a i → Since (calls ++ [c]) b j → i < j :=
      ih.imp_of_mem fun ha hb h i j hi hj =>
        h i j ((since_concat_of_mem ha).mp hi) ((since_concat_of_mem hb).mp hj)
    rw [listed_concat]
    rcases members_call_cases (after calls) c with hsub | ⟨a, rfl, hnew, heq⟩
    · exact hold.sublist hsub
    · rw [heq, List.pairwise_append]
      refine ⟨hold, List.pairwise_singleton _ _, fun b hb x hx i j hi hj => ?_⟩
      obtain rfl := List.mem_singleton.mp hx
      obtain rfl := (since_concat_self hnew).mp hj
      exact ((since_concat_of_mem hb).mp hi).1.lt

/-- Whoever is not listed and is inserted comes last. -/
theorem listed_insert (h : a ∉ listed calls) :
    listed (calls ++ [.insert a]) = listed calls ++ [a] := by
  rw [listed_concat, members_insert]
  exact if_neg h

theorem listed_remove (calls : List (RosterCall α)) (a : α) :
    listed (calls ++ [.remove a]) = (listed calls).filter (· ≠ a) := by
  rw [listed_concat, members_remove, listed]

/-- Whoever was removed is not listed until they are inserted again. -/
theorem not_mem_of_removed (calls : List (RosterCall α)) {between : List (RosterCall α)}
    (h : .insert a ∉ between) : a ∉ listed (calls ++ .remove a :: between) := by
  induction between using List.reverseRecOn with
  | nil => simp [listed_remove]
  | append_singleton between c ih =>
    rw [List.mem_append, not_or, List.mem_singleton] at h
    rw [← List.cons_append, ← List.append_assoc, mem_listed_concat_iff]
    rintro (hc | ⟨hmem, -⟩)
    · exact h.2 hc.symm
    · exact ih h.1 hmem

/-! ## What calls tell -/

/-- **A call is candid about somebody**: it tells whether it makes them a member or ends that, and
if it does not, everybody stays in their place. -/
def Candid (calls : List (RosterCall α)) (a : α) (c : RosterCall α) : Prop :=
  ∃ told, answer calls c = .flag told
    ∧ (told = true ↔ ¬ (a ∈ listed calls ↔ a ∈ listed (calls ++ [c])))
    ∧ (told = false → listed (calls ++ [c]) = listed calls)

theorem candid_insert (calls : List (RosterCall α)) (a : α) : Candid calls a (.insert a) := by
  refine ⟨_, answer_insert (after calls) a, ?_, fun htold => ?_⟩
  · rw [mem_listed_concat_iff]
    simp [listed]
  · rw [listed_concat, members_insert]
    exact if_pos (by simpa using htold)

theorem candid_remove (calls : List (RosterCall α)) (a : α) : Candid calls a (.remove a) := by
  refine ⟨_, answer_remove (after calls) a, ?_, fun htold => ?_⟩
  · rw [mem_listed_concat_iff]
    simp [listed]
  · have hother : ∀ x ∈ listed calls, x ≠ a := List.forall_mem_ne'.mpr (of_decide_eq_false htold)
    rw [listed_remove, List.filter_eq_self]
    simpa using hother

/-- **A snapshot stays as it was**, whatever calls are made later. -/
theorem pages_of_snapshot (calls later : List (RosterCall α)) :
    (after (calls ++ .snapshot :: later)).pages[(after calls).pages.length]?
      = some (listed calls) := by
  rw [List.append_cons, after_append, after_concat]
  obtain ⟨more, hmore⟩ := pages_callAll ((after calls).call .snapshot).2 later
  rw [← hmore]
  simp [call, listed]

/-! ## Other names -/

/-- **A roster under other names**: the same members in the same order, now and in each snapshot. -/
structure Renames (f : α → β) (b : Album α) (b' : Album β) : Prop where
  members : b'.members = b.members.map f
  pages : b'.pages = b.pages.map (List.map f)

/-- **A call is answered alike under other names**, if they tell the same ones apart. -/
theorem Renames.call {f : α → β} (hf : f.Injective) {b : Album α} {b' : Album β}
    (h : Renames f b b') (c : RosterCall α) : (b'.call (c.map f)).1 = (b.call c).1
      ∧ Renames f (b.call c).2 (b'.call (c.map f)).2 := by
  have hmem (a : α) : f a ∈ b'.members ↔ a ∈ b.members := by
    rw [h.members, List.mem_map_of_injective hf]
  cases c with
  | insert a =>
    refine ⟨by simp [RosterCall.map, answer_insert, hmem], ?_, ?_⟩
    · rw [RosterCall.map, members_insert, members_insert, if_congr (hmem a) rfl rfl, h.members]
      split_ifs <;> simp
    · simp only [RosterCall.map, pages_insert, h.pages]
  | remove a =>
    refine ⟨by simp [RosterCall.map, answer_remove, hmem], ?_, h.pages⟩
    simp [RosterCall.map, members_remove, h.members, List.filter_map, hf.eq_iff, Function.comp_def]
  | contains a => exact ⟨by simp [RosterCall.map, answer_contains, hmem], h⟩
  | snapshot =>
    refine ⟨?_, h.members, ?_⟩
    · simp [RosterCall.map, Album.call, h.pages]
    · simp [RosterCall.map, Album.call, h.pages, h.members]
  | size =>
    refine ⟨?_, h⟩
    rw [RosterCall.map, answer_size, answer_size, h.members, List.length_map]

theorem renames_after {f : α → β} (hf : f.Injective) (calls : List (RosterCall α)) :
    Renames f (after calls) (after (calls.map (·.map f))) := by
  induction calls using List.reverseRecOn with
  | nil => exact ⟨rfl, rfl⟩
  | append_singleton calls c ih =>
    rw [List.map_append, List.map_singleton, after_concat, after_concat]
    exact (ih.call hf c).2

/-! ## Rosters -/

/-- **A roster lists its members by seniority.**  Take any calls on a new roster, about any number
of candidates.

* Nobody is listed twice, and somebody is listed just if they have not been removed since they last
  joined.  Of two members the one stands in front who last joined first.
* An insertion or a removal tells whether it changes that somebody is a member, and if it does not,
  all stay in their places.
* A removal leaves the others in their order.  Whoever is not listed and is inserted comes last, and
  so does whoever was removed, however long ago.
* To ask for somebody or for the number of members, or to take a snapshot, changes nothing.
* A snapshot has the members of its moment on its page, whatever comes later.
* All that counts is who is the same as whom.  Under other names that tell the same ones apart, say
  with contents added, which may well be equal, the answers and the places are the same. -/
theorem lists_by_seniority (calls : List (RosterCall α)) :
    (listed calls).Nodup
      ∧ (∀ a, a ∈ listed calls ↔ ∃ i, Since calls a i ∧ .remove a ∉ calls.drop i)
      ∧ ((listed calls).Pairwise fun a b => ∀ i j, Since calls a i → Since calls b j → i < j)
      ∧ (∀ a, Candid calls a (.insert a) ∧ Candid calls a (.remove a))
      ∧ (∀ a, listed (calls ++ [.remove a]) = (listed calls).filter (· ≠ a))
      ∧ (∀ a, a ∉ listed calls → listed (calls ++ [.insert a]) = listed calls ++ [a])
      ∧ (∀ a between, .insert a ∉ between → listed (calls ++ .remove a :: between ++ [.insert a])
        = listed (calls ++ .remove a :: between) ++ [a])
      ∧ (∀ a, answer calls (.contains a) = .flag (a ∈ listed calls)
        ∧ listed (calls ++ [.contains a]) = listed calls)
      ∧ (answer calls .size = .count (listed calls).length
        ∧ listed (calls ++ [.size]) = listed calls)
      ∧ (listed (calls ++ [.snapshot]) = listed calls
        ∧ ∃ n, answer calls .snapshot = .page n
          ∧ ∀ later, (after (calls ++ .snapshot :: later)).pages[n]? = some (listed calls))
      ∧ ∀ {β : Type} [DecidableEq β] (f : α → β), f.Injective →
        Renames f (after calls) (after (calls.map (·.map f)))
          ∧ ∀ c, answer (calls.map (·.map f)) (c.map f) = answer calls c := by
  refine ⟨(after calls).roster.distinct, mem_listed_iff calls, pairwise_listed calls,
    fun a => ⟨candid_insert calls a, candid_remove calls a⟩, listed_remove calls,
    fun a => listed_insert, fun a between h => listed_insert (not_mem_of_removed calls h),
    fun a => ⟨answer_contains (after calls) a, listed_concat calls _⟩,
    ⟨answer_size (after calls), listed_concat calls _⟩,
    ⟨listed_concat calls _, _, rfl, pages_of_snapshot calls⟩, fun f hf => ?_⟩
  exact ⟨renames_after hf calls, fun c => ((renames_after hf calls).call hf c).1⟩

/-- Two with equal contents; the first one is inserted again in vain, then removed, and inserted once
more. -/
theorem lists_by_seniority_of_twins :
    let alike (a : Nat) : Nat × String := (a, "alike")
    let calls : List (RosterCall Nat) := [.insert 1, .insert 2]
    let later : List (RosterCall Nat) := [.insert 1, .remove 1, .size, .insert 1]
    (∃ n, answer calls .snapshot = .page n
        ∧ (after (calls ++ .snapshot :: later)).pages[n]? = some [1, 2])
      ∧ (.insert 1 ∉ ([.size] : List (RosterCall Nat))
        ∧ listed (calls ++ .snapshot :: later) = [2] ++ [1])
      ∧ (∀ i j, Since (calls ++ .snapshot :: later) 2 i → Since (calls ++ .snapshot :: later) 1 j →
        i < j)
      ∧ alike.Injective
      ∧ listed ((calls ++ .snapshot :: later).map (·.map alike)) = [(2, "alike"), (1, "alike")] := by
  intro alike calls later
  have hlisted : listed (calls ++ .snapshot :: later) = [2, 1] := by decide
  have halike : alike.Injective := fun a b h => congrArg Prod.fst h
  obtain ⟨-, -, -, -, -, -, -, -, -, ⟨-, n, hn, hpage⟩, -⟩ := lists_by_seniority calls
  obtain ⟨-, -, -, -, -, -, hback, -⟩ := lists_by_seniority (calls ++ [.snapshot, .insert 1])
  obtain ⟨-, -, horder, -, -, -, -, -, -, -, hnames⟩ :=
    lists_by_seniority (calls ++ .snapshot :: later)
  refine ⟨⟨n, hn, hpage later⟩, ⟨by decide, hback 1 [.size] (by decide)⟩, ?_, halike, ?_⟩
  · rw [hlisted] at horder
    exact List.rel_of_pairwise_cons horder (List.mem_singleton.mpr rfl)
  · have hmembers := (hnames alike halike).1.members
    rwa [← listed, ← listed, hlisted] at hmembers

end Album

end ChatFeed
