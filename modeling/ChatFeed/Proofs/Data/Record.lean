import ChatFeed.Data.Record
import Mathlib.Data.List.Nodup

/-!
# Proofs/Data/Record — what a table has to say to be a record

A table says something by the members of one name (`valuesOf`): by exactly one (`Once`), or by one
at most (`AtMostOnce`).  `Taken` is the same thing seen from the loop that reads the table into a
draft, where a value may be there already.

What stands for text, for a number in a range or for one of some names is said by `IsText`,
`IsInteger`, `IsChoice`, and the readers of trees take exactly that (`Pick.choice_gives`).

A record is **made of slots** when each field fills one place of the draft and leaves the others
alone (`Record.HasSlots`).  Then the loop over a table is one statement for each slot
(`Record.HasSlots.entries_iff`), and so is the whole reading (`Record.HasSlots.pick_iff`): in what
order the members stand, and which other members there are, is nowhere in it.  When every field may
be left out, a list is read as the table of its elements under the names of the fields, and
`Record.HasSlots.run_iff` speaks of all trees.
-/

namespace ChatFeed.Data

variable {α δ ρ : Type} {name : String} {es : List (String × Value)}

/-! ## The members of a name -/

/-- The values of the members of a name. -/
def valuesOf (name : String) (es : List (String × Value)) : List Value :=
  (es.filter (·.1 = name)).map (·.2)

@[simp] theorem valuesOf_nil (name : String) : valuesOf name [] = [] := rfl

@[simp] theorem valuesOf_cons_self (name : String) (v : Value) (es : List (String × Value)) :
    valuesOf name ((name, v) :: es) = v :: valuesOf name es := by simp [valuesOf]

theorem valuesOf_cons_of_ne {other : String} (h : name ≠ other) (v : Value)
    (es : List (String × Value)) : valuesOf name ((other, v) :: es) = valuesOf name es := by
  simp [valuesOf, h.symm]

/-- The members of other names do not matter. -/
theorem valuesOf_filter_ne {other : String} (h : name ≠ other) (es : List (String × Value)) :
    valuesOf name (es.filter (·.1 ≠ other)) = valuesOf name es := by
  rw [valuesOf, valuesOf, List.filter_filter]
  refine congrArg _ (List.filter_congr fun e _ => ?_)
  by_cases he : e.1 = name <;> simp [he, h]

/-- **Exactly one member has the name**, and its value stands for the given one. -/
def Once (stands : Value → α → Prop) (name : String) (es : List (String × Value)) (a : α) : Prop :=
  ∃ v, valuesOf name es = [v] ∧ stands v a

/-- **At most one member has the name**; its value stands for the given one, which is the default
when there is no such member. -/
def AtMostOnce (stands : Value → α → Prop) (name : String) (es : List (String × Value))
    (default a : α) : Prop :=
  (valuesOf name es = [] ∧ a = default) ∨ Once stands name es a

/-- **What the members of a name make of a place**: empty, it takes the only value; filled, it takes
no other. -/
def Taken (stands : Value → α → Prop) (name : String) (es : List (String × Value)) :
    Option α → Option α → Prop
  | none, none => valuesOf name es = []
  | none, some a => Once stands name es a
  | some a, after => valuesOf name es = [] ∧ after = some a

variable {stands : Value → α → Prop} {before after : Option α}

theorem once_congr {stands' : Value → α → Prop} {a : α}
    (h : ∀ v ∈ valuesOf name es, stands v a ↔ stands' v a) :
    Once stands name es a ↔ Once stands' name es a := by
  refine exists_congr fun v => and_congr_right fun hv => h v ?_
  rw [hv]
  exact List.mem_singleton_self v

theorem atMostOnce_iff {default a : α} : AtMostOnce stands name es default a
    ↔ ∃ o, Taken stands name es none o ∧ o.getD default = a := by
  constructor
  · rintro (⟨hnone, rfl⟩ | honce)
    · exact ⟨none, hnone, rfl⟩
    · exact ⟨some a, honce, rfl⟩
  · rintro ⟨_ | b, htaken, rfl⟩
    · exact .inl ⟨htaken, rfl⟩
    · exact .inr htaken

/-- Values that are made of others: so is the one of a name. -/
theorem atMostOnce_made_iff {β : Type} {parts : Value → β → Prop} {make : β → α} {blank : β}
    {a : α} (h : ∀ v a, stands v a ↔ ∃ b, parts v b ∧ make b = a) :
    AtMostOnce stands name es (make blank) a
      ↔ ∃ b, AtMostOnce parts name es blank b ∧ make b = a := by
  constructor
  · rintro (⟨hnone, rfl⟩ | ⟨v, hv, hstands⟩)
    · exact ⟨blank, .inl ⟨hnone, rfl⟩, rfl⟩
    · obtain ⟨b, hb, hmake⟩ := (h v a).mp hstands
      exact ⟨b, .inr ⟨v, hv, hb⟩, hmake⟩
  · rintro ⟨b, ⟨hnone, rfl⟩ | ⟨v, hv, hb⟩, rfl⟩
    · exact .inl ⟨hnone, rfl⟩
    · exact .inr ⟨v, hv, (h v _).mpr ⟨b, hb, rfl⟩⟩

theorem taken_nil : Taken stands name [] before after ↔ after = before := by
  rcases before with _ | b
  · rcases after with _ | a <;> simp [Taken, Once]
  · simp [Taken]

/-- Another name's member takes nothing. -/
theorem taken_cons_of_ne {other : String} (h : name ≠ other) (v : Value) :
    Taken stands name ((other, v) :: es) before after ↔ Taken stands name es before after := by
  rcases before with _ | b
  · rcases after with _ | a <;> simp only [Taken, Once, valuesOf_cons_of_ne h]
  · simp only [Taken, valuesOf_cons_of_ne h]

/-- A member of the name fills the place, which must be empty. -/
theorem taken_cons_self (v : Value) : Taken stands name ((name, v) :: es) before after
    ↔ before = none ∧ ∃ a, stands v a ∧ Taken stands name es (some a) after := by
  rcases before with _ | b
  · rcases after with _ | a
    · simp [Taken]
    · simp only [Taken, Once, valuesOf_cons_self, List.cons.injEq, true_and]
      constructor
      · rintro ⟨v', ⟨rfl, hnone⟩, hstands⟩
        exact ⟨a, hstands, hnone, rfl⟩
      · rintro ⟨b, hstands, hnone, hsome⟩
        cases hsome
        exact ⟨v, ⟨rfl, hnone⟩, hstands⟩
  · simp [Taken]

/-! ## What single values stand for -/

/-- Text. -/
def IsText (v : Value) (s : String) : Prop := v = .text s

/-- Text, or null for none. -/
inductive IsOptionalText : Value → Option String → Prop
  | null : IsOptionalText .null none
  | text (s : String) : IsOptionalText (.text s) (some s)

/-- An integer in a range. -/
inductive IsInteger (low high : Int) : Value → Int → Prop
  | integer {n : Int} (ge : low ≤ n) (le : n ≤ high) : IsInteger low high (.integer n) n

/-- A natural number up to a bound. -/
inductive IsNatural (high : Nat) : Value → Nat → Prop
  | natural {n : Nat} (le : n ≤ high) : IsNatural high (.integer n) n

/-- A truth value. -/
def IsFlag (v : Value) (b : Bool) : Prop := v = .flag b

/-- A known name, or an object whose only member has that name and nothing as its value. -/
inductive IsChoice (known : List (String × α)) (nothing : Value → Prop) : Value → α → Prop
  | name {s : String} {a : α} (lookup : known.lookup s = some a) :
      IsChoice known nothing (.text s) a
  | member {s : String} {a : α} {v : Value} (lookup : known.lookup s = some a)
      (empty : nothing v) : IsChoice known nothing (.table [(s, v)]) a

/-- Nothing: null, or an object without members. -/
def IsNothing (v : Value) : Prop := v = .null ∨ v = .table []

/-- An object of which something is told. -/
def InTable (told : List (String × Value) → α → Prop) (v : Value) (a : α) : Prop :=
  ∃ es, v = .table es ∧ told es a

/-- **The members that a tree has for a record**: those of a table, or the elements of a list, each
under the name in its place; more elements than names do not count. -/
def membersOf? (names : List String) : Value → Option (List (String × Value))
  | .table es => some es
  | .list vs => some (names.zip vs)
  | _ => none

/-- An object, or a list in its place, of which something is told. -/
def InRecord (names : List String) (told : List (String × Value) → α → Prop) (v : Value)
    (a : α) : Prop :=
  ∃ es, membersOf? names v = some es ∧ told es a

namespace Pick

/-- What a reader makes of a tree. -/
def Gives (p : Pick α) (v : Value) (a : α) : Prop := p.run v = .ok a

@[simp] theorem text_gives : text.Gives = IsText := by
  funext v s
  cases v <;> simp [Gives, text, IsText]

@[simp] theorem optionalText_gives : optionalText.Gives = IsOptionalText := by
  funext v o
  refine propext ⟨fun h => ?_, ?_⟩
  · cases v with
    | null =>
      cases h
      exact .null
    | text s =>
      cases h
      exact .text s
    | _ => cases h
  · rintro (_ | _) <;> rfl

@[simp] theorem integer_gives (name : String) (low high : Int) :
    (integer name low high).Gives = IsInteger low high := by
  funext v n
  refine propext ⟨fun h => ?_, ?_⟩
  · cases v with
    | integer i =>
      change (if low ≤ i ∧ i ≤ high then _ else _) = _ at h
      by_cases hrange : low ≤ i ∧ i ≤ high
      · rw [if_pos hrange] at h
        cases h
        exact .integer hrange.1 hrange.2
      · rw [if_neg hrange] at h
        cases h
    | _ => cases h
  · rintro ⟨ge, le⟩
    exact if_pos ⟨ge, le⟩

@[simp] theorem natural_gives (name : String) (high : Nat) :
    (natural name high).Gives = IsNatural high := by
  funext v n
  refine propext ⟨fun h => ?_, ?_⟩
  · change ((integer name 0 high).run v).map Int.toNat = .ok n at h
    cases hrun : (integer name 0 high).run v with
    | error e =>
      rw [hrun] at h
      cases h
    | ok i =>
      obtain ⟨ge, le⟩ : IsInteger 0 high v i := by rwa [← integer_gives name]
      rw [hrun] at h
      cases h
      obtain ⟨n, rfl⟩ := Int.eq_ofNat_of_zero_le ge
      exact .natural (Int.ofNat_le.mp le)
  · rintro ⟨le⟩
    change ((integer name 0 high).run (.integer n)).map Int.toNat = .ok n
    have hrun : (integer name 0 high).Gives (.integer n) n := by
      rw [integer_gives]
      exact .integer (Int.natCast_nonneg n) (Int.ofNat_le.mpr le)
    rw [hrun]
    rfl

@[simp] theorem flag_gives : flag.Gives = IsFlag := by
  funext v b
  cases v <;> simp [Gives, flag, IsFlag]

theorem nothing_run_iff {v : Value} : nothing.run v = .ok () ↔ IsNothing v := by
  rcases v with _ | _ | _ | _ | _ | _ | (_ | _) <;> simp [nothing, IsNothing]

section Choice

variable {known : List (String × α)} {s : String} {v : Value} {a : α}

theorem choice_text_iff : (choice known).run (.text s) = .ok a ↔ known.lookup s = some a := by
  simp only [choice]
  cases known.lookup s <;> simp

theorem choice_member_iff : (choice known).run (.table [(s, v)]) = .ok a
    ↔ known.lookup s = some a ∧ nothing.run v = .ok () := by
  simp only [choice, bind, Except.bind]
  cases known.lookup s with
  | none => simp
  | some b => cases nothing.run v <;> simp

@[simp] theorem choice_gives (known : List (String × α)) :
    (choice known).Gives = IsChoice known IsNothing := by
  funext v a
  refine propext ⟨fun h => ?_, ?_⟩
  · cases v with
    | text s => exact .name (choice_text_iff.mp h)
    | table es =>
      rcases es with _ | ⟨⟨s, v⟩, _ | _⟩
      · cases h
      · obtain ⟨hlookup, hnothing⟩ := choice_member_iff.mp h
        exact .member hlookup (nothing_run_iff.mp hnothing)
      · cases h
    | _ => cases h
  · rintro (⟨lookup⟩ | ⟨lookup, empty⟩)
    · exact choice_text_iff.mpr lookup
    · exact choice_member_iff.mpr ⟨lookup, nothing_run_iff.mpr empty⟩

end Choice

end Pick

/-! ## Slots -/

/-- **A place of a draft**, with the field that fills it. -/
structure Slot (δ : Type) where
  {content : Type}
  name : String
  optional : Bool
  pick : Pick content
  get : δ → Option content
  put : content → δ → δ

/-- The field that fills a slot. -/
def Slot.field (s : Slot δ) : Field Pick δ :=
  ⟨s.name, s.optional, fun d => (s.get d).isSome, s.put <$> s.pick⟩

/-- What the members of a slot's name make of it, from one draft to another one. -/
def Slot.Takes (s : Slot δ) (es : List (String × Value)) (d d' : δ) : Prop :=
  Taken s.pick.Gives s.name es (s.get d) (s.get d')

/-- **A record is made of slots**: each field fills a place of its own, all are empty at first, and
what the record becomes is read off them. -/
structure Record.HasSlots (r : Record Pick δ ρ) (slots : List (Slot δ)) : Prop where
  fields : r.fields = slots.map Slot.field
  names : (slots.map Slot.name).Nodup
  blank : ∀ s ∈ slots, s.get r.blank = none
  get_put : ∀ s ∈ slots, ∀ a d, s.get (s.put a d) = some a
  get_put_other : ∀ s ∈ slots, ∀ t ∈ slots, s.name ≠ t.name → ∀ a d, s.get (t.put a d) = s.get d
  finish : ∀ d d', (∀ s ∈ slots, s.get d = s.get d') → r.finish d = r.finish d'

namespace Record.HasSlots

variable {r : Record Pick δ ρ} {slots : List (Slot δ)} {s : Slot δ} {d : δ}

theorem field?_of_mem (h : r.HasSlots slots) (hs : s ∈ slots) :
    r.field? s.name = some s.field := by
  have hsome : (r.field? s.name).isSome := by
    rw [Record.field?, h.fields, List.find?_isSome]
    exact ⟨s.field, List.mem_map_of_mem hs, by simp [Slot.field]⟩
  obtain ⟨f, hf⟩ := Option.isSome_iff_exists.mp hsome
  have hname : f.name = s.name := by simpa using List.find?_some hf
  obtain ⟨t, ht, rfl⟩ : ∃ t ∈ slots, t.field = f := by
    have hmem := List.mem_of_find?_eq_some hf
    rw [h.fields] at hmem
    simpa using hmem
  rw [hf, List.inj_on_of_nodup_map h.names ht hs hname]

theorem field?_of_forall_ne (h : r.HasSlots slots) (hname : ∀ s ∈ slots, s.name ≠ name) :
    r.field? name = none := by
  rw [Record.field?, h.fields, List.find?_eq_none]
  intro f hf
  obtain ⟨s, hs, rfl⟩ := List.mem_map.mp hf
  rw [decide_eq_true_iff]
  exact hname s hs

/-- A member whose name no slot has is passed over. -/
theorem entries_unknown (h : r.HasSlots slots) (hname : ∀ s ∈ slots, s.name ≠ name) (v : Value) :
    Pick.entries r d ((name, v) :: es) = Pick.entries r d es := by
  rw [Pick.entries, h.field?_of_forall_ne hname]

/-- A member of a slot that is filled already is told. -/
theorem entries_filled (h : r.HasSlots slots) (hs : s ∈ slots) (hd : (s.get d).isSome)
    (v : Value) : Pick.entries r d ((s.name, v) :: es) = .error (.repeated s.name) := by
  rw [Pick.entries, h.field?_of_mem hs]
  exact if_pos hd

/-- A member of an empty slot fills it. -/
theorem entries_empty (h : r.HasSlots slots) (hs : s ∈ slots) (hd : s.get d = none) (v : Value) :
    Pick.entries r d ((s.name, v) :: es)
      = (s.pick.run v).bind fun a => Pick.entries r (s.put a d) es := by
  have htaken : ¬ s.field.taken d = true := by simp [Slot.field, hd]
  rw [Pick.entries, h.field?_of_mem hs]
  refine (if_neg htaken).trans ?_
  change (((s.pick.run v).map s.put).bind fun f => Pick.entries r (f d) es) = _
  cases s.pick.run v <;> rfl

/-- Filling a slot changes what the members behind make of it, and of no other one. -/
theorem takes_put (h : r.HasSlots slots) (hs : s ∈ slots) (v : Value) (a : s.content)
    (hgives : s.pick.run v = .ok a) (hd : s.get d = none) (w : δ) :
    (∀ t ∈ slots, t.Takes ((s.name, v) :: es) d w) ↔ ∀ t ∈ slots, t.Takes es (s.put a d) w := by
  refine forall₂_congr fun t ht => ?_
  by_cases hname : t.name = s.name
  · obtain rfl := List.inj_on_of_nodup_map h.names ht hs hname
    rw [Slot.Takes, Slot.Takes, taken_cons_self, hd, h.get_put t ht]
    constructor
    · rintro ⟨-, b, hb, htaken⟩
      cases hgives.symm.trans hb
      exact htaken
    · exact fun htaken => ⟨rfl, a, hgives, htaken⟩
  · rw [Slot.Takes, Slot.Takes, taken_cons_of_ne hname, h.get_put_other t ht s hs hname]

/-- **A table is read into a draft when each slot can take its members**, and then each is as they
make it. -/
theorem entries_iff (h : r.HasSlots slots) (w : δ) : (∀ s ∈ slots, s.Takes es d w)
    ↔ ∃ d', Pick.entries r d es = .ok d' ∧ ∀ s ∈ slots, s.get w = s.get d' := by
  induction es generalizing d with
  | nil => simp [Slot.Takes, taken_nil, Pick.entries]
  | cons e es ih =>
    obtain ⟨name, v⟩ := e
    by_cases hname : ∀ s ∈ slots, s.name ≠ name
    · rw [h.entries_unknown hname, ← ih]
      exact forall₂_congr fun s hs => taken_cons_of_ne (hname s hs) v
    · obtain ⟨s, hs, rfl⟩ : ∃ s ∈ slots, s.name = name := by simpa using hname
      cases hd : s.get d with
      | some b =>
        -- neither side holds: the slot takes no second value, and the loop tells it
        refine iff_of_false (fun htakes => ?_) ?_
        · have htaken := htakes s hs
          rw [Slot.Takes, taken_cons_self, hd] at htaken
          cases htaken.1
        · rw [h.entries_filled hs (by rw [hd]; rfl)]
          rintro ⟨d', hd', -⟩
          cases hd'
      | none =>
        rw [h.entries_empty hs hd]
        cases hrun : s.pick.run v with
        | error e =>
          refine iff_of_false (fun htakes => ?_) ?_
          · have htaken := htakes s hs
            rw [Slot.Takes, taken_cons_self] at htaken
            obtain ⟨-, a, hgives, -⟩ := htaken
            cases hrun.symm.trans hgives
          · rintro ⟨d', hd', -⟩
            cases hd'
        | ok a =>
          rw [h.takes_put hs v a hrun hd]
          exact ih

/-- **A table is a record when each slot can take its members** and the draft so filled can be
finished. -/
theorem pick_iff (h : r.HasSlots slots) (exact : Bool) (a : ρ) :
    (Pick.record exact r).run (.table es) = .ok a
      ↔ ∃ w, (∀ s ∈ slots, Taken s.pick.Gives s.name es none (s.get w)) ∧ r.finish w = .ok a := by
  have htakes : ∀ w, (∀ s ∈ slots, Taken s.pick.Gives s.name es none (s.get w))
      ↔ ∀ s ∈ slots, s.Takes es r.blank w :=
    fun w => forall₂_congr fun s hs => by rw [Slot.Takes, h.blank s hs]
  change (Pick.entries r r.blank es).bind r.finish = .ok a ↔ _
  constructor
  · intro hrun
    cases hentries : Pick.entries r r.blank es with
    | error e =>
      rw [hentries] at hrun
      cases hrun
    | ok d' =>
      rw [hentries] at hrun
      exact ⟨d', (htakes d').mpr ((h.entries_iff d').mpr ⟨d', hentries, fun _ _ => rfl⟩), hrun⟩
  · rintro ⟨w, hw, hfinish⟩
    obtain ⟨d', hentries, hget⟩ := (h.entries_iff w).mp ((htakes w).mp hw)
    rw [hentries, ← hfinish, h.finish w d' hget]
    rfl

/-- Elements that fill empty slots in order are read as members under the slots' names. -/
theorem positions_eq (h : r.HasSlots slots) {ss : List (Slot δ)} (hss : ss.Sublist slots)
    (optional : ∀ s ∈ ss, s.optional = true) (hd : ∀ s ∈ ss, s.get d = none) (n : Nat)
    (vs : List Value) : Prod.fst <$> Pick.positions r d n (ss.map Slot.field) vs
      = Pick.entries r d ((ss.map Slot.name).zip vs) := by
  induction ss generalizing d n vs with
  | nil => rfl
  | cons s ss ih =>
    have hs : s ∈ slots := hss.mem List.mem_cons_self
    have hmore : ss.Sublist slots := (List.sublist_cons_self s ss).trans hss
    have hoptional : ∀ t ∈ ss, t.optional = true := fun t ht => optional t (.tail _ ht)
    have hempty : ∀ t ∈ ss, t.get d = none := fun t ht => hd t (.tail _ ht)
    cases vs with
    | nil =>
      have hfield : s.field.optional = true := optional s List.mem_cons_self
      rw [List.map_cons, Pick.positions, if_pos hfield, ih hmore hoptional hempty,
        List.zip_nil_right, List.zip_nil_right]
    | cons v vs =>
      have hput : ∀ a, ∀ t ∈ ss, t.get (s.put a d) = none := by
        intro a t ht
        have hnodup : ((s :: ss).map Slot.name).Nodup := h.names.sublist (hss.map Slot.name)
        have hname : t.name ≠ s.name := fun heq =>
          (List.nodup_cons.mp hnodup).1 (heq ▸ List.mem_map_of_mem ht)
        rw [h.get_put_other t (hmore.mem ht) s hs hname, hempty t ht]
      rw [List.map_cons, List.map_cons, List.zip_cons_cons,
        h.entries_empty hs (hd s List.mem_cons_self)]
      change Prod.fst <$> (((s.pick.run v).map s.put).bind fun change =>
        Pick.positions r (change d) (n + 1) (ss.map Slot.field) vs) = _
      cases s.pick.run v with
      | error e => rfl
      | ok a => exact ih hmore hoptional (hput a) (n + 1) vs

/-- **A list is read as the table of its elements under the names of the fields**, when every field
may be left out. -/
theorem run_list (h : r.HasSlots slots) (optional : ∀ s ∈ slots, s.optional = true)
    (vs : List Value) : (Pick.record false r).run (.list vs)
      = (Pick.record false r).run (.table ((slots.map Slot.name).zip vs)) := by
  have hpositions := h.positions_eq (List.Sublist.refl slots) optional h.blank 0 vs
  rw [← h.fields] at hpositions
  simp only [Pick.record, ← hpositions]
  cases Pick.positions r r.blank 0 r.fields vs with
  | error e => rfl
  | ok p => cases hfinish : r.finish p.1 <;> simp [hfinish, bind, Except.bind]

/-- **A tree is a record of which every field may be left out** when its members tell a draft: what
each slot can take is all that is told. -/
theorem run_iff (h : r.HasSlots slots) (optional : ∀ s ∈ slots, s.optional = true) {make : δ → ρ}
    (hfinish : ∀ d, r.finish d = .ok (make d)) {told : List (String × Value) → δ → Prop}
    (htold : ∀ es d, (∀ s ∈ slots, Taken s.pick.Gives s.name es none (s.get d)) ↔ told es d)
    {v : Value} {a : ρ} : (Pick.record false r).run v = .ok a
      ↔ ∃ d, InRecord (slots.map Slot.name) told v d ∧ make d = a := by
  have htable : ∀ es, (Pick.record false r).run (.table es) = .ok a
      ↔ ∃ d, told es d ∧ make d = a := by
    intro es
    rw [h.pick_iff]
    exact exists_congr fun d => by rw [htold, hfinish, Except.ok.injEq]
  cases v with
  | table es => simp [htable, InRecord, membersOf?]
  | list vs =>
    rw [h.run_list optional, htable]
    simp [InRecord, membersOf?]
  | _ => exact iff_of_false (fun hrun => by cases hrun) (by simp [InRecord, membersOf?])

end Record.HasSlots

/-! ## What is yielded

A record is made of a draft, so what every field keeps of the draft bounds what the record can be,
whether a table or a list is read.
-/

namespace Pick

variable {β : Type}

/-- **All values that a reader yields have a property**, whatever tree it is given. -/
def Yields (p : Pick α) (P : α → Prop) : Prop := ∀ ⦃v a⦄, p.run v = .ok a → P a

theorem Yields.map {p : Pick α} {P : α → Prop} {Q : β → Prop} (h : p.Yields P) {f : α → β}
    (hf : ∀ a, P a → Q (f a)) : (f <$> p).Yields Q := by
  intro v b hrun
  change (p.run v).map f = .ok b at hrun
  cases ha : p.run v with
  | error e =>
    rw [ha] at hrun
    cases hrun
  | ok a =>
    rw [ha] at hrun
    cases hrun
    exact hf a (h ha)

/-- **An integer is in its range.** -/
theorem integer_yields (name : String) (low high : Int) :
    (integer name low high).Yields fun n => low ≤ n ∧ n ≤ high := by
  intro v n hrun
  obtain ⟨ge, le⟩ : IsInteger low high v n := by rwa [← Pick.integer_gives name]
  exact ⟨ge, le⟩

variable {r : Record Pick δ ρ} {I : δ → Prop} {d d' : δ}

theorem entries_keeps
    (hfields : ∀ f ∈ r.fields, f.read.Yields fun change => ∀ d, I d → I (change d)) (hd : I d)
    (h : entries r d es = .ok d') : I d' := by
  induction es generalizing d with
  | nil =>
    cases h
    exact hd
  | cons e es ih =>
    obtain ⟨name, v⟩ := e
    rw [entries] at h
    cases hfield : r.field? name with
    | none =>
      rw [hfield] at h
      exact ih hd h
    | some f =>
      rw [hfield] at h
      dsimp only at h
      by_cases htaken : f.taken d = true
      · rw [if_pos htaken] at h
        cases h
      · rw [if_neg htaken] at h
        cases hread : f.read.run v with
        | error e =>
          rw [hread] at h
          cases h
        | ok change =>
          rw [hread] at h
          exact ih (hfields f (List.mem_of_find?_eq_some hfield) hread d hd) h

theorem positions_keeps {n extra : Nat} {fs : List (Field Pick δ)} {vs : List Value}
    (hfields : ∀ f ∈ fs, f.read.Yields fun change => ∀ d, I d → I (change d)) (hd : I d)
    (h : positions r d n fs vs = .ok (d', extra)) : I d' := by
  induction fs generalizing n d vs with
  | nil =>
    cases h
    exact hd
  | cons f fs ih =>
    have hmore : ∀ g ∈ fs, g.read.Yields fun change => ∀ d, I d → I (change d) :=
      fun g hg => hfields g (List.mem_cons_of_mem _ hg)
    cases vs with
    | nil =>
      rw [positions] at h
      by_cases hoptional : f.optional = true
      · rw [if_pos hoptional] at h
        exact ih hmore hd h
      · rw [if_neg hoptional] at h
        cases h
    | cons v vs =>
      rw [positions] at h
      cases hread : f.read.run v with
      | error e =>
        rw [hread] at h
        cases h
      | ok change =>
        rw [hread] at h
        exact ih hmore (hfields f List.mem_cons_self hread d hd) h

/-- **Records yield what can be made of drafts** that have what all fields keep. -/
theorem record_yields {exact : Bool} {P : ρ → Prop}
    (hfields : ∀ f ∈ r.fields, f.read.Yields fun change => ∀ d, I d → I (change d))
    (hblank : I r.blank) (hfinish : ∀ d a, I d → r.finish d = .ok a → P a) :
    (record exact r).Yields P := by
  intro v a hrun
  cases v with
  | table es =>
    cases hentries : entries r r.blank es with
    | error e => simp [record, hentries, bind, Except.bind] at hrun
    | ok d =>
      simp only [record, hentries, bind, Except.bind] at hrun
      exact hfinish d a (entries_keeps hfields hblank hentries) hrun
  | list vs =>
    cases hpositions : positions r r.blank 0 r.fields vs with
    | error e => simp [record, hpositions, bind, Except.bind] at hrun
    | ok p =>
      simp only [record, hpositions, bind, Except.bind] at hrun
      cases hfinished : r.finish p.1 with
      | error e => simp [hfinished] at hrun
      | ok b =>
        simp only [hfinished] at hrun
        split at hrun
        · cases hrun
        · cases hrun
          exact hfinish p.1 _ (positions_keeps hfields hblank hpositions) hfinished
  | _ => cases hrun

end Pick

end ChatFeed.Data
