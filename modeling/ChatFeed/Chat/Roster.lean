/-!
# Chat/Roster — who is registered, in order

A roster lists its members in the order in which they came, each once.  Members are compared by
identity alone.  A snapshot of a roster is its list of members: a value, so it stays as it was when
it was taken.
-/

namespace ChatFeed

/-- **The members registered with something**, in the order of their registration. -/
structure Roster (α : Type) where
  members : List α
  distinct : members.Nodup
  deriving DecidableEq, Repr

namespace Roster

variable {α : Type}

/-- Nobody is registered. -/
def empty : Roster α := ⟨[], List.nodup_nil⟩

instance : Inhabited (Roster α) := ⟨empty⟩

/-- How many are registered. -/
def size (r : Roster α) : Nat := r.members.length

variable [DecidableEq α]

/-- Whether someone is registered. -/
def contains (r : Roster α) (a : α) : Bool := r.members.contains a

theorem contains_iff {r : Roster α} {a : α} : r.contains a = true ↔ a ∈ r.members := by
  simp [contains]

/-- **Register someone**, as the last member; a member stays where it is. -/
def insert (r : Roster α) (a : α) : Roster α :=
  if h : r.contains a then r
  else ⟨r.members ++ [a], by
    rw [contains_iff] at h
    rw [List.nodup_append]
    exact ⟨r.distinct, by simp, fun b hb c hc hbc => h (by simp_all)⟩⟩

/-- **Remove someone**; the others keep their order. -/
def erase (r : Roster α) (a : α) : Roster α :=
  ⟨r.members.filter (· ≠ a), r.distinct.sublist List.filter_sublist⟩

theorem members_insert (r : Roster α) (a : α) :
    (r.insert a).members = if a ∈ r.members then r.members else r.members ++ [a] := by
  unfold insert
  by_cases h : r.contains a
  · simp [h, contains_iff.1 h]
  · simp [h, mt contains_iff.2 h]

theorem members_erase (r : Roster α) (a : α) :
    (r.erase a).members = r.members.filter (· ≠ a) := rfl

end Roster

end ChatFeed
