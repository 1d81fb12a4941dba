import ChatFeed.Text.Quoted

/-!
# People/User — users, and the participants of a chat

A user **is** its identifier: display name and email only inform, so a set of participants holds at
most one record for each identifier, and it is the record that came first.
-/

namespace ChatFeed

/-- **A user**, with what is known about it. -/
structure User where
  id : String
  displayName : Option String
  email : Option String
  deriving DecidableEq, Repr, Inhabited

namespace User

/-- A user of whom only the identifier is known. -/
def bare (id : String) : User := ⟨id, none, none⟩

/-- A user with a display name. -/
def named (id name : String) : User := ⟨id, some name, none⟩

/-- **Two records of one user.** -/
def same (a b : User) : Bool := a.id = b.id

/-- The record of a user, spelled out. -/
def shown (u : User) : String :=
  "ChatUser \x7b id: " ++ Text.quoted u.id ++ ", display_name: " ++
    Text.quotedOption u.displayName ++ ", email: " ++ Text.quotedOption u.email ++ " \x7d"

end User

/-- **The participants of a chat**: users with distinct identifiers. -/
structure Participants where
  users : List User
  distinct : (users.map User.id).Nodup

namespace Participants

/-- Nobody. -/
def empty : Participants := ⟨[], List.nodup_nil⟩

instance : Inhabited Participants := ⟨empty⟩

/-- Whether a user of this identifier takes part. -/
def has (p : Participants) (id : String) : Bool := p.users.any (·.id = id)

theorem has_iff {p : Participants} {id : String} : p.has id = true ↔ id ∈ p.users.map User.id := by
  simp [has]

/-- **Add a user**, unless one of its identifier takes part: the record first stored is kept. -/
def insert (p : Participants) (u : User) : Participants :=
  if h : p.has u.id then p
  else ⟨p.users ++ [u], by
    rw [has_iff] at h
    rw [List.map_append, List.nodup_append]
    exact ⟨p.distinct, by simp, by simpa using fun a ha hid => h (List.mem_map.2 ⟨a, ha, hid⟩)⟩⟩

/-- Remove the user of an identifier. -/
def erase (p : Participants) (id : String) : Participants :=
  ⟨p.users.filter (·.id ≠ id), p.distinct.sublist (List.filter_sublist.map _)⟩

/-- The participants among users of whom several may be the same. -/
def ofList (us : List User) : Participants := us.foldl insert empty

/-- How many take part. -/
def size (p : Participants) : Nat := p.users.length

theorem users_insert (p : Participants) (u : User) :
    (p.insert u).users = if p.has u.id then p.users else p.users ++ [u] := by
  unfold insert
  split <;> rfl

theorem users_erase (p : Participants) (id : String) :
    (p.erase id).users = p.users.filter (·.id ≠ id) := rfl

/-- Whoever was added takes part, and so does whoever took part before. -/
theorem has_insert (p : Participants) (u : User) (id : String) :
    (p.insert u).has id = (p.has id || decide (u.id = id)) := by
  unfold has
  rw [users_insert]
  split
  next h =>
    rw [has_iff] at h
    by_cases hid : u.id = id
    · subst hid
      simpa using h
    · simp [hid]
  next => simp

/-- Whoever was removed does not take part any more; the others still do. -/
theorem has_erase (p : Participants) (id other : String) :
    (p.erase id).has other = (p.has other && decide (other ≠ id)) := by
  rw [Bool.eq_iff_iff, has_iff, users_erase]
  simp only [Bool.and_eq_true, has_iff, decide_eq_true_eq, List.mem_map, List.mem_filter]
  constructor
  · rintro ⟨u, ⟨hu, hne⟩, rfl⟩
    exact ⟨⟨u, hu, rfl⟩, hne⟩
  · rintro ⟨⟨u, hu, rfl⟩, hne⟩
    exact ⟨u, ⟨hu, hne⟩, rfl⟩

end Participants

end ChatFeed
