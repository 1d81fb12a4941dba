import ChatFeed.Chat.Basic

/-!
# Chat/Directory — the chats of one user, found by stream

A directory belongs to a user.  It keeps at most one chat for each stream (`Rooms`) and the
observers that are told of every chat that comes or goes.  A chat that left the directory may still
be used by those who know it, so chats are numbered, in the order in which they were made, and
never forgotten.
-/

namespace ChatFeed

/-- The number of a chat. -/
abbrev ChatId := Nat

/-- **Which chat is under which stream**: one at most. -/
structure Rooms where
  entries : List (String × ChatId)
  distinct : (entries.map Prod.fst).Nodup

namespace Rooms

/-- No chat at all. -/
def empty : Rooms := ⟨[], List.nodup_nil⟩

instance : Inhabited Rooms := ⟨empty⟩

/-- The chat under a stream. -/
def find? (r : Rooms) (stream : String) : Option ChatId := r.entries.lookup stream

/-- How many chats there are. -/
def size (r : Rooms) : Nat := r.entries.length

/-- **Put a chat under a stream** that has none; a stream that has one keeps it. -/
def insert (r : Rooms) (stream : String) (chat : ChatId) : Rooms :=
  if h : stream ∈ r.entries.map Prod.fst then r
  else ⟨r.entries ++ [(stream, chat)], by
    rw [List.map_append, List.nodup_append]
    exact ⟨r.distinct, by simp, fun a ha b hb hab => h (by simp_all)⟩⟩

/-- Take the chat away that is under a stream. -/
def erase (r : Rooms) (stream : String) : Rooms :=
  ⟨r.entries.filter (·.1 ≠ stream), r.distinct.sublist (List.filter_sublist.map _)⟩

@[simp] theorem find?_empty (stream : String) : empty.find? stream = none := rfl

/-- A stream has no chat exactly when nothing is kept under it. -/
theorem find?_eq_none_iff {r : Rooms} {stream : String} :
    r.find? stream = none ↔ stream ∉ r.entries.map Prod.fst := by
  rw [find?, List.lookup_eq_none_iff]
  constructor
  · intro h hm
    obtain ⟨e, he, rfl⟩ := List.mem_map.1 hm
    simpa using h e he
  · intro h e he
    have hne : stream ≠ e.1 := fun hs => h (List.mem_map.2 ⟨e, he, hs.symm⟩)
    simpa using hne

/-- A stream without a chat gets the one that is put there. -/
theorem find?_insert_self {r : Rooms} {stream : String} (chat : ChatId)
    (h : r.find? stream = none) : (r.insert stream chat).find? stream = some chat := by
  have hm := find?_eq_none_iff.1 h
  rw [find?] at h
  simp [insert, hm, find?, List.lookup_append, h]

/-- The other streams keep what they have. -/
theorem find?_insert_of_ne (r : Rooms) {stream other : String} (chat : ChatId)
    (h : other ≠ stream) : (r.insert stream chat).find? other = r.find? other := by
  by_cases hm : stream ∈ r.entries.map Prod.fst
  · simp only [insert, hm, dite_true]
  · have hb : (other == stream) = false := by simpa using h
    simp [insert, hm, find?, List.lookup_append, List.lookup_cons, hb]

/-- A stream whose chat was taken away has none. -/
@[simp] theorem find?_erase_self (r : Rooms) (stream : String) :
    (r.erase stream).find? stream = none := by
  rw [find?_eq_none_iff]
  simp [erase]

/-- The other streams keep theirs. -/
theorem find?_erase_of_ne (r : Rooms) {stream other : String} (h : other ≠ stream) :
    (r.erase stream).find? other = r.find? other := by
  unfold find? erase
  dsimp only
  induction r.entries with
  | nil => rfl
  | cons e es ih =>
    obtain ⟨s, c⟩ := e
    by_cases hs : s = stream
    · subst hs
      have hb : (other == s) = false := by simpa using h
      rw [List.filter_cons_of_neg (by simp), List.lookup_cons, hb, ih]
    · rw [List.filter_cons_of_pos (by simpa using hs), List.lookup_cons, List.lookup_cons, ih]

end Rooms

/-- **A directory of chats.**  Observers go by name. -/
structure Directory where
  owner : User
  chats : List Chat := []
  rooms : Rooms := .empty
  observers : Roster String := .empty

namespace Directory

/-- The chat of a number; a number never given out has a new chat. -/
def chat (d : Directory) (id : ChatId) : Chat := d.chats.getD id (.fresh none)

/-- Change a chat. -/
def update (d : Directory) (id : ChatId) (f : Chat → Chat) : Directory :=
  { d with chats := d.chats.modify id f }

/-- The number that the next chat gets. -/
def nextId (d : Directory) : ChatId := d.chats.length

/-- Make a chat, outside of the directory for now. -/
def make (d : Directory) (c : Chat) : Directory := { d with chats := d.chats ++ [c] }

/-- The directory spelled out. -/
def shown (d : Directory) : String :=
  "ChatService \x7b local_user: " ++ d.owner.shown ++ ", chats: " ++ toString d.rooms.size ++
    ", listeners: " ++ toString d.observers.size ++ " \x7d"

end Directory

/-- **Why a chat cannot be added.** -/
inductive AddError
  | taken (stream : String)
  | noStream
  deriving DecidableEq, Repr

/-- The sentence that tells it. -/
def AddError.text : AddError → String
  | .taken stream => "a chat is already registered for stream " ++ stream
  | .noStream => "chat has no stream id"

end ChatFeed
