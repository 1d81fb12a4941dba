import ChatFeed.Chat.Roster

/-!
# Chat/Album — a roster in use, and the snapshots that are taken of it

Whoever uses a roster registers and removes members, asks whether somebody is one and how many there
are, or takes a snapshot to go through later, while the roster may change.  The **album** has a page
for each snapshot that was taken.
-/

namespace ChatFeed

/-- **A call on a roster.** -/
inductive RosterCall (α : Type)
  | insert (a : α)
  | remove (a : α)
  | contains (a : α)
  | snapshot
  | size
  deriving DecidableEq, Repr

/-- **What a call on a roster answers**: yes or no, a number, or the page that has the snapshot. -/
inductive RosterAnswer
  | flag (b : Bool)
  | count (n : Nat)
  | page (n : Nat)
  deriving DecidableEq, Repr

/-- **A roster, and the snapshots that were taken of it**, the earliest first. -/
structure Album (α : Type) where
  roster : Roster α := .empty
  pages : List (List α) := []
  deriving DecidableEq, Repr

namespace Album

variable {α : Type}

/-- Who is registered now. -/
def members (b : Album α) : List α := b.roster.members

variable [DecidableEq α]

/-- **Make a call**: what it answers, and the album afterwards.  Whether somebody was removed is told
by the number of members. -/
def call (b : Album α) : RosterCall α → RosterAnswer × Album α
  | .insert a =>
    if b.roster.contains a then (.flag false, b)
    else (.flag true, { b with roster := b.roster.insert a })
  | .remove a =>
    let left := b.roster.erase a
    (.flag (left.size ≠ b.roster.size), { b with roster := left })
  | .contains a => (.flag (b.roster.contains a), b)
  | .snapshot => (.page b.pages.length, { b with pages := b.pages ++ [b.members] })
  | .size => (.count b.roster.size, b)

/-- **Make some calls**, one after the other. -/
def callAll (b : Album α) (calls : List (RosterCall α)) : Album α :=
  calls.foldl (fun b c => (b.call c).2) b

end Album

end ChatFeed
