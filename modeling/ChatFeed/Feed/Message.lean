/-!
# Feed/Message — messages on a stream

A message belongs to one stream, the conversation it was sent to, and names its sender by
identifier.  Time is in milliseconds since the beginning of 1970; zero stands for an unknown time.
-/

namespace ChatFeed

/-- **What kind of conversation a stream is.** -/
inductive StreamKind
  | direct
  | group
  | room
  | wall
  deriving DecidableEq, Repr

instance : Inhabited StreamKind := ⟨.room⟩

/-- The kinds under the names that they have in the feed. -/
def StreamKind.table : List (String × StreamKind) :=
  [("im", .direct), ("mim", .group), ("room", .room), ("post", .wall)]

/-- The name that a kind has in the feed. -/
def StreamKind.name : StreamKind → String
  | .direct => "im"
  | .group => "mim"
  | .room => "room"
  | .wall => "post"

theorem StreamKind.lookup_name (k : StreamKind) : StreamKind.table.lookup k.name = some k := by
  cases k <;> rfl

/-- **A message.** -/
structure Message where
  id : String
  stream : String
  sender : String
  body : String
  timestamp : Int
  kind : StreamKind
  deriving DecidableEq, Repr, Inhabited

/-- A message of unknown time in a room. -/
def Message.plain (id stream sender body : String) : Message := ⟨id, stream, sender, body, 0, .room⟩

end ChatFeed
