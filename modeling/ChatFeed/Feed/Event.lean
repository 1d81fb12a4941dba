import ChatFeed.Feed.Message
import ChatFeed.People.User

/-!
# Feed/Event — the events of a feed, and how they come in batches

A feed is read batch by batch.  A batch may carry a **cursor**, the token that the next read has to
send so as to go on from there; a batch without one leaves the position as it was.
-/

namespace ChatFeed

/-- **An event of the feed.** -/
inductive Event
  | sent (message : Message)
  | joined (stream : String) (user : User)
  | left (stream : String) (user : User)
  | other (kind : String)
  deriving DecidableEq, Repr, Inhabited

namespace Event

/-- The stream to which an event belongs. -/
def stream? : Event → Option String
  | .sent m => some m.stream
  | .joined s _ => some s
  | .left s _ => some s
  | .other _ => none

/-- **The name of an event's kind**; an event that nobody acts on names its own. -/
def kindName : Event → String
  | .sent _ => "message_sent"
  | .joined _ _ => "user_joined_room"
  | .left _ _ => "user_left_room"
  | .other kind => kind

/-- The message that an event brings. -/
def message? : Event → Option Message
  | .sent m => some m
  | _ => none

end Event

/-- **The position in a feed**, a token that only the feed understands. -/
structure Cursor where
  token : String
  deriving DecidableEq, Repr, Inhabited

/-- **What one read brings.** -/
structure Batch where
  events : List Event
  next : Option Cursor
  deriving DecidableEq, Repr, Inhabited

/-- A batch that brings nothing. -/
def Batch.empty : Batch := ⟨[], none⟩

end ChatFeed
