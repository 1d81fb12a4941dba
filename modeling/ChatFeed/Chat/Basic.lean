import ChatFeed.Chat.Roster
import ChatFeed.Feed.Message
import ChatFeed.People.User

/-!
# Chat/Basic — a chat: one conversation and those who listen to it

A chat knows its stream, unless it was made without one, who takes part in it, the last message
that was delivered to it, and the listeners that are to get the next.  Its **gate** is shut while a
directory still announces it: messages that come through the directory wait until it opens.

Two chats are the same when they are on the same stream; a chat without a stream is the same as no
chat, not even itself.
-/

namespace ChatFeed

/-- **A chat.**  Listeners go by name. -/
structure Chat where
  stream : Option String
  localUser : Option User
  remotes : Participants
  last : Option Message
  listeners : Roster String
  gateOpen : Bool

namespace Chat

/-- A new chat: no participants, no message, no listeners. -/
def fresh (stream : Option String) : Chat := ⟨stream, none, .empty, none, .empty, true⟩

instance : Inhabited Chat := ⟨fresh none⟩

/-- A new chat between a local user and others. -/
def between (stream : String) (localUser : User) (others : List User) : Chat :=
  { fresh (some stream) with localUser := some localUser, remotes := .ofList others }

/-- **Whether two chats are the same**: on one stream, which both have. -/
def same (a b : Chat) : Bool :=
  match a.stream, b.stream with
  | some s, some t => s = t
  | _, _ => false

/-- The stream of a chat, empty for none. -/
def streamText (c : Chat) : String := c.stream.getD ""

/-- A chat spelled out, its participants and listeners counted. -/
def shown (c : Chat) : String :=
  let user := match c.localUser with
    | none => "None"
    | some u => "Some(" ++ u.shown ++ ")"
  "Chat \x7b stream_id: " ++ Text.quotedOption c.stream ++ ", local_user: " ++ user ++
    ", remote_users: " ++ toString c.remotes.size ++ ", listeners: " ++
    toString c.listeners.size ++ " \x7d"

end Chat

/-- **What became of a delivery**: how many listeners took the message and how many failed. -/
structure Report where
  delivered : Nat := 0
  failed : Nat := 0
  deriving DecidableEq, Repr, Inhabited

end ChatFeed
