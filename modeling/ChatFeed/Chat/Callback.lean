import ChatFeed.Feed.Message
import ChatFeed.People.User

/-!
# Chat/Callback — what listeners and observers do when they are called

A callback takes some **steps**, each an action on the directory or on one of its chats, and then
comes to an **ending**: it is done, it fails, or it panics.  An action may call back into the very
chat that is just delivering, so everything that runs callbacks has to be ready for that.
-/

namespace ChatFeed

/-- **How a callback ends.**  A panic may have no words. -/
inductive Ending
  | done
  | failed (chain : List String)
  | panicked (words : Option String)
  deriving DecidableEq, Repr

/-- The words of a panic. -/
def panicText (words : Option String) : String := words.getD "unknown panic payload"

/-- **Why a callback did not succeed.** -/
inductive CallbackError
  | failed (chain : List String)
  | panicked (words : String)
  deriving DecidableEq, Repr

/-- The sentence that tells it; a chain of causes is told from the outermost inwards. -/
def CallbackError.text : CallbackError → String
  | .failed chain => "listener returned an error: " ++ ": ".intercalate chain
  | .panicked words => "listener panicked: " ++ words

/-- The error that an ending is, if any. -/
def Ending.error? : Ending → Option CallbackError
  | .done => none
  | .failed chain => some (.failed chain)
  | .panicked words => some (.panicked (panicText words))

/-- **The chat that an action is on**: one with a label, the one under a stream, or the one that
the callback is about. -/
inductive Target
  | labelled (label : String)
  | onStream (stream : String)
  | current
  deriving DecidableEq, Repr

/-- What can be done with a chat. -/
inductive ChatAction
  | register (listener : String)
  | unregister (listener : String)
  | deliver (message : Message)
  | count
  | last
  | addRemote (user : User)
  | addChat
  deriving DecidableEq, Repr

/-- **What a callback can do.** -/
inductive Action
  | onChat (target : Target) (action : ChatAction)
  | removeChat (stream : String)
  | addObserver (observer : String)
  | removeObserver (observer : String)
  | size
  | pause
  | send (message : Message)
  deriving DecidableEq, Repr

/-- A step of a callback.  A step with a mark is taken only once, by whoever comes first. -/
structure Step where
  mark : Option String
  action : Action
  deriving DecidableEq, Repr

/-- **What a callback does**: steps, then an ending. -/
structure Part where
  steps : List Step := []
  ending : Ending := .done
  deriving DecidableEq, Repr

/-- Who acts, and the chat that it is about, as it was found when the callback began. -/
structure Occasion where
  actor : String
  chat : Option Nat
  deriving DecidableEq, Repr

end ChatFeed
