import ChatFeed.Chat.Announce

/-!
# Chat/Addition — adding a chat, one step at a time

`Company.addChat` takes its steps without a pause.  Where messages come in meanwhile, each step
counts for itself: the chat is put under its stream, and then the observers are told of it one by
one.  Its gate stays as it is all the while.
-/

namespace ChatFeed

/-- **How far the addition of a chat has come**: it looks for a place under its stream, some
observers are still to be told of it, or it is over. -/
inductive Addition
  | knocking (chat : ChatId) (stream : String)
  | announcing (chat : ChatId) (observers : List String)
  | done (refusal : Option AddError)
  deriving DecidableEq, Repr

/-- An addition that has just begun; a chat never changes its stream. -/
def Addition.of (d : Directory) (id : ChatId) : Addition :=
  match (d.chat id).stream with
  | none => .done (some .noStream)
  | some stream => .knocking id stream

/-- Whether an observer is still to be told. -/
def Addition.isUntold : Addition → Bool
  | .knocking _ _ => true
  | .announcing _ observers => !observers.isEmpty
  | .done _ => false

namespace Company

variable (k : Company)

/-- **One step of adding a chat**; none when it is over. -/
def addStep : Addition → Run (Option Addition)
  | .knocking id stream => do
    let d ← Run.directory
    if (d.rooms.find? stream).isSome then return some (.done (some (.taken stream)))
    Run.onDirectory fun d => { d with rooms := d.rooms.insert stream id }
    changed "Chat added" stream
    return some (.announcing id d.observers.members)
  | .announcing _ [] => return some (.done none)
  | .announcing id (o :: os) => do
    k.inform o .arrived id
    return some (.announcing id os)
  | .done _ => return none

/-- Take an addition on, `n` steps at most. -/
def addOn : Nat → Addition → Run Addition
  | 0, a => return a
  | n + 1, a => do
    match ← k.addStep a with
    | none => return a
    | some a => addOn n a

end Company

end ChatFeed
