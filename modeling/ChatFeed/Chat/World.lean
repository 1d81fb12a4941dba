import ChatFeed.Chat.Callback
import ChatFeed.Chat.Directory
import ChatFeed.Transcript.Record

/-!
# Chat/World — all that callbacks can see and change

The **world** is a directory, the files, the time, and what has been noted of the run.  A `Run`
changes the world and gives a value; it gives nothing at all only when callbacks call back deeper
than allowed.

A **cast** says what every listener and observer does and how users are looked up.  A `Company` is
a cast together with a way to take an action.  All that runs callbacks is written for any such way,
so nothing depends on how deep callbacks may go.
-/

namespace ChatFeed

/-- Whether a chat has just come or just gone. -/
inductive News
  | arrived
  | gone
  deriving DecidableEq, Repr

/-- **What came of an action.** -/
inductive Reply
  | flag (b : Bool)
  | report (r : Report)
  | count (n : Nat)
  | messageId (id : Option String)
  | added (refusal : Option AddError)
  | noChat
  | resumed
  | waiting
  deriving DecidableEq, Repr

/-- **What is noted of a run**, beside its journal. -/
inductive Note
  | call (listener : String) (message : String)
  | told (news : News) (observer : String) (label : String)
  | lookup (user : String)
  | acted (action : Action) (actor : String) (reply : Reply)
  | resumed (message : String) (report : Report)
  deriving DecidableEq, Repr

/-- **How far a message has come** on its way into a chat. -/
inductive Stage
  | fresh
  | gated (chat : ChatId)
  | admitted (chat : ChatId)
  | asleep (wake : Nat) (user : String)
  | knocking (sender : Option User)
  | announcing (chat : ChatId) (observers : List String)
  | handing (chat : ChatId)
  | opening (chat : ChatId) (report : Report)
  | answered (report : Report)
  deriving DecidableEq, Repr

/-- **The world in which callbacks run.** -/
structure World where
  directory : Directory
  journal : Journal := []
  notes : List Note := []
  received : List (String × Message) := []
  news : List (String × News × String) := []
  spent : List String := []
  labels : List (String × ChatId) := []
  folder : Folder := {}
  clock : Nat := 0
  held : List (Message × Stage) := []

/-- **A run**: it changes the world and gives a value, unless callbacks go too deep. -/
abbrev Run (α : Type) := StateT World Option α

/-- **What a listener does with a message**: it plays a part, which may depend on how many messages
it had before, or it writes the message down. -/
inductive ListenerRole
  | scripted (react : Message → Nat → Part)
  | transcript (directory : Option String)

/-- What an observer does that plays parts: it may register a listener on each new chat, and its
parts may depend on the chat's stream and on how often it was told something before. -/
structure ObserverScript where
  attach : Option String := none
  onNew : String → Nat → Part := fun _ _ => {}
  onGone : String → Nat → Part := fun _ _ => {}
  newOnly : Bool := false

/-- **What an observer does with news**: it plays a part, or it has a listener record each chat. -/
inductive ObserverRole
  | scripted (script : ObserverScript)
  | recorder (listener : String)

/-- **What looking up a user brings**, and how many milliseconds that takes; a failure is a chain
of sentences, the outermost first. -/
structure LookupResult where
  delay : Nat := 0
  outcome : Except (List String) User

/-- **Who is who**: the listeners, the observers, the lookup of users if they are looked up at all,
and the text of the present time. -/
structure Cast where
  listener : String → ListenerRole := fun _ => .scripted fun _ _ => {}
  observer : String → ObserverRole := fun _ => .scripted {}
  lookup : Option (String → LookupResult) := none
  now : String := ""

/-- **A cast, and a way to take an action.** -/
structure Company extends Cast where
  act : Occasion → Action → Run Reply

namespace Run

/-- Report something. -/
def remark (r : Remark) : Run Unit := modify fun w => { w with journal := w.journal ++ [r] }

/-- Note something. -/
def note (n : Note) : Run Unit := modify fun w => { w with notes := w.notes ++ [n] }

/-- Look at the directory. -/
def directory : Run Directory := do return (← get).directory

/-- Change the directory. -/
def onDirectory (f : Directory → Directory) : Run Unit :=
  modify fun w => { w with directory := f w.directory }

/-- Look at a chat. -/
def chat (id : ChatId) : Run Chat := do return (← directory).chat id

/-- Change a chat. -/
def onChat (id : ChatId) (f : Chat → Chat) : Run Unit := onDirectory (·.update id f)

/-- A sentence that a callback failed: it is counted and warned of. -/
def failure (message : String) (details : List (String × Detail)) : Run Unit := do
  remark (.count .listenerFailures)
  remark (.warn message details)

end Run

namespace World

/-- The label of a chat, if it has one. -/
def label? (w : World) (id : ChatId) : Option String :=
  (w.labels.find? (·.2 = id)).map (·.1)

/-- How the labels begin that chats get of themselves. -/
def autoLabel : String := "auto"

/-- The label that the next chat without one gets. -/
def nextLabel (w : World) : String :=
  let taken := w.labels.countP fun l => autoLabel.isPrefixOf l.1
  autoLabel ++ toString (taken + 1)

/-- Give a chat a label. -/
def name (w : World) (label : String) (id : ChatId) : World :=
  { w with labels := w.labels.filter (·.1 ≠ label) ++ [(label, id)] }

end World

namespace Run

/-- **The label of a chat**, which gets one now if it has none. -/
def labelOf (id : ChatId) : Run String := do
  let w ← get
  match w.label? id with
  | some label => return label
  | none =>
    set (w.name w.nextLabel id)
    return w.nextLabel

end Run

end ChatFeed
