import ChatFeed.Session.Concurrent

/-!
# Session/Move — working with a directory step by step

A session is a list of moves on one directory.  A move that is about a chat finds it by its label or
by its stream.  After each move, messages that are still held are taken all the way, and every chat
in the directory has a label.
-/

namespace ChatFeed.Session

/-- What can be done with one chat. -/
inductive ChatMove
  | add
  | remove
  | register (listener : String)
  | unregister (listener : String)
  | deliver (message : Message)
  | deliverAndRegister (message : Message) (listener : String)
  | setLocalUser (user : User)
  | setRemotes (users : List User)
  | addRemote (user : User)
  | removeRemote (user : String)
  | hasRemote (user : String)
  | look
  deriving DecidableEq, Repr

/-- **A move of a session.** -/
inductive Move
  | newChat (label : String) (stream : Option String) (localUser : Option User)
      (remotes : List User)
  | onChat (target : Target) (move : ChatMove)
  | removeStream (stream : String)
  | find (stream : String)
  | findOrMake (stream : String) (made : Option String)
  | chats
  | chatsWith (user : String)
  | size
  | owner
  | shown
  | addObserver (observer : String)
  | removeObserver (observer : String)
  | receive (message : Message)
  | dispatch (event : Event)
  | together (jobs : List (Nat × Job))
  | same (a b : String)
  deriving DecidableEq, Repr

/-- What a look at a chat shows: its participants in the order of their identifiers. -/
structure View where
  stream : Option String
  localUser : Option User
  remotes : List User
  last : Option Message
  listeners : Nat
  shown : String
  deriving DecidableEq, Repr

/-- **What came of a move.** -/
inductive Outcome
  | nothing
  | noChat
  | added (refusal : Option AddError)
  | flag (b : Bool)
  | report (r : Report)
  | reported (r : Report) (added : Bool)
  | view (v : View)
  | label (label : Option String)
  | found (label : String) (new : Bool)
  | labels (labels : List String)
  | size (n : Nat)
  | user (u : User)
  | text (s : String)
  | reports (rs : List (Option Report))
  deriving DecidableEq, Repr

/-- A look at a chat. -/
def viewOf (c : Chat) : View :=
  ⟨c.stream, c.localUser, c.remotes.users.mergeSort fun a b => a.id ≤ b.id, c.last,
    c.listeners.size, c.shown⟩

/-- Whether one pair of texts comes before another, the first texts deciding. -/
def before (a b : String × String) : Bool := a.1 < b.1 || (a.1 = b.1 && a.2 ≤ b.2)

/-- The chats of a directory in the order of their streams. -/
def inOrder (d : Directory) (ids : List ChatId) : List ChatId :=
  ids.mergeSort fun a b => (d.chat a).streamText ≤ (d.chat b).streamText

/-- The labels of some chats. -/
def labelsOf : List ChatId → Run (List String)
  | [] => return []
  | id :: ids => do
    let label ← Run.labelOf id
    return label :: (← labelsOf ids)

/-- The labels of some chats, in the order of streams and labels. -/
def sortedLabels (ids : List ChatId) : Run (List String) := do
  let d ← Run.directory
  let ids := inOrder d ids
  let labels ← labelsOf ids
  let pairs := (ids.map fun id => (d.chat id).streamText).zip labels
  return (pairs.mergeSort before).map (·.2)

/-- The chats in the directory. -/
def listed : Run (List ChatId) := do return (← Run.directory).rooms.entries.map (·.2)

/-- The two chats of two labels, if both are there. -/
def pair (a b : String) : Run (Option (Chat × Chat)) := do
  let w ← get
  return do
    let x ← w.labels.lookup a
    let y ← w.labels.lookup b
    some (w.directory.chat x, w.directory.chat y)

variable (k : Company)

/-- Do something with a chat. -/
def ChatMove.play (id : ChatId) : ChatMove → Run Outcome
  | .add => do return .added (← k.addChat id)
  | .remove => do return .flag (← k.removeChat id)
  | .register l => do return .flag (← k.register id l)
  | .unregister l => do return .flag (← Run.unregister id l)
  | .deliver m => do return .report (← k.deliver id m)
  | .deliverAndRegister m l => do
    let r ← k.deliver id m
    return .reported r (← k.register id l)
  | .setLocalUser u => do
    Run.onChat id fun c => { c with localUser := some u }
    return .nothing
  | .setRemotes us => do
    Run.onChat id fun c => { c with remotes := .ofList us }
    return .nothing
  | .addRemote u => do return .flag (← Company.addRemote id u)
  | .removeRemote u => do
    let known := (← Run.chat id).remotes.has u
    Run.onChat id fun c => { c with remotes := c.remotes.erase u }
    return .flag known
  | .hasRemote u => do return .flag ((← Run.chat id).remotes.has u)
  | .look => do return .view (viewOf (← Run.chat id))

/-- Make a chat, outside of the directory, under a label. -/
def makeChat (label : String) (c : Chat) : Run Unit :=
  modify fun w => { w.name label w.directory.nextId with directory := w.directory.make c }

/-- The label of a chat, if there is a chat. -/
def labelOf? : Option ChatId → Run (Option String)
  | none => return none
  | some id => do return some (← Run.labelOf id)

/-- **Make a move.** -/
def Move.play : Move → Run Outcome
  | .newChat label stream localUser remotes => do
    makeChat label { Chat.fresh stream with localUser := localUser, remotes := .ofList remotes }
    return .nothing
  | .onChat target move => do
    match ← Company.find ⟨"", none⟩ target with
    | none => return .noChat
    | some id => move.play k id
  | .removeStream stream => do return .label (← labelOf? (← k.removeStream stream))
  | .find stream => do return .label (← labelOf? ((← Run.directory).rooms.find? stream))
  | .findOrMake stream made => do
    let (id, new) ← k.findOrMake stream (.fresh made)
    return .found (← Run.labelOf id) new
  | .chats => do return .labels (← sortedLabels (← listed))
  | .chatsWith user => do
    let d ← Run.directory
    return .labels (← sortedLabels ((← listed).filter fun id => (d.chat id).remotes.has user))
  | .size => do return .size (← Run.directory).rooms.size
  | .owner => do return .user (← Run.directory).owner
  | .shown => do return .text (← Run.directory).shown
  | .addObserver o => do return .flag (← Company.addObserver o)
  | .removeObserver o => do return .flag (← Company.removeObserver o)
  | .receive m => do return .report (← k.receive m)
  | .dispatch e => do
    k.dispatch e
    return .nothing
  | .together jobs => do return .reports (← Session.together k jobs)
  | .same a b => do
    match ← pair a b with
    | none => return .noChat
    | some (x, y) => return .flag (x.same y)

/-- The directory as a list of streams with labels, in order; a question mark stands for none. -/
def listing : Run (List String) := do
  let d ← Run.directory
  let ids := inOrder d (← listed)
  let labels ← labelsOf ids
  let lines := ids.zipWith (fun id label => (d.chat id).stream.getD "?" ++ "=" ++ label) labels
  return lines.mergeSort fun a b => a ≤ b

/-- **What a move shows**: what came of it, what was noted and reported, and the directory. -/
structure Record where
  outcome : Outcome
  notes : List Note
  listing : List String
  journal : Journal

/-- **Make a move to its end**: messages that were held are taken all the way, `depth` at most. -/
def Move.complete (depth : Nat) (move : Move) : Run Record := do
  modify fun w => { w with notes := [], journal := [] }
  let outcome ← move.play k
  k.release depth
  let listing ← listing
  let w ← get
  return ⟨outcome, w.notes, listing, w.journal⟩

/-- **A session**: its moves one after the other. -/
def run (depth : Nat) : List Move → Run (List Record)
  | [] => return []
  | move :: moves => do
    let r ← move.complete k depth
    return r :: (← run depth moves)

end ChatFeed.Session
