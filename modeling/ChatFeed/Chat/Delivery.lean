import ChatFeed.Chat.World

/-!
# Chat/Delivery — handing messages to listeners

* `Company.deliver` — a message becomes the last one of its chat and is handed to every listener
  that is registered at that moment, whatever the callbacks change meanwhile.
* `Company.register` — a new listener gets the last message first and is registered then.

A callback that fails or panics is counted and told, and stops nobody else.
-/

namespace ChatFeed

namespace Company

variable (k : Company)

/-! ## Parts -/

/-- Whether a step may be taken; its mark is spent at once. -/
def enter : Option String → Run Bool
  | none => return true
  | some mark => do
    let w ← get
    if w.spent.contains mark then return false
    set { w with spent := w.spent ++ [mark] }
    return true

/-- Take the steps of a part, one after the other. -/
def take (o : Occasion) : List Step → Run Unit
  | [] => return ()
  | s :: ss => do
    if ← enter s.mark then
      let reply ← k.act o s.action
      Run.note (.acted s.action o.actor reply)
    take o ss

/-- **Play a part.** -/
def play (o : Occasion) (p : Part) : Run Ending := do
  k.take o p.steps
  return p.ending

/-! ## Listeners -/

/-- The ending of a message's recording. -/
def recording (directory : Option String) (m : Message) : Run Ending := do
  Run.remark (Transcript.messageLine m)
  let w ← get
  let (error, folder) := Transcript.record directory k.now m w.folder
  set { w with folder := folder }
  return match error with
    | none => .done
    | some e => .failed e.chain

/-- **Call a listener** with a message. -/
def call (listener : String) (m : Message) : Run (Option CallbackError) := do
  let turn := (← get).received.countP (·.1 = listener)
  modify fun w => { w with received := w.received ++ [(listener, m)] }
  Run.note (.call listener m.id)
  let ending ← match k.listener listener with
    | .transcript directory => k.recording directory m
    | .scripted react => do
      let about := (← Run.directory).rooms.find? m.stream
      k.play ⟨listener, about⟩ (react m turn)
  return ending.error?

/-- What is told of a listener that failed with a message. -/
def listenerDetails (m : Message) (e : CallbackError) : List (String × Detail) :=
  [("stream_id", .text m.stream), ("message_id", .text m.id), ("error", .text e.text)]

/-- **Hand a message to some listeners**, one after the other. -/
def handTo (m : Message) : List String → Run Report
  | [] => return {}
  | l :: ls => do
    match ← k.call l m with
    | none =>
      let r ← handTo m ls
      return { r with delivered := r.delivered + 1 }
    | some e =>
      Run.failure "Chat listener failed" (listenerDetails m e)
      let r ← handTo m ls
      return { r with failed := r.failed + 1 }

/-- **Deliver a message to a chat.** -/
def deliver (id : ChatId) (m : Message) : Run Report := do
  Run.onChat id fun c => { c with last := some m }
  k.handTo m (← Run.chat id).listeners.members

/-- Hand the last message of a chat to a listener that is about to be registered. -/
def catchUp (id : ChatId) (listener : String) : Run Unit := do
  match (← Run.chat id).last with
  | none => return ()
  | some m =>
    match ← k.call listener m with
    | none => return ()
    | some e => Run.failure "Listener failed during last-message replay" (listenerDetails m e)

/-- **Register a listener on a chat**, if it is not registered; tells whether it was added. -/
def register (id : ChatId) (listener : String) : Run Bool := do
  if (← Run.chat id).listeners.contains listener then return false
  k.catchUp id listener
  let known := (← Run.chat id).listeners.contains listener
  Run.onChat id fun c => { c with listeners := c.listeners.insert listener }
  return !known

end Company

/-- Remove a listener from a chat; tells whether it was registered. -/
def Run.unregister (id : ChatId) (listener : String) : Run Bool := do
  let known := (← Run.chat id).listeners.contains listener
  Run.onChat id fun c => { c with listeners := c.listeners.erase listener }
  return known

end ChatFeed
