import ChatFeed.Chat.Delivery

/-!
# Chat/Announce — chats that come and go, and telling the observers

Every chat that comes into the directory, and every chat that leaves it, is announced to each
observer registered at that moment.  `Company.provide` brings in a chat that is made for a stream
without one; its gate is shut until whoever made it opens it.
-/

namespace ChatFeed

namespace Company

variable (k : Company)

/-! ## Observers -/

/-- Tell a recorder: it has a listener record each new chat. -/
def tellRecorder (listener : String) (news : News) (id : ChatId) : Run Ending := do
  let c ← Run.chat id
  let stream := ("stream_id", Detail.text c.streamText)
  match news with
  | .arrived =>
    Run.remark (.info "Recording new chat" [stream, ("remote_users", .number c.remotes.size)])
    let _ ← k.register id listener
    return .done
  | .gone =>
    Run.remark (.info "Stopped recording chat" [stream])
    return .done

/-- Tell an observer that plays parts. -/
def tellScripted (observer : String) (script : ObserverScript) (turn : Nat) (news : News)
    (id : ChatId) : Run Ending := do
  let stream := (← Run.chat id).streamText
  let part ← match news with
    | .arrived => do
      if let some listener := script.attach then
        let _ ← k.register id listener
      pure (script.onNew stream turn)
    | .gone => pure (script.onGone stream turn)
  Run.note (.told news observer (← Run.labelOf id))
  k.play ⟨observer, some id⟩ part

/-- Whether an observer cares for some news. -/
def cares (role : ObserverRole) (news : News) : Bool :=
  match role, news with
  | .scripted script, .gone => !script.newOnly
  | _, _ => true

/-- **Tell an observer of a chat.** -/
def tell (observer : String) (news : News) (id : ChatId) : Run Ending := do
  let role := k.observer observer
  if !cares role news then return .done
  let stream := (← Run.chat id).streamText
  let turn := (← get).news.countP (·.1 = observer)
  modify fun w => { w with news := w.news ++ [(observer, news, stream)] }
  match role with
  | .recorder listener => k.tellRecorder listener news id
  | .scripted script => k.tellScripted observer script turn news id

/-- What is warned of when an observer panics. -/
def observerWarning : News → String
  | .arrived => "Chat service listener panicked in on_new_chat"
  | .gone => "Chat service listener panicked in on_removed_chat"

/-- Tell an observer; a panic is counted and told. -/
def inform (observer : String) (news : News) (id : ChatId) : Run Unit := do
  match ← k.tell observer news id with
  | .panicked words =>
    let c ← Run.chat id
    Run.failure (observerWarning news)
      [("stream_id", .text (Text.quotedOption c.stream)), ("error", .text (panicText words))]
  | _ => return ()

/-- **Tell some observers**, one after the other. -/
def informAll (news : News) (id : ChatId) : List String → Run Unit
  | [] => return ()
  | o :: os => do
    k.inform o news id
    informAll news id os

/-- Tell every observer that is registered now. -/
def announce (news : News) (id : ChatId) : Run Unit := do
  k.informAll news id (← Run.directory).observers.members

/-! ## Coming and going -/

/-- What is reported when the directory has changed. -/
def changed (message stream : String) : Run Unit := do
  Run.remark (.info message [("stream_id", .text stream)])
  Run.remark (.activeChats (← Run.directory).rooms.size)

/-- **Add a chat** under its stream. -/
def addChat (id : ChatId) : Run (Option AddError) := do
  match (← Run.chat id).stream with
  | none => return some .noStream
  | some stream =>
    if ((← Run.directory).rooms.find? stream).isSome then return some (.taken stream)
    Run.onDirectory fun d => { d with rooms := d.rooms.insert stream id }
    changed "Chat added" stream
    k.announce .arrived id
    return none

/-- **Remove the chat under a stream**, if there is one. -/
def removeStream (stream : String) : Run (Option ChatId) := do
  match (← Run.directory).rooms.find? stream with
  | none => return none
  | some id =>
    Run.onDirectory fun d => { d with rooms := d.rooms.erase stream }
    changed "Chat removed" stream
    k.announce .gone id
    return some id

/-- Remove the chat under the stream of a chat; tells whether there was one. -/
def removeChat (id : ChatId) : Run Bool := do
  match (← Run.chat id).stream with
  | none => return false
  | some stream => return (← k.removeStream stream).isSome

/-- **The chat under a stream, or a new one**, which is not announced yet and has its gate shut;
tells whether it is new. -/
def provide (stream : String) (make : Chat) : Run (ChatId × Bool) := do
  let d ← Run.directory
  match d.rooms.find? stream with
  | some id => return (id, false)
  | none =>
    let id := d.nextId
    Run.onDirectory fun d =>
      { d.make { make with gateOpen := false } with rooms := d.rooms.insert stream id }
    changed "Chat created for new stream" stream
    return (id, true)

/-- Open the gate of a chat. -/
def openGate (id : ChatId) : Run Unit := Run.onChat id fun c => { c with gateOpen := true }

/-- **The chat under a stream, or a new one** that has been announced. -/
def findOrMake (stream : String) (make : Chat) : Run (ChatId × Bool) := do
  let (id, new) ← provide stream make
  if new then
    k.announce .arrived id
    openGate id
  return (id, new)

end Company

end ChatFeed
