import ChatFeed.Chat.Announce
import ChatFeed.Feed.Event

/-!
# Chat/Arrival — the way of a message into its chat

A message goes to the chat under its stream.  If there is none, its sender is looked up, a chat is
made, announced and handed the message, and only then its gate is opened for the messages that have
come meanwhile.  `Company.step` is one step of that way; between two steps anything else may happen.
-/

namespace ChatFeed

namespace Company

variable (k : Company)

/-- The user that a lookup has brought, or the bare one; a failure is warned of. -/
def senderOf (user : String) (r : LookupResult) : Run User := do
  match r.outcome with
  | .ok u => return u
  | .error chain =>
    Run.remark (.warn "Failed to resolve sender identity, using bare id"
      [("user_id", .text user), ("error", .text (chain.headD ""))])
    return .bare user

/-- Look up a sender: at once, or after a while. -/
def lookUp (user : String) : Run Stage := do
  match k.lookup with
  | none => return .knocking (some (.bare user))
  | some table =>
    Run.note (.lookup user)
    let r := table user
    if r.delay = 0 then return .knocking (some (← senderOf user r))
    return .asleep ((← get).clock + r.delay) user

/-- What the lookup of a user that took a while has brought. -/
def lookedUp (user : String) : Run User :=
  match k.lookup with
  | none => return .bare user
  | some table => senderOf user (table user)

/-- The chat that a message makes for its stream: the owner's, with the sender if it is another. -/
def chatFor (owner : User) (m : Message) (sender : Option User) : Chat :=
  .between m.stream owner sender.toList

/-- **One step of a message on its way**; none when it has to wait. -/
def step (m : Message) : Stage → Run (Option Stage)
  | .fresh => do
    let d ← Run.directory
    match d.rooms.find? m.stream with
    | some id => return some (.gated id)
    | none =>
      if m.sender = d.owner.id then return some (.knocking none)
      return some (← k.lookUp m.sender)
  | .gated id => do
    if (← Run.chat id).gateOpen then return some (.admitted id) else return none
  | .admitted id => do return some (.answered (← k.deliver id m))
  | .asleep wake user => do
    if (← get).clock < wake then return none
    return some (.knocking (some (← k.lookedUp user)))
  | .knocking sender => do
    let d ← Run.directory
    let (id, new) ← provide m.stream (chatFor d.owner m sender)
    return some (if new then .announcing id d.observers.members else .gated id)
  | .announcing id [] => return some (.handing id)
  | .announcing id (o :: os) => do
    k.inform o .arrived id
    return some (.announcing id os)
  | .handing id => do return some (.opening id (← k.deliver id m))
  | .opening id report => do
    openGate id
    return some (.answered report)
  | .answered _ => return none

/-- Take steps while there is one to take, `n` at most. -/
def goOn (m : Message) : Nat → Stage → Run Stage
  | 0, s => return s
  | n + 1, s => do
    match ← k.step m s with
    | none => return s
    | some s => goOn m n s

/-- **Take a message as far as it gets** without waiting. -/
def advance (m : Message) (s : Stage) : Run Stage := do
  k.goOn m ((← Run.directory).observers.size + 8) s

/-- Let time go by until a sleeper wakes. -/
def wait : Stage → Run Unit
  | .asleep wake _ => modify fun w => { w with clock := max w.clock wake }
  | _ => return ()

/-- **Take a message all the way**, letting time go by; no value if it never gets there. -/
def finish (m : Message) (s : Stage) : Run Report := do
  let s ← k.advance m s
  wait s
  match ← k.advance m s with
  | .answered report => return report
  | _ => failure

/-- **Take a message that has just come in** all the way. -/
def receive (m : Message) : Run Report := k.finish m .fresh

/-! ## Events -/

/-- A user has joined a stream; the owner of the directory is not a participant. -/
def joined (stream : String) (user : User) : Run Unit := do
  let d ← Run.directory
  if user.id = d.owner.id then return ()
  if let some id := d.rooms.find? stream then
    Run.onChat id fun c => { c with remotes := c.remotes.insert user }

/-- A user has left a stream; when it is the owner, the chat goes. -/
def left (stream : String) (user : User) : Run Unit := do
  let d ← Run.directory
  if user.id = d.owner.id then
    if (← k.removeStream stream).isSome then
      Run.remark (.info "Left room, chat removed" [("stream_id", .text stream)])
  else if let some id := d.rooms.find? stream then
    Run.onChat id fun c => { c with remotes := c.remotes.erase user.id }

/-- **Act on an event** that is not a message; a message is only counted here. -/
def observe (e : Event) : Run Unit := do
  Run.remark (.count (.dispatched e.kindName))
  match e with
  | .sent _ => return ()
  | .joined stream user => joined stream user
  | .left stream user => k.left stream user
  | .other _ => return ()

/-- **Dispatch an event.** -/
def dispatch (e : Event) : Run Unit := do
  k.observe e
  if let some m := e.message? then
    let _ ← k.receive m

end Company

end ChatFeed
