import ChatFeed.Chat.Arrival

/-!
# Chat/Perform — taking the actions of callbacks

An action of a callback is taken on the world as it is at that moment, in the middle of the
delivery or the announcement that made the call.  It may lead to further callbacks; `perform n`
allows them `n` deep, and a run that needs more than that has no value, for any `n` if it would
never end.
-/

namespace ChatFeed

namespace Company

variable (k : Company)

/-- The chat that an action is on. -/
def find (o : Occasion) : Target → Run (Option ChatId)
  | .labelled label => do return (← get).labels.lookup label
  | .onStream stream => do return (← Run.directory).rooms.find? stream
  | .current => return o.chat

/-- Add a participant to a chat; tells whether it is new. -/
def addRemote (id : ChatId) (u : User) : Run Bool := do
  let known := (← Run.chat id).remotes.has u.id
  Run.onChat id fun c => { c with remotes := c.remotes.insert u }
  return !known

/-- Take an action on a chat. -/
def actOn (id : ChatId) : ChatAction → Run Reply
  | .register l => do return .flag (← k.register id l)
  | .unregister l => do return .flag (← Run.unregister id l)
  | .deliver m => do return .report (← k.deliver id m)
  | .count => do return .count (← Run.chat id).listeners.size
  | .last => do return .messageId ((← Run.chat id).last.map (·.id))
  | .addRemote u => do return .flag (← addRemote id u)
  | .addChat => do return .added (← k.addChat id)

/-- Register an observer; tells whether it is new. -/
def addObserver (o : String) : Run Bool := do
  let known := (← Run.directory).observers.contains o
  Run.onDirectory fun d => { d with observers := d.observers.insert o }
  return !known

/-- Remove an observer; tells whether it was registered. -/
def removeObserver (o : String) : Run Bool := do
  let known := (← Run.directory).observers.contains o
  Run.onDirectory fun d => { d with observers := d.observers.erase o }
  return known

/-- **Send a message on its way**; one that has to wait is held. -/
def send (m : Message) : Run Reply := do
  match ← k.advance m .fresh with
  | .answered report => return .report report
  | s =>
    modify fun w => { w with held := w.held ++ [(m, s)] }
    return .waiting

/-- **Take an action.** -/
def takeAction (o : Occasion) : Action → Run Reply
  | .onChat target action => do
    match ← find o target with
    | none => return .noChat
    | some id => k.actOn id action
  | .removeChat stream => do return .flag (← k.removeStream stream).isSome
  | .addObserver name => do return .flag (← addObserver name)
  | .removeObserver name => do return .flag (← removeObserver name)
  | .size => do return .count (← Run.directory).rooms.size
  | .pause => return .resumed
  | .send m => k.send m

/-- Take messages that are held all the way, in the order in which they were sent, and those that
are sent meanwhile; `n` at most. -/
def release : Nat → Run Unit
  | 0 => failure
  | n + 1 => do
    let w ← get
    match w.held with
    | [] => return ()
    | (m, s) :: rest =>
      set { w with held := rest }
      let report ← k.finish m s
      Run.note (.resumed m.id report)
      release n

end Company

/-- **Take an action, callbacks going at most so deep.** -/
def Cast.perform (cast : Cast) : Nat → Occasion → Action → Run Reply
  | 0 => fun _ _ => failure
  | n + 1 => Company.takeAction { cast with act := cast.perform n }

/-- **The company of a cast**, with callbacks going at most so deep. -/
def Cast.company (cast : Cast) (depth : Nat) : Company :=
  { cast with act := cast.perform depth }

end ChatFeed
