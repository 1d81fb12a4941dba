import ChatFeed.Chat.Arrival
import ChatFeed.Poll.Timeline

/-!
# Poll/Rehearsal — polling a feed whose answers are known in advance

The feed gives the answers of a script, one for each read that reaches it, and then none.  An answer
that a loop did not wait for is still the next one.  The handler either records events, each taking
some time, or dispatches them to a directory.
-/

namespace ChatFeed

/-- **An answer of a script**, and how many milliseconds its read takes to reach the feed. -/
structure ScriptedRead where
  delay : Nat := 0
  result : Except ReadError Batch

/-- **What is noted of a rehearsal.** -/
inductive PollNote
  | fetch (cursor : Option Cursor) (time : Nat) (state : PollState)
  | event (name : String) (time : Nat)
  | handled (name : String) (time : Nat)
  deriving DecidableEq, Repr

/-- **The state of a rehearsal**: the script that is left, the cursors of the reads that reached the
feed, the world of the directory, and what was noted and recorded. -/
structure Rehearsal where
  script : List ScriptedRead
  world : World
  cursors : List (Option Cursor) := []
  notes : List PollNote := []
  recorded : List Event := []
  busy : Nat := 0
  peak : Nat := 0

namespace Rehearsal

/-- The name under which an event is noted. -/
def nameOf (e : Event) : String :=
  match e.message? with
  | some m => m.id
  | none => e.kindName

/-- A read has reached the feed. -/
def ask (cursor : Option Cursor) (r : Rehearsal) : Response × Rehearsal :=
  let r := { r with cursors := r.cursors ++ [cursor] }
  match r.script with
  | [] => (.never, r)
  | s :: script => (.now s.result, { r with script := script })

/-- Dispatch an event to the directory. -/
def dispatched (k : Company) (e : Event) (r : Rehearsal) : Rehearsal :=
  match (k.dispatch e).run r.world with
  | some (_, w) => { r with world := w }
  | none => r

/-- The handler gets an event; one of a certain name makes it panic. -/
def receive (company : Option Company) (rejected : Option String) (delay : Span) (time : Nat)
    (e : Event) (r : Rehearsal) : Except (Option String) Span × Rehearsal :=
  let name := nameOf e
  let r := { r with notes := r.notes ++ [.event name time] }
  if rejected = some name then (.error (some ("handler rejected " ++ name)), r)
  else match company with
    | some k => (.ok (.ofNanos 0), r.dispatched k e)
    | none => (.ok delay, { r with busy := r.busy + 1, peak := max r.peak (r.busy + 1) })

/-- The handler is through with an event. -/
def complete (records : Bool) (time : Nat) (e : Event) (r : Rehearsal) : Rehearsal :=
  let r := { r with notes := r.notes ++ [.handled (nameOf e) time] }
  if records then { r with recorded := r.recorded ++ [e], busy := r.busy - 1 } else r

/-- A deed is seen: reads are noted, remarks go to the journal. -/
def witness (time : Nat) (state : PollState) (d : Deed) (r : Rehearsal) : Rehearsal :=
  match d with
  | .read cursor => { r with notes := r.notes ++ [.fetch cursor time state] }
  | .remark m => { r with world := { r.world with journal := r.world.journal ++ [m] } }
  | _ => r

/-- How many reads were begun. -/
def reads (r : Rehearsal) : Nat := r.notes.countP fun
  | .fetch _ _ _ => true
  | _ => false

/-- How many events were handled. -/
def events (r : Rehearsal) : Nat := r.recorded.length

/-- **The outside of a rehearsal.** -/
def outside (config : PollConfig) (company : Option Company) (rejected : Option String)
    (delay : Span) : Outside Rehearsal where
  source := "backend"
  config := config
  travel r := .ofMillis ((r.script.head?.map (·.delay)).getD 0)
  ask := ask
  receive := receive company rejected delay
  complete := complete company.isNone
  witness := witness

end Rehearsal

end ChatFeed
