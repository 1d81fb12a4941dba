import ChatFeed.Chat.Delivery
import ChatFeed.Chat.Lock

/-!
# Chat/Traffic — many threads at one chat

Each thread has a list of calls to make on one chat, deliveries and registrations.  A call first
gets the chat's lock, then goes through its **passage** step by step, one callback at a time, and
then gives the lock up.  Between two steps of one thread any other may take some.

`Company.pass` is one step of a passage; `Company.deliver` and `Company.register` take all of them
without a pause.
-/

namespace ChatFeed

/-- **A call on a chat** that takes its lock. -/
inductive ChatCall
  | deliver (message : Message)
  | register (listener : String)
  deriving DecidableEq, Repr

/-- **How far a call has come** inside the lock. -/
inductive Passage
  | recording (message : Message)
  | listing (message : Message)
  | handing (message : Message) (left : List String) (report : Report)
  | checking (listener : String)
  | recalling (listener : String)
  | replaying (listener : String) (message : Message)
  | inserting (listener : String)
  | done (reply : Reply)
  deriving DecidableEq, Repr

/-- Where a call begins. -/
def ChatCall.first : ChatCall → Passage
  | .deliver m => .recording m
  | .register l => .checking l

/-- What a call answers, when it has come to its end. -/
def Passage.reply? : Passage → Option Reply
  | .done reply => some reply
  | _ => none

/-- Who is handed which message next. -/
def Passage.hands : Passage → List (String × Message)
  | .handing m (l :: _) _ => [(l, m)]
  | .replaying l m => [(l, m)]
  | _ => []

/-- A report with one more listener, which took the message or failed. -/
def Report.withOne (r : Report) (taken : Bool) : Report :=
  if taken then { r with delivered := r.delivered + 1 } else { r with failed := r.failed + 1 }

namespace Company

variable (k : Company) (id : ChatId)

/-- Call a listener; a failure is counted and told.  Tells whether it took the message. -/
def attempt (warning : String) (listener : String) (m : Message) : Run Bool := do
  match ← k.call listener m with
  | none => return true
  | some e =>
    Run.failure warning (listenerDetails m e)
    return false

/-- **One step of a call** inside the lock. -/
def pass : Passage → Run Passage
  | .recording m => do
    Run.onChat id fun c => { c with last := some m }
    return .listing m
  | .listing m => do return .handing m (← Run.chat id).listeners.members {}
  | .handing _ [] r => return .done (.report r)
  | .handing m (l :: ls) r => do
    let taken ← k.attempt "Chat listener failed" l m
    return .handing m ls (r.withOne taken)
  | .checking l => do
    if (← Run.chat id).listeners.contains l then return .done (.flag false)
    return .recalling l
  | .recalling l => do
    match (← Run.chat id).last with
    | none => return .inserting l
    | some m => return .replaying l m
  | .replaying l m => do
    let _ ← k.attempt "Listener failed during last-message replay" l m
    return .inserting l
  | .inserting l => do
    let known := (← Run.chat id).listeners.contains l
    Run.onChat id fun c => { c with listeners := c.listeners.insert l }
    return .done (.flag !known)
  | .done reply => return .done reply

/-- So many steps of a call without a pause. -/
def passOn : Nat → Passage → Run Passage
  | 0, p => return p
  | n + 1, p => do passOn n (← k.pass id p)

end Company

/-- **Where a thread is**: between two calls, waiting for the lock, inside it (which it gives up
afterwards only if it has taken it itself), or about to notify the others. -/
inductive Place
  | outside
  | blocked
  | inside (owned : Bool) (passage : Passage)
  | leaving
  deriving DecidableEq, Repr

/-- **A thread**: the calls that it has still to make, the one that it is at first, and the answers
so far. -/
structure Thread where
  calls : List ChatCall
  place : Place := .outside
  replies : List Reply := []
  deriving DecidableEq, Repr

/-- **Threads at one chat**, the calls that have entered its lock, and who has been handed which
message by them, both in order. -/
structure Traffic where
  world : World
  threads : List Thread
  lock : DeliveryLock := {}
  entries : List (Nat × ChatCall) := []
  handed : List (String × Message) := []

/-- **What happens next**: a thread takes a step, or one that sleeps wakes of itself. -/
inductive Slice
  | thread (i : Nat)
  | stir (i : Nat)
  deriving DecidableEq, Repr

namespace Traffic

/-- A thread that has asked for the lock enters it or waits. -/
def enter (t : Traffic) (i : Nat) (thread : Thread) (c : ChatCall) (asked : Entry × DeliveryLock) :
    Traffic :=
  match asked.1 with
  | .asleep =>
    { t with lock := asked.2, threads := t.threads.set i { thread with place := .blocked } }
  | entry =>
    { t with
      lock := asked.2
      threads := t.threads.set i { thread with place := .inside (entry = .entered) c.first }
      entries := t.entries ++ [(i, c)] }

/-- A thread has come to the end of a call: it gives the lock up if it has taken it. -/
def giveUp (t : Traffic) (i : Nat) (thread : Thread) (owned : Bool) (reply : Reply) : Traffic :=
  let thread := { thread with replies := thread.replies ++ [reply] }
  if owned then
    { t with lock := t.lock.giveUp, threads := t.threads.set i { thread with place := .leaving } }
  else
    { t with
      threads := t.threads.set i { thread with place := .outside, calls := thread.calls.tail } }

/-- **A thread takes a step.** -/
def go (k : Company) (id : ChatId) (t : Traffic) (i : Nat) (thread : Thread) : Option Traffic :=
  match thread.calls, thread.place with
  | [], _ => some t
  | c :: _, .outside => some (t.enter i thread c (t.lock.acquire i))
  | c :: _, .blocked =>
    if i ∈ t.lock.sleepers then some t else some (t.enter i thread c (t.lock.await i))
  | _ :: _, .inside owned p =>
    match p.reply? with
    | some reply => some (t.giveUp i thread owned reply)
    | none => do
      let (p', w) ← (k.pass id p).run t.world
      some { t with
        world := w
        threads := t.threads.set i { thread with place := .inside owned p' }
        handed := t.handed ++ p.hands }
  | _ :: cs, .leaving =>
    some { t with
      lock := t.lock.notifyAll
      threads := t.threads.set i { thread with place := .outside, calls := cs } }

/-- **What happens in a slice of time.** -/
def step (k : Company) (id : ChatId) (t : Traffic) : Slice → Option Traffic
  | .stir i => some { t with lock := t.lock.stir i }
  | .thread i => do t.go k id i (← t.threads[i]?)

/-- **Slices of time**, one after the other. -/
def run (k : Company) (id : ChatId) (slices : List Slice) (t : Traffic) : Option Traffic :=
  slices.foldlM (step k id) t

/-- Threads that have not begun yet. -/
def begin (w : World) (lists : List (List ChatCall)) : Traffic where
  world := w
  threads := lists.map fun calls => { calls := calls }

end Traffic

end ChatFeed
