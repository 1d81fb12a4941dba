import ChatFeed.Poll.Loop

/-!
# Poll/Poller — starting and stopping loops

A poller has one desk and any number of loops over time, each with a number.  It remembers the loop
that was started last until it is asked to stop: a stop lets go of that loop at once, and ends when
the loop is over, however long that takes.
-/

namespace ChatFeed

/-- **A poller**: its desk, the loops that it ever had, and the number of the one it remembers. -/
structure Poller where
  desk : Desk := {}
  loops : List PollLoop := []
  slot : Option Nat := none
  deriving DecidableEq, Repr

namespace Poller

/-- The loop of a number. -/
def loop? (p : Poller) (i : Nat) : Option PollLoop := p.loops[i]?

/-- Whether the loop of a number has come to its end. -/
def isOver (p : Poller) (i : Nat) : Bool := (p.loop? i).all PollLoop.isOver

/-- A loop that nobody remembers, and its number. -/
def spawn (p : Poller) : Nat × Poller :=
  (p.loops.length, { p with loops := p.loops ++ [{}] })

/-- **Start a loop**, unless the one that is remembered is still going. -/
def start (p : Poller) : Option PollError × Poller :=
  if p.slot.all p.isOver then
    let (i, p) := p.spawn
    (none, { p with slot := some i })
  else (some .alreadyRunning, p)

/-- Ask a loop to stop. -/
def halt (p : Poller) (i : Nat) : Poller :=
  { p with loops := p.loops.modify i fun l => { l with stopping := true } }

/-- Let go of the loop that is remembered, and tell which it was. -/
def take (p : Poller) : Except PollError Nat × Poller :=
  match p.slot with
  | none => (.error .notRunning, p)
  | some i => (.ok i, { p with slot := none })

/-- **Begin to stop**: let go of the loop that is remembered and ask it to stop. -/
def letGo (p : Poller) : Except PollError Nat × Poller :=
  match p.take with
  | (.error e, p) => (.error e, p)
  | (.ok i, p) => (.ok i, p.halt i)

/-- The reason why a task has ended that panicked; tasks are not told apart. -/
def crashReason (words : Option String) : String :=
  match words with
  | none => "task N panicked"
  | some s => "task N panicked with message " ++ Text.quoted s

/-- **Stopping is over** when the loop is: tells how the loop ended. -/
def conclude (p : Poller) (i : Nat) : Option PollError × Poller :=
  match p.loop? i with
  | none => (none, p)
  | some l =>
    match l.phase with
    | .finished error => (error, p)
    | .crashed words =>
      let reason := crashReason words
      (some (.crashed reason), { p with desk := { p.desk with state := .failed reason } })
    | _ => (none, p)

/-- **A signal comes to a loop.** -/
def signal (source : String) (c : PollConfig) (p : Poller) (i : Nat) (s : Signal) :
    Option (Poller × List Deed) := do
  let l ← p.loop? i
  let r ← l.react source c p.desk s
  some ({ p with desk := r.desk, loops := p.loops.set i r.loop }, r.deeds)

end Poller

end ChatFeed
