import ChatFeed.Feed.Event
import ChatFeed.Poll.Config
import ChatFeed.Poll.PollError
import ChatFeed.Report.Journal

/-!
# Poll/Loop — the poll loop, step by step

A loop reads a batch, hands its events over one by one, moves the cursor behind the batch and reads
again.  A passing failure makes it rest for a while, a stale cursor makes it go on from the feed's
tip, a fatal failure ends it.

The loop is a machine: `PollLoop.react` says how it answers a **signal** from outside and which
**deeds** it does then.  A stop request is only noticed where the loop looks for it: before a read,
during a read, and while it rests, never within a batch.
-/

namespace ChatFeed

/-- **The state of polling**, as it is published. -/
inductive PollState
  | stopped
  | running
  | backingOff (attempt : Nat) (delay : Span)
  | failed (reason : String)
  deriving DecidableEq, Repr, Inhabited

/-- **What all loops of a poller share**: the cursor of the next read, and the published state. -/
structure Desk where
  cursor : Option Cursor := none
  state : PollState := .stopped
  deriving DecidableEq, Repr, Inhabited

/-- **Where a loop is.** -/
inductive Phase
  | starting
  | checking
  | reading
  | handing (event : Event) (rest : List Event) (next : Option Cursor)
  | resting (delay : Span)
  | finished (error : Option PollError)
  | crashed (words : Option String)
  deriving DecidableEq, Repr

/-- **A loop**: where it is, its failures in a row, and whether it was asked to stop. -/
structure PollLoop where
  phase : Phase := .starting
  streak : Streak := {}
  stopping : Bool := false
  deriving DecidableEq, Repr

/-- Whether a loop has come to its end. -/
def PollLoop.isOver (l : PollLoop) : Bool :=
  match l.phase with
  | .finished _ => true
  | .crashed _ => true
  | _ => false

/-- **What comes to a loop from outside**: its turn, the answer to its read, the end of a handler
call in one way or the other, the end of its rest, or the request to stop. -/
inductive Signal
  | turn
  | answer (result : Except ReadError Batch)
  | handled
  | panic (words : Option String)
  | rested
  | halt

/-- **What a loop does**, seen from outside. -/
inductive Deed
  | read (cursor : Option Cursor)
  | hand (event : Event)
  | publish (state : PollState)
  | move (cursor : Option Cursor)
  | remark (r : Remark)
  deriving DecidableEq, Repr

/-- **A step of a loop**: the desk and the loop after it, and what was done. -/
structure LoopStep where
  desk : Desk
  loop : PollLoop
  deeds : List Deed
  deriving DecidableEq, Repr

namespace PollLoop

/-- Milliseconds as they are logged, in sixty-four bits. -/
def loggedMillis (d : Span) : Detail := .number (d.millis % (Numeral.max64 + 1))

/-- The step to another phase without any deed. -/
def goTo (d : Desk) (l : PollLoop) (phase : Phase) : LoopStep := ⟨d, { l with phase := phase }, []⟩

/-- Begin: the state is published and the configuration logged. -/
def begin (source : String) (c : PollConfig) (d : Desk) (l : PollLoop) : LoopStep :=
  ⟨{ d with state := .running }, { l with phase := .checking },
    [.publish .running, .remark (.polling true),
      .remark (.info "Datafeed poller started" [("backend", .text source),
        ("max_batch_size", .number c.batch), ("read_timeout_ms", loggedMillis c.patience)])]⟩

/-- **Come to an end**, with an error or without. -/
def finish (d : Desk) (l : PollLoop) (error : Option PollError) : LoopStep :=
  let l := { l with phase := .finished error }
  match error with
  | none =>
    ⟨{ d with state := .stopped }, l, [.remark (.polling false), .publish .stopped,
      .remark (.info "Datafeed poller stopped" [])]⟩
  | some e =>
    ⟨{ d with state := .failed e.text }, l, [.remark (.polling false), .publish (.failed e.text),
      .remark (.alarm "Datafeed poller terminated" [("error", .text e.text)])]⟩

/-- Begin a read. -/
def read (d : Desk) (l : PollLoop) : LoopStep :=
  ⟨d, { l with phase := .reading }, [.read d.cursor]⟩

/-- A batch has been handed over: the cursor moves behind it, if the batch tells where that is. -/
def endBatch (d : Desk) (l : PollLoop) (next : Option Cursor) : LoopStep :=
  let l := { l with phase := .checking }
  match next with
  | none => ⟨d, l, []⟩
  | some cursor => ⟨{ d with cursor := some cursor }, l, [.move (some cursor)]⟩

/-- Hand over the next event of a batch, or end the batch. -/
def handNext (d : Desk) (l : PollLoop) (events : List Event) (next : Option Cursor) : LoopStep :=
  match events with
  | [] => endBatch d l next
  | e :: rest => ⟨d, { l with phase := .handing e rest next }, [.hand e]⟩

/-- What is reported when a read was good. -/
def recovery (s : Streak) : List Deed :=
  if s.failed = 0 then []
  else [.remark (.info "Datafeed recovered after transient failures"
    [("failures", .number s.failed)])]

/-- A read has brought a batch. -/
def onBatch (d : Desk) (l : PollLoop) (b : Batch) : LoopStep :=
  let s := handNext d { l with streak := l.streak.succeed } b.events b.next
  { s with deeds :=
      recovery l.streak ++ (Remark.batch b.events.length).map Deed.remark ++ s.deeds }

/-- The cursor was not accepted: go on from the tip. -/
def onStale (d : Desk) (l : PollLoop) (rejected : Option String) : LoopStep :=
  ⟨{ d with cursor := none }, { l with phase := .checking },
    [.remark (.count .cursorResets),
      .remark (.warn "Datafeed cursor rejected, restarting from the current tip"
        [("cursor", .text (Text.quotedOption rejected))]),
      .move none]⟩

/-- A read has failed for now: rest, or give up after too many failures in a row. -/
def onTransient (c : PollConfig) (d : Desk) (l : PollLoop) (e : ReadError) : LoopStep :=
  let (delay, streak) := l.streak.failAsked c.retry e.retryAfter?
  let l := { l with streak := streak }
  let s := match delay with
    | none => finish d l (some (.exhausted streak.failed e))
    | some delay =>
      let state := PollState.backingOff streak.failed delay
      ⟨{ d with state := state }, { l with phase := .resting delay },
        [.remark (.warn "Datafeed read failed, backing off" [("error", .text e.text),
            ("attempt", .number streak.failed), ("delay_ms", loggedMillis delay)]),
          .publish state]⟩
  { s with deeds := .remark (.count .transientErrors) :: s.deeds }

/-- **A read has been answered.** -/
def onAnswer (c : PollConfig) (d : Desk) (l : PollLoop) : Except ReadError Batch → LoopStep
  | .ok b => onBatch d l b
  | .error (.staleCursor rejected) => onStale d l rejected
  | .error (.fatal message) => finish d l (some (.fatal (.fatal message)))
  | .error (.transient message retryAfter) => onTransient c d l (.transient message retryAfter)

/-- **How a loop answers a signal**; none when the signal does not come to where the loop is.  A
loop that was asked to stop drops the answer to its read. -/
def react (source : String) (c : PollConfig) (d : Desk) (l : PollLoop) :
    Signal → Option LoopStep
  | .halt => some ⟨d, { l with stopping := true }, []⟩
  | .turn =>
    match l.phase with
    | .starting => some (begin source c d l)
    | .checking => some (if l.stopping then finish d l none else read d l)
    | .reading => if l.stopping then some (finish d l none) else none
    | .resting _ => if l.stopping then some (finish d l none) else none
    | _ => none
  | .answer result =>
    match l.phase with
    | .reading => some (if l.stopping then finish d l none else onAnswer c d l result)
    | _ => none
  | .handled =>
    match l.phase with
    | .handing _ rest next => some (handNext d l rest next)
    | _ => none
  | .panic words =>
    match l.phase with
    | .handing _ _ _ => some (goTo d l (.crashed words))
    | _ => none
  | .rested =>
    match l.phase with
    | .resting _ =>
      some (if l.stopping then finish d l none
        else ⟨{ d with state := .running }, { l with phase := .checking }, [.publish .running]⟩)
    | _ => none

end PollLoop

end ChatFeed
