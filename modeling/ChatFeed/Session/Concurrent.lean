import ChatFeed.Chat.Perform

/-!
# Session/Concurrent — several messages and events on their way at once

Tasks share one thread: a task runs until it has to wait, then the next one in the queue runs.  When
all wait, time goes by until the first of them wakes; those that wake at the same moment run in the
order in which they fell asleep.
-/

namespace ChatFeed.Session

/-- What a task does: dispatch an event, or receive a message. -/
inductive Job
  | event (e : Event)
  | message (m : Message)
  deriving DecidableEq, Repr

/-- **How far a task has come.**  A task of an event gives no report. -/
inductive Task
  | idle (pause : Nat) (job : Job)
  | sleeping (wake : Nat) (job : Job)
  | underway (message : Message) (stage : Stage) (reports : Bool)
  | finished (report : Option Report)
  deriving DecidableEq, Repr

/-- A task whose message has come so far. -/
def Task.atStage (m : Message) (reports : Bool) : Stage → Task
  | .answered report => .finished (if reports then some report else none)
  | s => .underway m s reports

/-- When a task wants to be woken. -/
def Task.wake? : Task → Option Nat
  | .sleeping wake _ => some wake
  | .underway _ (.asleep wake _) _ => some wake
  | _ => none

variable (k : Company)

/-- Begin the job of a task. -/
def begin : Job → Run Task
  | .message m => do return .atStage m true (← k.advance m .fresh)
  | .event e => do
    k.observe e
    match e.message? with
    | none => return .finished none
    | some m => return .atStage m false (← k.advance m .fresh)

/-- **Run a task** until it waits or is finished. -/
def Task.run : Task → Run Task
  | .idle pause job => do
    if pause = 0 then begin k job else return .sleeping ((← get).clock + pause) job
  | .sleeping _ job => begin k job
  | .underway m s reports => do return .atStage m reports (← k.advance m s)
  | .finished report => return .finished report

/-- **Tasks, whose turn it is, and who sleeps**, in the order of falling asleep. -/
structure Schedule where
  tasks : List Task
  queue : List Nat
  sleepers : List (Nat × Nat) := []

/-- The first moment at which someone wakes. -/
def Schedule.nextWake? (s : Schedule) : Option Nat := (s.sleepers.map (·.1)).min?

/-- Wake those who sleep until some moment. -/
def Schedule.wakeAt (s : Schedule) (moment : Nat) : Schedule :=
  let (awake, asleep) := s.sleepers.partition (·.1 ≤ moment)
  { s with queue := s.queue ++ awake.map (·.2), sleepers := asleep }

/-- Put a task back after its turn. -/
def Schedule.settle (s : Schedule) (i : Nat) (t : Task) : Schedule :=
  { s with
    tasks := s.tasks.set i t
    sleepers := match t.wake? with
      | none => s.sleepers
      | some wake => s.sleepers ++ [(wake, i)] }

/-- **Give turns** until nobody has anything to do, `n` at most. -/
def turns : Nat → Schedule → Run Schedule
  | 0, s => return s
  | n + 1, s => do
    match s.queue with
    | i :: queue =>
      let t ← (s.tasks.getD i (.finished none)).run k
      turns n ({ s with queue := queue }.settle i t)
    | [] =>
      match s.nextWake? with
      | none => return s
      | some moment =>
        modify fun w => { w with clock := max w.clock moment }
        turns n (s.wakeAt moment)

/-- **Do some jobs at once**, each after a pause of its own; a job of an event gives no report. -/
def together (jobs : List (Nat × Job)) : Run (List (Option Report)) := do
  let tasks := jobs.map fun j => Task.idle j.1 j.2
  let s ← turns k (6 * jobs.length + 1) ⟨tasks, List.range jobs.length, []⟩
  return s.tasks.map fun
    | .finished report => report
    | _ => none

end ChatFeed.Session
