/-!
# Report/Journal — what a run reports: log lines and measurements

A step of the program gives back the **remarks** that it makes, in order: lines for the log, and
changes of meters.  A counter adds up what it is given, a gauge keeps what it was given last.
-/

namespace ChatFeed

/-- How much a log line matters. -/
inductive Level
  | info
  | warning
  | error
  deriving DecidableEq, Repr

/-- The name of a level. -/
def Level.name : Level → String
  | .info => "INFO"
  | .warning => "WARN"
  | .error => "ERROR"

/-- The value of a field of a log line. -/
inductive Detail
  | text (s : String)
  | number (n : Nat)
  deriving DecidableEq, Repr

/-- A detail in words. -/
def Detail.show : Detail → String
  | .text s => s
  | .number n => toString n

/-- **A log line.** -/
structure Line where
  level : Level
  message : String
  details : List (String × Detail)
  deriving DecidableEq, Repr

/-- **What is measured.** -/
inductive Meter
  | batches
  | events
  | dispatched (kind : String)
  | transientErrors
  | cursorResets
  | listenerFailures
  | activeChats
  | polling
  deriving DecidableEq, Repr

namespace Meter

/-- Whether a meter adds up or keeps the last value. -/
def isCounter : Meter → Bool
  | .activeChats => false
  | .polling => false
  | _ => true

/-- The name of a meter without its label. -/
def name : Meter → String
  | .batches => "symphony_datafeed_batches_total"
  | .events => "symphony_datafeed_events_total"
  | .dispatched _ => "symphony_dispatched_events_total"
  | .transientErrors => "symphony_datafeed_transient_errors_total"
  | .cursorResets => "symphony_datafeed_cursor_resets_total"
  | .listenerFailures => "symphony_listener_failures_total"
  | .activeChats => "symphony_active_chats"
  | .polling => "symphony_datafeed_running"

/-- The label of a meter, with its name. -/
def label? : Meter → Option (String × String)
  | .dispatched kind => some ("type", kind)
  | _ => none

/-- What a meter measures, in words. -/
def describe : Meter → String
  | .batches => "Datafeed reads that returned successfully"
  | .events => "Events received from the datafeed"
  | .dispatched _ => "Events dispatched, by event type"
  | .transientErrors => "Datafeed reads that failed and were retried"
  | .cursorResets => "Times the backend rejected the datafeed cursor"
  | .listenerFailures => "Listener callbacks that returned an error or panicked"
  | .activeChats => "Chats currently registered in the directory"
  | .polling => "1 while the datafeed poller is running"

/-- All meters in the order in which they are described, one for all labels. -/
def all : List Meter :=
  [.batches, .events, .dispatched "", .transientErrors, .cursorResets, .listenerFailures,
    .activeChats, .polling]

end Meter

/-- A change of a meter: what is added to a counter, or what a gauge now shows. -/
structure Sample where
  meter : Meter
  value : Nat
  deriving DecidableEq, Repr

/-- **What a step reports.** -/
inductive Remark
  | line (l : Line)
  | sample (s : Sample)
  deriving DecidableEq, Repr

namespace Remark

/-- A log line that informs. -/
def info (message : String) (details : List (String × Detail)) : Remark :=
  .line ⟨.info, message, details⟩

/-- A log line that warns. -/
def warn (message : String) (details : List (String × Detail)) : Remark :=
  .line ⟨.warning, message, details⟩

/-- A log line that tells an error. -/
def alarm (message : String) (details : List (String × Detail)) : Remark :=
  .line ⟨.error, message, details⟩

/-- One more on a counter. -/
def count (m : Meter) : Remark := .sample ⟨m, 1⟩

/-- What is measured of a batch of `events` events: their number only when there are any. -/
def batch (events : Nat) : List Remark :=
  count .batches :: if events = 0 then [] else [.sample ⟨.events, events⟩]

/-- The number of chats in the directory. -/
def activeChats (n : Nat) : Remark := .sample ⟨.activeChats, n⟩

/-- Whether the poll loop runs. -/
def polling (running : Bool) : Remark := .sample ⟨.polling, if running then 1 else 0⟩

end Remark

/-- **The remarks of a run**, in order. -/
abbrev Journal := List Remark

namespace Journal

/-- The log lines. -/
def lines (j : Journal) : List Line := j.filterMap fun
  | .line l => some l
  | .sample _ => none

/-- The changes of meters. -/
def samples (j : Journal) : List Sample := j.filterMap fun
  | .line _ => none
  | .sample s => some s

/-- How much a counter was given in all. -/
def total (j : Journal) (m : Meter) : Nat :=
  (j.samples.filter (·.meter = m)).foldr (fun s n => s.value + n) 0

/-- What a gauge shows in the end, if it was given anything. -/
def last? (j : Journal) (m : Meter) : Option Nat :=
  ((j.samples.filter (·.meter = m)).map (·.value)).getLast?

/-- **The reading of a meter after a run**, none if it was not touched. -/
def reading? (j : Journal) (m : Meter) : Option Nat :=
  if j.samples.any (·.meter = m) then
    if m.isCounter then some (j.total m) else j.last? m
  else none

/-- The meters touched, each once, in the order of their first change. -/
def touched (j : Journal) : List Meter := (j.samples.map (·.meter)).eraseDups

/-- A gauge shows what it was given last. -/
theorem last?_append (j k : Journal) (m : Meter) :
    (j ++ k).last? m = (k.last? m).or (j.last? m) := by
  simp [last?, samples]

/-- A counter adds up what it was given. -/
theorem total_append (j k : Journal) (m : Meter) : (j ++ k).total m = j.total m + k.total m := by
  have hsum : ∀ xs ys : List Sample, (xs ++ ys).foldr (fun s n => s.value + n) 0
      = xs.foldr (fun s n => s.value + n) 0 + ys.foldr (fun s n => s.value + n) 0 := by
    intro xs ys
    induction xs with
    | nil => simp
    | cons x xs ih => simp [ih, Nat.add_assoc]
  simp [total, samples, hsum]

end Journal

end ChatFeed
