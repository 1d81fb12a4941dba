import ChatFeed.Poll.Poller

/-!
# Poll/Timeline — loops in time

Time goes by in milliseconds and only while everything waits.  Loops wait for their reads, for their
handler and for the end of a rest; a loop that was asked to stop waits no longer, except for its
handler.  All that is due at a moment is done at that moment.

The feed and the handler are the **outside** of the loops; whatever state they have is theirs.
-/

namespace ChatFeed

/-- **How a feed answers a read** that has reached it. -/
inductive Response
  | now (result : Except ReadError Batch)
  | later (wait : Span) (result : Except ReadError Batch)
  | never

/-- **What is outside of the loops**: the feed, the handler of events, a witness of all deeds. -/
structure Outside (ε : Type) where
  source : String
  config : PollConfig
  /-- How long a read takes to reach the feed. -/
  travel : ε → Span
  /-- A read has reached the feed. -/
  ask : Option Cursor → ε → Response × ε
  /-- The handler gets an event: it takes a while, or it panics. -/
  receive : Nat → Event → ε → Except (Option String) Span × ε
  /-- The handler is through with an event. -/
  complete : Nat → Event → ε → ε
  /-- A deed is seen, at some time and in some state. -/
  witness : Nat → PollState → Deed → ε → ε

/-- **What a loop waits for**, and until when. -/
inductive Doing
  | idle
  | asking (cursor : Option Cursor) (due : Nat)
  | awaiting (result : Except ReadError Batch) (due : Nat)
  | forever
  | handling (event : Event) (due : Nat)
  | panicking (words : Option String)
  | resting (due : Nat)

/-- The time until which it waits. -/
def Doing.due? : Doing → Option Nat
  | .asking _ due => some due
  | .awaiting _ due => some due
  | .handling _ due => some due
  | .resting due => some due
  | _ => none

/-- **Loops in time.** -/
structure Timeline (ε : Type) where
  now : Nat := 0
  poller : Poller := {}
  doings : List Doing := []
  outside : ε

namespace Timeline

variable {ε : Type} (o : Outside ε)

/-- What a loop does. -/
def doing (t : Timeline ε) (i : Nat) : Doing := t.doings.getD i .idle

/-- Say what a loop does. -/
def setDoing (t : Timeline ε) (i : Nat) (d : Doing) : Timeline ε :=
  { t with doings := (t.doings ++ List.replicate (i + 1 - t.doings.length) Doing.idle).set i d }

/-- The time after some span. -/
def after (t : Timeline ε) (d : Span) : Nat := t.now + d.millisUp

/-- Begin to do what a loop's phase asks for. -/
def engage (t : Timeline ε) (i : Nat) (phase : Phase) : Timeline ε :=
  match phase with
  | .reading => t.setDoing i (.asking t.poller.desk.cursor (t.after (o.travel t.outside)))
  | .handing e _ _ =>
    let (outcome, outside) := o.receive t.now e t.outside
    let t := { t with outside := outside }
    match outcome with
    | .error words => t.setDoing i (.panicking words)
    | .ok d => t.setDoing i (.handling e (t.after d))
  | .resting d => t.setDoing i (.resting (t.after d))
  | _ => t.setDoing i .idle

/-- **Give a loop a signal**, have its deeds seen, and begin what comes next. -/
def signal (t : Timeline ε) (i : Nat) (s : Signal) : Option (Timeline ε) := do
  let (p, deeds) ← t.poller.signal o.source o.config i s
  let outside := deeds.foldl (fun x d => o.witness t.now p.desk.state d x) t.outside
  let t := { t with poller := p, outside := outside }
  some (t.engage o i (← p.loop? i).phase)

/-- The read of a loop has reached the feed. -/
def reach (t : Timeline ε) (i : Nat) (cursor : Option Cursor) : Option (Timeline ε) :=
  let (response, outside) := o.ask cursor t.outside
  let t := { t with outside := outside }
  match response with
  | .now result => t.signal o i (.answer result)
  | .later wait result => some (t.setDoing i (.awaiting result (t.after wait)))
  | .never => some (t.setDoing i .forever)

/-- What a loop does when it need not wait any longer. -/
def proceed (t : Timeline ε) (i : Nat) : Doing → Option (Timeline ε)
  | .idle => t.signal o i .turn
  | .asking cursor _ => t.reach o i cursor
  | .awaiting result _ => t.signal o i (.answer result)
  | .forever => none
  | .handling e _ => { t with outside := o.complete t.now e t.outside }.signal o i .handled
  | .panicking words => t.signal o i (.panic words)
  | .resting _ => t.signal o i .rested

/-- Whether a stop request is noticed while a loop does something. -/
def interruptible : Doing → Bool
  | .handling _ _ => false
  | .panicking _ => false
  | _ => true

/-- **One step of a loop at the present moment**; none when it has to wait. -/
def step (t : Timeline ε) (i : Nat) : Option (Timeline ε) := do
  let l ← t.poller.loop? i
  let d := t.doing i
  if l.stopping ∧ interruptible d then t.signal o i .turn
  else if d.due?.all (· ≤ t.now) then t.proceed o i d
  else none

/-- One step of the first loop that can take one. -/
def stepAny (t : Timeline ε) : Option (Timeline ε) :=
  (List.range t.poller.loops.length).findSome? (t.step o)

/-- **Do all that is due now**, `n` steps at most, or until a goal is met. -/
def settle (goal : Timeline ε → Bool) : Nat → Timeline ε → Timeline ε
  | 0, t => t
  | n + 1, t =>
    if goal t then t
    else match t.stepAny o with
      | none => t
      | some t => settle goal n t

/-- The next moment at which a loop has something to do. -/
def nextDue? (t : Timeline ε) : Option Nat :=
  ((t.doings.filterMap Doing.due?).filter (t.now < ·)).min?

/-- How many steps are taken at one moment at most, and how many moments are lived through. -/
def budget : Nat := 100000

/-- **Let time go by until a goal is met**, or until a moment if one is given; through `n` moments
at most. -/
def passUntil (goal : Timeline ε → Bool) (limit : Option Nat) : Nat → Timeline ε → Timeline ε
  | 0, t => t
  | n + 1, t =>
    let t := settle o goal budget t
    if goal t then t
    else match t.nextDue?, limit with
      | some due, some limit =>
        if due ≤ limit then passUntil goal (some limit) n { t with now := due }
        else settle o goal budget { t with now := max t.now limit }
      | some due, none => passUntil goal none n { t with now := due }
      | none, some limit => settle o goal budget { t with now := max t.now limit }
      | none, none => t

/-! ## What can be asked of a poller -/

/-- Do all that is due now. -/
def settled (t : Timeline ε) : Timeline ε := settle o (fun _ => false) budget t

/-- **Let some time go by.** -/
def advance (t : Timeline ε) (millis : Nat) : Timeline ε :=
  passUntil o (fun _ => false) (some (t.now + millis)) budget t

/-- Start a loop. -/
def start (t : Timeline ε) : Option PollError × Timeline ε :=
  let (error, p) := t.poller.start
  (error, { t with poller := p })

/-- The error that a loop has ended with. -/
def conclude (t : Timeline ε) (i : Nat) : Option PollError × Timeline ε :=
  let (error, p) := t.poller.conclude i
  (error, { t with poller := p })

/-- **Stop the loop that is remembered**, letting time go by until it is over. -/
def stop (t : Timeline ε) : Option PollError × Timeline ε :=
  match t.poller.letGo with
  | (.error e, p) => (some e, { t with poller := p })
  | (.ok i, p) =>
    (passUntil o (fun t => t.poller.isOver i) none budget { t with poller := p }).conclude i

/-- **Run a loop of one's own** that is asked to stop after a while, or at once. -/
def run (t : Timeline ε) (patience : Option Nat) : Option PollError × Timeline ε :=
  let (i, p) := t.poller.spawn
  let t := { t with poller := p }
  let ended (t : Timeline ε) : Bool := t.poller.isOver i
  let t := match patience with
    | none => t
    | some millis => passUntil o ended (some (t.now + millis)) budget t
  (passUntil o ended none budget { t with poller := t.poller.halt i }).conclude i

/-- **Wait until something is counted often enough**, for a limited time; tells whether it was. -/
def await (count : ε → Nat) (n limit : Nat) (t : Timeline ε) : Bool × Timeline ε :=
  let enough (t : Timeline ε) : Bool := n ≤ count t.outside
  if enough t then (true, t.settled o)
  else if limit = 0 then (false, t.settled o)
  else
    let final := t.now + limit
    let t := passUntil o enough (some (final - 1)) budget t
    if enough t then (true, t.settled o)
    else (false, ({ t with now := final } : Timeline ε).settled o)

end Timeline

end ChatFeed
