import ChatFeed.Chat.Perform
import ChatFeed.Poll.Timeline
import ChatFeed.Replay.Capture

/-!
# Replay/Playback — playing a capture to a directory

A capture is polled like a feed and its events are dispatched to a directory, where a recorder has a
transcript listen to every chat.  A read that finds nothing left takes as long as a read may take,
and from then on the capture counts as **drained**: all that is before has been handed over.
-/

namespace ChatFeed

/-- **A capture being played**: whether it is drained, and the world of the directory. -/
structure Playback where
  capture : Capture
  world : World
  drained : Bool := false

namespace Playback

/-- The name of the one observer. -/
def recorder : String := "recorder"

/-- The name of the one listener. -/
def scribe : String := "transcript"

/-- **Who is who in a playback**: the observer has the listener record every chat. -/
def cast (directory : Option String) (now : String) : Cast where
  listener _ := .transcript directory
  observer _ := .recorder scribe
  now := now

/-- A directory with the recorder as its observer, over some files. -/
def freshWorld (owner : User) (f : Folder) : World where
  directory := { owner := owner, observers := Roster.empty.insert recorder }
  folder := f

/-- The name of a capture as a feed. -/
def source : String := "replay"

/-- A read has reached the capture. -/
def ask (config : PollConfig) (cursor : Option Cursor) (p : Playback) : Response × Playback :=
  match p.capture.serve cursor config.batch with
  | .error e => (.now (.error e), p)
  | .ok (some b) => (.now (.ok b), p)
  | .ok none => (.later config.patience (.ok .empty), { p with drained := true })

/-- An event is dispatched. -/
def receive (k : Company) (e : Event) (p : Playback) : Playback :=
  match (k.dispatch e).run p.world with
  | some (_, w) => { p with world := w }
  | none => p

/-- Report something. -/
def remark (r : Remark) (p : Playback) : Playback :=
  { p with world := { p.world with journal := p.world.journal ++ [r] } }

/-- **The outside of a playback.** -/
def outside (k : Company) (config : PollConfig) : Outside Playback where
  source := source
  config := config
  travel _ := .ofNanos 0
  ask := ask config
  receive _ e p := (.ok (.ofNanos 0), p.receive k e)
  complete _ _ p := p
  witness _ _ d p := match d with
    | .remark r => p.remark r
    | _ => p

/-- How deep callbacks may go; the recorder and the transcript do not call back. -/
def depth : Nat := 2

/-- What is logged when a capture has been read. -/
def loaded (path : String) (c : Capture) : Remark :=
  .info "Loaded datafeed capture" [("path", .text path), ("events", .number c.size)]

/-- **The end of a playback**: how starting and stopping went, how many remarks had been made when
stopping began, and all that there is then. -/
structure Ending where
  started : Option PollError
  stopped : Option PollError
  remarks : Nat
  desk : Desk
  world : World

/-- **Play until the capture is drained or polling has failed**, then stop. -/
def play (k : Company) (config : PollConfig) (cursor : Option Cursor) (p : Playback) : Ending :=
  let o := outside k config
  let t : Timeline Playback := { poller := { desk := { cursor := cursor } }, outside := p }
  let (started, t) := t.start
  let done (t : Timeline Playback) : Bool :=
    t.outside.drained || match t.poller.desk.state with
      | .failed _ => true
      | _ => false
  let t := Timeline.passUntil o done none Timeline.budget t
  let remarks := t.outside.world.journal.length
  let (stopped, t) := t.stop o
  ⟨started, stopped, remarks, t.poller.desk, t.outside.world⟩

end Playback

end ChatFeed
