import ChatFeed.Poll.Loop

/-!
# Proofs/Poll/Reaction — the ways in which a loop answers a signal

`PollLoop.react` decides by phase and signal.  `PollLoop.Reaction` lists what it can do, one case
for each branch that does something, with what is known of the loop there; `react_iff` says that the
list is exact.  Whatever is kept by every reaction is kept along a whole course.
-/

namespace ChatFeed

/-- Whether a signal finds a loop where it looks for a stop request: before a read, during one, and
while it rests. -/
def Phase.heeds : Phase → Signal → Bool
  | .checking, .turn => true
  | .reading, .turn => true
  | .reading, .answer _ => true
  | .resting _, .turn => true
  | .resting _, .rested => true
  | _, _ => false

namespace PollLoop

/-- **What a loop does with a signal.**  A loop that was asked to stop ends wherever it heeds the
request; nothing of it reaches into a batch. -/
inductive Reaction (source : String) (c : PollConfig) (d : Desk) (l : PollLoop) :
    Signal → LoopStep → Prop
  | halt : Reaction source c d l .halt ⟨d, { l with stopping := true }, []⟩
  | begin (phase : l.phase = .starting) : Reaction source c d l .turn (begin source c d l)
  | read (phase : l.phase = .checking) (going : l.stopping = false) :
      Reaction source c d l .turn (read d l)
  | heed {s : Signal} (heeds : l.phase.heeds s = true) (stopping : l.stopping = true) :
      Reaction source c d l s (finish d l none)
  | answer {result : Except ReadError Batch} (phase : l.phase = .reading)
      (going : l.stopping = false) :
      Reaction source c d l (.answer result) (onAnswer c d l result)
  | handled {e : Event} {rest : List Event} {next : Option Cursor}
      (phase : l.phase = .handing e rest next) :
      Reaction source c d l .handled (handNext d l rest next)
  | panic {e : Event} {rest : List Event} {next : Option Cursor} {words : Option String}
      (phase : l.phase = .handing e rest next) :
      Reaction source c d l (.panic words) (goTo d l (.crashed words))
  | rested {delay : Span} (phase : l.phase = .resting delay) (going : l.stopping = false) :
      Reaction source c d l .rested
        ⟨{ d with state := .running }, { l with phase := .checking }, [.publish .running]⟩

variable {source : String} {c : PollConfig} {d : Desk} {l : PollLoop} {s : Signal} {r : LoopStep}

/-- Every answer of a loop is one of the listed reactions. -/
theorem reaction_of_react (h : l.react source c d s = some r) : Reaction source c d l s r := by
  obtain ⟨phase, streak, stopping⟩ := l
  cases s with
  | halt =>
    obtain rfl := Option.some.inj h
    exact .halt
  | turn =>
    cases phase <;> cases stopping <;> simp [react] at h <;> subst h
    · exact .begin rfl
    · exact .begin rfl
    · exact .read rfl rfl
    · exact .heed rfl rfl
    · exact .heed rfl rfl
    · exact .heed rfl rfl
  | answer result =>
    cases phase <;> cases stopping <;> simp [react] at h <;> subst h
    · exact .answer rfl rfl
    · exact .heed rfl rfl
  | handled =>
    cases phase <;> simp [react] at h
    subst h
    exact .handled rfl
  | panic words =>
    cases phase <;> simp [react] at h
    subst h
    exact .panic rfl
  | rested =>
    cases phase <;> cases stopping <;> simp [react] at h <;> subst h
    · exact .rested rfl rfl
    · exact .heed rfl rfl

/-- Every listed reaction is what the loop answers. -/
theorem Reaction.react_eq (h : Reaction source c d l s r) : l.react source c d s = some r := by
  cases h with
  | halt => rfl
  | begin phase => simp [react, phase]
  | read phase going => simp [react, phase, going]
  | heed heeds stopping =>
    obtain ⟨phase, streak, stop⟩ := l
    cases phase <;> cases s <;> simp [Phase.heeds] at heeds <;> simp_all [react]
  | answer phase going => simp [react, phase, going]
  | handled phase => simp [react, phase]
  | panic phase => simp [react, phase]
  | rested phase going => simp [react, phase, going]

/-- **The reactions are exactly what a loop answers.** -/
theorem react_iff : l.react source c d s = some r ↔ Reaction source c d l s r :=
  ⟨reaction_of_react, Reaction.react_eq⟩

end PollLoop

end ChatFeed
