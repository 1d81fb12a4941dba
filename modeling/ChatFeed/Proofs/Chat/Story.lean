import ChatFeed.Chat.Traffic

/-!
# Proofs/Chat/Story — what happened at a chat, call within call

Callbacks may call the chat that is just calling them, so what happens there is a tree: a `Story`
tells the incidents at a chat in order, and each with the story of what happened **within** it.

* `Story.Plays` — the stories that can happen: a delivery calls whoever is there when it starts, a
  registration calls the newcomer, and what any of them does is a story again.
* `Story.Plays.serves` — in such a story every delivery, however deep, calls each of those who were
  there once, in order, and reports how they ended.
-/

namespace ChatFeed

/-- **What can happen at a chat**: a message is delivered to those who are there, which ends with a
report; a listener is registered or removed, which it may have been before; or it is called. -/
inductive Incident
  | delivery (message : Message) (there : List String) (report : Report)
  | registration (listener : String) (known : Bool)
  | removal (listener : String) (known : Bool)
  | call (listener : String) (message : Message) (ending : Ending)
  deriving DecidableEq, Repr

namespace Incident

/-- Who is handed which message. -/
def hand? : Incident → Option (String × Message)
  | .call l m _ => some (l, m)
  | _ => none

/-- Whether it is a call that fails. -/
def fails : Incident → Bool
  | .call _ _ ending => ending.error?.isSome
  | _ => false

/-- **How it ended left out.** -/
def bare : Incident → Incident
  | .delivery m there _ => .delivery m there {}
  | .call l m _ => .call l m .done
  | what => what

end Incident

/-- **What happened at a chat**, one incident after the other, each with what happened within it. -/
inductive Story
  | quiet
  | told (what : Incident) (within after : Story)
  deriving DecidableEq, Repr

namespace Story

/-- One story, and then another. -/
def append : Story → Story → Story
  | .quiet, t => t
  | .told what within after, t => .told what within (append after t)

instance : EmptyCollection Story := ⟨.quiet⟩

instance : Append Story := ⟨append⟩

@[simp] theorem quiet_append (t : Story) : quiet ++ t = t := rfl

@[simp] theorem told_append (what : Incident) (within after t : Story) :
    told what within after ++ t = told what within (after ++ t) := rfl

@[simp] theorem append_quiet (s : Story) : s ++ quiet = s := by
  induction s with
  | quiet => rfl
  | told what within after _ ih => rw [told_append, ih]

/-- All incidents, those within one right behind it. -/
def incidents : Story → List Incident
  | .quiet => []
  | .told what within after => what :: (within.incidents ++ after.incidents)

/-- All incidents, each with its own story. -/
def parts : Story → List (Incident × Story)
  | .quiet => []
  | .told what within after => (what, within) :: (within.parts ++ after.parts)

/-- The incidents that are within no other. -/
def tops : Story → List Incident
  | .quiet => []
  | .told what _ after => what :: after.tops

/-- **Who was handed which message**, in order. -/
def hands (t : Story) : List (String × Message) := t.incidents.filterMap Incident.hand?

/-- **How many calls failed**, at any depth. -/
def failures (t : Story) : Nat := t.incidents.countP Incident.fails

/-- The report on the calls that are within no other. -/
def report : Story → Report
  | .quiet => {}
  | .told what _ after => after.report.withOne (!what.fails)

/-- **A story without its endings**: who was called, and what they did. -/
def bare : Story → Story
  | .quiet => .quiet
  | .told what within after => .told what.bare within.bare after.bare

variable {t within after : Story} {what : Incident}

theorem incidents_append (s t : Story) : (s ++ t).incidents = s.incidents ++ t.incidents := by
  induction s with
  | quiet => rfl
  | told what within after _ ih => simp [incidents, ih]

theorem mem_parts_told {part : Incident × Story} : part ∈ (told what within after).parts
    ↔ part = (what, within) ∨ part ∈ within.parts ∨ part ∈ after.parts := by
  rw [parts, List.mem_cons, List.mem_append]

/-- Every incident has its story. -/
theorem exists_part (h : what ∈ t.incidents) : ∃ within, (what, within) ∈ t.parts := by
  induction t with
  | quiet => cases h
  | told _ within after hwithin hafter =>
    rcases List.mem_cons.mp h with rfl | h
    · exact ⟨within, mem_parts_told.mpr (.inl rfl)⟩
    · rcases List.mem_append.mp h with h | h
      · exact (hwithin h).imp fun part hpart => mem_parts_told.mpr (.inr (.inl hpart))
      · exact (hafter h).imp fun part hpart => mem_parts_told.mpr (.inr (.inr hpart))

theorem hands_append (s t : Story) : (s ++ t).hands = s.hands ++ t.hands := by
  simp [hands, incidents_append]

theorem hands_told (what : Incident) (within after : Story) :
    (told what within after).hands = what.hand?.toList ++ (within.hands ++ after.hands) := by
  cases h : what.hand? <;> simp [hands, incidents, h]

theorem failures_append (s t : Story) : (s ++ t).failures = s.failures + t.failures := by
  simp [failures, incidents_append]

theorem failures_told (what : Incident) (within after : Story) :
    (told what within after).failures
      = (if what.fails then 1 else 0) + (within.failures + after.failures) := by
  simp only [failures, incidents, List.countP_cons, List.countP_append]
  omega

theorem bare_append (s t : Story) : (s ++ t).bare = s.bare ++ t.bare := by
  induction s with
  | quiet => rfl
  | told what within after _ ih => simp [bare, ih]

/-- A report counts every call once. -/
theorem report_total (t : Story) : t.report.delivered + t.report.failed = t.tops.length := by
  induction t with
  | quiet => rfl
  | told what within after _ ih =>
    cases h : what.fails <;> simp [report, tops, Report.withOne, h] <;> omega

/-- A report counts the calls that failed. -/
theorem report_failed (t : Story) : t.report.failed = t.tops.countP Incident.fails := by
  induction t with
  | quiet => rfl
  | told what within after _ ih =>
    cases h : what.fails <;> simp [report, tops, Report.withOne, h, ih]

end Story

/-- **What a chat has to do with its calls**: who listens, and the last message. -/
structure Stand where
  listeners : Roster String
  last : Option Message

/-- **What a story is of**: the steps of a callback, or the calls that are due. -/
inductive Agenda
  | steps
  | calls (due : List (String × Message))

namespace Agenda

/-- The calls that are due. -/
def due : Agenda → List (String × Message)
  | .steps => []
  | .calls due => due

/-- Some listeners are called with a message, one after the other. -/
def round (m : Message) (ls : List String) : Agenda := .calls (ls.map fun l => (l, m))

/-- A newcomer is called with the last message, if there is one. -/
def replay (l : String) (last : Option Message) : Agenda := .calls (last.toList.map fun m => (l, m))

end Agenda

/-- **The stories that can happen** between two stands of a chat. -/
inductive Story.Plays : Agenda → Stand → Story → Stand → Prop
  | quiet {s : Stand} : Plays .steps s .quiet s
  | ended {s : Stand} : Plays (.calls []) s .quiet s
  | call {s v t : Stand} {l : String} {m : Message} {ending : Ending}
      {due : List (String × Message)} {within after : Story} (inner : Plays .steps s within v)
      (rest : Plays (.calls due) v after t) :
      Plays (.calls ((l, m) :: due)) s (.told (.call l m ending) within after) t
  | removal {s t : Stand} {l : String} {after : Story}
      (rest : Plays .steps { s with listeners := s.listeners.erase l } after t) :
      Plays .steps s (.told (.removal l (s.listeners.contains l)) .quiet after) t
  | known {s t : Stand} {l : String} {after : Story} (old : s.listeners.contains l = true)
      (rest : Plays .steps s after t) :
      Plays .steps s (.told (.registration l true) .quiet after) t
  | registration {s v t : Stand} {l : String} {within after : Story}
      (new : s.listeners.contains l = false) (inner : Plays (.replay l s.last) s within v)
      (rest : Plays .steps { v with listeners := v.listeners.insert l } after t) :
      Plays .steps s (.told (.registration l false) within after) t
  | delivery {s v t : Stand} {m : Message} {within after : Story}
      (inner : Plays (.round m s.listeners.members) { s with last := some m } within v)
      (rest : Plays .steps v after t) :
      Plays .steps s (.told (.delivery m s.listeners.members within.report) within after) t

/-- **A delivery serves all who are there**: it calls each of them with its message, in order, and
its report says how many of them failed. -/
structure Story.Serves (within : Story) (m : Message) (there : List String) (report : Report) :
    Prop where
  once : there.Nodup
  each : within.tops.map Incident.hand? = there.map fun l => some (l, m)
  total : report.delivered + report.failed = there.length
  failed : report.failed = within.tops.countP Incident.fails

namespace Story.Plays

variable {agenda : Agenda} {s v t : Stand} {a b : Story}

/-- The steps of one callback, and then others. -/
theorem append (first : Plays .steps s a v) (second : Plays .steps v b t) :
    Plays .steps s (a ++ b) t := by
  generalize hagenda : Agenda.steps = agenda at first
  induction first with
  | quiet => exact second
  | ended => cases hagenda
  | call => cases hagenda
  | removal _ ih => exact .removal (ih second hagenda)
  | known old _ ih => exact .known old (ih second hagenda)
  | registration new inner _ _ ih => exact .registration new inner (ih second hagenda)
  | delivery inner _ _ ih => exact .delivery inner (ih second hagenda)

/-- The calls that are due, and then others. -/
theorem append_calls {due more : List (String × Message)} (first : Plays (.calls due) s a v)
    (second : Plays (.calls more) v b t) : Plays (.calls (due ++ more)) s (a ++ b) t := by
  generalize hagenda : Agenda.calls due = agenda at first
  induction first generalizing due with
  | ended =>
    obtain rfl := Agenda.calls.inj hagenda
    exact second
  | call inner _ _ ih =>
    obtain rfl := Agenda.calls.inj hagenda
    exact .call inner (ih second rfl)
  | _ => cases hagenda

/-- **The calls that are due are made**, each once and in order, and no others beside them. -/
theorem tops_calls {due : List (String × Message)} (h : Plays (.calls due) s a t) :
    a.tops.map Incident.hand? = due.map some := by
  generalize hagenda : Agenda.calls due = agenda at h
  induction h generalizing due with
  | ended =>
    obtain rfl := Agenda.calls.inj hagenda
    rfl
  | call _ _ _ ih =>
    obtain rfl := Agenda.calls.inj hagenda
    simp [tops, Incident.hand?, ih rfl]
  | _ => cases hagenda

/-- A delivery that calls all who are there serves them. -/
theorem serves_of_round {m : Message} (h : Plays (.round m s.listeners.members) v a t) :
    a.Serves m s.listeners.members a.report where
  once := s.listeners.distinct
  each := by rw [h.tops_calls, List.map_map]; rfl
  total := by
    have hlength := congrArg List.length h.tops_calls
    rw [List.length_map, List.length_map, List.length_map] at hlength
    rw [report_total, hlength]
  failed := a.report_failed

/-- **Every delivery serves all who were there when it started**, at every depth. -/
theorem serves (h : Plays agenda s a t) {m : Message} {there : List String} {report : Report}
    {within : Story} (hpart : (.delivery m there report, within) ∈ a.parts) :
    within.Serves m there report := by
  induction h with
  | quiet => cases hpart
  | ended => cases hpart
  | delivery inner _ hinner hrest =>
    rcases mem_parts_told.mp hpart with heq | hpart | hpart
    · obtain ⟨hwhat, rfl⟩ := Prod.mk.inj heq
      obtain ⟨rfl, rfl, rfl⟩ := Incident.delivery.inj hwhat
      exact serves_of_round inner
    · exact hinner hpart
    · exact hrest hpart
  | call _ _ hinner hrest =>
    exact ((mem_parts_told.mp hpart).resolve_left (by simp)).elim hinner hrest
  | registration _ _ _ hinner hrest =>
    exact ((mem_parts_told.mp hpart).resolve_left (by simp)).elim hinner hrest
  | removal _ hrest =>
    exact ((mem_parts_told.mp hpart).resolve_left (by simp)).elim nofun hrest
  | known _ _ hrest =>
    exact ((mem_parts_told.mp hpart).resolve_left (by simp)).elim nofun hrest

end Story.Plays

end ChatFeed
