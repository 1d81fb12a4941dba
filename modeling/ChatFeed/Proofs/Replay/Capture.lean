import ChatFeed.Proofs.Feed.Writing
import ChatFeed.Proofs.Text.Lines
import ChatFeed.Replay.Capture
import Mathlib.Data.List.Forall2

/-!
# Proofs/Replay/Capture — which texts are captures, and of which events

A line counts for what trimming leaves of it: it is passed over, it tells an event, or it fails
(`line_cases`).  The loop over the lines stops at the first one that fails
(`readLines_eq_error_iff`), and otherwise yields what the others tell (`readLines_eq_ok_iff`).

A written event has no control character in it and begins and ends with a brace.  So on a line of
its own it stays whole and trimming leaves it as it is: **whatever is written is read back**, with
either line ending and with blank lines anywhere (`Written.readLines_eq`).
-/

namespace ChatFeed.Capture

open Json

variable {n : Nat} {cs line : List Char} {ls before : List (List Char)} {e : Event}
  {es : List Event} {fault : LineFault} {cause : Json.Failure}

/-! ## Single lines -/

/-- **A line tells an event**: what trimming leaves of it is read as the event. -/
def Tells (line : List Char) (e : Event) : Prop :=
  readAs Event.typed (String.ofList (Text.trim line)) = .ok e

/-- **A line fails**: trimming leaves something that is read as no event. -/
def Fails (line : List Char) (cause : Json.Failure) : Prop :=
  Text.trim line ≠ [] ∧ readAs Event.typed (String.ofList (Text.trim line)) = .error cause

/-- **A line passes**: nothing is left of it, or an event. -/
def Passes (line : List Char) : Prop := Text.trim line = [] ∨ ∃ e, Tells line e

theorem line_cases (line : List Char) :
    Text.trim line = [] ∨ (∃ e, Tells line e) ∨ ∃ cause, Fails line cause := by
  by_cases hblank : Text.trim line = []
  · exact .inl hblank
  · cases hread : readAs Event.typed (String.ofList (Text.trim line)) with
    | ok e => exact .inr (.inl ⟨e, hread⟩)
    | error cause => exact .inr (.inr ⟨cause, hblank, hread⟩)

/-- The empty text is no event. -/
theorem Tells.trim_ne_nil (h : Tells line e) : Text.trim line ≠ [] := by
  intro hblank
  rw [Tells, hblank] at h
  cases h

theorem Fails.not_tells (h : Fails line cause) : ¬ Tells line e := by
  intro htells
  cases h.2.symm.trans htells

/-! ## The loop over the lines -/

theorem readLines_blank (h : Text.trim line = []) (n : Nat) (ls : List (List Char)) :
    readLines n (line :: ls) = readLines (n + 1) ls := by
  rw [readLines, h]
  rfl

theorem readLines_event (h : Tells line e) (n : Nat) (ls : List (List Char)) :
    readLines n (line :: ls) = (e :: ·) <$> readLines (n + 1) ls := by
  have hread : readLine (Text.trim line) = .ok e := by
    rw [← h, readAs, String.toList_ofList, readLine]
  simp only [readLines, List.isEmpty_iff, h.trim_ne_nil, if_false, hread]
  cases readLines (n + 1) ls <;> rfl

theorem readLines_fails (h : Fails line cause) (n : Nat) (ls : List (List Char)) :
    readLines n (line :: ls) = .error ⟨n, cause⟩ := by
  have hread : readLine (Text.trim line) = .error cause := by
    rw [← h.2, readAs, String.toList_ofList, readLine]
  simp only [readLines, List.isEmpty_iff, h.1, if_false, hread]

/-- **Lines are read when all that count tell an event**, and as these events in order. -/
theorem readLines_eq_ok_iff :
    readLines n ls = .ok es ↔ List.Forall₂ Tells (ls.filter (Text.trim · ≠ [])) es := by
  induction ls generalizing n es with
  | nil => rw [readLines, List.filter_nil, List.forall₂_nil_left_iff, Except.ok.injEq, eq_comm]
  | cons line ls ih =>
    obtain hblank | ⟨e, he⟩ | ⟨cause, hfails⟩ := line_cases line
    · rw [readLines_blank hblank, List.filter_cons_of_neg (by simpa using hblank), ih]
    · rw [readLines_event he, List.filter_cons_of_pos (by simpa using he.trim_ne_nil),
        List.forall₂_cons_left_iff]
      constructor
      · intro h
        cases hrest : readLines (n + 1) ls with
        | error fault =>
          rw [hrest] at h
          cases h
        | ok rest =>
          rw [hrest] at h
          exact ⟨e, rest, he, ih.mp hrest, (Except.ok.inj h).symm⟩
      · rintro ⟨e', rest, he', hrest, rfl⟩
        obtain rfl : e = e' := Except.ok.inj (he.symm.trans he')
        rw [ih.mpr hrest]
        rfl
    · rw [readLines_fails hfails, List.filter_cons_of_pos (by simpa using hfails.1),
        List.forall₂_cons_left_iff]
      refine iff_of_false (by simp) ?_
      rintro ⟨e, -, he, -⟩
      exact hfails.not_tells he

/-- Lines that pass only add their events to what comes behind them. -/
theorem readLines_append (h : ∀ l ∈ before, Passes l) : ∃ es : List Event, ∀ n ls,
    readLines n (before ++ ls) = (es ++ ·) <$> readLines (n + before.length) ls := by
  induction before with
  | nil => exact ⟨[], fun n ls => (id_map _).symm⟩
  | cons line before ih =>
    obtain ⟨es, hes⟩ := ih fun l hl => h l (List.mem_cons_of_mem _ hl)
    have hlength : ∀ n, n + 1 + before.length = n + (line :: before).length := fun n => by
      rw [List.length_cons]
      omega
    obtain hblank | ⟨e, he⟩ := h line List.mem_cons_self
    · refine ⟨es, fun n ls => ?_⟩
      rw [List.cons_append, readLines_blank hblank, hes, hlength]
    · refine ⟨e :: es, fun n ls => ?_⟩
      rw [List.cons_append, readLines_event he, hes, hlength, Functor.map_map]
      rfl

/-- **Lines stop with a fault**: that of the first one that fails, which has its number among all of
them, when the first has number `n`. -/
def StopWith (n : Nat) (ls : List (List Char)) (fault : LineFault) : Prop :=
  ∃ before line after, ls = before ++ line :: after ∧ (∀ l ∈ before, Passes l)
    ∧ Fails line fault.cause ∧ fault.line = n + before.length

theorem StopWith.cons (h : StopWith (n + 1) ls fault) (hpasses : Passes line) :
    StopWith n (line :: ls) fault := by
  obtain ⟨before, l, after, rfl, hbefore, hfails, hline⟩ := h
  refine ⟨line :: before, l, after, rfl, List.forall_mem_cons.mpr ⟨hpasses, hbefore⟩, hfails, ?_⟩
  rw [hline, List.length_cons]
  omega

/-- **Lines are refused at the first one that fails.** -/
theorem readLines_eq_error_iff : readLines n ls = .error fault ↔ StopWith n ls fault := by
  constructor
  · intro h
    induction ls generalizing n with
    | nil => cases h
    | cons line ls ih =>
      obtain hblank | ⟨e, he⟩ | ⟨cause, hfails⟩ := line_cases line
      · rw [readLines_blank hblank] at h
        exact (ih h).cons (.inl hblank)
      · rw [readLines_event he] at h
        cases hrest : readLines (n + 1) ls with
        | ok rest =>
          rw [hrest] at h
          cases h
        | error fault' =>
          rw [hrest] at h
          cases h
          exact (ih hrest).cons (.inr ⟨e, he⟩)
      · rw [readLines_fails hfails] at h
        cases h
        exact ⟨[], line, ls, rfl, List.forall_mem_nil _, hfails, rfl⟩
  · rintro ⟨before, line, after, rfl, hbefore, hfails, hline⟩
    obtain ⟨es, hes⟩ := readLines_append hbefore
    rw [hes, readLines_fails hfails, ← hline]
    rfl

/-! ## What is written -/

/-- **The two endings of a line.** -/
inductive Ending
  | feed
  | returnFeed

/-- The characters of an ending. -/
def Ending.text : Ending → List Char
  | .feed => ['\n']
  | .returnFeed => ['\r', '\n']

/-- **A text has some events written in it**, each on a line of its own, with blank lines anywhere;
the last line needs no ending. -/
inductive Written : List Char → List Event → Prop
  | blanks {spaces : List Char} (blank : ∀ c ∈ spaces, Text.isBlank c = true)
      (whole : '\n' ∉ spaces) : Written spaces []
  | last (e : Event) : Written e.print [e]
  | blankLine {spaces cs : List Char} {es : List Event}
      (blank : ∀ c ∈ spaces, Text.isBlank c = true) (whole : '\n' ∉ spaces) (ending : Ending)
      (rest : Written cs es) : Written (spaces ++ (ending.text ++ cs)) es
  | event {cs : List Char} {es : List Event} (e : Event) (ending : Ending)
      (rest : Written cs es) : Written (e.print ++ (ending.text ++ cs)) (e :: es)

/-- Either ending cuts a line off, of which trimming leaves the same. -/
theorem exists_lines_ending (whole : '\n' ∉ line) (ending : Ending) (cs : List Char) :
    ∃ l, Text.lines (line ++ (ending.text ++ cs)) = l :: Text.lines cs
      ∧ Text.trim l = Text.trim line := by
  cases ending with
  | feed => exact ⟨_, Text.lines_append whole cs, Text.trim_chopReturn line⟩
  | returnFeed =>
    have hwhole : '\n' ∉ line ++ ['\r'] := by simp [whole]
    refine ⟨_, ?_, (Text.trim_chopReturn (line ++ ['\r'])).trans (Text.trim_concat rfl line)⟩
    rw [← Text.lines_append hwhole, List.append_assoc]
    rfl

theorem not_feed_of_print (e : Event) : '\n' ∉ e.print := fun h =>
  absurd (Event.not_isControl_of_mem_print h) (by decide)

/-- **Trimming leaves a written event as it is**, since it stands between braces. -/
theorem trim_print (e : Event) : Text.trim e.print = e.print := by
  obtain ⟨members, hprint⟩ : ∃ members, e.print = printObject members := by
    cases e <;> exact ⟨_, rfl⟩
  rw [hprint]
  exact Text.trim_eq_self rfl rfl _

theorem tells_of_trim_eq (timely : e.Timely) (h : Text.trim line = Text.trim e.print) :
    Tells line e := by
  rw [Tells, h, trim_print, readAs, String.toList_ofList]
  exact (Event.takes timely).readWhole

/-- **What is written is read back.** -/
theorem Written.readLines_eq (h : Written cs es) (timely : ∀ e ∈ es, e.Timely) (n : Nat) :
    readLines n (Text.lines cs) = .ok es := by
  induction h generalizing n with
  | @blanks spaces blank whole =>
    rw [Text.lines_of_whole whole]
    split_ifs
    · rfl
    · exact readLines_blank (Text.trim_eq_nil_iff.mpr blank) n []
  | last e =>
    have hne : e.print ≠ [] := by cases e <;> exact List.cons_ne_nil _ _
    have htells : Tells e.print e := tells_of_trim_eq (timely e List.mem_cons_self) rfl
    rw [Text.lines_of_whole (not_feed_of_print e), if_neg hne, readLines_event htells]
    rfl
  | @blankLine spaces cs es blank whole ending _ ih =>
    obtain ⟨l, hlines, htrim⟩ := exists_lines_ending whole ending cs
    have hblank : Text.trim l = [] := htrim.trans (Text.trim_eq_nil_iff.mpr blank)
    rw [hlines, readLines_blank hblank, ih timely]
  | @event cs es e ending _ ih =>
    obtain ⟨l, hlines, htrim⟩ := exists_lines_ending (not_feed_of_print e) ending cs
    have htells : Tells l e := tells_of_trim_eq (timely e List.mem_cons_self) htrim
    rw [hlines, readLines_event htells, ih fun x hx => timely x (List.mem_cons_of_mem _ hx)]
    rfl

/-! ## Captures -/

theorem parse_eq_ok_iff {c : Capture} :
    parse cs = .ok c ↔ readLines 1 (Text.lines cs) = .ok c.events := by
  rw [parse]
  cases readLines 1 (Text.lines cs) with
  | error fault => simp [bind, Except.bind]
  | ok es =>
    obtain ⟨es'⟩ := c
    simp [bind, Except.bind]

theorem parse_eq_error_iff :
    parse cs = .error fault ↔ readLines 1 (Text.lines cs) = .error fault := by
  rw [parse]
  cases readLines 1 (Text.lines cs) <;> simp [bind, Except.bind]

/-- **A text is a capture line by line.**

* It is the capture of some events exactly if the lines it is cut into, those aside of which
  trimming leaves nothing, tell these events in order.
* It is none exactly if a line fails.  The fault is that of the first such line, and has its number
  among all lines, counted from one.
* Events that are written on lines of their own, with either ending and blank lines anywhere, are
  the events that are read. -/
theorem parse_line_by_line :
    (∀ cs c, parse cs = .ok c
      ↔ ∃ ls, Text.Cut cs ls ∧ List.Forall₂ Tells (ls.filter (Text.trim · ≠ [])) c.events)
    ∧ (∀ cs fault, parse cs = .error fault ↔ ∃ ls, Text.Cut cs ls ∧ StopWith 1 ls fault)
    ∧ ∀ cs es, Written cs es → (∀ e ∈ es, e.Timely) → parse cs = .ok ⟨es⟩ := by
  simp only [Text.cut_iff, exists_eq_left', parse_eq_ok_iff, parse_eq_error_iff]
  exact ⟨fun _ _ => readLines_eq_ok_iff, fun _ _ => readLines_eq_error_iff,
    fun _ _ hwritten htimely => hwritten.readLines_eq htimely 1⟩

/-- An empty line, an event with line ends and other blanks in its text, a line of one wide blank,
and an event on a last line without an ending. -/
theorem parse_line_by_line_of_mixed_endings :
    let note : Event := .other "a\r\nb\u2028\n"
    let leave : Event := .left "\\n" (.bare "\"\t")
    let text := "\r\n\x7b\"type\":\"other\",\"kind\":\"a\\r\\nb\u2028\\n\"\x7d\r\n\u3000\n"
      ++ "\x7b\"type\":\"user_left_room\",\"stream_id\":\"\\\\n\","
      ++ "\"user\":\x7b\"id\":\"\\\"\\t\"\x7d\x7d"
    Written text.toList [note, leave] ∧ (∀ e ∈ [note, leave], e.Timely)
      ∧ parse text.toList = .ok ⟨[note, leave]⟩ := by
  intro note leave text
  have hwritten : Written text.toList [note, leave] := by
    have htext : text.toList = [] ++ (Ending.returnFeed.text ++ (note.print
        ++ (Ending.returnFeed.text ++ (['\u3000'] ++ (Ending.feed.text ++ leave.print))))) := by
      decide +kernel
    rw [htext]
    exact .blankLine (List.forall_mem_nil _) List.not_mem_nil _ <| .event note _ <|
      .blankLine (List.forall_mem_singleton.mpr rfl) (by decide) _ (.last leave)
  have htimely : ∀ e ∈ [note, leave], e.Timely := by
    simp [Event.Timely, Event.message?, note, leave]
  exact ⟨hwritten, htimely, parse_line_by_line.2.2 _ _ hwritten htimely⟩

end ChatFeed.Capture
