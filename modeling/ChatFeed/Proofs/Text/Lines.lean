import ChatFeed.Text.Blank
import ChatFeed.Text.Lines
import Mathlib.Data.List.DropRight
import Mathlib.Data.List.TakeWhile

/-!
# Proofs/Text/Lines — how a text is cut, and what trimming a line leaves

`Text.Cut` says which lines a text has without going through it character by character: a line feed
ends a line, one carriage return right before it is part of the ending, and what stands behind the
last line feed is a line if it is anything at all.  The loop finds just these lines (`cut_iff`).

A carriage return is blank, so once lines are trimmed the two endings cannot be told apart
(`trim_chopReturn`).
-/

namespace ChatFeed.Text

variable {cs line : List Char} {ls : List (List Char)}

/-! ## Lines -/

/-- **A text is cut into lines.** -/
inductive Cut : List Char → List (List Char) → Prop
  | nil : Cut [] []
  | last {line : List Char} (nonempty : line ≠ []) (whole : '\n' ∉ line) : Cut line [line]
  | feed {line cs : List Char} {ls : List (List Char)} (whole : '\n' ∉ line)
      (bare : line.getLast? ≠ some '\r') (rest : Cut cs ls) :
      Cut (line ++ '\n' :: cs) (line :: ls)
  | returnFeed {line cs : List Char} {ls : List (List Char)} (whole : '\n' ∉ line)
      (rest : Cut cs ls) : Cut (line ++ '\r' :: '\n' :: cs) (line :: ls)

theorem chopReturn_concat (cs : List Char) : chopReturn (cs ++ ['\r']) = cs := by
  simp [chopReturn]

theorem chopReturn_of_bare (h : cs.getLast? ≠ some '\r') : chopReturn cs = cs := by
  unfold chopReturn
  split
  · rename_i rest hrest
    exact absurd (by rw [← List.head?_reverse, hrest]; rfl) h
  · rfl

theorem chopReturn_eq_self (h : '\r' ∉ cs) : chopReturn cs = cs :=
  chopReturn_of_bare fun hlast => h (List.mem_of_getLast? hlast)

theorem linesFrom_append (h : '\n' ∉ cs) (acc rest : List Char) :
    linesFrom acc (cs ++ '\n' :: rest)
      = chopReturn (acc.reverse ++ cs) :: linesFrom [] rest := by
  induction cs generalizing acc with
  | nil => simp [linesFrom]
  | cons c cs ih =>
    have hc : c ≠ '\n' := fun hc => h (by simp [hc])
    have hcs : '\n' ∉ cs := fun hcs => h (List.mem_cons_of_mem _ hcs)
    simp [linesFrom, hc, ih hcs]

/-- **The first line of a text** ends at the first line feed. -/
theorem lines_append (h : '\n' ∉ line) (rest : List Char) :
    lines (line ++ '\n' :: rest) = chopReturn line :: lines rest :=
  linesFrom_append h [] rest

theorem linesFrom_of_whole (h : '\n' ∉ cs) (acc : List Char) :
    linesFrom acc cs = if acc.reverse ++ cs = [] then [] else [acc.reverse ++ cs] := by
  induction cs generalizing acc with
  | nil => cases acc <;> simp [linesFrom]
  | cons c cs ih =>
    have hc : c ≠ '\n' := fun hc => h (by simp [hc])
    have hcs : '\n' ∉ cs := fun hcs => h (List.mem_cons_of_mem _ hcs)
    simp [linesFrom, hc, ih hcs]

/-- Without a line feed, all of a text is one line, unless it is empty. -/
theorem lines_of_whole (h : '\n' ∉ line) : lines line = if line = [] then [] else [line] :=
  linesFrom_of_whole h []

/-- **Every text is cut** into the lines that the loop finds. -/
theorem cut_lines (cs : List Char) : Cut cs (lines cs) := by
  -- the induction is on the length, for what is left behind the first line feed
  induction hlen : cs.length using Nat.strongRecOn generalizing cs with
  | ind n ih =>
    by_cases hfeed : '\n' ∈ cs
    · obtain ⟨line, rest, rfl, whole⟩ := List.eq_append_cons_of_mem hfeed
      have hrest : Cut rest (lines rest) := ih rest.length (by simp at hlen; omega) rest rfl
      rw [lines_append whole]
      by_cases hreturn : line.getLast? = some '\r'
      · obtain ⟨front, rfl⟩ := List.getLast?_eq_some_iff.mp hreturn
        have hfront : '\n' ∉ front := fun h => whole (List.mem_append_left _ h)
        rw [chopReturn_concat, List.append_assoc]
        exact .returnFeed hfront hrest
      · rw [chopReturn_of_bare hreturn]
        exact .feed whole hreturn hrest
    · rw [lines_of_whole hfeed]
      split_ifs with hnil
      · subst hnil
        exact .nil
      · exact .last hnil hfeed

/-- **A text is cut in one way only**, which is the one that the loop finds. -/
theorem cut_iff : Cut cs ls ↔ lines cs = ls := by
  refine ⟨fun h => ?_, fun h => h ▸ cut_lines cs⟩
  induction h with
  | nil => rfl
  | last nonempty whole => rw [lines_of_whole whole, if_neg nonempty]
  | feed whole bare _ ih => rw [lines_append whole, chopReturn_of_bare bare, ih]
  | @returnFeed line cs ls whole _ ih =>
    have hwhole : '\n' ∉ line ++ ['\r'] := by simp [whole]
    have hsplit : line ++ '\r' :: '\n' :: cs = (line ++ ['\r']) ++ '\n' :: cs := by simp
    rw [hsplit, lines_append hwhole, chopReturn_concat, ih]

/-! ## Trimming -/

/-- Nothing is left of blanks, and of nothing else. -/
theorem trim_eq_nil_iff : trim cs = [] ↔ ∀ c ∈ cs, isBlank c = true := by
  change (cs.dropWhile isBlank).rdropWhile isBlank = [] ↔ _
  rw [List.rdropWhile_eq_nil_iff]
  refine ⟨fun h => ?_, fun h c hc => h c ((List.dropWhile_suffix _).mem hc)⟩
  refine List.dropWhile_eq_nil_iff.mp (Classical.byContradiction fun hne => ?_)
  have hhead := List.head_dropWhile_not isBlank hne
  rw [h _ (List.head_mem hne)] at hhead
  cases hhead

/-- **A text between two characters that are not blank is left as it is.** -/
theorem trim_eq_self {a z : Char} (ha : isBlank a = false) (hz : isBlank z = false)
    (cs : List Char) : trim (a :: cs ++ [z]) = a :: cs ++ [z] := by
  change ((a :: cs ++ [z]).dropWhile isBlank).rdropWhile isBlank = _
  rw [List.cons_append, List.dropWhile_cons_of_neg (by simp [ha]), ← List.cons_append,
    List.rdropWhile_concat_neg _ _ _ (by simp [hz])]

/-- A blank at the end makes no difference. -/
theorem trim_concat {c : Char} (hc : isBlank c = true) (cs : List Char) :
    trim (cs ++ [c]) = trim cs := by
  change ((cs ++ [c]).dropWhile isBlank).rdropWhile isBlank
    = (cs.dropWhile isBlank).rdropWhile isBlank
  rw [List.dropWhile_append]
  split_ifs with hnil
  · rw [List.isEmpty_iff.mp hnil, List.dropWhile_cons_of_pos hc, List.dropWhile_nil]
  · exact List.rdropWhile_concat_pos _ _ _ hc

/-- **The ending of a line makes no difference** once the line is trimmed. -/
theorem trim_chopReturn (cs : List Char) : trim (chopReturn cs) = trim cs := by
  by_cases hreturn : cs.getLast? = some '\r'
  · obtain ⟨front, rfl⟩ := List.getLast?_eq_some_iff.mp hreturn
    rw [chopReturn_concat, trim_concat rfl]
  · rw [chopReturn_of_bare hreturn]

end ChatFeed.Text
