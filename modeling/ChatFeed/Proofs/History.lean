import Mathlib.Data.List.Induction

/-!
# Proofs/History — what holds along a history

A history is a list of happenings, each of which may or may not come to pass where it stands; it
comes to pass as a whole when one after the other does.  `foldlM_keeps` is the one induction over
histories: what every happening keeps, a history keeps.
-/

namespace ChatFeed

variable {α β : Type} {f : β → α → Option β} {xs ys : List α} {x : α} {b c : β}

/-- A history of two parts comes to pass when the first one does and then the second one. -/
theorem foldlM_append :
    (xs ++ ys).foldlM f b = some c ↔ ∃ a, xs.foldlM f b = some a ∧ ys.foldlM f a = some c := by
  rw [List.foldlM_append, Option.bind_eq_bind, Option.bind_eq_some_iff]

/-- The last happening of a history. -/
theorem foldlM_concat :
    (xs ++ [x]).foldlM f b = some c ↔ ∃ a, xs.foldlM f b = some a ∧ f a x = some c := by
  rw [foldlM_append]
  simp

/-- **What every happening keeps, a history keeps.** -/
theorem foldlM_keeps {P : β → Prop} (keep : ∀ x ∈ xs, ∀ a c, P a → f a x = some c → P c) (hb : P b)
    (h : xs.foldlM f b = some c) : P c := by
  induction xs generalizing b with
  | nil =>
    obtain rfl := Option.some.inj h
    exact hb
  | cons x xs ih =>
    obtain ⟨a, ha, hc⟩ := Option.bind_eq_some_iff.mp h
    have hfirst : P a := keep x List.mem_cons_self b a hb ha
    exact ih (fun y hy => keep y (List.mem_cons_of_mem x hy)) hfirst hc

end ChatFeed
