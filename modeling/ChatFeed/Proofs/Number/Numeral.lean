import ChatFeed.Number.Numeral

/-!
# Proofs/Number/Numeral — a numeral that was rendered is read back

Digits are read from the left with a bound on the value so far.  The value only grows, so what
counts is the value of all of them: `readDigits_eq`.  `read_eq_ok_iff` and `read_render` follow: a
text is read exactly if it is a numeral of a number within the bound, and the numeral that a number
is rendered as is read back.
-/

namespace ChatFeed.Numeral

variable {bound : Nat}

/-- More digits never make a value smaller. -/
theorem le_ofDigitChars (acc : Nat) (cs : List Char) : acc ≤ Nat.ofDigitChars 10 cs acc := by
  induction cs generalizing acc with
  | nil => simp
  | cons c cs ih =>
    rw [Nat.ofDigitChars_cons]
    exact Nat.le_trans (by omega) (ih _)

/-- **Digits are read as their value**, as far as that is within the bound. -/
theorem readDigits_eq {acc : Nat} {cs : List Char} (digits : ∀ c ∈ cs, c.isDigit = true)
    (hacc : acc ≤ bound) :
    readDigits bound acc cs = if Nat.ofDigitChars 10 cs acc ≤ bound
      then .ok (Nat.ofDigitChars 10 cs acc) else .error .tooLarge := by
  induction cs generalizing acc with
  | nil => simp [readDigits, hacc]
  | cons c cs ih =>
    have hc : c.isDigit = true := digits c List.mem_cons_self
    rw [readDigits, if_pos hc, Nat.ofDigitChars_cons]
    change (if 10 * acc + (c.toNat - '0'.toNat) ≤ bound then _ else _) = _
    by_cases hnext : 10 * acc + (c.toNat - '0'.toNat) ≤ bound
    · rw [if_pos hnext]
      exact ih (fun x hx => digits x (List.mem_cons_of_mem _ hx)) hnext
    · have hlarge := le_ofDigitChars (10 * acc + (c.toNat - '0'.toNat)) cs
      rw [if_neg hnext, if_neg (by omega)]

/-- Digits without a sign in front are read as they are. -/
theorem read_eq_readDigits {cs : List Char} (hne : cs ≠ []) (digits : ∀ c ∈ cs, c.isDigit = true) :
    read bound cs = readDigits bound 0 cs := by
  cases cs with
  | nil => exact absurd rfl hne
  | cons c cs =>
    have hsign : c ≠ '+' := by
      rintro rfl
      have hdigit := digits '+' List.mem_cons_self
      simp at hdigit
    unfold read
    split
    · simp_all
    · exact absurd (List.cons.inj ‹_›).1 hsign
    · rfl

/-- What digits are read as is within the bound, if what was read before is. -/
theorem le_of_readDigits {acc n : Nat} {cs : List Char} (hacc : acc ≤ bound)
    (h : readDigits bound acc cs = .ok n) : n ≤ bound := by
  induction cs generalizing acc with
  | nil =>
    cases h
    exact hacc
  | cons c cs ih =>
    unfold readDigits at h
    split at h
    · change (if 10 * acc + digitValue c ≤ bound then _ else _) = _ at h
      split at h
      · exact ih ‹_› h
      · cases h
    · cases h

/-- **What is read is within the bound.** -/
theorem le_of_read {n : Nat} {cs : List Char} (h : read bound cs = .ok n) : n ≤ bound := by
  unfold read at h
  split at h
  · cases h
  · exact le_of_readDigits (Nat.zero_le bound) h
  · exact le_of_readDigits (Nat.zero_le bound) h

/-- What is read consists of digits. -/
theorem isDigit_of_readDigits {acc n : Nat} {cs : List Char} (h : readDigits bound acc cs = .ok n) :
    ∀ c ∈ cs, c.isDigit = true := by
  induction cs generalizing acc with
  | nil => exact List.forall_mem_nil _
  | cons c cs ih =>
    unfold readDigits at h
    split at h
    · change (if 10 * acc + digitValue c ≤ bound then _ else _) = _ at h
      split at h
      · exact List.forall_mem_cons.mpr ⟨‹_›, ih h⟩
      · cases h
    · cases h

/-- **A text is a numeral of a number**: one or more digits, with at most one plus sign in front. -/
inductive IsNumeral : List Char → Nat → Prop
  | plain {ds : List Char} (nonempty : ds ≠ []) (digits : ∀ d ∈ ds, d.isDigit = true) :
      IsNumeral ds (Nat.ofDigitChars 10 ds 0)
  | signed {ds : List Char} (nonempty : ds ≠ []) (digits : ∀ d ∈ ds, d.isDigit = true) :
      IsNumeral ('+' :: ds) (Nat.ofDigitChars 10 ds 0)

/-- **What is read is a numeral of a number within the bound**, and every such numeral is read. -/
theorem read_eq_ok_iff {n : Nat} {cs : List Char} :
    read bound cs = .ok n ↔ IsNumeral cs n ∧ n ≤ bound := by
  have hdigits : ∀ {ds : List Char} {n : Nat}, readDigits bound 0 ds = .ok n →
      (∀ d ∈ ds, d.isDigit = true) ∧ n = Nat.ofDigitChars 10 ds 0 := by
    intro ds n h
    have hall := isDigit_of_readDigits h
    rw [readDigits_eq hall (Nat.zero_le bound)] at h
    split at h
    · cases h
      exact ⟨hall, rfl⟩
    · cases h
  constructor
  · intro h
    refine ⟨?_, le_of_read h⟩
    unfold read at h
    split at h
    · cases h
    · obtain ⟨hall, rfl⟩ := hdigits h
      exact .signed (List.cons_ne_nil _ _) hall
    · rename_i hne _
      obtain ⟨hall, rfl⟩ := hdigits h
      exact .plain hne hall
  · rintro ⟨⟨nonempty, digits⟩ | ⟨nonempty, digits⟩, hle⟩
    · rw [read_eq_readDigits nonempty digits, readDigits_eq digits (Nat.zero_le bound), if_pos hle]
    · obtain ⟨d, ds, rfl⟩ := List.exists_cons_of_ne_nil nonempty
      rw [read, readDigits_eq digits (Nat.zero_le bound), if_pos hle]

/-- **A rendered number is read back**, unless it is beyond the bound. -/
theorem read_render (bound n : Nat) :
    read bound (render n).toList = if n ≤ bound then .ok n else .error .tooLarge := by
  have hdigits : ∀ c ∈ Nat.toDigits 10 n, c.isDigit = true := fun c hc =>
    Nat.isDigit_of_mem_toDigits (by decide) (by decide) hc
  rw [render, String.toList_ofList, read_eq_readDigits Nat.toDigits_ne_nil hdigits,
    readDigits_eq hdigits (Nat.zero_le bound), Nat.ofDigitChars_ten_toDigits]

/-- **Different numbers have different numerals.** -/
theorem render_injective {m n : Nat} (h : render m = render n) : m = n := by
  have hread := read_render (max m n) m
  rw [h, read_render, if_pos (Nat.le_max_right m n), if_pos (Nat.le_max_left m n)] at hread
  exact (Except.ok.inj hread).symm

end ChatFeed.Numeral
