import ChatFeed.Proofs.Json.Recognition

/-!
# Proofs/Json/Printer — what was printed is read back

What the printer makes of a character spells that character (`spellsChar_escapeChar`), and the
digits of a number have no zero in front (`isWhole_toDigits`).  So a printed string, a printed
integer and a printed object of strings are spelled as the grammar has it, and what is spelled is
read.

* `spells_printString`, `spells_printInt`, `spells_printObject` — strings, integers, and objects of
  what is spelled.
* `readWhole_printTexts` — an object of strings is read back as a tree.
* `not_isControl_of_mem_printString` — no control character stands in a printed string as it is.
-/

namespace ChatFeed.Json

open Data

/-! ## Strings -/

theorem hexValue?_hexDigit : ∀ n < 16, hexValue? (hexDigit n) = some n := by decide

/-- A control character is spelled by its number. -/
theorem spellsChar_number {c : Char} (h : c.toNat < 0x20) :
    SpellsChar ['\\', 'u', '0', '0', hexDigit (c.toNat / 16), hexDigit (c.toNat % 16)] c := by
  have hquad : hexQuad? '0' '0' (hexDigit (c.toNat / 16)) (hexDigit (c.toNat % 16))
      = some c.toNat := by
    have hzero : hexValue? '0' = some 0 := by decide
    simp only [hexQuad?, hzero, hexValue?_hexDigit _ (by omega : c.toNat / 16 < 16),
      hexValue?_hexDigit _ (by omega : c.toNat % 16 < 16), bind, Option.bind, pure]
    congr 1
    omega
  have hleading : isLeading c.toNat = false := by simp [isLeading]; omega
  have htrailing : isTrailing c.toNat = false := by simp [isTrailing]; omega
  have hnumber := SpellsChar.number hquad hleading htrailing
  rwa [Char.ofNat_toNat] at hnumber

/-- **What the printer makes of a character spells it.** -/
theorem spellsChar_escapeChar (c : Char) : SpellsChar (escapeChar c) c := by
  unfold escapeChar
  by_cases hself : c = '"' ∨ c = '\\'
  · rw [if_pos hself]
    exact .letter (by rcases hself with rfl | rfl <;> rfl)
  rw [if_neg hself]
  by_cases hb : c = '\x08'
  · subst hb
    exact .letter rfl
  rw [if_neg hb]
  by_cases hf : c = '\x0c'
  · subst hf
    exact .letter rfl
  rw [if_neg hf]
  by_cases hn : c = '\n'
  · subst hn
    exact .letter rfl
  rw [if_neg hn]
  by_cases hr : c = '\r'
  · subst hr
    exact .letter rfl
  rw [if_neg hr]
  by_cases ht : c = '\t'
  · subst ht
    exact .letter rfl
  rw [if_neg ht]
  by_cases hcontrol : c.toNat < 0x20
  · rw [if_pos hcontrol]
    exact spellsChar_number hcontrol
  · rw [if_neg hcontrol]
    exact .plain (fun h => hself (.inl h)) (fun h => hself (.inr h))
      (by simpa [isControl] using hcontrol)

theorem spellsChars_escape (s : List Char) : SpellsChars (s.flatMap escapeChar) s := by
  induction s with
  | nil => exact .nil
  | cons c s ih => exact .cons (spellsChar_escapeChar c) ih

/-- **A printed string spells the string**, at any depth. -/
theorem spells_printString (depth : Nat) (s : String) :
    Spells depth (printString s) (.text s) := .text (spellsChars_escape s.toList)

/-! ## Integers -/

/-- No zero stands before other digits. -/
theorem eq_zero_of_toDigits {n : Nat} (h : (Nat.toDigits 10 n).head? = some '0') : n = 0 := by
  induction n using Nat.strongRecOn with
  | ind n ih =>
    rcases Nat.lt_or_ge n 10 with hn | hn
    · rw [Nat.toDigits_of_lt_base hn, List.head?_cons, Option.some.injEq] at h
      have hdigit : ∀ k < 10, Nat.digitChar k = '0' → k = 0 := by decide
      exact hdigit n hn h
    · obtain ⟨d, ds, hds⟩ : ∃ d ds, Nat.toDigits 10 (n / 10) = d :: ds :=
        List.exists_cons_of_ne_nil Nat.toDigits_ne_nil
      rw [Nat.toDigits_of_base_le (by decide) hn, hds] at h
      have hzero := ih (n / 10) (by omega) (by rw [hds]; exact h)
      omega

theorem isWhole_toDigits (n : Nat) : IsWhole (Nat.toDigits 10 n) where
  digits _ hd := Nat.isDigit_of_mem_toDigits (by decide) (by decide) hd
  ne_nil := Nat.toDigits_ne_nil
  lead h := by rw [eq_zero_of_toDigits h]; rfl

/-- **The digits of a number are read as it.** -/
theorem scanNumber_toDigits (negative : Bool) {n : Nat} (fits : n ≤ Numeral.max64) :
    scanNumber negative (Nat.toDigits 10 n) = .ok (wholeValue negative n, []) := by
  have hdecimal : decimal (Nat.toDigits 10 n) = n := Nat.ofDigitChars_ten_toDigits
  have hread := scanNumber_whole (isWhole_toDigits n) negative (by rwa [hdecimal])
  rwa [hdecimal] at hread

/-- **A printed integer of sixty-four bits is read as it**, from behind its sign. -/
theorem scanNumber_printInt {n : Int} (ge : -0x8000_0000_0000_0000 ≤ n)
    (le : n ≤ 0x7FFF_FFFF_FFFF_FFFF) : ∃ negative ds,
    printInt n = (if negative then '-' :: ds else ds)
      ∧ scanNumber negative ds = .ok (.integer n, []) := by
  have hlarge : 0xFFFF_FFFF_FFFF_FFFF ≤ Numeral.max64 := by decide
  by_cases hn : n < 0
  · refine ⟨true, Nat.toDigits 10 n.natAbs, if_pos hn, ?_⟩
    have habs : -(n.natAbs : Int) = n := by omega
    rw [scanNumber_toDigits true (by omega), wholeValue, if_neg (by simp), if_neg (by omega), habs]
  · refine ⟨false, Nat.toDigits 10 n.natAbs, if_neg hn, ?_⟩
    have habs : (n.natAbs : Int) = n := by omega
    have hvalue : wholeValue false n.natAbs = .integer n := congrArg Value.integer habs
    rw [scanNumber_toDigits false (by omega), hvalue]

/-- **A printed integer of sixty-four bits spells the integer.** -/
theorem spells_printInt (depth : Nat) {n : Int} (ge : -0x8000_0000_0000_0000 ≤ n)
    (le : n ≤ 0x7FFF_FFFF_FFFF_FFFF) : Spells depth (printInt n) (.integer n) := by
  obtain ⟨negative, ds, hprint, hread⟩ := scanNumber_printInt ge le
  obtain ⟨used, hds, hspells⟩ := exists_spelled_number hread depth
  rw [List.append_nil] at hds
  rwa [hprint, hds]

/-! ## Objects -/

/-- A member as it is printed, without any white space: its name, the text of its value and the
value. -/
def printedMember (member : String × List Char × Value) : Member where
  before := []
  text := member.2.1
  after := []
  value := member.2.2
  lead := []
  quoted := member.1.toList.flatMap escapeChar
  name := member.1
  gap := []

theorem printedMember_spaced (member : String × List Char × Value) :
    (printedMember member).Spaced where
  before := List.forall_mem_nil _
  after := List.forall_mem_nil _
  lead := List.forall_mem_nil _
  gap := List.forall_mem_nil _
  quoted := spellsChars_escape _

theorem printedMember_written (member : String × List Char × Value) :
    (printedMember member).written = printString member.1 ++ ':' :: member.2.1 := by
  simp [printedMember, Member.written, Member.start, printString]

/-- **A printed object spells the tree** of what its members spell. -/
theorem spells_printObject {depth : Nat} {members : List (String × List Char × Value)}
    (hne : members ≠ []) (values : ∀ m ∈ members, Spells depth m.2.1 m.2.2) :
    Spells (depth + 1) (printObject (members.map fun m => (m.1, m.2.1)))
      (.table (members.map fun m => (m.1, m.2.2))) := by
  have htext : printObject (members.map fun m => (m.1, m.2.1))
      = '\x7b' :: (separated ((members.map printedMember).map Member.written) ++ ['\x7d']) := by
    simp [printObject, Function.comp_def, printedMember_written]
  have htable : members.map (fun m => (m.1, m.2.2))
      = (members.map printedMember).map fun m => (m.name, m.value) := by
    simp [Function.comp_def, printedMember]
  have hmember : ∀ m ∈ members.map printedMember, ∃ member ∈ members, printedMember member = m :=
    fun m hm => List.mem_map.mp hm
  rw [htext, htable]
  refine .table (by simpa using hne) (fun m hm => ?_) (fun m hm => ?_)
  · obtain ⟨member, -, rfl⟩ := hmember m hm
    exact printedMember_spaced member
  · obtain ⟨member, hmem, rfl⟩ := hmember m hm
    exact values member hmem

/-- An object of strings as it is printed. -/
def printTexts (members : List (String × String)) : List Char :=
  printObject (members.map fun m => (m.1, printString m.2))

/-- **A printed object of strings spells the tree** of its members. -/
theorem spells_printTexts {members : List (String × String)} (hne : members ≠ []) (depth : Nat) :
    Spells (depth + 1) (printTexts members) (.table (members.map fun m => (m.1, .text m.2))) := by
  have hobject := @spells_printObject depth
    (members.map fun m => (m.1, printString m.2, .text m.2)) (by simpa using hne) fun m hm => by
      obtain ⟨member, -, rfl⟩ := List.mem_map.mp hm
      exact spells_printString depth member.2
  simpa [printTexts, Function.comp_def] using hobject

/-- **An object of strings is read back** as a tree. -/
theorem readWhole_printTexts {members : List (String × String)} (hne : members ≠ [])
    (depth : Nat) :
    readWhole (scanValue (depth + 1)) (printTexts members)
      = .ok (.table (members.map fun m => (m.1, .text m.2))) := by
  have hread := (spells_printTexts hne depth).readWhole (List.forall_mem_nil _)
    (List.forall_mem_nil _)
  simpa using hread

/-! ## What is never printed -/

/-- **No control character stands in a printed string as it is.** -/
theorem not_isControl_of_mem_printString {s : String} {c : Char} (h : c ∈ printString s) :
    isControl c = false := by
  have hdigit : ∀ n < 16, isControl (hexDigit n) = false := by decide
  have hescape : ∀ x, c ∈ escapeChar x → isControl c = false := by
    intro x hx
    have hslash : ∀ e, isControl e = false → c ∈ ['\\', e] → isControl c = false := by
      intro e he hc
      rcases List.mem_cons.mp hc with rfl | hc
      · rfl
      · rwa [List.mem_singleton.mp hc]
    unfold escapeChar at hx
    repeat' split at hx
    · exact hslash x (by rcases ‹x = '"' ∨ x = '\\'› with rfl | rfl <;> rfl) hx
    · exact hslash 'b' rfl hx
    · exact hslash 'f' rfl hx
    · exact hslash 'n' rfl hx
    · exact hslash 'r' rfl hx
    · exact hslash 't' rfl hx
    · have hsmall : x.toNat < 0x20 := ‹_›
      simp only [List.mem_cons, List.not_mem_nil, or_false] at hx
      rcases hx with rfl | rfl | rfl | rfl | rfl | rfl
      · rfl
      · rfl
      · rfl
      · rfl
      · exact hdigit _ (by omega)
      · exact hdigit _ (by omega)
    · have hlarge : ¬ x.toNat < 0x20 := ‹_›
      obtain rfl := List.mem_singleton.mp hx
      simpa [isControl] using hlarge
  simp only [printString, List.cons_append, List.mem_cons, List.mem_append, List.mem_flatMap,
    List.not_mem_nil, or_false] at h
  rcases h with rfl | ⟨x, -, hx⟩ | rfl
  · rfl
  · exact hescape x hx
  · rfl

theorem not_isControl_of_isDigit {c : Char} (h : c.isDigit = true) : isControl c = false := by
  have hge : 48 ≤ c.toNat := (Char.isDigit_iff_toNat.mp h).1
  simp only [isControl, decide_eq_false_iff_not]
  omega

theorem mem_separated {parts : List (List Char)} {c : Char} (h : c ∈ separated parts) :
    c = ',' ∨ ∃ part ∈ parts, c ∈ part := by
  induction parts with
  | nil => exact absurd h List.not_mem_nil
  | cons part parts ih =>
    cases parts with
    | nil => exact .inr ⟨part, List.mem_cons_self, h⟩
    | cons next parts =>
      rw [separated] at h
      · rcases List.mem_append.mp h with h | h
        · exact .inr ⟨part, List.mem_cons_self, h⟩
        · rcases List.mem_cons.mp h with h | h
          · exact .inl h
          · exact (ih h).imp_right fun ⟨p, hp, hc⟩ => ⟨p, List.mem_cons_of_mem _ hp, hc⟩
      · exact List.cons_ne_nil _ _

/-- **Nor in a printed object** all of whose values are without it. -/
theorem not_isControl_of_mem_printObject {members : List (String × List Char)} {c : Char}
    (values : ∀ m ∈ members, c ∈ m.2 → isControl c = false) (h : c ∈ printObject members) :
    isControl c = false := by
  simp only [printObject, List.cons_append, List.mem_cons, List.mem_append, List.not_mem_nil,
    or_false] at h
  rcases h with rfl | h | rfl
  · rfl
  · rcases mem_separated h with rfl | ⟨part, hpart, hc⟩
    · rfl
    · obtain ⟨m, hm, rfl⟩ := List.mem_map.mp hpart
      rcases List.mem_append.mp hc with hc | hc
      · exact not_isControl_of_mem_printString hc
      · rcases List.mem_cons.mp hc with rfl | hc
        · rfl
        · exact values m hm hc
  · rfl

/-- **Nor in a printed object of strings.** -/
theorem not_isControl_of_mem_printTexts {members : List (String × String)} {c : Char}
    (h : c ∈ printTexts members) : isControl c = false := by
  refine not_isControl_of_mem_printObject (fun m hm hc => ?_) h
  obtain ⟨member, -, rfl⟩ := List.mem_map.mp hm
  exact not_isControl_of_mem_printString hc

/-- Nor in a printed integer. -/
theorem not_isControl_of_mem_printInt {n : Int} {c : Char} (h : c ∈ printInt n) :
    isControl c = false := by
  have hdigit : c ∈ Nat.toDigits 10 n.natAbs → isControl c = false := fun hc =>
    not_isControl_of_isDigit (Nat.isDigit_of_mem_toDigits (by decide) (by decide) hc)
  unfold printInt at h
  split at h
  · rcases List.mem_cons.mp h with rfl | h
    · rfl
    · exact hdigit h
  · exact hdigit h

end ChatFeed.Json
