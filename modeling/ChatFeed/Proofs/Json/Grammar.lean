import ChatFeed.Json.Printer
import ChatFeed.Json.Typed
import ChatFeed.Proofs.Number.Numeral
import Mathlib.Data.List.TakeWhile

/-!
# Proofs/Json/Grammar — well-formed JSON text, and that it is read

The grammar says which texts spell which value, with white space wherever it may stand:
`SpellsChars` for what is between the quotes of a string, with all its escapes, and `Spells` for
values in which containers nest only so deep.  A string has no lone surrogate, and a number that is
not an integer of sixty-four bits is one that the number reader takes as a double.

Whatever is spelled is read (`Spells.scan`), when something follows that can follow a value.  The
proof is by induction on how the value is spelled; the loop over the members of an object is left
open for what is made of them (`scanObject_members`), so it serves other readers too.
-/

namespace ChatFeed.Json

open Data

/-! ## White space -/

/-- Text of white space only. -/
def IsBlank (cs : List Char) : Prop := ∀ c ∈ cs, isSpace c = true

theorem skipSpace_append {ws : List Char} (h : IsBlank ws) (cs : List Char) :
    skipSpace (ws ++ cs) = skipSpace cs := by
  induction ws with
  | nil => rfl
  | cons c ws ih =>
    have hc : isSpace c = true := h c List.mem_cons_self
    rw [List.cons_append, skipSpace, List.dropWhile_cons_of_pos hc]
    exact ih fun x hx => h x (List.mem_cons_of_mem _ hx)

theorem skipSpace_cons {c : Char} (h : isSpace c = false) (cs : List Char) :
    skipSpace (c :: cs) = c :: cs := List.dropWhile_cons_of_neg (by simp [h])

theorem skipSpace_blank {ws : List Char} (h : IsBlank ws) : skipSpace ws = [] :=
  List.dropWhile_eq_nil_iff.mpr h

/-- **What can follow a value**: white space, the comma or the bracket behind it, or nothing. -/
def endsValue : List Char → Bool
  | [] => true
  | c :: _ => isSpace c || c = ',' || c = ']' || c = '\x7d'

theorem endsValue_append {ws : List Char} (h : IsBlank ws) {cs : List Char}
    (hcs : endsValue cs = true) : endsValue (ws ++ cs) = true := by
  cases ws with
  | nil => exact hcs
  | cons c ws => simp [endsValue, h c List.mem_cons_self]

theorem endsValue_blank {ws : List Char} (h : IsBlank ws) : endsValue ws = true := by
  cases ws with
  | nil => rfl
  | cons c ws => simp [endsValue, h c List.mem_cons_self]

/-! ## Strings -/

/-- **How one character of a string is spelled**: as it is, by a letter, or by its number, for which
some take a pair of surrogates. -/
inductive SpellsChar : List Char → Char → Prop
  | plain {c : Char} (quote : c ≠ '"') (slash : c ≠ '\\') (control : isControl c = false) :
      SpellsChar [c] c
  | letter {e c : Char} (escape : escaped? e = some c) : SpellsChar ['\\', e] c
  | number {a b c d : Char} {n : Nat} (quad : hexQuad? a b c d = some n)
      (leading : isLeading n = false) (trailing : isTrailing n = false) :
      SpellsChar ['\\', 'u', a, b, c, d] (Char.ofNat n)
  | pair {a b c d a' b' c' d' : Char} {n m : Nat} (quad : hexQuad? a b c d = some n)
      (leading : isLeading n = true) (quad' : hexQuad? a' b' c' d' = some m)
      (trailing : isTrailing m = true) :
      SpellsChar ['\\', 'u', a, b, c, d, '\\', 'u', a', b', c', d'] (pairChar n m)

/-- **How the characters of a string are spelled**, one after the other. -/
inductive SpellsChars : List Char → List Char → Prop
  | nil : SpellsChars [] []
  | cons {t ts cs : List Char} {c : Char} (first : SpellsChar t c) (rest : SpellsChars ts cs) :
      SpellsChars (t ++ ts) (c :: cs)

/-- A character is spelled by one at least. -/
theorem SpellsChar.length_pos {t : List Char} {c : Char} (h : SpellsChar t c) : 0 < t.length := by
  cases h <;> simp

/-- **One character more**: the scanner reads what spells it. -/
theorem scanChars_spelled {t : List Char} {c : Char} (h : SpellsChar t c) (room : Nat)
    (cs : List Char) :
    scanChars (room + 1) (t ++ cs) = (scanChars room cs).map fun r => (c :: r.1, r.2) := by
  have hescape : ∀ e more, scanEscape more = .ok (e, cs) →
      scanChars (room + 1) ('\\' :: more) = (scanChars room cs).map fun r => (e :: r.1, r.2) := by
    intro e more he
    have hquote : ¬ '\\' = '"' := by decide
    rw [scanChars, if_neg hquote, if_pos rfl, he]
    change (scanChars room cs).bind _ = _
    cases scanChars room cs <;> rfl
  cases h with
  | plain quote slash control =>
    rw [List.singleton_append, scanChars, if_neg quote, if_neg slash, if_neg (by simp [control])]
    cases scanChars room cs <;> rfl
  | @letter e c escape =>
    have hu : e ≠ 'u' := by
      rintro rfl
      have hnone : escaped? 'u' = none := by decide
      exact absurd (hnone.symm.trans escape) (by simp)
    exact hescape c _ (by simp [scanEscape, hu, escape])
  | number quad leading trailing =>
    exact hescape _ _
      (by simp [scanEscape, scanUnicode, scanQuad, quad, leading, trailing, bind, Except.bind])
  | @pair a b c d a' b' c' d' n m quad leading quad' trailing =>
    have hn : isTrailing n = false := by
      simp only [isLeading, isTrailing, Bool.and_eq_true, decide_eq_true_eq] at leading ⊢
      simp
      omega
    exact hescape _ _ (by
      simp [scanEscape, scanUnicode, scanQuad, quad, quad', leading, trailing, hn, bind,
        Except.bind])

theorem scanChars_of_spells {t s : List Char} (h : SpellsChars t s) {room : Nat}
    (hroom : t.length < room) (rest : List Char) :
    scanChars room (t ++ '"' :: rest) = .ok (s, rest) := by
  induction h generalizing room with
  | nil =>
    obtain ⟨room, rfl⟩ := Nat.exists_eq_add_one_of_ne_zero (Nat.ne_of_gt hroom)
    rfl
  | cons first _ ih =>
    have hfirst := first.length_pos
    rw [List.length_append] at hroom
    obtain ⟨room, rfl⟩ := Nat.exists_eq_add_one_of_ne_zero (Nat.ne_of_gt (Nat.zero_lt_of_lt hroom))
    rw [List.append_assoc, scanChars_spelled first, ih (by omega)]
    rfl

/-- **A spelled string is read**, from behind its opening quote. -/
theorem scanString_of_spells {t : List Char} {s : String} (h : SpellsChars t s.toList)
    (rest : List Char) : scanString (t ++ '"' :: rest) = .ok (s, rest) := by
  rw [scanString, scanChars_of_spells h (by simp)]
  simp [bind, Except.bind]

/-! ## Numbers -/

/-- What can follow a value is no part of a number. -/
theorem endsValue_cons {c : Char} {cs : List Char} (h : endsValue (c :: cs) = true) :
    c.isDigit = false ∧ c ≠ '.' ∧ exponentLetter? (c :: cs) = none := by
  have hc : (((c = ' ' ∨ c = '\n') ∨ c = '\t') ∨ c = '\r') ∨ c = ',' ∨ c = ']' ∨ c = '\x7d' := by
    simpa [endsValue, isSpace, or_assoc] using h
  rcases hc with (((rfl | rfl) | rfl) | rfl) | rfl | rfl | rfl <;> exact ⟨by decide, by decide, rfl⟩

variable {rest : List Char}

theorem spanDigits_append (hrest : endsValue rest = true) (cs : List Char) :
    spanDigits (cs ++ rest) = ((spanDigits cs).1, (spanDigits cs).2 ++ rest) := by
  induction cs with
  | nil =>
    cases rest with
    | nil => rfl
    | cons c rest =>
      have hc := (endsValue_cons hrest).1
      simp [spanDigits, hc]
  | cons d cs ih =>
    by_cases hd : d.isDigit = true
    · have hfst := congrArg Prod.fst ih
      have hsnd := congrArg Prod.snd ih
      simp only [spanDigits] at hfst hsnd
      simp [spanDigits, hd, hfst, hsnd]
    · simp [spanDigits, hd]

theorem exponentLetter?_append (hrest : endsValue rest = true) (cs : List Char) :
    exponentLetter? (cs ++ rest) = (exponentLetter? cs).map (· ++ rest) := by
  cases cs with
  | nil =>
    cases rest with
    | nil => rfl
    | cons c rest => exact (endsValue_cons hrest).2.2
  | cons c cs =>
    by_cases hlower : c = 'e'
    · subst hlower
      rfl
    · by_cases hupper : c = 'E'
      · subst hupper
        rfl
      · have hnone : ∀ cs, exponentLetter? (c :: cs) = none := by
          intro cs
          unfold exponentLetter?
          split <;> simp_all
        rw [List.cons_append, hnone, hnone]
        rfl

section

variable {negative : Bool} {significand : Nat} {start : Int} {cs left : List Char} {v : Value}

theorem realValue_append (h : realValue negative significand start cs = .ok (v, left)) :
    realValue negative significand start (cs ++ rest) = .ok (v, left ++ rest) := by
  unfold realValue at h ⊢
  cases hscale : scale significand start with
  | none =>
    rw [hscale] at h
    cases h
  | some size =>
    rw [hscale] at h
    obtain ⟨rfl, rfl⟩ := Prod.mk.inj (Except.ok.inj h)
    rfl

theorem scanPower_append (hrest : endsValue rest = true) {down : Bool}
    (h : scanPower negative significand start down cs = .ok (v, left)) :
    scanPower negative significand start down (cs ++ rest) = .ok (v, left ++ rest) := by
  unfold scanPower at h ⊢
  rw [spanDigits_append hrest]
  generalize spanDigits cs = digits at h ⊢
  obtain ⟨_ | ⟨d, ds⟩, more⟩ := digits
  · cases more <;> cases h
  dsimp only at h ⊢
  cases hsmall : smallExponent? (d :: ds) with
  | some n =>
    rw [hsmall] at h
    exact realValue_append h
  | none =>
    rw [hsmall] at h
    dsimp only at h ⊢
    by_cases hlarge : significand ≠ 0 ∧ !down
    · rw [if_pos hlarge] at h
      cases h
    · rw [if_neg hlarge] at h ⊢
      obtain ⟨rfl, rfl⟩ := Prod.mk.inj (Except.ok.inj h)
      rfl

/-- An exponent without a sign. -/
theorem scanExponent_unsigned {c : Char} (hplus : c ≠ '+') (hminus : c ≠ '-') (cs : List Char) :
    scanExponent negative significand start (c :: cs)
      = scanPower negative significand start false (c :: cs) := by
  unfold scanExponent
  split <;> simp_all

theorem scanExponent_append (hrest : endsValue rest = true)
    (h : scanExponent negative significand start cs = .ok (v, left)) :
    scanExponent negative significand start (cs ++ rest) = .ok (v, left ++ rest) := by
  rcases cs with _ | ⟨c, cs⟩
  · cases h
  by_cases hplus : c = '+'
  · subst hplus
    exact scanPower_append hrest h
  by_cases hminus : c = '-'
  · subst hminus
    exact scanPower_append hrest h
  rw [scanExponent_unsigned hplus hminus] at h
  rw [List.cons_append, scanExponent_unsigned hplus hminus]
  exact scanPower_append hrest h

theorem scanFraction_append (hrest : endsValue rest = true)
    (h : scanFraction negative significand start cs = .ok (v, left)) :
    scanFraction negative significand start (cs ++ rest) = .ok (v, left ++ rest) := by
  unfold scanFraction at h ⊢
  rw [spanDigits_append hrest]
  generalize spanDigits cs = digits at h ⊢
  obtain ⟨_ | ⟨d, ds⟩, more⟩ := digits
  · cases more <;> cases h
  dsimp only at h ⊢
  rw [exponentLetter?_append hrest]
  cases hletter : exponentLetter? more with
  | some power =>
    rw [hletter] at h
    exact scanExponent_append hrest h
  | none =>
    rw [hletter] at h
    exact realValue_append h

theorem scanDecimal_append (hrest : endsValue rest = true) {ds : List Char}
    (h : scanDecimal negative ds cs = .ok (v, left)) :
    scanDecimal negative ds (cs ++ rest) = .ok (v, left ++ rest) := by
  unfold scanDecimal at h ⊢
  dsimp only at h ⊢
  split at h
  · exact scanFraction_append hrest h
  · rename_i hpoint
    have hpoint' : ∀ more, cs ++ rest ≠ '.' :: more := by
      intro more hmore
      rcases cs with _ | ⟨c, cs⟩
      · rw [List.nil_append] at hmore
        subst hmore
        exact (endsValue_cons hrest).2.1 rfl
      · exact hpoint cs (by rw [(List.cons.inj hmore).1])
    split
    · exact absurd ‹_› (hpoint' _)
    · rw [exponentLetter?_append hrest]
      cases hletter : exponentLetter? cs with
      | some power =>
        rw [hletter] at h
        exact scanExponent_append hrest h
      | none =>
        rw [hletter] at h
        dsimp only [Option.map_none] at h ⊢
        by_cases hall : (fitDigits 0 ds).2.isEmpty = true
        · rw [if_pos hall] at h ⊢
          obtain ⟨rfl, rfl⟩ := Prod.mk.inj (Except.ok.inj h)
          rfl
        · rw [if_neg hall] at h ⊢
          exact realValue_append h

/-- A number begins with digits, without a zero before others. -/
theorem scanNumber_of_digits {d : Char} {ds more : List Char}
    (hspan : spanDigits cs = (d :: ds, more)) : scanNumber negative cs
      = if d = '0' ∧ ds ≠ [] then .error .malformed else scanDecimal negative (d :: ds) more := by
  unfold scanNumber
  rw [hspan]
  by_cases hzero : d = '0' ∧ ds ≠ []
  · obtain ⟨rfl, hds⟩ := hzero
    obtain ⟨d', ds, rfl⟩ := List.exists_cons_of_ne_nil hds
    rfl
  · rw [if_neg hzero]
    split <;> simp_all

/-- **A number stays what it is**, whatever follows that can follow a value. -/
theorem scanNumber_append (hrest : endsValue rest = true)
    (h : scanNumber negative cs = .ok (v, left)) :
    scanNumber negative (cs ++ rest) = .ok (v, left ++ rest) := by
  have happend := spanDigits_append hrest cs
  rcases hspan : spanDigits cs with ⟨_ | ⟨d, ds⟩, more⟩
  · unfold scanNumber at h
    rw [hspan] at h
    cases more <;> cases h
  · rw [hspan] at happend
    rw [scanNumber_of_digits hspan] at h
    rw [scanNumber_of_digits happend]
    by_cases hzero : d = '0' ∧ ds ≠ []
    · rw [if_pos hzero] at h
      cases h
    · rw [if_neg hzero] at h ⊢
      exact scanDecimal_append hrest h

end

/-- **The digits of a whole number**: one at least, and no zero before others. -/
structure IsWhole (ds : List Char) : Prop where
  digits : ∀ d ∈ ds, d.isDigit = true
  ne_nil : ds ≠ []
  lead : ds.head? = some '0' → ds = ['0']

/-- The number that digits write. -/
def decimal (ds : List Char) : Nat := Nat.ofDigitChars 10 ds 0

theorem spanDigits_of_digits {ds : List Char} (digits : ∀ d ∈ ds, d.isDigit = true) :
    spanDigits ds = (ds, []) := by
  rw [spanDigits, List.takeWhile_eq_self_iff.mpr digits, List.dropWhile_eq_nil_iff.mpr digits]

/-- Digits whose number fits are all read. -/
theorem fitDigits_eq {acc : Nat} {ds : List Char}
    (fits : Nat.ofDigitChars 10 ds acc ≤ Numeral.max64) :
    fitDigits acc ds = (Nat.ofDigitChars 10 ds acc, []) := by
  induction ds generalizing acc with
  | nil => rfl
  | cons d ds ih =>
    rw [Nat.ofDigitChars_cons] at fits ⊢
    have hnext := Nat.le_trans (Numeral.le_ofDigitChars _ ds) fits
    rw [fitDigits]
    exact (if_pos hnext).trans (ih fits)

/-- **A whole number that fits sixty-four bits is read as it is.** -/
theorem scanNumber_whole {ds : List Char} (whole : IsWhole ds) (negative : Bool)
    (fits : decimal ds ≤ Numeral.max64) :
    scanNumber negative ds = .ok (wholeValue negative (decimal ds), []) := by
  obtain ⟨d, more, rfl⟩ := List.exists_cons_of_ne_nil whole.ne_nil
  have hzero : ¬ (d = '0' ∧ more ≠ []) := by
    rintro ⟨rfl, hmore⟩
    exact hmore (List.cons.inj (whole.lead rfl)).2
  rw [scanNumber_of_digits (spanDigits_of_digits whole.digits), if_neg hzero, scanDecimal,
    fitDigits_eq fits]
  rfl

/-! ## Values -/

/-- **An element of an array as it is written**: the text of its value, with white space around. -/
structure Item where
  before : List Char
  text : List Char
  after : List Char
  value : Value

/-- The whole text of an element. -/
def Item.written (i : Item) : List Char := i.before ++ (i.text ++ i.after)

/-- White space is where it may be. -/
structure Item.Spaced (i : Item) : Prop where
  before : IsBlank i.before
  after : IsBlank i.after

/-- **A member of an object as it is written**: its name between quotes and the text of its value,
with white space around both. -/
structure Member extends Item where
  lead : List Char
  quoted : List Char
  name : String
  gap : List Char

/-- The text of a member from behind the opening quote of its name, up to its value. -/
def Member.start (m : Member) : List Char := m.quoted ++ '"' :: (m.gap ++ ':' :: m.before)

/-- The whole text of a member. -/
def Member.written (m : Member) : List Char :=
  m.lead ++ '"' :: (m.start ++ (m.text ++ m.after))

/-- White space is where it may be, and the name is spelled. -/
structure Member.Spaced (m : Member) : Prop extends m.toItem.Spaced where
  lead : IsBlank m.lead
  gap : IsBlank m.gap
  quoted : SpellsChars m.quoted m.name.toList

/-- **Which text spells which value**, when containers may nest so deep. -/
inductive Spells : Nat → List Char → Value → Prop
  | null {depth : Nat} : Spells depth ['n', 'u', 'l', 'l'] .null
  | yes {depth : Nat} : Spells depth ['t', 'r', 'u', 'e'] (.flag true)
  | no {depth : Nat} : Spells depth ['f', 'a', 'l', 's', 'e'] (.flag false)
  | whole {depth : Nat} {ds : List Char} (whole : IsWhole ds)
      (fits : decimal ds ≤ Numeral.max64) : Spells depth ds (.integer (decimal ds))
  | negative {depth : Nat} {ds : List Char} (whole : IsWhole ds) (pos : 0 < decimal ds)
      (fits : decimal ds ≤ 0x8000_0000_0000_0000) :
      Spells depth ('-' :: ds) (.integer (-decimal ds))
  | real {depth : Nat} {negative : Bool} {cs : List Char} {d : Double}
      (number : scanNumber negative cs = .ok (.real d, [])) :
      Spells depth (if negative then '-' :: cs else cs) (.real d)
  | text {depth : Nat} {t : List Char} {s : String} (chars : SpellsChars t s.toList) :
      Spells depth ('"' :: (t ++ ['"'])) (.text s)
  | emptyList {depth : Nat} {ws : List Char} (blank : IsBlank ws) :
      Spells (depth + 1) ('[' :: (ws ++ [']'])) (.list [])
  | list {depth : Nat} {items : List Item} (nonempty : items ≠ [])
      (spaced : ∀ i ∈ items, i.Spaced) (values : ∀ i ∈ items, Spells depth i.text i.value) :
      Spells (depth + 1) ('[' :: (separated (items.map Item.written) ++ [']']))
        (.list (items.map Item.value))
  | emptyTable {depth : Nat} {ws : List Char} (blank : IsBlank ws) :
      Spells (depth + 1) ('\x7b' :: (ws ++ ['\x7d'])) (.table [])
  | table {depth : Nat} {members : List Member} (nonempty : members ≠ [])
      (spaced : ∀ m ∈ members, m.Spaced) (values : ∀ m ∈ members, Spells depth m.text m.value) :
      Spells (depth + 1) ('\x7b' :: (separated (members.map Member.written) ++ ['\x7d']))
        (.table (members.map fun m => (m.name, m.value)))

/-- **Which text denotes which value**: it spells it, with white space around, and containers nest
no deeper than they may. -/
def Denotes (text : String) (v : Value) : Prop :=
  ∃ lead body trail, text.toList = lead ++ (body ++ trail) ∧ IsBlank lead ∧ IsBlank trail
    ∧ Spells topDepth body v

/-! ## Reading what is spelled -/

section

variable {depth : Nat} {text cs : List Char} {v : Value} {c x : Char}

theorem ne_of_isDigit (hc : c.isDigit = true) (hx : x.isDigit = false) : c ≠ x := by
  rintro rfl
  simp [hc] at hx

theorem isSpace_of_isDigit (hc : c.isDigit = true) : isSpace c = false := by
  simp only [isSpace, Bool.or_eq_false_iff, decide_eq_false_iff_not]
  exact ⟨⟨⟨ne_of_isDigit hc (by decide), ne_of_isDigit hc (by decide)⟩,
    ne_of_isDigit hc (by decide)⟩, ne_of_isDigit hc (by decide)⟩

/-- A number without a sign begins with a digit. -/
theorem exists_digit_of_scanNumber {negative : Bool} {r : Value × List Char}
    (h : scanNumber negative cs = .ok r) : ∃ d more, cs = d :: more ∧ d.isDigit = true := by
  rcases cs with _ | ⟨d, more⟩
  · cases h
  by_cases hd : d.isDigit = true
  · exact ⟨d, more, rfl, hd⟩
  · have hspan : spanDigits (d :: more) = ([], d :: more) := by simp [spanDigits, hd]
    unfold scanNumber at h
    rw [hspan] at h
    cases h

/-- **How a value begins**: neither with white space nor with the end of an array, and with a quote
only when it is text. -/
theorem Spells.head (h : Spells depth text v) : ∃ c more, text = c :: more ∧ isSpace c = false
    ∧ c ≠ ']' ∧ (c = '"' → ∃ s, v = .text s) := by
  have hnumber : ∀ {negative ds r}, scanNumber negative ds = .ok r → ∃ c more, ds = c :: more
      ∧ isSpace c = false ∧ c ≠ ']' ∧ (c = '"' → ∃ s, v = .text s) := by
    intro negative ds r hds
    obtain ⟨d, more, rfl, hd⟩ := exists_digit_of_scanNumber hds
    exact ⟨d, more, rfl, isSpace_of_isDigit hd, ne_of_isDigit hd (by decide),
      fun hq => absurd hq (ne_of_isDigit hd (by decide))⟩
  have hplain : ∀ {c more}, isSpace c = false → c ≠ ']' → c ≠ '"' → ∃ c' more',
      c :: more = c' :: more' ∧ isSpace c' = false ∧ c' ≠ ']' ∧ (c' = '"' → ∃ s, v = .text s) :=
    fun hspace hend hquote => ⟨_, _, rfl, hspace, hend, fun hq => absurd hq hquote⟩
  cases h with
  | whole whole fits => exact hnumber (scanNumber_whole whole false fits)
  | @real depth negative cs d number =>
    cases negative with
    | false => exact hnumber number
    | true => exact hplain (by decide) (by decide) (by decide)
  | text chars => exact ⟨_, _, rfl, by decide, by decide, fun _ => ⟨_, rfl⟩⟩
  | _ => exact hplain (by decide) (by decide) (by decide)

/-- Text is spelled between quotes. -/
theorem Spells.exists_chars {s : String} (h : Spells depth text (.text s)) :
    ∃ t, text = '"' :: (t ++ ['"']) ∧ SpellsChars t s.toList := by
  cases h with
  | text chars => exact ⟨_, rfl, chars⟩

/-- White space in front of a value is passed over. -/
theorem scanValue_blank {ws : List Char} (h : IsBlank ws) (depth : Nat) (cs : List Char) :
    scanValue depth (ws ++ cs) = scanValue depth cs := by
  cases depth <;> (unfold scanValue; rw [skipSpace_append h])

/-- A value that is no container is read at any depth. -/
theorem scanValue_single (hspace : isSpace c = false) (hlist : c ≠ '[') (htable : c ≠ '\x7b') :
    scanValue depth (c :: cs) = scanSingle (c :: cs) := by
  cases depth with
  | zero =>
    unfold scanValue
    rw [skipSpace_cons hspace]
  | succ depth =>
    unfold scanValue
    rw [skipSpace_cons hspace]
    split <;> simp_all

theorem scanSingle_of_isDigit (hc : c.isDigit = true) :
    scanSingle (c :: cs) = scanNumber false (c :: cs) := by
  unfold scanSingle
  split <;> simp_all

/-! ### Strings of a known form -/

section

variable {ws : List Char}

theorem Typed.string_text {s : String} (h : Spells depth text (.text s)) (blank : IsBlank ws)
    (expected : String) (rest : List Char) :
    (Typed.string expected).run depth (ws ++ (text ++ rest)) = .ok (s, rest) := by
  obtain ⟨t, rfl, chars⟩ := h.exists_chars
  have hskip : skipSpace (ws ++ ('"' :: (t ++ ['"']) ++ rest)) = '"' :: (t ++ '"' :: rest) := by
    rw [skipSpace_append blank, List.cons_append, skipSpace_cons (by decide), List.append_assoc]
    rfl
  unfold Typed.string
  dsimp only
  rw [hskip]
  exact scanString_of_spells chars rest

theorem Typed.string_other (h : Spells depth text v) (hv : ∀ s, v ≠ .text s) (blank : IsBlank ws)
    (expected : String) (rest : List Char) :
    ∃ f, (Typed.string expected).run depth (ws ++ (text ++ rest)) = .error f := by
  obtain ⟨c, more, rfl, hspace, -, hquote⟩ := h.head
  have hc : c ≠ '"' := fun hc => by
    obtain ⟨s, hs⟩ := hquote hc
    exact hv s hs
  unfold Typed.string
  dsimp only
  rw [skipSpace_append blank, List.cons_append, skipSpace_cons hspace]
  split
  · exact absurd (List.cons.inj ‹_›).1 hc
  · exact ⟨_, rfl⟩

end

/-! ### Arrays -/

theorem separated_cons_cons (part next : List Char) (parts : List (List Char)) :
    separated (part :: next :: parts) = part ++ ',' :: separated (next :: parts) := rfl

/-- Between any two parts there is a comma. -/
theorem length_le_length_separated (parts : List (List Char)) :
    parts.length ≤ (separated parts).length + 1 := by
  induction parts with
  | nil => exact Nat.zero_le _
  | cons part parts ih =>
    cases parts with
    | nil => simp
    | cons next parts =>
      rw [separated_cons_cons]
      simp only [List.length_append, List.length_cons] at ih ⊢
      omega

/-- Behind an element there is white space, and then the comma or the bracket. -/
theorem endsValue_after {i : Item} (spaced : i.Spaced) (hc : c = ',' ∨ c = ']' ∨ c = '\x7d')
    (more : List Char) : endsValue (i.after ++ c :: more) = true :=
  endsValue_append spaced.after (by rcases hc with rfl | rfl | rfl <;> rfl)

/-- **An element is read**, with the white space in front of it. -/
theorem scanValue_item {i : Item} (spaced : i.Spaced)
    (hread : ∀ rest, endsValue rest = true →
      scanValue depth (i.text ++ rest) = .ok (i.value, rest))
    (hc : c = ',' ∨ c = ']' ∨ c = '\x7d') (more : List Char) :
    scanValue depth (i.written ++ c :: more) = .ok (i.value, i.after ++ c :: more) := by
  rw [Item.written, List.append_assoc, List.append_assoc, scanValue_blank spaced.before]
  exact hread _ (endsValue_after spaced hc more)

/-- **The elements of an array are read**, one after the other. -/
theorem scanElements_items {items : List Item} (hne : items ≠ []) (spaced : ∀ i ∈ items, i.Spaced)
    (hread : ∀ i ∈ items, ∀ rest, endsValue rest = true →
      scanValue depth (i.text ++ rest) = .ok (i.value, rest))
    {room : Nat} (hroom : items.length ≤ room) (vs : List Value) (rest : List Char) :
    scanElements (fun items cs => do
        let (v, cs) ← scanValue depth cs
        .ok (v :: items, cs)) room vs (separated (items.map Item.written) ++ ']' :: rest)
      = .ok ((items.map Item.value).reverse ++ vs, rest) := by
  induction items generalizing room vs with
  | nil => exact absurd rfl hne
  | cons i items ih =>
    obtain ⟨room, rfl⟩ := Nat.exists_eq_add_one_of_ne_zero
      (Nat.ne_of_gt (Nat.zero_lt_of_lt hroom))
    have hspaced : i.Spaced := spaced i List.mem_cons_self
    have hitem := fun c hc more =>
      @scanValue_item depth c i hspaced (hread i List.mem_cons_self) hc more
    cases items with
    | nil =>
      have hend : skipSpace (i.after ++ ']' :: rest) = ']' :: rest := by
        rw [skipSpace_append hspaced.after, skipSpace_cons (by decide)]
      change scanElements _ (room + 1) vs (i.written ++ ']' :: rest) = _
      simp only [scanElements, bind, Except.bind, hitem ']' (by simp) rest, hend]
      rfl
    | cons next items =>
      have hcomma : ∀ more, skipSpace (i.after ++ ',' :: more) = ',' :: more := fun more => by
        rw [skipSpace_append hspaced.after, skipSpace_cons (by decide)]
      rw [List.map_cons, List.map_cons, separated_cons_cons, List.append_assoc, List.cons_append]
      simp only [scanElements, bind, Except.bind, hitem ',' (by simp), hcomma]
      refine (ih (List.cons_ne_nil _ _) (fun x hx => spaced x (List.mem_cons_of_mem _ hx))
        (fun x hx => hread x (List.mem_cons_of_mem _ hx)) (Nat.le_of_succ_le_succ hroom) _).trans ?_
      simp

/-! ### Objects -/

variable {σ κ : Type} {name : σ → List Char → Scan (κ × List Char)}
  {value : κ → σ → List Char → Scan (σ × List Char)} {step : Member → σ → Option σ}

theorem toOption_bind {α β : Type} (x : Scan α) (f : α → Scan β) :
    (x >>= f).toOption = x.toOption.bind fun a => (f a).toOption := by
  cases x <;> rfl

theorem toOption_eq_some_iff {α : Type} {x : Scan α} {a : α} :
    x.toOption = some a ↔ x = .ok a := by
  cases x <;> simp [Except.toOption]

/-- **A member is read**, up to what stands behind its value; the step says whether it can be, and
what it makes of what has been read before. -/
def ReadsMember (name : σ → List Char → Scan (κ × List Char))
    (value : κ → σ → List Char → Scan (σ × List Char)) (step : Member → σ → Option σ)
    (m : Member) : Prop :=
  ∀ s rest, endsValue rest = true →
    (do let (k, cs) ← name s (m.start ++ (m.text ++ rest))
        value k s (← scanColon cs) : Scan (σ × List Char)).toOption = (step m s).map (·, rest)

/-- **The rest of an object**, from behind a member's value: its brace, or a comma and more. -/
def scanRest (name : σ → List Char → Scan (κ × List Char))
    (value : κ → σ → List Char → Scan (σ × List Char)) (room : Nat) (s : σ) (cs : List Char) :
    Scan (σ × List Char) :=
  match skipSpace cs with
  | [] => .error .ended
  | '\x7d' :: cs => .ok (s, cs)
  | ',' :: cs => scanEntries name value room s cs
  | _ :: _ => .error .malformed

/-- **One member more**, with the comma or the brace behind it. -/
theorem scanEntries_member {m : Member} (spaced : m.Spaced) (reads : ReadsMember name value step m)
    (hc : c = ',' ∨ c = '\x7d') (room : Nat) (s : σ) (more : List Char) :
    (scanEntries name value (room + 1) s (m.written ++ c :: more)).toOption
      = (step m s).bind fun s => if c = ',' then (scanEntries name value room s more).toOption
        else some (s, more) := by
  have hquote : skipSpace (m.written ++ c :: more)
      = '"' :: (m.start ++ (m.text ++ (m.after ++ c :: more))) := by
    rw [Member.written, List.append_assoc, skipSpace_append spaced.lead, List.cons_append,
      skipSpace_cons (by decide)]
    simp only [List.append_assoc]
  have hbehind : skipSpace (m.after ++ c :: more) = c :: more := by
    rw [skipSpace_append spaced.after]
    rcases hc with rfl | rfl <;> exact skipSpace_cons (by decide) more
  have hread := reads s _ (endsValue_after spaced.toSpaced (hc.imp_right .inr) more)
  have hentry : scanEntries name value (room + 1) s (m.written ++ c :: more) = (do
      let r ← (do
        let (k, cs) ← name s (m.start ++ (m.text ++ (m.after ++ c :: more)))
        value k s (← scanColon cs) : Scan (σ × List Char))
      scanRest name value room r.1 r.2) := by
    simp only [scanEntries, hquote, bind, Except.bind]
    cases name s (m.start ++ (m.text ++ (m.after ++ c :: more))) with
    | error e => rfl
    | ok r =>
      dsimp only
      cases scanColon r.2 with
      | error e => rfl
      | ok cs => cases value r.1 s cs <;> rfl
  rw [hentry, toOption_bind, hread]
  cases step m s with
  | none => rfl
  | some s' =>
    simp only [Option.map_some, Option.bind_some, scanRest, hbehind]
    rcases hc with rfl | rfl <;> rfl

/-- An object without members is read, from behind its opening brace. -/
theorem scanObject_blank {ws : List Char} (blank : IsBlank ws) (s : σ) (rest : List Char) :
    scanObject name value s (ws ++ '\x7d' :: rest) = .ok (s, rest) := by
  rw [scanObject, skipSpace_append blank, skipSpace_cons (by decide)]
  rfl

/-- **The members of an object are read**, one after the other, as far as they can be. -/
theorem scanEntries_members {members : List Member} (hne : members ≠ [])
    (spaced : ∀ m ∈ members, m.Spaced) (reads : ∀ m ∈ members, ReadsMember name value step m)
    {room : Nat} (hroom : members.length ≤ room) (s : σ) (rest : List Char) :
    (scanEntries name value room s
        (separated (members.map Member.written) ++ '\x7d' :: rest)).toOption
      = (members.foldlM (fun s m => step m s) s).map (·, rest) := by
  induction members generalizing room s with
  | nil => exact absurd rfl hne
  | cons m members ih =>
    obtain ⟨room, rfl⟩ := Nat.exists_eq_add_one_of_ne_zero
      (Nat.ne_of_gt (Nat.zero_lt_of_lt hroom))
    have hspaced : m.Spaced := spaced m List.mem_cons_self
    have hreads : ReadsMember name value step m := reads m List.mem_cons_self
    rw [List.foldlM_cons]
    cases members with
    | nil =>
      change (scanEntries name value (room + 1) s (m.written ++ '\x7d' :: rest)).toOption = _
      rw [scanEntries_member hspaced hreads (.inr rfl)]
      cases step m s <;> rfl
    | cons next members =>
      rw [List.map_cons, List.map_cons, separated_cons_cons, List.append_assoc, List.cons_append,
        scanEntries_member hspaced hreads (.inl rfl)]
      cases step m s with
      | none => rfl
      | some s' =>
        exact ih (List.cons_ne_nil _ _) (fun x hx => spaced x (List.mem_cons_of_mem _ hx))
          (fun x hx => reads x (List.mem_cons_of_mem _ hx)) (Nat.le_of_succ_le_succ hroom) s'

/-- **An object is read**, from behind its opening brace. -/
theorem scanObject_members {members : List Member} (hne : members ≠ [])
    (spaced : ∀ m ∈ members, m.Spaced) (reads : ∀ m ∈ members, ReadsMember name value step m)
    (s : σ) (rest : List Char) :
    (scanObject name value s (separated (members.map Member.written) ++ '\x7d' :: rest)).toOption
      = (members.foldlM (fun s m => step m s) s).map (·, rest) := by
  obtain ⟨m, more, rfl⟩ := List.exists_cons_of_ne_nil hne
  have hroom : (m :: more).length
      ≤ (separated ((m :: more).map Member.written) ++ '\x7d' :: rest).length + 1 := by
    have hlength := length_le_length_separated ((m :: more).map Member.written)
    rw [List.length_map] at hlength
    simp only [List.length_append]
    omega
  have hquote : ∃ cs, skipSpace (separated ((m :: more).map Member.written) ++ '\x7d' :: rest)
      = '"' :: cs := by
    have hlead : ∀ cs, ∃ cs', skipSpace (m.written ++ cs) = '"' :: cs' := fun cs => by
      rw [Member.written, List.append_assoc,
        skipSpace_append (spaced m List.mem_cons_self).lead]
      exact ⟨_, skipSpace_cons (by decide) _⟩
    cases more with
    | nil => exact hlead _
    | cons next more =>
      rw [List.map_cons, List.map_cons, separated_cons_cons, List.append_assoc]
      exact hlead _
  obtain ⟨cs, hcs⟩ := hquote
  rw [← scanEntries_members hne spaced reads hroom, scanObject, hcs]
  rfl

/-! ### Values -/

/-- A number is read, with its sign. -/
theorem scanValue_number {negative : Bool} {ds rest : List Char}
    (h : scanNumber negative ds = .ok (v, [])) (hrest : endsValue rest = true) :
    scanValue depth ((if negative then '-' :: ds else ds) ++ rest) = .ok (v, rest) := by
  have happend := scanNumber_append hrest h
  cases negative with
  | false =>
    obtain ⟨d, more, rfl, hd⟩ := exists_digit_of_scanNumber h
    refine (scanValue_single (isSpace_of_isDigit hd) (ne_of_isDigit hd (by decide))
      (ne_of_isDigit hd (by decide))).trans ?_
    exact (scanSingle_of_isDigit hd).trans happend
  | true => exact (scanValue_single (by decide) (by decide) (by decide)).trans happend

/-- A value that begins with a bracket is an array whose elements are values. -/
theorem scanValue_bracket (depth : Nat) (cs : List Char) :
    scanValue (depth + 1) ('[' :: cs) = (do
      let (items, cs) ← scanArray
        (fun items cs => do
          let (v, cs) ← scanValue depth cs
          .ok (v :: items, cs)) ([] : List Value) cs
      .ok (.list items.reverse, cs) : Scan (Value × List Char)) := rfl

/-- A value that begins with a brace is an object whose entries are values. -/
theorem scanValue_brace (depth : Nat) (cs : List Char) :
    scanValue (depth + 1) ('\x7b' :: cs) = (do
      let (entries, cs) ← scanObject (fun _ => scanString)
        (fun name entries cs => do
          let (v, cs) ← scanValue depth cs
          .ok ((name, v) :: entries, cs)) ([] : List (String × Value)) cs
      .ok (.table entries.reverse, cs) : Scan (Value × List Char)) := rfl

/-- **The elements of an array are read**, from behind its opening bracket. -/
theorem scanArray_items {items : List Item} (hne : items ≠ []) (spaced : ∀ i ∈ items, i.Spaced)
    (values : ∀ i ∈ items, Spells depth i.text i.value)
    (hread : ∀ i ∈ items, ∀ rest, endsValue rest = true →
      scanValue depth (i.text ++ rest) = .ok (i.value, rest)) (rest : List Char) :
    scanArray (fun items cs => do
        let (v, cs) ← scanValue depth cs
        .ok (v :: items, cs)) [] (separated (items.map Item.written) ++ ']' :: rest)
      = .ok ((items.map Item.value).reverse, rest) := by
  have hroom : items.length ≤ (separated (items.map Item.written) ++ ']' :: rest).length + 1 := by
    have hlength := length_le_length_separated (items.map Item.written)
    rw [List.length_map] at hlength
    simp only [List.length_append]
    omega
  have hfirst : ∃ c cs, skipSpace (separated (items.map Item.written) ++ ']' :: rest) = c :: cs
      ∧ c ≠ ']' := by
    obtain ⟨i, more, rfl⟩ := List.exists_cons_of_ne_nil hne
    obtain ⟨c, tail, htext, hspace, hend, -⟩ := (values i List.mem_cons_self).head
    have hwritten : ∀ cs, ∃ cs', skipSpace (i.written ++ cs) = c :: cs' := fun cs => by
      rw [Item.written, List.append_assoc, skipSpace_append (spaced i List.mem_cons_self).before,
        htext]
      exact ⟨_, skipSpace_cons hspace _⟩
    have hall : ∃ cs, skipSpace (separated ((i :: more).map Item.written) ++ ']' :: rest)
        = c :: cs := by
      cases more with
      | nil => exact hwritten _
      | cons next more =>
        rw [List.map_cons, List.map_cons, separated_cons_cons, List.append_assoc]
        exact hwritten _
    obtain ⟨cs, hcs⟩ := hall
    exact ⟨c, cs, hcs, hend⟩
  have hitems := scanElements_items hne spaced hread hroom [] rest
  obtain ⟨c, cs, hcs, hc⟩ := hfirst
  rw [List.append_nil] at hitems
  rw [scanArray, hcs]
  split
  · exact absurd (List.cons.inj ‹_›).1 hc
  · exact hitems

theorem Member.start_append (m : Member) (cs : List Char) :
    m.start ++ cs = m.quoted ++ '"' :: (m.gap ++ ':' :: (m.before ++ cs)) := by
  simp [Member.start]

/-- The colon is found behind white space. -/
theorem scanColon_blank {ws : List Char} (h : IsBlank ws) (cs : List Char) :
    scanColon (ws ++ ':' :: cs) = .ok cs := by
  rw [scanColon, skipSpace_append h, skipSpace_cons (by decide)]
  rfl

/-- **A member whose value is kept as a tree.** -/
theorem readsMember_value {m : Member} (spaced : m.Spaced)
    (hread : ∀ rest, endsValue rest = true →
      scanValue depth (m.text ++ rest) = .ok (m.value, rest)) :
    ReadsMember (fun _ => scanString)
      (fun name entries cs => do
        let (v, cs) ← scanValue depth cs
        .ok ((name, v) :: entries, cs))
      (fun m (entries : List (String × Value)) => some ((m.name, m.value) :: entries)) m := by
  intro entries rest hrest
  simp only [Member.start_append, bind, Except.bind, scanString_of_spells spaced.quoted,
    scanColon_blank spaced.gap, scanValue_blank spaced.before, hread rest hrest]
  rfl

/-- Members that are all kept are kept in reverse. -/
theorem foldlM_keep (members : List Member) (entries : List (String × Value)) :
    members.foldlM (fun entries m => some ((m.name, m.value) :: entries)) entries
      = some ((members.map fun m => (m.name, m.value)).reverse ++ entries) := by
  induction members generalizing entries with
  | nil => rfl
  | cons m members ih =>
    rw [List.foldlM_cons]
    exact (ih _).trans (by simp)

/-- **Whatever is spelled is read**, up to what stands behind it. -/
theorem Spells.scan (h : Spells depth text v) {rest : List Char} (hrest : endsValue rest = true) :
    scanValue depth (text ++ rest) = .ok (v, rest) := by
  induction h generalizing rest with
  | null => exact (scanValue_single (by decide) (by decide) (by decide)).trans rfl
  | yes => exact (scanValue_single (by decide) (by decide) (by decide)).trans rfl
  | no => exact (scanValue_single (by decide) (by decide) (by decide)).trans rfl
  | whole whole fits => exact scanValue_number (scanNumber_whole whole false fits) hrest
  | @negative depth ds whole pos fits =>
    have hlarge : decimal ds ≤ Numeral.max64 := Nat.le_trans fits (by decide)
    have hvalue : wholeValue true (decimal ds) = .integer (-decimal ds) := by
      rw [wholeValue, if_neg (by simp), if_neg (by omega)]
    have hread := scanNumber_whole whole true hlarge
    rw [hvalue] at hread
    exact scanValue_number hread hrest
  | real number => exact scanValue_number number hrest
  | @text depth t s chars =>
    refine (scanValue_single (by decide) (by decide) (by decide)).trans ?_
    change (scanString (t ++ ['"'] ++ rest) >>= fun r => .ok (.text r.1, r.2) :
      Scan (Value × List Char)) = _
    rw [List.append_assoc, List.singleton_append, scanString_of_spells chars]
    rfl
  | @emptyList depth ws blank =>
    have hend : skipSpace (ws ++ [']'] ++ rest) = ']' :: rest := by
      rw [List.append_assoc, skipSpace_append blank]
      exact skipSpace_cons (by decide) rest
    rw [List.cons_append, scanValue_bracket, scanArray, hend]
    rfl
  | @list depth items nonempty spaced values ih =>
    rw [List.cons_append, List.append_assoc, List.singleton_append, scanValue_bracket,
      scanArray_items nonempty spaced values fun i hi rest hrest => ih i hi hrest]
    simp [bind, Except.bind]
  | @emptyTable depth ws blank =>
    rw [List.cons_append, List.append_assoc, List.singleton_append, scanValue_brace,
      scanObject_blank blank]
    rfl
  | @table depth members nonempty spaced values ih =>
    have hmembers := scanObject_members nonempty spaced
      (fun m hm => readsMember_value (spaced m hm) fun rest hrest => ih m hm hrest) [] rest
    rw [foldlM_keep, List.append_nil] at hmembers
    rw [List.cons_append, List.append_assoc, List.singleton_append, scanValue_brace,
      toOption_eq_some_iff.mp hmembers]
    simp [bind, Except.bind]

/-- What is read whole is what is read, when only white space is left. -/
theorem readWhole_toOption {α : Type} {scan : List Char → Scan (α × List Char)} {o : Option α}
    {trail : List Char} (htrail : IsBlank trail) (h : (scan cs).toOption = o.map (·, trail)) :
    (readWhole scan cs).toOption = o := by
  rw [readWhole, toOption_bind, h]
  cases o with
  | none => rfl
  | some a => simp [skipSpace_blank htrail, Except.toOption]

/-- **A spelled text is read whole**, with white space around. -/
theorem Spells.readWhole (h : Spells depth text v) {lead trail : List Char} (hlead : IsBlank lead)
    (htrail : IsBlank trail) :
    readWhole (scanValue depth) (lead ++ (text ++ trail)) = .ok v := by
  refine toOption_eq_some_iff.mp (readWhole_toOption htrail ?_)
  rw [scanValue_blank hlead, h.scan (endsValue_blank htrail)]
  rfl

end

end ChatFeed.Json
