import ChatFeed.Proofs.Json.Grammar

/-!
# Proofs/Json/Recognition — whatever is read is spelled

The grammar is no narrower than the reader: what a scanner gives has been spelled by the text that
it took (`exists_spelled`), so a text denotes a value exactly when it is read as that value
(`denotes_iff`).

A number is taken apart in two ways.  A whole number is spelled by its digits; of any other one it
is enough to know that the text it took is read by itself to the same value, with nothing left
(`scanNumber_used`).
-/

namespace ChatFeed.Json

open Data

/-- What goes on after a step was read after it. -/
theorem exists_of_bind {α β : Type} {x : Scan α} {f : α → Scan β} {b : β}
    (h : (x >>= f) = .ok b) : ∃ a, x = .ok a ∧ f a = .ok b := by
  cases x with
  | error e => cases h
  | ok a => exact ⟨a, rfl, h⟩

/-! ## White space and words -/

/-- Text is white space and what is at its next token. -/
theorem exists_blank (cs : List Char) : ∃ ws, IsBlank ws ∧ cs = ws ++ skipSpace cs :=
  ⟨cs.takeWhile isSpace, fun _ hc => List.mem_takeWhile_imp hc,
    (List.takeWhile_append_dropWhile).symm⟩

theorem eq_append_of_scanWord {ws cs rest : List Char} (h : scanWord ws cs = .ok rest) :
    cs = ws ++ rest := by
  induction ws generalizing cs with
  | nil =>
    cases h
    rfl
  | cons w ws ih =>
    cases cs with
    | nil => cases h
    | cons c cs =>
      rw [scanWord] at h
      by_cases hw : w = c
      · rw [if_pos hw] at h
        rw [hw, ih h, List.cons_append]
      · rw [if_neg hw] at h
        cases h

/-! ## Strings -/

theorem exists_of_scanQuad {n : Nat} {cs rest : List Char} (h : scanQuad cs = .ok (n, rest)) :
    ∃ a b c d, cs = a :: b :: c :: d :: rest ∧ hexQuad? a b c d = some n := by
  rcases cs with _ | ⟨a, _ | ⟨b, _ | ⟨c, _ | ⟨d, cs⟩⟩⟩⟩
  · cases h
  · cases h
  · cases h
  · cases h
  rw [scanQuad] at h
  cases hquad : hexQuad? a b c d with
  | none =>
    rw [hquad] at h
    cases h
  | some m =>
    rw [hquad] at h
    cases h
    exact ⟨a, b, c, d, rfl, hquad⟩

theorem exists_of_scanUnicode {e : Char} {cs rest : List Char}
    (h : scanUnicode cs = .ok (e, rest)) :
    ∃ t, cs = t ++ rest ∧ SpellsChar ('\\' :: 'u' :: t) e := by
  rw [scanUnicode] at h
  obtain ⟨⟨n, more⟩, hquad, hn⟩ := exists_of_bind h
  obtain ⟨a, b, c, d, rfl, quad⟩ := exists_of_scanQuad hquad
  dsimp only at hn
  by_cases htrailing : isTrailing n = true
  · rw [if_pos htrailing] at hn
    cases hn
  rw [if_neg htrailing] at hn
  by_cases hleading : isLeading n = true
  · rw [if_neg (by simp [hleading])] at hn
    split at hn
    · cases hn
    · cases hn
    · obtain ⟨⟨m, more⟩, hquad', hm⟩ := exists_of_bind hn
      obtain ⟨a', b', c', d', rfl, quad'⟩ := exists_of_scanQuad hquad'
      dsimp only at hm
      by_cases htrailing' : isTrailing m = true
      · rw [if_pos htrailing'] at hm
        obtain ⟨rfl, rfl⟩ := Prod.mk.inj (Except.ok.inj hm)
        exact ⟨[a, b, c, d, '\\', 'u', a', b', c', d'], rfl, .pair quad hleading quad' htrailing'⟩
      · rw [if_neg htrailing'] at hm
        cases hm
    · cases hn
  · rw [if_pos (by simp [hleading])] at hn
    obtain ⟨rfl, rfl⟩ := Prod.mk.inj (Except.ok.inj hn)
    exact ⟨[a, b, c, d], rfl, .number quad (by simpa using hleading) (by simpa using htrailing)⟩

theorem exists_of_scanEscape {e : Char} {cs rest : List Char} (h : scanEscape cs = .ok (e, rest)) :
    ∃ t, cs = t ++ rest ∧ SpellsChar ('\\' :: t) e := by
  rcases cs with _ | ⟨c, cs⟩
  · cases h
  rw [scanEscape] at h
  by_cases hu : c = 'u'
  · subst hu
    rw [if_pos rfl] at h
    obtain ⟨t, rfl, ht⟩ := exists_of_scanUnicode h
    exact ⟨'u' :: t, rfl, ht⟩
  · rw [if_neg hu] at h
    cases hescape : escaped? c with
    | none =>
      rw [hescape] at h
      cases h
    | some x =>
      rw [hescape] at h
      cases h
      exact ⟨[c], rfl, .letter hescape⟩

theorem exists_of_scanChars {room : Nat} {s cs rest : List Char}
    (h : scanChars room cs = .ok (s, rest)) : ∃ t, cs = t ++ '"' :: rest ∧ SpellsChars t s := by
  induction room generalizing cs s with
  | zero => cases cs <;> cases h
  | succ room ih =>
    rcases cs with _ | ⟨c, cs⟩
    · cases h
    have hmore : ∀ {t cs' : List Char} {e : Char}, SpellsChar t e → c :: cs = t ++ cs' →
        ((scanChars room cs' >>= fun r => .ok (e :: r.1, r.2) : Scan (List Char × List Char))
          = .ok (s, rest)) →
        ∃ t, c :: cs = t ++ '"' :: rest ∧ SpellsChars t s := by
      intro t cs' e ht hcs h
      obtain ⟨⟨more, left⟩, hchars, h⟩ := exists_of_bind h
      obtain ⟨rfl, rfl⟩ := Prod.mk.inj (Except.ok.inj h)
      obtain ⟨t', rfl, ht'⟩ := ih hchars
      exact ⟨t ++ t', by rw [hcs, List.append_assoc], .cons ht ht'⟩
    rw [scanChars] at h
    by_cases hquote : c = '"'
    · rw [if_pos hquote] at h
      cases h
      exact ⟨[], by rw [hquote]; rfl, .nil⟩
    rw [if_neg hquote] at h
    by_cases hslash : c = '\\'
    · rw [if_pos hslash] at h
      obtain ⟨⟨e, left⟩, hescape, hchars⟩ := exists_of_bind h
      obtain ⟨t, rfl, ht⟩ := exists_of_scanEscape hescape
      exact hmore ht (by rw [hslash]; rfl) hchars
    rw [if_neg hslash] at h
    by_cases hcontrol : isControl c = true
    · rw [if_pos hcontrol] at h
      cases h
    · rw [if_neg hcontrol] at h
      exact hmore (.plain hquote hslash (by simpa using hcontrol)) rfl h

/-- **A string that is read was spelled**, up to its closing quote. -/
theorem exists_of_scanString {s : String} {cs rest : List Char}
    (h : scanString cs = .ok (s, rest)) :
    ∃ t, cs = t ++ '"' :: rest ∧ SpellsChars t s.toList := by
  rw [scanString] at h
  obtain ⟨⟨chars, left⟩, hchars, h⟩ := exists_of_bind h
  obtain ⟨rfl, rfl⟩ := Prod.mk.inj (Except.ok.inj h)
  simpa using exists_of_scanChars hchars

/-! ## Numbers -/

theorem eq_append_of_spanDigits {cs ds more : List Char} (h : spanDigits cs = (ds, more)) :
    cs = ds ++ more := by
  cases h
  exact List.takeWhile_append_dropWhile.symm

theorem isDigit_of_spanDigits {cs ds more : List Char} (h : spanDigits cs = (ds, more)) :
    ∀ d ∈ ds, d.isDigit = true := by
  cases h
  exact fun _ hd => List.mem_takeWhile_imp hd

/-- No digits come up where the text behind the digits is cut short. -/
theorem spanDigits_used {cs ds used rest : List Char} (h : spanDigits cs = (ds, used ++ rest)) :
    spanDigits (ds ++ used) = (ds, used) := by
  have hds := isDigit_of_spanDigits h
  have hmore : cs.dropWhile Char.isDigit = used ++ rest := congrArg Prod.snd h
  rw [spanDigits, List.takeWhile_append_of_pos hds, List.dropWhile_append_of_pos hds]
  cases used with
  | nil => simp
  | cons c used =>
    have hc : c.isDigit = false := by
      have hhead := List.head?_dropWhile_not Char.isDigit cs
      rw [hmore] at hhead
      simpa using hhead
    simp [hc]

theorem exists_of_exponentLetter? {cs power : List Char} (h : exponentLetter? cs = some power) :
    ∃ e, cs = e :: power ∧ ∀ cs, exponentLetter? (e :: cs) = some cs := by
  unfold exponentLetter? at h
  split at h
  · cases h
    exact ⟨_, rfl, fun _ => rfl⟩
  · cases h
    exact ⟨_, rfl, fun _ => rfl⟩
  · cases h

/-- **A scanner of doubles**: what it reads is a double, and the text it takes is read by itself as
the same one. -/
def TakesReal (scan : List Char → Scan (Value × List Char)) : Prop :=
  ∀ {cs v rest}, scan cs = .ok (v, rest) →
    (∃ d, v = .real d) ∧ ∃ used, cs = used ++ rest ∧ scan used = .ok (v, [])

section

variable {negative : Bool} {significand : Nat} {start : Int}

/-- The value of a double takes no text. -/
theorem realValue_eq_ok {cs rest : List Char} {v : Value}
    (h : realValue negative significand start cs = .ok (v, rest)) :
    (∃ d, v = .real d) ∧ rest = cs
      ∧ realValue negative significand start [] = .ok (v, []) := by
  unfold realValue at h ⊢
  cases hscale : scale significand start with
  | none =>
    rw [hscale] at h
    cases h
  | some size =>
    rw [hscale] at h
    cases h
    exact ⟨⟨_, rfl⟩, rfl, rfl⟩

theorem takesReal_scanPower {down : Bool} :
    TakesReal (scanPower negative significand start down) := by
  intro cs v rest h
  rcases hspan : spanDigits cs with ⟨_ | ⟨d, ds⟩, more⟩
  · unfold scanPower at h
    rw [hspan] at h
    cases more <;> cases h
  have hcs := eq_append_of_spanDigits hspan
  have hused : spanDigits (d :: ds) = (d :: ds, []) :=
    spanDigits_of_digits (isDigit_of_spanDigits hspan)
  unfold scanPower at h
  rw [hspan] at h
  dsimp only at h
  cases hsmall : smallExponent? (d :: ds) with
  | some n =>
    rw [hsmall] at h
    obtain ⟨hreal, rfl, hvalue⟩ := realValue_eq_ok h
    refine ⟨hreal, d :: ds, hcs, ?_⟩
    unfold scanPower
    rw [hused]
    dsimp only
    rw [hsmall]
    exact hvalue
  | none =>
    rw [hsmall] at h
    dsimp only at h
    by_cases hlarge : significand ≠ 0 ∧ !down
    · rw [if_pos hlarge] at h
      cases h
    · rw [if_neg hlarge] at h
      cases h
      refine ⟨⟨_, rfl⟩, d :: ds, hcs, ?_⟩
      unfold scanPower
      rw [hused]
      dsimp only
      rw [hsmall]
      exact if_neg hlarge

theorem takesReal_scanExponent : TakesReal (scanExponent negative significand start) := by
  intro cs v rest h
  rcases cs with _ | ⟨c, cs⟩
  · cases h
  by_cases hplus : c = '+'
  · subst hplus
    obtain ⟨hreal, used, rfl, hused⟩ := takesReal_scanPower h
    exact ⟨hreal, '+' :: used, rfl, hused⟩
  by_cases hminus : c = '-'
  · subst hminus
    obtain ⟨hreal, used, rfl, hused⟩ := takesReal_scanPower h
    exact ⟨hreal, '-' :: used, rfl, hused⟩
  rw [scanExponent_unsigned hplus hminus] at h
  obtain ⟨hreal, used, hcs, hused⟩ := takesReal_scanPower h
  rcases used with _ | ⟨c', used⟩
  · cases hused
  obtain ⟨rfl, rfl⟩ := List.cons.inj hcs
  exact ⟨hreal, c :: used, rfl, (scanExponent_unsigned hplus hminus used).trans hused⟩

theorem takesReal_scanFraction : TakesReal (scanFraction negative significand start) := by
  intro cs v rest h
  rcases hspan : spanDigits cs with ⟨_ | ⟨d, ds⟩, more⟩
  · unfold scanFraction at h
    rw [hspan] at h
    cases more <;> cases h
  have hcs := eq_append_of_spanDigits hspan
  unfold scanFraction at h
  rw [hspan] at h
  dsimp only at h
  cases hletter : exponentLetter? more with
  | some power =>
    rw [hletter] at h
    obtain ⟨e, rfl, he⟩ := exists_of_exponentLetter? hletter
    obtain ⟨hreal, used, rfl, hpower⟩ := takesReal_scanExponent h
    refine ⟨hreal, (d :: ds) ++ e :: used, by simp [hcs], ?_⟩
    unfold scanFraction
    rw [spanDigits_used (hspan.trans (by rw [← List.cons_append]))]
    dsimp only
    rw [he]
    exact hpower
  | none =>
    rw [hletter] at h
    obtain ⟨hreal, rfl, hvalue⟩ := realValue_eq_ok h
    refine ⟨hreal, d :: ds, hcs, ?_⟩
    unfold scanFraction
    rw [spanDigits_of_digits (isDigit_of_spanDigits hspan)]
    exact hvalue

/-- **What follows the first digits** makes a double, or nothing does and all digits fit. -/
theorem exists_of_scanDecimal {ds cs rest : List Char} {v : Value}
    (h : scanDecimal negative ds cs = .ok (v, rest)) :
    ∃ used, cs = used ++ rest ∧ scanDecimal negative ds used = .ok (v, [])
      ∧ ((∃ d, v = .real d)
        ∨ used = [] ∧ (fitDigits 0 ds).2 = [] ∧ v = wholeValue negative (fitDigits 0 ds).1) := by
  by_cases hpoint : ∃ more, cs = '.' :: more
  · obtain ⟨more, rfl⟩ := hpoint
    obtain ⟨hreal, used, rfl, hused⟩ := takesReal_scanFraction h
    exact ⟨'.' :: used, rfl, hused, .inl hreal⟩
  have hdecimal : ∀ cs', (¬ ∃ more, cs' = '.' :: more) → scanDecimal negative ds cs'
      = (exponentLetter? cs').elim
          (if (fitDigits 0 ds).2.isEmpty then .ok (wholeValue negative (fitDigits 0 ds).1, cs')
          else realValue negative (fitDigits 0 ds).1 (fitDigits 0 ds).2.length cs')
          (scanExponent negative (fitDigits 0 ds).1 (fitDigits 0 ds).2.length) := by
    intro cs' hcs'
    unfold scanDecimal
    dsimp only
    split
    · exact absurd ⟨_, rfl⟩ hcs'
    · cases exponentLetter? cs' <;> rfl
  have hnil : ¬ ∃ more : List Char, [] = '.' :: more := by simp
  rw [hdecimal cs hpoint] at h
  cases hletter : exponentLetter? cs with
  | some power =>
    rw [hletter] at h
    obtain ⟨e, rfl, he⟩ := exists_of_exponentLetter? hletter
    obtain ⟨hreal, used, rfl, hpower⟩ := takesReal_scanExponent h
    refine ⟨e :: used, rfl, ?_, .inl hreal⟩
    rw [hdecimal _ (by rintro ⟨more, hmore⟩; exact hpoint ⟨_, by rw [(List.cons.inj hmore).1]⟩), he]
    exact hpower
  | none =>
    rw [hletter, Option.elim_none] at h
    by_cases hall : (fitDigits 0 ds).2.isEmpty = true
    · rw [if_pos hall] at h
      obtain ⟨rfl, rfl⟩ := Prod.mk.inj (Except.ok.inj h)
      refine ⟨[], rfl, ?_, .inr ⟨rfl, by simpa using hall, rfl⟩⟩
      rw [hdecimal [] hnil]
      exact if_pos hall
    · rw [if_neg hall] at h
      obtain ⟨hreal, rfl, hvalue⟩ := realValue_eq_ok h
      refine ⟨[], rfl, ?_, .inl hreal⟩
      rw [hdecimal [] hnil]
      exact (if_neg hall).trans hvalue

/-- Digits that are all taken fit, and make their number. -/
theorem fitDigits_eq_nil {acc : Nat} {ds : List Char} (hacc : acc ≤ Numeral.max64)
    (h : (fitDigits acc ds).2 = []) : (fitDigits acc ds).1 = Nat.ofDigitChars 10 ds acc
      ∧ Nat.ofDigitChars 10 ds acc ≤ Numeral.max64 := by
  induction ds generalizing acc with
  | nil => exact ⟨rfl, hacc⟩
  | cons d ds ih =>
    rw [fitDigits] at h ⊢
    by_cases hnext : 10 * acc + Numeral.digitValue d ≤ Numeral.max64
    · rw [if_pos hnext] at h ⊢
      exact ih hnext h
    · rw [if_neg hnext] at h
      cases h

/-- **A number that is read** takes a text that is read by itself as the same one: as a double, or
as a whole number from its digits. -/
theorem exists_of_scanNumber {cs rest : List Char} {v : Value}
    (h : scanNumber negative cs = .ok (v, rest)) :
    ∃ used, cs = used ++ rest ∧ scanNumber negative used = .ok (v, [])
      ∧ ((∃ d, v = .real d) ∨ IsWhole used ∧ decimal used ≤ Numeral.max64
        ∧ v = wholeValue negative (decimal used)) := by
  rcases hspan : spanDigits cs with ⟨_ | ⟨d, ds⟩, more⟩
  · unfold scanNumber at h
    rw [hspan] at h
    cases more <;> cases h
  rw [scanNumber_of_digits hspan] at h
  by_cases hzero : d = '0' ∧ ds ≠ []
  · rw [if_pos hzero] at h
    cases h
  rw [if_neg hzero] at h
  obtain ⟨used, rfl, hused, hform⟩ := exists_of_scanDecimal h
  have hcs := eq_append_of_spanDigits hspan
  refine ⟨(d :: ds) ++ used, by rw [hcs, List.append_assoc], ?_, ?_⟩
  · rw [scanNumber_of_digits (spanDigits_used hspan), if_neg hzero]
    exact hused
  · refine hform.imp_right ?_
    rintro ⟨rfl, hleft, rfl⟩
    obtain ⟨hvalue, hfits⟩ := fitDigits_eq_nil (Nat.zero_le _) hleft
    rw [List.append_nil]
    refine ⟨⟨isDigit_of_spanDigits hspan, List.cons_ne_nil _ _, fun hhead => ?_⟩, hfits,
      by rw [hvalue]; rfl⟩
    obtain rfl : d = '0' := Option.some.inj hhead
    rw [Decidable.not_not.mp fun hds => hzero ⟨rfl, hds⟩]

/-- **A number that is read was spelled.** -/
theorem exists_spelled_number {cs rest : List Char} {v : Value}
    (h : scanNumber negative cs = .ok (v, rest)) (depth : Nat) :
    ∃ used, cs = used ++ rest ∧ Spells depth (if negative then '-' :: used else used) v := by
  obtain ⟨used, hcs, hused, ⟨d, rfl⟩ | ⟨whole, fits, rfl⟩⟩ := exists_of_scanNumber h
  · exact ⟨used, hcs, .real hused⟩
  refine ⟨used, hcs, ?_⟩
  cases negative with
  | false => exact .whole whole fits
  | true =>
    by_cases hsize : decimal used = 0 ∨ 0x8000_0000_0000_0000 < decimal used
    · have hreal : wholeValue true (decimal used) = .real (.finite true
          ((Magnitude.ofNat (decimal used)).getD Magnitude.zero)) := by
        rw [wholeValue, if_neg (by simp), if_pos hsize]
      rw [hreal] at hused ⊢
      exact .real hused
    · have hinteger : wholeValue true (decimal used) = .integer (-decimal used) := by
        rw [wholeValue, if_neg (by simp), if_neg hsize]
      rw [hinteger]
      exact .negative whole (by omega) (by omega)

end

/-! ## Values -/

variable {depth : Nat} {cs rest : List Char} {v : Value}

theorem exists_spelled_single (h : scanSingle cs = .ok (v, rest)) (depth : Nat) :
    ∃ body, cs = body ++ rest ∧ Spells depth body v := by
  have hword : ∀ {c : Char} {word more : List Char} {w : Value},
      ((do .ok (w, ← scanWord word more) : Scan (Value × List Char)) = .ok (v, rest)) →
      Spells depth (c :: word) w → ∃ body, c :: more = body ++ rest ∧ Spells depth body v := by
    intro c word more w h hw
    obtain ⟨left, hmore, h⟩ := exists_of_bind h
    obtain ⟨rfl, rfl⟩ := Prod.mk.inj (Except.ok.inj h)
    exact ⟨c :: word, by rw [eq_append_of_scanWord hmore]; rfl, hw⟩
  unfold scanSingle at h
  split at h
  · cases h
  · exact hword h .null
  · exact hword h .yes
  · exact hword h .no
  · obtain ⟨used, rfl, hused⟩ := exists_spelled_number h depth
    exact ⟨'-' :: used, rfl, hused⟩
  · obtain ⟨⟨s, left⟩, hstring, h⟩ := exists_of_bind h
    obtain ⟨rfl, rfl⟩ := Prod.mk.inj (Except.ok.inj h)
    obtain ⟨t, rfl, ht⟩ := exists_of_scanString hstring
    exact ⟨'"' :: (t ++ ['"']), by simp, .text ht⟩
  · rename_i c more _ _ _ _ _
    by_cases hc : c.isDigit = true
    · rw [if_pos hc] at h
      obtain ⟨used, hcs, hused⟩ := exists_spelled_number h depth
      exact ⟨used, hcs, hused⟩
    · rw [if_neg hc] at h
      cases h

/-- **Whatever is read at a depth was spelled**, behind white space. -/
def Recognizes (depth : Nat) : Prop :=
  ∀ {cs v rest}, scanValue depth cs = .ok (v, rest) →
    ∃ lead body, IsBlank lead ∧ cs = lead ++ (body ++ rest) ∧ Spells depth body v

/-- **The elements of an array** that are read were spelled, up to the closing bracket. -/
theorem exists_items (hdepth : Recognizes depth) {room : Nat} {vs vs' : List Value}
    (h : scanElements (fun items cs => do
        let (v, cs) ← scanValue depth cs
        .ok (v :: items, cs)) room vs cs = .ok (vs', rest)) :
    ∃ items : List Item, items ≠ [] ∧ (∀ i ∈ items, i.Spaced)
      ∧ (∀ i ∈ items, Spells depth i.text i.value)
      ∧ cs = separated (items.map Item.written) ++ ']' :: rest
      ∧ vs' = (items.map Item.value).reverse ++ vs := by
  induction room generalizing vs cs with
  | zero => cases h
  | succ room ih =>
    rw [scanElements] at h
    obtain ⟨⟨items, left'⟩, hitem, hloop⟩ := exists_of_bind h
    obtain ⟨⟨v, left⟩, hvalue, hkept⟩ := exists_of_bind hitem
    obtain ⟨rfl, rfl⟩ := Prod.mk.inj (Except.ok.inj hkept)
    obtain ⟨before, text, hbefore, rfl, htext⟩ := hdepth hvalue
    obtain ⟨after, hafter, hleft⟩ := exists_blank left
    dsimp only at hloop
    rcases hbehind : skipSpace left with _ | ⟨c, behind⟩
    · rw [hbehind] at hloop
      cases hloop
    rw [hbehind] at hloop hleft
    subst hleft
    let i : Item := ⟨before, text, after, v⟩
    have hi : i.Spaced := ⟨hbefore, hafter⟩
    have hwritten : ∀ cs, before ++ (text ++ (after ++ cs)) = i.written ++ cs := fun cs => by
      simp [i, Item.written]
    by_cases hend : c = ']'
    · subst hend
      obtain ⟨rfl, rfl⟩ := Prod.mk.inj (Except.ok.inj hloop)
      exact ⟨[i], List.cons_ne_nil _ _, by simpa using hi, by simpa [i] using htext,
        hwritten _, rfl⟩
    by_cases hcomma : c = ','
    · subst hcomma
      obtain ⟨items, hne, spaced, values, rfl, rfl⟩ := ih hloop
      obtain ⟨next, items, rfl⟩ := List.exists_cons_of_ne_nil hne
      refine ⟨i :: next :: items, List.cons_ne_nil _ _, List.forall_mem_cons.mpr ⟨hi, spaced⟩,
        List.forall_mem_cons.mpr ⟨htext, values⟩, ?_, ?_⟩
      · rw [hwritten]
        simp only [List.map_cons, separated_cons_cons, List.append_assoc, List.cons_append]
      · simp [i]
    · split at hloop
      · cases ‹_ :: _ = []›
      · exact absurd (List.cons.inj ‹_›).1 hend
      · exact absurd (List.cons.inj ‹_›).1 hcomma
      · cases hloop

/-- The text behind a colon was separated from what is in front of it. -/
theorem exists_of_scanColon (h : scanColon cs = .ok rest) :
    ∃ ws, IsBlank ws ∧ cs = ws ++ ':' :: rest := by
  obtain ⟨ws, hws, hcs⟩ := exists_blank cs
  rw [scanColon] at h
  split at h
  · cases h
  · rename_i more hskip
    cases h
    exact ⟨ws, hws, by rw [← hskip]; exact hcs⟩
  · cases h

/-- **The entries of an object** that are read were spelled, up to the closing brace. -/
theorem exists_members (hdepth : Recognizes depth) {room : Nat}
    {es es' : List (String × Value)}
    (h : scanEntries (fun _ => scanString)
      (fun name entries cs => do
        let (v, cs) ← scanValue depth cs
        .ok ((name, v) :: entries, cs)) room es cs = .ok (es', rest)) :
    ∃ members : List Member, members ≠ [] ∧ (∀ m ∈ members, m.Spaced)
      ∧ (∀ m ∈ members, Spells depth m.text m.value)
      ∧ cs = separated (members.map Member.written) ++ '\x7d' :: rest
      ∧ es' = (members.map fun m => (m.name, m.value)).reverse ++ es := by
  induction room generalizing es cs with
  | zero => cases h
  | succ room ih =>
    obtain ⟨lead, hlead, hcs⟩ := exists_blank cs
    rw [scanEntries] at h
    rcases hskip : skipSpace cs with _ | ⟨q, start⟩
    · rw [hskip] at h
      cases h
    rw [hskip] at h hcs
    by_cases hq : q = '"'
    · subst hq
      obtain ⟨⟨name, more⟩, hname, hstep⟩ := exists_of_bind h
      obtain ⟨more', hcolon, hstep'⟩ := exists_of_bind hstep
      obtain ⟨⟨entries, left'⟩, hentry, hloop⟩ := exists_of_bind hstep'
      obtain ⟨⟨v, left⟩, hvalue, hkept⟩ := exists_of_bind hentry
      obtain ⟨rfl, rfl⟩ := Prod.mk.inj (Except.ok.inj hkept)
      obtain ⟨quoted, rfl, hquoted⟩ := exists_of_scanString hname
      obtain ⟨gap, hgap, rfl⟩ := exists_of_scanColon hcolon
      obtain ⟨before, text, hbefore, rfl, htext⟩ := hdepth hvalue
      obtain ⟨after, hafter, hleft⟩ := exists_blank left
      dsimp only at hloop
      rcases hbehind : skipSpace left with _ | ⟨c, behind⟩
      · rw [hbehind] at hloop
        cases hloop
      rw [hbehind] at hloop hleft
      subst hcs hleft
      let m : Member := ⟨⟨before, text, after, v⟩, lead, quoted, name, gap⟩
      have hm : m.Spaced := ⟨⟨hbefore, hafter⟩, hlead, hgap, hquoted⟩
      have hwritten : ∀ cs, lead ++ '"' :: (quoted ++ '"' :: (gap ++ ':' :: (before ++ (text
          ++ (after ++ cs))))) = m.written ++ cs := fun cs => by
        simp [m, Member.written, Member.start]
      by_cases hend : c = '\x7d'
      · subst hend
        obtain ⟨rfl, rfl⟩ := Prod.mk.inj (Except.ok.inj hloop)
        exact ⟨[m], List.cons_ne_nil _ _, by simpa using hm, by simpa [m] using htext,
          hwritten _, rfl⟩
      by_cases hcomma : c = ','
      · subst hcomma
        obtain ⟨members, hne, spaced, values, rfl, rfl⟩ := ih hloop
        obtain ⟨next, members, rfl⟩ := List.exists_cons_of_ne_nil hne
        refine ⟨m :: next :: members, List.cons_ne_nil _ _, List.forall_mem_cons.mpr ⟨hm, spaced⟩,
          List.forall_mem_cons.mpr ⟨htext, values⟩, ?_, ?_⟩
        · rw [hwritten]
          simp only [List.map_cons, separated_cons_cons, List.append_assoc, List.cons_append]
        · simp [m]
      · split at hloop
        · cases ‹_ :: _ = []›
        · exact absurd (List.cons.inj ‹_›).1 hend
        · exact absurd (List.cons.inj ‹_›).1 hcomma
        · cases hloop
    · split at h
      · cases ‹_ :: _ = []›
      · exact absurd (List.cons.inj ‹_›).1 hq
      · cases h

theorem exists_spelled_list (hdepth : Recognizes depth) {vs : List Value}
    (h : scanArray (fun items cs => do
        let (v, cs) ← scanValue depth cs
        .ok (v :: items, cs)) [] cs = .ok (vs, rest)) :
    ∃ body, '[' :: cs = body ++ rest ∧ Spells (depth + 1) body (.list vs.reverse) := by
  rw [scanArray] at h
  split at h
  · rename_i more hskip
    obtain ⟨rfl, rfl⟩ := Prod.mk.inj (Except.ok.inj h)
    obtain ⟨ws, hws, hcs⟩ := exists_blank cs
    rw [hskip] at hcs
    exact ⟨'[' :: (ws ++ [']']), by simp [hcs], .emptyList hws⟩
  · obtain ⟨items, hne, spaced, values, hcs, rfl⟩ := exists_items hdepth h
    refine ⟨'[' :: (separated (items.map Item.written) ++ [']']), by simp [hcs], ?_⟩
    simpa using Spells.list hne spaced values

theorem exists_spelled_table (hdepth : Recognizes depth) {es : List (String × Value)}
    (h : scanObject (fun _ => scanString)
      (fun name entries cs => do
        let (v, cs) ← scanValue depth cs
        .ok ((name, v) :: entries, cs)) [] cs = .ok (es, rest)) :
    ∃ body, '\x7b' :: cs = body ++ rest ∧ Spells (depth + 1) body (.table es.reverse) := by
  rw [scanObject] at h
  split at h
  · rename_i more hskip
    obtain ⟨rfl, rfl⟩ := Prod.mk.inj (Except.ok.inj h)
    obtain ⟨ws, hws, hcs⟩ := exists_blank cs
    rw [hskip] at hcs
    exact ⟨'\x7b' :: (ws ++ ['\x7d']), by simp [hcs], .emptyTable hws⟩
  · obtain ⟨members, hne, spaced, values, hcs, rfl⟩ := exists_members hdepth h
    refine ⟨'\x7b' :: (separated (members.map Member.written) ++ ['\x7d']), by simp [hcs], ?_⟩
    simpa using Spells.table hne spaced values

/-- **Whatever is read was spelled**, at any depth. -/
theorem recognizes (depth : Nat) : Recognizes depth := by
  induction depth with
  | zero =>
    intro cs v rest h
    obtain ⟨lead, hlead, hcs⟩ := exists_blank cs
    unfold scanValue at h
    obtain ⟨body, hbody, hspells⟩ := exists_spelled_single h 0
    exact ⟨lead, body, hlead, by rw [← hbody]; exact hcs, hspells⟩
  | succ depth ih =>
    intro cs v rest h
    obtain ⟨lead, hlead, hcs⟩ := exists_blank cs
    suffices hbody : ∃ body, skipSpace cs = body ++ rest ∧ Spells (depth + 1) body v by
      obtain ⟨body, hbody, hspells⟩ := hbody
      exact ⟨lead, body, hlead, by rw [← hbody]; exact hcs, hspells⟩
    unfold scanValue at h
    split at h
    · rename_i more hskip
      obtain ⟨⟨vs, left⟩, hlist, h⟩ := exists_of_bind h
      obtain ⟨rfl, rfl⟩ := Prod.mk.inj (Except.ok.inj h)
      rw [hskip]
      exact exists_spelled_list ih hlist
    · rename_i more hskip
      obtain ⟨⟨es, left⟩, htable, h⟩ := exists_of_bind h
      obtain ⟨rfl, rfl⟩ := Prod.mk.inj (Except.ok.inj h)
      rw [hskip]
      exact exists_spelled_table ih htable
    · exact exists_spelled_single h _

/-- **A text denotes a value exactly when it is read as that value.** -/
theorem denotes_iff {text : String} :
    Denotes text v ↔ readWhole (scanValue topDepth) text.toList = .ok v := by
  constructor
  · rintro ⟨lead, body, trail, htext, hlead, htrail, hbody⟩
    rw [htext, hbody.readWhole hlead htrail]
  · intro h
    obtain ⟨⟨w, trail⟩, hread, hend⟩ := exists_of_bind h
    obtain ⟨lead, body, hlead, htext, hbody⟩ := recognizes topDepth hread
    dsimp only at hend
    by_cases hempty : (skipSpace trail).isEmpty = true
    · rw [if_pos hempty] at hend
      cases hend
      obtain ⟨ws, hws, htrail⟩ := exists_blank trail
      rw [List.isEmpty_iff.mp hempty, List.append_nil] at htrail
      exact ⟨lead, body, trail, htext, hlead, htrail ▸ hws, hbody⟩
    · rw [if_neg hempty] at hend
      cases hend

/-- **The grammar is unambiguous**: a text denotes one value at most. -/
theorem Denotes.unique {text : String} {w : Value} (h : Denotes text v) (h' : Denotes text w) :
    v = w := Except.ok.inj ((denotes_iff.mp h).symm.trans (denotes_iff.mp h'))

end ChatFeed.Json
