import ChatFeed.Proofs.Data.Record
import ChatFeed.Proofs.Json.Printer

/-!
# Proofs/Json/Typed — what readers of a known form take, and what they yield

Two things are said of a reader.  It **takes** a text as a value when it reads it so, whatever
stands behind (`Typed.Takes`): of strings, integers and choices that is known from the grammar.  A
record takes a printed object when its members fill the draft one after the other (`Typed.Fills`),
each place being free when its turn comes; in what order they stand is left open.

It **yields** only values of some property (`Typed.Yields`), whatever text it is given.  For a
record that is an invariant of its draft, which every field keeps (`Typed.record_yields`); with
trees it is the same (`Pick.record_yields`).
-/

namespace ChatFeed.Json

open Data

variable {α β δ ρ σ κ : Type} {depth : Nat} {text : List Char}

namespace Typed

/-! ## What is taken -/

/-- **A reader takes a text as a value**, whatever stands behind it that can follow a value. -/
def Takes (p : Typed α) (depth : Nat) (text : List Char) (a : α) : Prop :=
  ∀ rest, endsValue rest = true → p.run depth (text ++ rest) = .ok (a, rest)

theorem Takes.map {p : Typed α} {a : α} (h : p.Takes depth text a) (f : α → β) :
    (f <$> p).Takes depth text (f a) := by
  intro rest hrest
  change (p.run depth (text ++ rest) >>= fun r => .ok (f r.1, r.2)) = _
  rw [h rest hrest]
  rfl

/-- **A text that is taken is read** when nothing else is there. -/
theorem Takes.readWhole {p : Typed α} {a : α} (h : p.Takes depth text a) :
    readWhole (p.run depth) text = .ok a := by
  have hrun := h [] rfl
  rw [List.append_nil] at hrun
  rw [Json.readWhole, hrun]
  rfl

theorem text_takes (s : String) : Typed.text.Takes depth (printString s) s :=
  fun rest _ => string_text (spells_printString depth s) (List.forall_mem_nil _) _ rest

theorem optionalText_takes (s : String) :
    optionalText.Takes depth (printString s) (some s) := by
  intro rest hrest
  have hrun : optionalText.run depth (printString s ++ rest)
      = (some <$> Typed.text).run depth (printString s ++ rest) := rfl
  rw [hrun]
  exact (text_takes s).map some rest hrest

theorem choice_takes {known : List (String × α)} {s : String} {a : α}
    (h : known.lookup s = some a) : (choice known).Takes depth (printString s) a := by
  intro rest _
  change scanString (s.toList.flatMap escapeChar ++ ['"'] ++ rest) >>= _ = _
  rw [List.append_assoc, List.singleton_append,
    scanString_of_spells (spellsChars_escape s.toList)]
  simp only [bind, Except.bind, h]

/-- An integer of a range is read from behind its sign. -/
theorem integer_run {name : String} {low high : Int} {negative : Bool} {ds rest : List Char}
    {v : Value} (h : scanNumber negative ds = .ok (v, [])) (hrest : endsValue rest = true) :
    (integer name low high).run depth ((if negative then '-' :: ds else ds) ++ rest)
      = match (Pick.integer name low high).run v with
        | .ok n => .ok (n, rest)
        | .error e => .error (.mismatch e) := by
  have happend := scanNumber_append hrest h
  rw [List.nil_append] at happend
  cases negative with
  | true =>
    change (scanNumber true (ds ++ rest) >>= fun r => _) = _
    rw [happend]
    rfl
  | false =>
    obtain ⟨d, more, rfl, hd⟩ := exists_digit_of_scanNumber h
    have hminus : d ≠ '-' := ne_of_isDigit hd (by decide)
    rw [if_neg Bool.false_ne_true]
    unfold integer
    dsimp only
    rw [List.cons_append, skipSpace_cons (isSpace_of_isDigit hd)]
    split
    · exact absurd (List.cons.inj ‹_›).1 hminus
    · rename_i c cs _ hcons
      obtain ⟨rfl, rfl⟩ := List.cons.inj hcons
      rw [if_pos hd, ← List.cons_append, happend]
      rfl
    · cases ‹_ :: _ = []›

/-- **An integer is taken as it is printed**, when its range is one of sixty-four bits. -/
theorem integer_takes {name : String} {low high n : Int} (ge : low ≤ n) (le : n ≤ high)
    (hlow : -0x8000_0000_0000_0000 ≤ low) (hhigh : high ≤ 0x7FFF_FFFF_FFFF_FFFF) :
    (integer name low high).Takes depth (printInt n) n := by
  intro rest hrest
  obtain ⟨negative, ds, hprint, hread⟩ :=
    scanNumber_printInt (Int.le_trans hlow ge) (Int.le_trans le hhigh)
  have hpick : (Pick.integer name low high).run (.integer n) = .ok n := if_pos ⟨ge, le⟩
  rw [hprint, integer_run hread hrest, hpick]

/-! ### Records -/

/-- **What printed members make of a draft**: each has a field, which is free and takes its text. -/
inductive Fills (r : Record Typed δ ρ) (depth : Nat) : List (String × List Char) → δ → δ → Prop
  | nil {d : δ} : Fills r depth [] d d
  | cons {name : String} {text : List Char} {members : List (String × List Char)}
      {f : Field Typed δ} {change : δ → δ} {d d' : δ} (field : r.field? name = some f)
      (free : f.taken d = false) (takes : f.read.Takes depth text change)
      (rest : Fills r depth members (change d) d') : Fills r depth ((name, text) :: members) d d'

variable {r : Record Typed δ ρ} {members : List (String × List Char)} {d d' : δ}

theorem Fills.append {more : List (String × List Char)} {d'' : δ}
    (h : Fills r depth members d d') (h' : Fills r depth more d' d'') :
    Fills r depth (members ++ more) d d'' := by
  induction h with
  | nil => exact h'
  | cons field free takes _ ih => exact .cons field free takes (ih h')

/-- **A printed member is read into its field**, when that is free. -/
theorem readsMember_field {name : String} {text : List Char} {f : Field Typed δ} {change : δ → δ}
    (field : r.field? name = some f) (takes : f.read.Takes depth text change) :
    ReadsMember (entryName r) (entryValue depth)
      (fun _ d => if f.taken d then none else some (change d))
      (printedMember (name, text, .null)) := by
  intro d rest hrest
  let m := printedMember (name, text, .null)
  have hstring : scanString (m.quoted ++ '"' :: (':' :: (text ++ rest)))
      = .ok (name, ':' :: (text ++ rest)) := scanString_of_spells (spellsChars_escape _) _
  have hstart : m.start ++ (text ++ rest) = m.quoted ++ '"' :: (':' :: (text ++ rest)) :=
    Member.start_append m _
  change Except.toOption (entryName r d (m.start ++ (text ++ rest)) >>= _) = _
  rw [hstart]
  by_cases htaken : f.taken d
  · simp only [entryName, hstring, bind, Except.bind, field, htaken, if_true]
    rfl
  · have hcolon : scanColon (':' :: (text ++ rest)) = .ok (text ++ rest) := rfl
    simp only [entryName, entryValue, hstring, bind, Except.bind, field, htaken,
      Bool.false_eq_true, if_false, hcolon, takes rest hrest]
    rfl

/-- **Printed members fill a draft**, from behind the opening brace. -/
theorem Fills.scanEntries (h : Fills r depth members d d') (hne : members ≠ []) {room : Nat}
    (hroom : members.length ≤ room) (rest : List Char) :
    scanEntries (entryName r) (entryValue depth) room d
      (separated (members.map fun m => printString m.1 ++ ':' :: m.2) ++ '\x7d' :: rest)
      = .ok (d', rest) := by
  induction h generalizing room with
  | nil => exact absurd rfl hne
  | @cons name text members f change d d' field free takes more ih =>
    obtain ⟨room, rfl⟩ := Nat.exists_eq_add_one_of_ne_zero
      (Nat.ne_of_gt (Nat.zero_lt_of_lt hroom))
    have hmember := fun c hc behind => scanEntries_member (c := c)
      (printedMember_spaced (name, text, .null)) (readsMember_field field takes) hc room d behind
    simp only [printedMember_written, free] at hmember
    cases members with
    | nil =>
      cases more
      exact toOption_eq_some_iff.mp (hmember '\x7d' (.inr rfl) rest)
    | cons next members =>
      have hrest := ih (List.cons_ne_nil _ _) (Nat.le_of_succ_le_succ hroom)
      rw [List.map_cons, List.map_cons, separated_cons_cons, List.append_assoc, List.cons_append]
      refine toOption_eq_some_iff.mp ((hmember ',' (.inl rfl) _).trans ?_)
      exact toOption_eq_some_iff.mpr hrest

/-- **Printed members fill a draft**, one at least, from behind the opening brace. -/
theorem Fills.scanObject (h : Fills r depth members d d') (hne : members ≠ []) (rest : List Char) :
    scanObject (entryName r) (entryValue depth) d
      (separated (members.map fun m => printString m.1 ++ ':' :: m.2) ++ '\x7d' :: rest)
      = .ok (d', rest) := by
  have hquote : ∃ cs, skipSpace (separated (members.map fun m => printString m.1 ++ ':' :: m.2)
      ++ '\x7d' :: rest) = '"' :: cs := by
    obtain ⟨m, more, rfl⟩ := List.exists_cons_of_ne_nil hne
    cases more <;> exact ⟨_, skipSpace_cons (by decide) _⟩
  have hroom := length_le_length_separated (members.map fun m => printString m.1 ++ ':' :: m.2)
  rw [List.length_map] at hroom
  obtain ⟨cs, hcs⟩ := hquote
  rw [Json.scanObject, hcs]
  refine h.scanEntries hne (Nat.le_trans hroom (Nat.succ_le_succ ?_)) rest
  rw [List.length_append]
  exact Nat.le_add_right _ _

/-- **A record takes a printed object** whose members fill its draft. -/
theorem Fills.takes (h : Fills r depth members r.blank d) (hne : members ≠ []) {a : ρ}
    (hfinish : r.finish d = .ok a) : (record r).Takes (depth + 1) (printObject members) a := by
  intro rest _
  have hrun : ∀ cs, (record r).run (depth + 1) ('\x7b' :: cs)
      = Json.scanObject (entryName r) (entryValue depth) r.blank cs >>= fun read =>
        finished r read.1 read.2 := fun _ => rfl
  rw [printObject, List.cons_append, List.cons_append, hrun, List.append_assoc,
    List.singleton_append, h.scanObject hne]
  simp only [bind, Except.bind, finished, hfinish]

/-! ## What is yielded -/

/-- **All values that a reader yields have a property**, whatever text it is given. -/
def Yields (p : Typed α) (P : α → Prop) : Prop :=
  ∀ ⦃depth cs a rest⦄, p.run depth cs = .ok (a, rest) → P a

theorem Yields.map {p : Typed α} {P : α → Prop} {Q : β → Prop} (h : p.Yields P) {f : α → β}
    (hf : ∀ a, P a → Q (f a)) : (f <$> p).Yields Q := by
  intro depth cs b rest hrun
  obtain ⟨⟨a, left⟩, ha, hb⟩ := exists_of_bind hrun
  obtain ⟨rfl, -⟩ := Prod.mk.inj (Except.ok.inj hb)
  exact hf a (h ha)

/-- **An integer is in its range.** -/
theorem integer_yields (name : String) (low high : Int) :
    (integer name low high).Yields fun n => low ≤ n ∧ n ≤ high := by
  intro depth cs n rest hrun
  have hfound : ∀ r : Value × List Char, ((match (Pick.integer name low high).run r.1 with
      | .ok n => .ok (n, r.2)
      | .error e => .error (.mismatch e)) : Scan (Int × List Char)) = .ok (n, rest) →
      low ≤ n ∧ n ≤ high := by
    intro r hr
    cases hpick : (Pick.integer name low high).run r.1 with
    | error e =>
      rw [hpick] at hr
      cases hr
    | ok m =>
      rw [hpick] at hr
      obtain ⟨rfl, -⟩ := Prod.mk.inj (Except.ok.inj hr)
      exact Pick.integer_yields name low high hpick
  unfold integer at hrun
  dsimp only at hrun
  split at hrun
  · obtain ⟨r, -, hr⟩ := exists_of_bind hrun
    exact hfound r hr
  · rename_i c more _ _
    by_cases hc : c.isDigit = true
    · rw [if_pos hc] at hrun
      obtain ⟨r, -, hr⟩ := exists_of_bind hrun
      exact hfound r hr
    · rw [if_neg hc] at hrun
      cases hrun
  · cases hrun

/-- What every entry keeps, all of them keep. -/
theorem scanEntries_keeps {name : σ → List Char → Scan (κ × List Char)}
    {value : κ → σ → List Char → Scan (σ × List Char)} {I : σ → Prop} {K : κ → Prop}
    (hname : ∀ {s cs k rest}, name s cs = .ok (k, rest) → K k)
    (hvalue : ∀ {k s cs s' rest}, K k → I s → value k s cs = .ok (s', rest) → I s')
    {room : Nat} {s s' : σ} {cs rest : List Char} (hs : I s)
    (h : Json.scanEntries name value room s cs = .ok (s', rest)) : I s' := by
  induction room generalizing s cs with
  | zero => cases h
  | succ room ih =>
    rw [Json.scanEntries] at h
    split at h
    · cases h
    · obtain ⟨⟨k, more⟩, hk, h⟩ := exists_of_bind h
      obtain ⟨more', -, h⟩ := exists_of_bind h
      obtain ⟨⟨t, left⟩, ht, h⟩ := exists_of_bind h
      have hkept : I t := hvalue (hname hk) hs ht
      dsimp only at h
      split at h
      · cases h
      · obtain ⟨rfl, -⟩ := Prod.mk.inj (Except.ok.inj h)
        exact hkept
      · exact ih hkept h
      · cases h
    · cases h

/-- What every field keeps, all elements keep. -/
theorem positions_keeps {I : δ → Prop} {n : Nat} {fs : List (Field Typed δ)}
    {cs rest : List Char} (hfields : ∀ f ∈ fs, f.read.Yields fun change => ∀ d, I d → I (change d))
    (hd : I d) (h : positions r depth d n fs cs = .ok (d', rest)) : I d' := by
  induction fs generalizing n d cs with
  | nil =>
    obtain ⟨rfl, -⟩ := Prod.mk.inj (Except.ok.inj h)
    exact hd
  | cons f fs ih =>
    have hmore := fun f hf => hfields f (List.mem_cons_of_mem _ hf)
    rw [positions] at h
    obtain ⟨⟨more, left⟩, -, h⟩ := exists_of_bind h
    dsimp only at h
    by_cases hgoes : more = true
    · rw [if_pos hgoes] at h
      obtain ⟨⟨change, left'⟩, hchange, h⟩ := exists_of_bind h
      exact ih hmore (hfields f List.mem_cons_self hchange d hd) h
    · rw [if_neg hgoes] at h
      by_cases hoptional : f.optional = true
      · rw [if_pos hoptional] at h
        exact ih hmore hd h
      · rw [if_neg hoptional] at h
        cases h

/-- The field of an entry is one of the record. -/
theorem field?_of_entryName {f : Field Typed δ} {cs rest : List Char}
    (h : entryName r d cs = .ok (some f, rest)) : ∃ name, r.field? name = some f := by
  obtain ⟨⟨name, more⟩, -, h⟩ := exists_of_bind h
  refine ⟨name, ?_⟩
  dsimp only at h
  cases hfield : r.field? name with
  | none =>
    rw [hfield] at h
    cases h
  | some g =>
    rw [hfield] at h
    dsimp only at h
    by_cases htaken : g.taken d = true
    · rw [if_pos htaken] at h
      cases h
    · rw [if_neg htaken] at h
      obtain ⟨hg, -⟩ := Prod.mk.inj (Except.ok.inj h)
      exact hg

/-- What the field of an entry keeps, the entry keeps. -/
theorem entryValue_keeps {I : δ → Prop} {k : Option (Field Typed δ)} {cs rest : List Char}
    (hfield : ∀ f, k = some f → f.read.Yields fun change => ∀ d, I d → I (change d)) (hd : I d)
    (h : entryValue depth k d cs = .ok (d', rest)) : I d' := by
  cases k with
  | none =>
    obtain ⟨left, -, h⟩ := exists_of_bind h
    obtain ⟨rfl, -⟩ := Prod.mk.inj (Except.ok.inj h)
    exact hd
  | some f =>
    obtain ⟨⟨change, left⟩, hchange, h⟩ := exists_of_bind h
    obtain ⟨rfl, -⟩ := Prod.mk.inj (Except.ok.inj h)
    exact hfield f rfl hchange d hd

/-- **Records yield what can be made of drafts** that have what all fields keep. -/
theorem record_yields {I : δ → Prop} {P : ρ → Prop}
    (hfields : ∀ f ∈ r.fields, f.read.Yields fun change => ∀ d, I d → I (change d))
    (hblank : I r.blank) (hfinish : ∀ d a, I d → r.finish d = .ok a → P a) :
    (record r).Yields P := by
  intro depth cs a rest hrun
  have hfinished : ∀ {d more left}, I d → finished r d more = .ok (a, left) → P a := by
    intro d more left hd h
    rw [finished] at h
    cases hvalue : r.finish d with
    | error e =>
      rw [hvalue] at h
      cases h
    | ok b =>
      rw [hvalue] at h
      obtain ⟨rfl, -⟩ := Prod.mk.inj (Except.ok.inj h)
      exact hfinish d _ hd hvalue
  unfold record at hrun
  dsimp only at hrun
  split at hrun
  · cases hrun
  · cases hrun
  · obtain ⟨⟨d, left⟩, hpositions, hrun⟩ := exists_of_bind hrun
    obtain ⟨⟨b, left'⟩, hb, hrun⟩ := exists_of_bind hrun
    have hd : I d := positions_keeps hfields hblank hpositions
    dsimp only at hrun
    split at hrun
    · cases hrun
    · obtain ⟨rfl, -⟩ := Prod.mk.inj (Except.ok.inj hrun)
      exact hfinished hd hb
    · cases hrun
  · obtain ⟨⟨d, left⟩, hobject, hrun⟩ := exists_of_bind hrun
    refine hfinished ?_ hrun
    rw [scanObject] at hobject
    split at hobject
    · obtain ⟨rfl, -⟩ := Prod.mk.inj (Except.ok.inj hobject)
      exact hblank
    · refine scanEntries_keeps (K := fun k => ∀ f, k = some f → f ∈ r.fields) ?_ ?_ hblank hobject
      · rintro d cs k rest hk f rfl
        obtain ⟨name, hname⟩ := field?_of_entryName hk
        exact List.mem_of_find?_eq_some hname
      · exact fun hk hd hvalue => entryValue_keeps (fun f hf => hfields f (hk f hf)) hd hvalue
  · cases hrun

end Typed

end ChatFeed.Json
