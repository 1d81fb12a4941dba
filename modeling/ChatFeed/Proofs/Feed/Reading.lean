import ChatFeed.Proofs.Feed.Event
import ChatFeed.Proofs.Json.Recognition

/-!
# Proofs/Feed/Reading — events from running text

The kind of an event is checked as soon as it is met, and all else is kept as a tree, to be taken
apart when the kind is known.  `Event.Parts.absorb` is what one member does to the parts: the reader
does just that with any member that is spelled (`readsMember_absorb`), and `foldlM_absorb_iff` says
what is left of all of them.  So **a well-formed object is read as an event exactly when its members
make it** (`Event.readAs_iff`), in whatever order they stand.
-/

namespace ChatFeed

open Data Json

variable {depth : Nat} {es : List (String × Value)}

/-! ## The kind -/

/-- The kind that a value names. -/
def EventKind.of? : Value → Option EventKind
  | .text s => EventKind.table.lookup s
  | _ => none

theorem isEventKind_iff {v : Value} {k : EventKind} :
    IsEventKind v k ↔ EventKind.of? v = some k := by
  cases v <;> simp [IsEventKind, EventKind.of?]

section

variable {text ws rest : List Char} {v : Value}

/-- **A value is read as a kind when it names one.** -/
theorem EventKind.typed_spelled (h : Spells depth text v) (blank : IsBlank ws) :
    (EventKind.typed.run depth (ws ++ (text ++ rest))).toOption
      = (EventKind.of? v).map (·, rest) := by
  change ((Typed.string "variant identifier").run depth (ws ++ (text ++ rest)) >>= _).toOption = _
  by_cases hv : ∃ s, v = .text s
  · obtain ⟨s, rfl⟩ := hv
    rw [Typed.string_text h blank, EventKind.of?]
    simp only [bind, Except.bind]
    cases EventKind.table.lookup s <;> rfl
  · obtain ⟨f, hf⟩ := Typed.string_other h (fun s hs => hv ⟨s, hs⟩) blank "variant identifier" rest
    have hnone : EventKind.of? v = none := by
      cases v with
      | text s => exact absurd ⟨s, rfl⟩ hv
      | _ => rfl
    rw [hf, hnone]
    rfl

end

/-! ## The loop over the members -/

/-- **One member more**: a kind is checked and must be the first one, all else is kept. -/
def Event.Parts.absorb (p : Event.Parts) (e : String × Value) : Option Event.Parts :=
  if e.1 = "type" then
    if p.kind.isSome then none
    else (EventKind.of? e.2).map fun k => { p with kind := some k }
  else some { p with entries := e :: p.entries }

/-- **A member of an event is read** as it is absorbed. -/
theorem readsMember_absorb {m : Member} (spaced : m.Spaced) (h : Spells depth m.text m.value) :
    ReadsMember Event.entryName (Event.entryValue depth)
      (fun m p => p.absorb (m.name, m.value)) m := by
  intro p rest hrest
  have hname : Event.entryName p (m.start ++ (m.text ++ rest))
      = if m.name = "type" ∧ p.kind.isSome then .error (.mismatch (.repeated "type"))
        else .ok (m.name, m.gap ++ ':' :: (m.before ++ (m.text ++ rest))) := by
    rw [Member.start_append]
    simp only [Event.entryName, bind, Except.bind, scanString_of_spells spaced.quoted]
  rw [hname]
  change Except.toOption _ = (p.absorb (m.name, m.value)).map (·, rest)
  by_cases htype : m.name = "type"
  · by_cases hkind : p.kind.isSome
    · rw [if_pos ⟨htype, hkind⟩, Event.Parts.absorb, if_pos htype, if_pos hkind]
      rfl
    · have hread := @EventKind.typed_spelled _ _ _ rest _ h spaced.before
      rw [if_neg (fun hboth => hkind hboth.2), Event.Parts.absorb, if_pos htype, if_neg hkind]
      simp only [bind, Except.bind, scanColon_blank spaced.gap, Event.entryValue, if_pos htype]
      cases hof : EventKind.of? m.value with
      | none =>
        rw [hof] at hread
        cases hrun : EventKind.typed.run depth (m.before ++ (m.text ++ rest)) with
        | error f => rfl
        | ok r =>
          rw [hrun] at hread
          cases hread
      | some k =>
        rw [hof] at hread
        rw [toOption_eq_some_iff.mp hread]
        rfl
  · rw [if_neg (fun hboth => htype hboth.1), Event.Parts.absorb, if_neg htype]
    simp only [bind, Except.bind, scanColon_blank spaced.gap, Event.entryValue, if_neg htype,
      scanValue_blank spaced.before, h.scan hrest]
    rfl

/-- **What is left of all members**: the kind, if one is named, and the others in reverse. -/
theorem foldlM_absorb_iff {p p' : Event.Parts} : es.foldlM Event.Parts.absorb p = some p'
    ↔ Taken IsEventKind "type" es p.kind p'.kind
      ∧ p'.entries = (es.filter (·.1 ≠ "type")).reverse ++ p.entries := by
  induction es generalizing p with
  | nil =>
    obtain ⟨kind, entries⟩ := p
    obtain ⟨kind', entries'⟩ := p'
    simp [taken_nil, eq_comm]
  | cons e es ih =>
    obtain ⟨name, v⟩ := e
    rw [List.foldlM_cons]
    by_cases htype : name = "type"
    · subst htype
      rw [taken_cons_self, Event.Parts.absorb, if_pos rfl]
      cases hkind : p.kind with
      | some k => simp
      | none =>
        simp only [Option.isSome_none, Bool.false_eq_true, if_false, true_and,
          isEventKind_iff]
        cases hof : EventKind.of? v with
        | none => simp
        | some k =>
          refine ih.trans ?_
          simp
    · rw [taken_cons_of_ne (Ne.symm htype)]
      simp only [Event.Parts.absorb, if_neg htype]
      refine ih.trans ?_
      simp [htype]

/-! ## Events -/

section

variable {text lead trail : List Char}

/-- An event that begins with a brace. -/
theorem Event.typed_brace (blank : IsBlank lead) (cs : List Char) :
    Event.typed.run (depth + 1) (lead ++ '\x7b' :: cs) = (do
      let (p, cs) ← scanObject Event.entryName (Event.entryValue depth) {} cs
      .ok (← Event.assemble p.kind (.table p.entries.reverse), cs) : Scan (Event × List Char)) := by
  unfold Event.typed
  dsimp only
  rw [skipSpace_append blank, skipSpace_cons (by decide)]
  rfl

/-- **A spelled object is read as an event** that is put together from the parts its members
leave. -/
theorem Event.typed_spelled (h : Spells (depth + 1) text (.table es)) (blank : IsBlank lead)
    (rest : List Char) : (Event.typed.run (depth + 1) (lead ++ (text ++ rest))).toOption
      = (es.foldlM Event.Parts.absorb {}).bind fun p =>
        (Event.assemble p.kind (.table p.entries.reverse)).toOption.map (·, rest) := by
  have hassemble : ∀ x : Scan (Event.Parts × List Char),
      (x >>= fun r => do .ok (← Event.assemble r.1.kind (.table r.1.entries.reverse), r.2) :
          Scan (Event × List Char)).toOption
        = x.toOption.bind fun r =>
          (Event.assemble r.1.kind (.table r.1.entries.reverse)).toOption.map (·, r.2) := by
    intro x
    rw [toOption_bind]
    refine congrArg _ (funext fun r => ?_)
    cases Event.assemble r.1.kind (.table r.1.entries.reverse) <;> rfl
  cases h with
  | @emptyTable _ ws blank' =>
    rw [List.cons_append, List.append_assoc, List.singleton_append, Event.typed_brace blank]
    refine (hassemble _).trans ?_
    rw [scanObject_blank blank']
    rfl
  | @table _ members nonempty spaced values =>
    rw [List.cons_append, List.append_assoc, List.singleton_append, Event.typed_brace blank]
    refine (hassemble _).trans ?_
    have hreads := fun m hm => readsMember_absorb (spaced m hm) (values m hm)
    rw [scanObject_members nonempty spaced hreads, List.foldlM_map]
    cases members.foldlM (fun p m => Event.Parts.absorb p (m.name, m.value)) {} <;> rfl

/-- The parts of an event are put together when they have a kind and the others make it. -/
theorem Event.assemble_iff {kind : Option EventKind} {e : Event} :
    (Event.assemble kind (.table es)).toOption = some e
      ↔ ∃ k, kind = some k ∧ (Pick.record true (Event.record k)).run (.table es) = .ok e := by
  cases kind with
  | none => simp [Event.assemble, Except.toOption]
  | some k =>
    simp only [Event.assemble, Option.some.injEq, exists_eq_left']
    cases (Pick.record true (Event.record k)).run (.table es) <;> simp [Except.toOption]

end

/-- An event of a kind is told by the members of each name, in whatever order they stand. -/
theorem Event.ToldAs.of_valuesOf {nothing : Value → Prop} {es' : List (String × Value)}
    {k : EventKind} {e : Event} (told : Event.ToldAs nothing es k e)
    (h : ∀ {name}, name ≠ "type" → valuesOf name es = valuesOf name es') :
    Event.ToldAs nothing es' k e := by
  have honce : ∀ {α : Type} {stands : Value → α → Prop} {name : String} {a : α},
      name ≠ "type" → Once stands name es a → Once stands name es' a := by
    rintro α stands name a hname ⟨v, hv, hstands⟩
    exact ⟨v, (h hname).symm.trans hv, hstands⟩
  cases told with
  | sent message => exact .sent (honce (by decide) message)
  | joined stream user => exact .joined (honce (by decide) stream) (honce (by decide) user)
  | left stream user => exact .left (honce (by decide) stream) (honce (by decide) user)
  | other kind => exact .other (honce (by decide) kind)

/-- **A text that denotes an object is read as an event exactly when the members make it**, whatever
their order, the white space between them and the members of other names. -/
theorem Event.readAs_iff {text : String} (h : Denotes text (.table es))
    (messages : ∀ v ∈ valuesOf "message" es, ∃ t, v = .table t)
    (users : ∀ v ∈ valuesOf "user" es, ∃ t, v = .table t) (e : Event) :
    readAs Event.typed text = .ok e ↔ e.ToldBy IsNothing es := by
  obtain ⟨lead, body, trail, htext, hlead, htrail, hbody⟩ := h
  have hread : (readAs Event.typed text).toOption = (es.foldlM Event.Parts.absorb {}).bind fun p =>
      (Event.assemble p.kind (.table p.entries.reverse)).toOption := by
    refine readWhole_toOption htrail ?_
    rw [htext, Option.map_bind]
    exact Event.typed_spelled hbody hlead trail
  have hkept : ∀ {name : String}, name ≠ "type" →
      valuesOf name (es.filter (·.1 ≠ "type")) = valuesOf name es :=
    fun h => valuesOf_filter_ne h es
  have hrecord : ∀ k, (Pick.record true (Event.record k)).run (.table (es.filter (·.1 ≠ "type")))
      = .ok e ↔ Event.ToldAs IsNothing es k e := fun k =>
    (Event.record_iff (by rwa [hkept (by decide)]) (by rwa [hkept (by decide)])).trans
      ⟨fun told => told.of_valuesOf hkept, fun told => told.of_valuesOf fun h => (hkept h).symm⟩
  rw [← toOption_eq_some_iff, hread, Option.bind_eq_some_iff]
  constructor
  · rintro ⟨p, hp, hassemble⟩
    obtain ⟨htype, hentries⟩ := foldlM_absorb_iff.mp hp
    rw [hentries, List.append_nil, List.reverse_reverse] at hassemble
    obtain ⟨k, hk, hrun⟩ := Event.assemble_iff.mp hassemble
    rw [hk] at htype
    exact ⟨k, htype, (hrecord k).mp hrun⟩
  · rintro ⟨k, htype, htold⟩
    refine ⟨⟨some k, (es.filter (·.1 ≠ "type")).reverse⟩,
      foldlM_absorb_iff.mpr ⟨htype, (List.append_nil _).symm⟩, ?_⟩
    rw [List.reverse_reverse]
    exact Event.assemble_iff.mpr ⟨k, rfl, (hrecord k).mpr htold⟩

/-- Whatever order the members have, and whatever else is there. -/
theorem Event.readAs_left_room :
    readAs Event.typed (" \x7b\"user\":\x7b\"email\":null,\"id\":\"u\"\x7d, \"stream_id\":\"S\","
        ++ "\"at\":[7],\"type\":\"user_left_room\"\x7d\n")
      = .ok (.left "S" (.bare "u")) := by
  refine (@Event.readAs_iff [("user", .table [("email", .null), ("id", .text "u")]),
    ("stream_id", .text "S"), ("at", .list [.integer 7]), ("type", .text "user_left_room")] _
    (denotes_iff.mpr rfl) (by simp [valuesOf]) (by simp [valuesOf]) _).mpr
    ⟨.left, ⟨_, rfl, _, rfl, rfl⟩, .left ?_ ?_⟩
  · exact ⟨_, rfl, rfl⟩
  · exact ⟨_, rfl, _, rfl, ⟨_, rfl, rfl⟩, .inl ⟨rfl, rfl⟩, .inr ⟨_, rfl, .null⟩⟩

set_option maxRecDepth 2048 in
/-- Null alone is not nothing: a stream kind is read from an object with an empty object inside. -/
theorem Event.readAs_not_iff_null : ¬ ∀ (text : String) (es : List (String × Value)),
    Denotes text (.table es) → (∀ v ∈ valuesOf "message" es, ∃ t, v = .table t) →
    (∀ v ∈ valuesOf "user" es, ∃ t, v = .table t) →
    ∀ e, readAs Event.typed text = .ok e ↔ e.ToldBy (· = .null) es := by
  intro h
  have hiff := h ("\x7b\"type\":\"message_sent\",\"message\":\x7b\"message_id\":\"m\","
      ++ "\"stream_id\":\"S1\",\"from_user_id\":\"1001\",\"body\":\"body m\","
      ++ "\"stream_type\":\x7b\"room\":\x7b\x7d\x7d\x7d\x7d")
    [("type", .text "message_sent"), ("message", .table [("message_id", .text "m"),
      ("stream_id", .text "S1"), ("from_user_id", .text "1001"), ("body", .text "body m"),
      ("stream_type", .table [("room", .table [])])])]
    (denotes_iff.mpr rfl) (by simp [valuesOf]) (by simp [valuesOf])
    (.sent (.plain "m" "S1" "1001" "body m"))
  obtain ⟨k, htype, ⟨v, hv, t, rfl, told⟩⟩ :=
    hiff.mp (toOption_eq_some_iff.mp (by decide +kernel))
  obtain rfl : _ = t := Value.table.inj (List.cons.inj hv).1
  obtain ⟨hnone, -⟩ | ⟨v, hv, hchoice⟩ := told.kind
  · cases hnone
  · obtain rfl : _ = v := (List.cons.inj hv).1
    cases hchoice with
    | member lookup empty => cases empty

end ChatFeed
