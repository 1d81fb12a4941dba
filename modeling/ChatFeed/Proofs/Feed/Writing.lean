import ChatFeed.Proofs.Feed.Reading
import ChatFeed.Proofs.Json.Typed

/-!
# Proofs/Feed/Writing — what is written is read back

A text that the feed's writers make is taken by the reader of the same type, as the value that was
written, with every field of it.  Users and messages are read straight from the running text, so
their members fill a draft (`User.takes`, `Message.takes`).  An event is first kept as a tree, so
there it is the tree that the text spells that must tell the event (`Event.takes`).

The only values that cannot come back are messages whose time has no sixty-four bits; there are none
such among the values that a reader yields, whatever text it reads (`Message.typed_yields`,
`Event.typed_yields`).  So reading, writing and reading again gives what the first reading gave.
-/

namespace ChatFeed

open Data Json

variable {depth : Nat}

/-- **A way of writing is faithful to a reader**, on the values that fit. -/
structure Faithful {α : Type} (form : Typed α) (print : α → List Char) (Fits : α → Prop) :
    Prop where
  /-- What was written is read back. -/
  reads : ∀ a, Fits a → readAs form (String.ofList (print a)) = .ok a
  /-- Different values are written differently. -/
  injective : ∀ a b, Fits a → Fits b → print a = print b → a = b
  /-- What was read is written so that reading it again changes nothing. -/
  stable : ∀ text a, readAs form text = .ok a → readAs form (String.ofList (print a)) = .ok a

/-- Faithful is what takes all that was written, and yields nothing that does not fit. -/
theorem Faithful.of_takes {α : Type} {form : Typed α} {print : α → List Char} {Fits : α → Prop}
    (takes : ∀ a, Fits a → form.Takes topDepth (print a) a) (yields : form.Yields Fits) :
    Faithful form print Fits := by
  have hreads : ∀ a, Fits a → readAs form (String.ofList (print a)) = .ok a := fun a ha => by
    rw [readAs, String.toList_ofList, (takes a ha).readWhole]
  refine ⟨hreads, fun a b ha hb hab => ?_, fun text a htext => ?_⟩
  · have hsame := hreads a ha
    rw [hab, hreads b hb] at hsame
    exact (Except.ok.inj hsame).symm
  · obtain ⟨⟨b, rest⟩, hrun, hend⟩ := exists_of_bind htext
    dsimp only at hend
    by_cases hempty : (skipSpace rest).isEmpty = true
    · rw [if_pos hempty] at hend
      obtain rfl := Except.ok.inj hend
      exact hreads _ (yields hrun)
    · rw [if_neg hempty] at hend
      cases hend

/-! ## Users -/

/-- **A written user is taken.** -/
theorem User.takes (u : User) : User.typed.Takes (depth + 1) u.print u := by
  obtain ⟨id, displayName, email⟩ := u
  have hname : Typed.Fills (User.record textLeaves) depth
      (optionalMember "display_name" displayName) ⟨some id, none, none⟩
      ⟨some id, displayName.map some, none⟩ := by
    cases displayName with
    | none => exact .nil
    | some s => exact .cons rfl rfl ((Typed.optionalText_takes s).map _) .nil
  have hemail : Typed.Fills (User.record textLeaves) depth (optionalMember "email" email)
      ⟨some id, displayName.map some, none⟩ ⟨some id, displayName.map some, email.map some⟩ := by
    cases email with
    | none => exact .nil
    | some s => exact .cons rfl rfl ((Typed.optionalText_takes s).map _) .nil
  refine Typed.Fills.takes (.cons rfl rfl ((Typed.text_takes id).map _) (hname.append hemail))
    (List.cons_ne_nil _ _) ?_
  cases displayName <;> cases email <;> rfl

/-- The members of a written user. -/
def User.texts (u : User) : List (String × String) :=
  ("id", u.id) :: (u.displayName.map fun s => ("display_name", s)).toList
    ++ (u.email.map fun s => ("email", s)).toList

/-- The tree that a written user spells. -/
def User.tree (u : User) : List (String × Value) := u.texts.map fun m => (m.1, .text m.2)

theorem User.print_eq (u : User) : u.print = printTexts u.texts := by
  obtain ⟨id, _ | name, _ | email⟩ := u <;> rfl

theorem User.spells (u : User) : Spells (depth + 1) u.print (.table u.tree) := by
  rw [User.print_eq]
  exact spells_printTexts (List.cons_ne_nil _ _) depth

/-- **The tree of a user tells the user.** -/
theorem User.toldBy_tree (u : User) : u.ToldBy u.tree := by
  obtain ⟨id, displayName, email⟩ := u
  constructor
  · exact ⟨.text id, by cases displayName <;> cases email <;> rfl, rfl⟩
  · cases displayName with
    | none => exact .inl ⟨by cases email <;> rfl, rfl⟩
    | some s => exact .inr ⟨.text s, by cases email <;> rfl, .text s⟩
  · cases email with
    | none => exact .inl ⟨by cases displayName <;> rfl, rfl⟩
    | some s => exact .inr ⟨.text s, by cases displayName <;> rfl, .text s⟩

/-! ## Messages -/

/-- **The time of a message has sixty-four bits.** -/
def Message.Timely (m : Message) : Prop := minTime ≤ m.timestamp ∧ m.timestamp ≤ maxTime

instance (m : Message) : Decidable m.Timely := inferInstanceAs (Decidable (_ ∧ _))

/-- **A written message is taken.** -/
theorem Message.takes {m : Message} (timely : m.Timely) :
    Message.typed.Takes (depth + 1) m.print m := by
  have htime : textLeaves.time.Takes depth (printInt m.timestamp) m.timestamp :=
    Typed.integer_takes timely.1 timely.2 (Int.le_refl _) (Int.le_refl _)
  have hkind : textLeaves.kind.Takes depth (printString m.kind.name) m.kind :=
    Typed.choice_takes m.kind.lookup_name
  have hfills : Typed.Fills (Message.record textLeaves) depth
      [("message_id", printString m.id), ("stream_id", printString m.stream),
        ("from_user_id", printString m.sender), ("body", printString m.body),
        ("timestamp", printInt m.timestamp), ("stream_type", printString m.kind.name)] {}
      ⟨some m.id, some m.stream, some m.sender, some m.body, some m.timestamp, some m.kind⟩ :=
    .cons rfl rfl ((Typed.text_takes m.id).map _) <|
    .cons rfl rfl ((Typed.text_takes m.stream).map _) <|
    .cons rfl rfl ((Typed.text_takes m.sender).map _) <|
    .cons rfl rfl ((Typed.text_takes m.body).map _) <|
    .cons rfl rfl (htime.map _) <| .cons rfl rfl (hkind.map _) .nil
  exact hfills.takes (List.cons_ne_nil _ _) rfl

/-- The tree that a written message spells. -/
def Message.tree (m : Message) : List (String × Value) :=
  [("message_id", .text m.id), ("stream_id", .text m.stream), ("from_user_id", .text m.sender),
    ("body", .text m.body), ("timestamp", .integer m.timestamp), ("stream_type", .text m.kind.name)]

theorem Message.spells {m : Message} (timely : m.Timely) :
    Spells (depth + 1) m.print (.table m.tree) := by
  refine @spells_printObject depth
    [("message_id", printString m.id, .text m.id),
      ("stream_id", printString m.stream, .text m.stream),
      ("from_user_id", printString m.sender, .text m.sender),
      ("body", printString m.body, .text m.body),
      ("timestamp", printInt m.timestamp, .integer m.timestamp),
      ("stream_type", printString m.kind.name, .text m.kind.name)] (List.cons_ne_nil _ _) ?_
  simp only [List.forall_mem_cons, spells_printString, true_and]
  exact ⟨spells_printInt depth timely.1 timely.2, List.forall_mem_nil _⟩

/-- **The tree of a message tells the message.** -/
theorem Message.toldBy_tree {m : Message} (timely : m.Timely) : m.ToldBy IsNothing m.tree where
  id := ⟨_, rfl, rfl⟩
  stream := ⟨_, rfl, rfl⟩
  sender := ⟨_, rfl, rfl⟩
  body := ⟨_, rfl, rfl⟩
  timestamp := .inr ⟨_, rfl, .integer timely.1 timely.2⟩
  kind := .inr ⟨_, rfl, .name m.kind.lookup_name⟩

/-! ### What a reader of messages yields -/

/-- The time in a draft has sixty-four bits, once there is one. -/
def Message.Draft.Timely (d : Message.Draft) : Prop :=
  ∀ t ∈ d.timestamp, minTime ≤ t ∧ t ≤ maxTime

/-- **Every field keeps the time of a draft**, whichever way fields are read: only one of them sets
it, and that one reads a time. -/
theorem Message.fields_keep {R : Type → Type} [Functor R] {leaves : Leaves R}
    {Yields : ∀ {α : Type}, R α → (α → Prop) → Prop}
    (any : ∀ {α : Type} (p : R α), Yields p fun _ => True)
    (map : ∀ {α β : Type} {p : R α} {P : α → Prop} {Q : β → Prop}, Yields p P → ∀ {f : α → β},
      (∀ a, P a → Q (f a)) → Yields (f <$> p) Q)
    (time : Yields leaves.time fun t => minTime ≤ t ∧ t ≤ maxTime) :
    ∀ f ∈ (Message.record leaves).fields,
      Yields f.read fun change => ∀ d, Message.Draft.Timely d → (change d).Timely := by
  simp only [Message.record, List.forall_mem_cons]
  refine ⟨map (any _) fun _ _ _ hd => hd, map (any _) fun _ _ _ hd => hd,
    map (any _) fun _ _ _ hd => hd, map (any _) fun _ _ _ hd => hd, map time fun t ht d _ => ?_,
    map (any _) fun _ _ _ hd => hd, List.forall_mem_nil _⟩
  rintro t' ⟨⟩
  exact ht

theorem Message.Draft.Timely.finish {d : Message.Draft} {m : Message} (timely : d.Timely)
    (h : (Message.record treeLeaves).finish d = .ok m) : m.Timely := by
  obtain ⟨-, -, -, -, htime, -⟩ := Message.finish_iff.mp h
  rw [Message.Timely, ← htime]
  cases ht : d.timestamp with
  | none => exact ⟨by decide, by decide⟩
  | some t => exact timely t ht

/-- **All messages that are read are timely**, from running text. -/
theorem Message.typed_yields : Message.typed.Yields Message.Timely :=
  Typed.record_yields (Message.fields_keep (fun _ _ _ _ _ _ => trivial) Typed.Yields.map
    (Typed.integer_yields timeName minTime maxTime)) (by rintro t ⟨⟩)
    fun _ _ => Message.Draft.Timely.finish

/-- **All messages that are read are timely**, from a tree. -/
theorem Message.pick_yields : Message.pick.Yields Message.Timely :=
  Pick.record_yields (Message.fields_keep (fun _ _ _ _ => trivial) Pick.Yields.map
    (Pick.integer_yields timeName minTime maxTime)) (by rintro t ⟨⟩)
    fun _ _ => Message.Draft.Timely.finish

/-! ## Events -/

/-- **The time of an event's message has sixty-four bits**; other events have no time. -/
def Event.Timely (e : Event) : Prop := ∀ m ∈ e.message?, m.Timely

/-- **A text that spells a kind and what makes an event of that kind is taken as the event.** -/
theorem Event.takes_of {text : List Char} {name : String} {others : List (String × Value)}
    {k : EventKind} {e : Event}
    (spells : Spells (depth + 1) text (.table (("type", .text name) :: others)))
    (lookup : EventKind.table.lookup name = some k) (htype : ∀ o ∈ others, o.1 ≠ "type")
    (hpick : (Pick.record true (Event.record k)).run (.table others) = .ok e) :
    Event.typed.Takes (depth + 1) text e := by
  intro rest _
  have hfilter : (("type", Value.text name) :: others).filter (·.1 ≠ "type") = others := by
    rw [List.filter_cons_of_neg (by simp)]
    exact List.filter_eq_self.mpr fun o ho => decide_eq_true (htype o ho)
  have hnone : valuesOf "type" others = [] := by
    rw [valuesOf, List.filter_eq_nil_iff.mpr fun o ho => by simpa using htype o ho]
    rfl
  have habsorb : (("type", Value.text name) :: others).foldlM Event.Parts.absorb {}
      = some ⟨some k, others.reverse⟩ := by
    refine foldlM_absorb_iff.mpr ⟨⟨.text name, ?_, name, rfl, lookup⟩, ?_⟩
    · rw [valuesOf_cons_self, hnone]
    · rw [hfilter]
      exact (List.append_nil _).symm
  have hread := Event.typed_spelled spells (List.forall_mem_nil _) rest
  have hassemble : (Event.assemble (some k) (.table others)).toOption = some e :=
    Event.assemble_iff.mpr ⟨k, rfl, hpick⟩
  rw [habsorb, Option.bind_some, List.reverse_reverse, hassemble] at hread
  exact toOption_eq_some_iff.mp hread

/-- **A written event is taken.** -/
theorem Event.takes {e : Event} (timely : e.Timely) :
    Event.typed.Takes (depth + 2) e.print e := by
  have hname : ∀ (d : Nat) (s : String), Spells d (printString s) (.text s) := spells_printString
  cases e with
  | sent m =>
    have hm : m.Timely := timely m rfl
    have hspells := @spells_printObject (depth + 1)
      [("type", printString "message_sent", .text "message_sent"),
        ("message", m.print, .table m.tree)]
      (List.cons_ne_nil _ _) (by simp [hname, Message.spells hm])
    refine Event.takes_of hspells rfl (by simp) ?_
    exact (Event.record_iff (by simp [valuesOf]) (by simp [valuesOf])).mpr
      (.sent ⟨_, rfl, _, rfl, Message.toldBy_tree hm⟩)
  | joined s u =>
    have hspells := @spells_printObject (depth + 1)
      [("type", printString "user_joined_room", .text "user_joined_room"),
        ("stream_id", printString s, .text s), ("user", u.print, .table u.tree)]
      (List.cons_ne_nil _ _) (by simp [hname, User.spells])
    refine Event.takes_of hspells rfl (by simp) ?_
    exact (Event.record_iff (by simp [valuesOf]) (by simp [valuesOf])).mpr
      (.joined ⟨_, rfl, rfl⟩ ⟨_, rfl, _, rfl, u.toldBy_tree⟩)
  | left s u =>
    have hspells := @spells_printObject (depth + 1)
      [("type", printString "user_left_room", .text "user_left_room"),
        ("stream_id", printString s, .text s), ("user", u.print, .table u.tree)]
      (List.cons_ne_nil _ _) (by simp [hname, User.spells])
    refine Event.takes_of hspells rfl (by simp) ?_
    exact (Event.record_iff (by simp [valuesOf]) (by simp [valuesOf])).mpr
      (.left ⟨_, rfl, rfl⟩ ⟨_, rfl, _, rfl, u.toldBy_tree⟩)
  | other kind =>
    have hspells := @spells_printObject (depth + 1)
      [("type", printString "other", .text "other"), ("kind", printString kind, .text kind)]
      (List.cons_ne_nil _ _) (by simp [hname])
    refine Event.takes_of hspells rfl (by simp) ?_
    exact (Event.record_iff (by simp [valuesOf]) (by simp [valuesOf])).mpr (.other ⟨_, rfl, rfl⟩)

/-! ### No line is broken -/

theorem Message.not_isControl_of_mem_print {m : Message} {c : Char} (h : c ∈ m.print) :
    isControl c = false := by
  refine not_isControl_of_mem_printObject ?_ h
  simp only [List.forall_mem_cons]
  exact ⟨not_isControl_of_mem_printString, not_isControl_of_mem_printString,
    not_isControl_of_mem_printString, not_isControl_of_mem_printString,
    not_isControl_of_mem_printInt, not_isControl_of_mem_printString, List.forall_mem_nil _⟩

/-- **No control character stands in a written event**, whatever its texts have in them. -/
theorem Event.not_isControl_of_mem_print {e : Event} {c : Char} (h : c ∈ e.print) :
    isControl c = false := by
  have hmembership : ∀ {name s : String} {u : User}, c ∈ printObject [("type", printString name),
      ("stream_id", printString s), ("user", u.print)] → isControl c = false := by
    intro name s u hc
    refine not_isControl_of_mem_printObject ?_ hc
    simp only [List.forall_mem_cons, User.print_eq]
    exact ⟨not_isControl_of_mem_printString, not_isControl_of_mem_printString,
      not_isControl_of_mem_printTexts, List.forall_mem_nil _⟩
  cases e with
  | sent m =>
    refine not_isControl_of_mem_printObject ?_ h
    simp only [List.forall_mem_cons]
    exact ⟨not_isControl_of_mem_printString, Message.not_isControl_of_mem_print,
      List.forall_mem_nil _⟩
  | joined s u => exact hmembership h
  | left s u => exact hmembership h
  | other kind =>
    refine not_isControl_of_mem_printObject ?_ h
    simp only [List.forall_mem_cons]
    exact ⟨not_isControl_of_mem_printString, not_isControl_of_mem_printString,
      List.forall_mem_nil _⟩

/-! ### What a reader of events yields -/

/-- **All events of a kind that are read from a tree are timely.** -/
theorem Event.record_yields (k : EventKind) :
    (Pick.record true (Event.record k)).Yields Event.Timely := by
  have hmembership : ∀ {label : String} {make : String → User → Event},
      (∀ s u, (make s u).Timely) → (Pick.record true (Event.membership label make)).Yields
        Event.Timely := by
    intro label make hmake
    refine Pick.record_yields (I := fun _ => True) (fun _ _ _ _ _ _ _ => trivial) trivial ?_
    intro d e _ he
    obtain ⟨s, -, he⟩ := required_bind_iff.mp he
    obtain ⟨u, -, he⟩ := required_bind_iff.mp he
    cases he
    exact hmake s u
  cases k with
  | sent =>
    refine Pick.record_yields (I := fun d => ∀ m ∈ d.message, m.Timely) ?_ (by rintro m ⟨⟩) ?_
    · refine List.forall_mem_singleton.mpr (Message.pick_yields.map ?_)
      rintro m hm d - m' ⟨⟩
      exact hm
    · intro d e hd he
      obtain ⟨m, hm, rfl⟩ := required_map_iff.mp he
      rintro m' ⟨⟩
      exact hd m hm
  | joined => exact hmembership fun s u m hm => by cases hm
  | left => exact hmembership fun s u m hm => by cases hm
  | other =>
    refine Pick.record_yields (I := fun _ => True) (fun _ _ _ _ _ _ _ => trivial) trivial ?_
    intro d e _ he
    obtain ⟨kind, -, rfl⟩ := required_map_iff.mp he
    rintro m ⟨⟩

/-- **All events that are read are timely.** -/
theorem Event.typed_yields : Event.typed.Yields Event.Timely := by
  intro depth cs e rest hrun
  have hassemble : ∀ {kind : Option EventKind} {v : Value},
      Event.assemble kind v = .ok e → e.Timely := by
    intro kind v h
    cases kind with
    | none => cases h
    | some k =>
      rw [Event.assemble] at h
      cases hpick : (Pick.record true (Event.record k)).run v with
      | error f =>
        rw [hpick] at h
        cases h
      | ok e' =>
        rw [hpick] at h
        cases h
        exact Event.record_yields k hpick
  unfold Event.typed at hrun
  dsimp only at hrun
  split at hrun
  · cases hrun
  · cases hrun
  · obtain ⟨p, -, hrun⟩ := exists_of_bind hrun
    obtain ⟨e', he, hrun⟩ := exists_of_bind hrun
    obtain ⟨rfl, -⟩ := Prod.mk.inj (Except.ok.inj hrun)
    exact hassemble he
  · obtain ⟨p, -, hrun⟩ := exists_of_bind hrun
    obtain ⟨e', he, hrun⟩ := exists_of_bind hrun
    obtain ⟨rfl, -⟩ := Prod.mk.inj (Except.ok.inj hrun)
    exact hassemble he
  · cases hrun

/-! ## All of the feed -/

/-- **Whatever the feed can carry is written faithfully**: users, messages, events, cursors and
stream kinds, with any characters in their texts and any time of sixty-four bits. -/
theorem feed_faithful :
    Faithful User.typed User.print (fun _ => True)
      ∧ Faithful Message.typed Message.print Message.Timely
      ∧ Faithful Event.typed Event.print Event.Timely
      ∧ Faithful Cursor.typed Cursor.print (fun _ => True)
      ∧ Faithful StreamKind.typed StreamKind.print (fun _ => True) := by
  refine ⟨.of_takes (fun u _ => u.takes) fun _ _ _ _ _ => trivial,
    .of_takes (fun m hm => Message.takes hm) Message.typed_yields,
    .of_takes (fun e he => Event.takes he) Event.typed_yields,
    .of_takes (fun c _ => ?_) fun _ _ _ _ _ => trivial,
    .of_takes (fun k _ => Typed.choice_takes k.lookup_name) fun _ _ _ _ _ => trivial⟩
  exact (Typed.text_takes c.token).map Cursor.mk

/-- The earliest time, and in the texts a quote, a backslash, line ends, a character of no width and
one of four bytes. -/
theorem feed_faithful_earliest :
    let m : Message := ⟨"\"m\\", "S\n", "\x00", "𝄞\r\t\x7f", minTime, .wall⟩
    (Event.sent m).Timely
      ∧ String.ofList (Event.print (.sent m)) = "\x7b\"type\":\"message_sent\",\"message\":\x7b"
        ++ "\"message_id\":\"\\\"m\\\\\",\"stream_id\":\"S\\n\",\"from_user_id\":\"\\u0000\","
        ++ "\"body\":\"𝄞\\r\\t\x7f\",\"timestamp\":-9223372036854775808,"
        ++ "\"stream_type\":\"post\"\x7d\x7d"
      ∧ readAs Event.typed (String.ofList (Event.print (.sent m))) = .ok (.sent m) := by
  intro m
  have timely : (Event.sent m).Timely := by
    rintro m' ⟨⟩
    decide
  exact ⟨timely, by decide +kernel, feed_faithful.2.2.1.reads _ timely⟩

end ChatFeed
