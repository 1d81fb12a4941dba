import ChatFeed.Proofs.Chat.Dispatch
import Mathlib.Data.List.DropRight
import Mathlib.Data.List.Induction
import Mathlib.Data.List.Nodup

/-!
# Proofs/Chat/Attendance — what a directory shows after any session

What a directory knows of a stream can be read from the events of a `session` themselves.  Its
**stay** at a stream is what has come since the owner left it last, from the first message on; the
**roll** of that stay says who takes part, and under which record: the sender of the message that
began it, as looked up just then, and whoever has joined and not left.

* `attended_followAll` — following one stream through the session leads to what stay and roll say.
* `directory_shows_attendance` — the directory does so for every stream, whatever the events, and
  however users are looked up at each of them.
-/

namespace ChatFeed

namespace Event

/-- The message that an event brings on a stream. -/
def messageOn? (stream : String) : Event → Option Message
  | .sent m => if m.stream = stream then some m else none
  | _ => none

/-- Whether an event is that a user leaves a stream. -/
def isLeaveOf (user stream : String) : Event → Bool
  | .left s u => s = stream && u.id = user
  | _ => false

end Event

/-- **The stay at a stream**: what has come since the owner left it last, from the first message
on. -/
def stay (owner stream : String) (events : List (Cast × Event)) : List (Cast × Event) :=
  (events.rtakeWhile fun x => !x.2.isLeaveOf owner stream).dropWhile
    fun x => (x.2.messageOn? stream).isNone

/-- **Who takes part**: the record under each identifier. -/
abbrev Roll := String → Option User

namespace Roll

/-- One user, or nobody. -/
def of (founder : Option User) : Roll := fun id => founder.filter (·.id = id)

/-- Somebody joins; who is there already keeps the record first stored. -/
def join (r : Roll) (u : User) : Roll := fun id =>
  if id = u.id then some ((r id).getD u) else r id

/-- Somebody leaves. -/
def leave (r : Roll) (gone : String) : Roll := fun id => if id = gone then none else r id

/-- **What an event does to the roll of a stream**: users other than the owner join and leave. -/
def follow (owner stream : String) (r : Roll) : Event → Roll
  | .joined s u => if s = stream ∧ u.id ≠ owner then r.join u else r
  | .left s u => if s = stream ∧ u.id ≠ owner then r.leave u.id else r
  | _ => r

end Roll

/-- **The roll of a stay**: it begins with whom the first message brings, by the look-ups at it. -/
def rollOf (owner : User) (stream : String) : List (Cast × Event) → Roll
  | (cast, .sent m) :: events =>
    events.foldl (fun r x => r.follow owner.id stream x.2) (.of (cast.founder owner m))
  | _ => .of none

/-! ## Participants under their identifiers -/

namespace Participants

/-- The record under an identifier. -/
def record? (p : Participants) : Roll := fun id => p.users.find? (·.id = id)

/-- Nobody has two records, so the records are the participants. -/
theorem mem_users_iff {p : Participants} {u : User} : u ∈ p.users ↔ p.record? u.id = some u := by
  constructor
  · intro hu
    obtain ⟨v, hv⟩ := Option.isSome_iff_exists.mp
      (List.find?_isSome.mpr ⟨u, hu, decide_eq_true rfl⟩ :
        (p.users.find? fun x => x.id = u.id).isSome = true)
    have hid : v.id = u.id := by simpa using List.find?_some hv
    have hmem : v ∈ p.users := List.mem_of_find?_eq_some hv
    rw [← List.inj_on_of_nodup_map p.distinct hmem hu hid]
    exact hid ▸ hv
  · exact fun h => List.mem_of_find?_eq_some h

theorem has_eq_isSome (p : Participants) (id : String) : p.has id = (p.record? id).isSome := by
  rw [Bool.eq_iff_iff]
  simp [has, record?]

theorem record?_insert (p : Participants) (u : User) : (p.insert u).record? = p.record?.join u := by
  funext id
  have hhas : p.has u.id = (p.record? u.id).isSome := has_eq_isSome p u.id
  rw [record?, users_insert, Roll.join]
  by_cases hid : id = u.id
  · subst hid
    rw [if_pos rfl]
    cases hu : p.record? u.id with
    | some v =>
      rw [hu, Option.isSome_some] at hhas
      rw [if_pos hhas]
      exact hu
    | none =>
      rw [hu] at hhas
      rw [if_neg (by simp [hhas]), List.find?_append]
      simp [show p.users.find? (fun x => x.id = u.id) = none from hu]
  · rw [if_neg hid]
    split
    · rfl
    · rw [List.find?_append]
      simp [Ne.symm hid, record?]

theorem record?_erase (p : Participants) (gone : String) :
    (p.erase gone).record? = p.record?.leave gone := by
  funext id
  rw [record?, users_erase, Roll.leave, List.find?_filter]
  by_cases hid : id = gone
  · subst hid
    rw [if_pos rfl, List.find?_eq_none]
    intro u _
    simp
  · rw [if_neg hid, record?]
    congr 1
    funext u
    by_cases hu : u.id = id <;> simp [hu, hid]

theorem record?_founder (founder : Option User) :
    (ofList founder.toList).record? = .of founder := by
  funext id
  cases founder with
  | none => rfl
  | some u =>
    rw [Option.toList_some, ofList, List.foldl_cons, List.foldl_nil, record?_insert, Roll.join]
    by_cases hid : id = u.id
    · subst hid
      rw [if_pos rfl]
      simp [Roll.of, record?, empty, Option.filter]
    · rw [if_neg hid]
      simp [Roll.of, record?, empty, Option.filter, Ne.symm hid]

end Participants

/-! ## Following one stream -/

variable {owner : User} {stream : String} {events : List (Cast × Event)} {x : Cast × Event}

/-- **One event more**: the owner's leave ends the stay, a message begins one, and anything else
goes on with the one there is. -/
theorem stay_concat (owner stream : String) (events : List (Cast × Event)) (x : Cast × Event) :
    stay owner stream (events ++ [x])
      = if x.2.isLeaveOf owner stream then []
        else if stay owner stream events = [] then
          if (x.2.messageOn? stream).isSome then [x] else []
        else stay owner stream events ++ [x] := by
  unfold stay
  rw [List.rtakeWhile_concat]
  cases hleave : x.2.isLeaveOf owner stream with
  | true => rfl
  | false =>
    rw [Bool.not_false, if_pos rfl, List.dropWhile_append, if_neg Bool.false_ne_true]
    simp only [List.isEmpty_iff]
    congr 1
    cases hm : x.2.messageOn? stream <;> simp [hm]

/-- An event that brings a message on a stream. -/
theorem Event.eq_sent_of_isSome {e : Event} (h : (e.messageOn? stream).isSome = true) :
    ∃ m, e = .sent m ∧ m.stream = stream := by
  cases e with
  | sent m =>
    refine ⟨m, rfl, ?_⟩
    by_contra hm
    simp [Event.messageOn?, hm] at h
  | _ => simp [Event.messageOn?] at h

/-- A stay begins with a message. -/
theorem stay_eq_nil_or_sent (owner stream : String) (events : List (Cast × Event)) :
    stay owner stream events = []
      ∨ ∃ cast m rest, stay owner stream events = (cast, .sent m) :: rest := by
  induction events using List.reverseRecOn with
  | nil => exact .inl rfl
  | append_singleton events x ih =>
    rw [stay_concat]
    split
    · exact .inl rfl
    · split
      · split
        · obtain ⟨cast, e⟩ := x
          obtain ⟨m, rfl, -⟩ := Event.eq_sent_of_isSome ‹_›
          exact .inr ⟨cast, m, [], rfl⟩
        · exact .inl rfl
      · obtain ⟨cast, m, rest, hrest⟩ := ih.resolve_left ‹_›
        exact .inr ⟨cast, m, rest ++ [x], by rw [hrest, List.cons_append]⟩

/-- **A stay goes on** exactly when a message has come that no leave of the owner follows. -/
theorem stay_ne_nil_iff (owner stream : String) (events : List (Cast × Event)) :
    stay owner stream events ≠ []
      ↔ ∃ before cast m after, events = before ++ (cast, .sent m) :: after ∧ m.stream = stream
        ∧ ∀ x ∈ after, x.2.isLeaveOf owner stream = false := by
  induction events using List.reverseRecOn with
  | nil => simp [stay]
  | append_singleton events x ih =>
    rw [stay_concat]
    constructor
    · intro h
      by_cases hleave : x.2.isLeaveOf owner stream = true
      · exact absurd (if_pos hleave) h
      · rw [if_neg hleave] at h
        by_cases hnone : stay owner stream events = []
        · rw [if_pos hnone] at h
          obtain ⟨cast, e⟩ := x
          obtain ⟨m, rfl, hm⟩ := Event.eq_sent_of_isSome (by_contra fun hm => h (if_neg hm))
          exact ⟨events, cast, m, [], rfl, hm, by simp⟩
        · obtain ⟨before, cast, m, after, rfl, hm, hafter⟩ := ih.mp hnone
          refine ⟨before, cast, m, after ++ [x], by simp, hm, fun y hy => ?_⟩
          rcases List.mem_append.mp hy with hy | hy
          · exact hafter y hy
          · rw [List.mem_singleton.mp hy]
            simpa using hleave
    · rintro ⟨before, cast, m, after, hsplit, hm, hafter⟩
      rcases List.eq_nil_or_concat after with rfl | ⟨after, y, rfl⟩
      · obtain ⟨rfl, rfl⟩ : events = before ∧ x = (cast, .sent m) := by simpa using hsplit
        have hmessage : ((Event.sent m).messageOn? stream).isSome = true := by
          simp [Event.messageOn?, hm]
        rw [if_neg (by simp [Event.isLeaveOf]), if_pos hmessage]
        split <;> simp
      · obtain ⟨rfl, rfl⟩ : events = before ++ (cast, .sent m) :: after ∧ x = y := by
          simpa using List.append_inj' (hsplit.trans (by simp) :
            events ++ [x] = (before ++ (cast, .sent m) :: after) ++ [y]) rfl
        have hgoes : stay owner stream (before ++ (cast, .sent m) :: after) ≠ [] :=
          ih.mpr ⟨before, cast, m, after, rfl, hm, fun z hz => hafter z (by simp [hz])⟩
        rw [if_neg (by simp [hafter x (by simp)]), if_neg hgoes]
        simp

/-- The roll goes on with the events of the stay. -/
theorem rollOf_concat {cast : Cast} {m : Message} {rest : List (Cast × Event)} (owner : User)
    (stream : String) (x : Cast × Event) : rollOf owner stream ((cast, .sent m) :: rest ++ [x])
      = (rollOf owner stream ((cast, .sent m) :: rest)).follow owner.id stream x.2 := by
  simp [rollOf]

/-- **What is shown of a stay**: nothing when there is none, else a chat of the owner with the last
message and those on the roll. -/
structure Attended (owner : User) (stream : String) (events : List (Cast × Event)) (c : Chat) :
    Prop where
  stream_eq : c.stream = some stream
  localUser : c.localUser = some owner
  last : c.last = (events.filterMap (·.2.messageOn? stream)).getLast?
  remotes : c.remotes.record? = rollOf owner stream (stay owner.id stream events)

/-- A message begins a stay. -/
theorem attended_opened (cast : Cast) (owner : User) (events : List (Cast × Event)) (m : Message)
    (hstay : stay owner.id m.stream events = []) :
    Attended owner m.stream (events ++ [(cast, .sent m)]) (cast.opened owner m) where
  stream_eq := rfl
  localUser := rfl
  last := by simp [Cast.opened, Event.messageOn?]
  remotes := by
    have hbegin : stay owner.id m.stream (events ++ [(cast, .sent m)]) = [(cast, .sent m)] := by
      rw [stay_concat, hstay]
      simp [Event.isLeaveOf, Event.messageOn?]
    rw [hbegin]
    exact Participants.record?_founder _

/-- **What an event does to a chat that stays**: its message is the last one, and its user is on the
roll or off it. -/
theorem follow_some {e : Event} (cast : Cast) (c : Chat)
    (hleave : e.isLeaveOf owner.id stream = false) :
    ∃ c', cast.follow owner stream (some c) e = some c' ∧ c'.stream = c.stream
      ∧ c'.localUser = c.localUser ∧ c'.last = (e.messageOn? stream).or c.last
      ∧ c'.remotes.record? = c.remotes.record?.follow owner.id stream e := by
  cases e with
  | sent m =>
    by_cases hm : m.stream = stream
    · exact ⟨{ c with last := some m }, if_pos hm, rfl, rfl, by simp [Event.messageOn?, hm], rfl⟩
    · exact ⟨c, if_neg hm, rfl, rfl, by simp [Event.messageOn?, hm], rfl⟩
  | joined s u =>
    by_cases hu : s = stream ∧ u.id ≠ owner.id
    · refine ⟨{ c with remotes := c.remotes.insert u }, if_pos hu, rfl, rfl, rfl, ?_⟩
      exact (Participants.record?_insert _ u).trans (if_pos hu).symm
    · exact ⟨c, if_neg hu, rfl, rfl, rfl, (if_neg hu).symm⟩
  | left s u =>
    by_cases hs : s = stream
    · have hu : u.id ≠ owner.id := by
        rintro hu
        simp [Event.isLeaveOf, hs, hu] at hleave
      refine ⟨{ c with remotes := c.remotes.erase u.id }, ?_, rfl, rfl, rfl, ?_⟩
      · rw [Cast.follow, if_pos hs, if_neg hu, Option.map_some]
      · exact (Participants.record?_erase _ _).trans (if_pos ⟨hs, hu⟩).symm
    · exact ⟨c, if_neg hs, rfl, rfl, rfl, (if_neg fun h => hs h.1).symm⟩
  | other kind => exact ⟨c, rfl, rfl, rfl, rfl, rfl⟩

/-- **A stay goes on**: what is shown of it follows each event. -/
theorem Attended.follow {c : Chat} (h : Attended owner stream events c)
    (goes : stay owner.id stream events ≠ []) (hleave : x.2.isLeaveOf owner.id stream = false) :
    ∃ c', x.1.follow owner stream (some c) x.2 = some c'
      ∧ Attended owner stream (events ++ [x]) c' := by
  obtain ⟨c', hc', hstream, hlocal, hlast, hremotes⟩ := follow_some x.1 c hleave
  refine ⟨c', hc', hstream.trans h.stream_eq, hlocal.trans h.localUser, ?_, ?_⟩
  · rw [hlast, h.last, List.filterMap_append]
    cases hm : x.2.messageOn? stream <;> simp [hm]
  · obtain ⟨cast, m, rest, hrest⟩ := (stay_eq_nil_or_sent owner.id stream events).resolve_left goes
    have hstay : stay owner.id stream (events ++ [x]) = stay owner.id stream events ++ [x] := by
      rw [stay_concat, if_neg (by simp [hleave]), if_neg goes]
    rw [hremotes, h.remotes, hstay, hrest, rollOf_concat]

/-- The owner's leave ends whatever there was. -/
theorem follow_of_leave {e : Event} (cast : Cast) (room : Option Chat)
    (hleave : e.isLeaveOf owner.id stream = true) : cast.follow owner stream room e = none := by
  cases e with
  | left s u =>
    obtain ⟨rfl, hu⟩ : s = stream ∧ u.id = owner.id := by simpa [Event.isLeaveOf] using hleave
    rw [Cast.follow, if_pos rfl, if_pos hu]
  | _ => simp [Event.isLeaveOf] at hleave

/-- Without a message there is no chat where there was none. -/
theorem follow_none {e : Event} (cast : Cast) (owner : User)
    (hm : ¬ (e.messageOn? stream).isSome = true) : cast.follow owner stream none e = none := by
  cases e with
  | sent m => exact if_neg fun h => hm (by simp [Event.messageOn?, h])
  | joined s u => rw [Cast.follow, Option.map_none, ite_self]
  | left s u => rw [Cast.follow, Option.map_none, ite_self, ite_self]
  | other kind => rfl

/-- **Following a stream from nothing** leads to what stay and roll say. -/
theorem attended_followAll (owner : User) (stream : String) (events : List (Cast × Event)) :
    (stay owner.id stream events = [] ∧ followAll owner stream none events = none)
      ∨ (stay owner.id stream events ≠ [] ∧ ∃ c,
        followAll owner stream none events = some c ∧ Attended owner stream events c) := by
  induction events using List.reverseRecOn with
  | nil => exact .inl ⟨rfl, rfl⟩
  | append_singleton events x ih =>
    rw [followAll, List.foldl_concat, ← followAll, stay_concat]
    by_cases hleave : x.2.isLeaveOf owner.id stream = true
    · exact .inl ⟨if_pos hleave, follow_of_leave x.1 _ hleave⟩
    · rw [if_neg hleave]
      rcases ih with ⟨hnone, hfollow⟩ | ⟨goes, c, hfollow, h⟩
      · rw [if_pos hnone, hfollow]
        by_cases hm : (x.2.messageOn? stream).isSome = true
        · obtain ⟨cast, e⟩ := x
          obtain ⟨m, rfl, rfl⟩ := Event.eq_sent_of_isSome hm
          refine .inr ⟨by simp [hm], cast.opened owner m, if_pos rfl, ?_⟩
          exact attended_opened cast owner events m hnone
        · exact .inl ⟨if_neg hm, follow_none x.1 owner hm⟩
      · obtain ⟨c', hc', h'⟩ := h.follow goes (by simpa using hleave)
        exact .inr ⟨by simp [goes], c', by rw [hfollow, hc'], h'⟩

/-! ## The directory -/

/-- **What a directory shows after any events.**  When nobody calls back, the events that are
dispatched to a directory without chats are all seen through, in whatever way users are looked up at
each of them, and then, for every stream:

* There is a chat exactly when some message has come after which the owner has not left.
* It is a chat of the owner on that stream, with the last message that has come there, and those who
  take part are, record for record, on the roll of the stay: the sender of its first message (as the
  look-up at that message ended: the bare one when it failed, nobody when it is the owner), whoever
  joined, the owner apart, under the record first stored, until they left. -/
theorem directory_shows_attendance {events : List (Cast × Event)}
    (quiet : ∀ x ∈ events, x.1.Quiet) (depth : Nat) {w : World}
    (empty : w.directory.rooms = .empty) :
    ∃ v, (session depth events).run w = some ((), v)
      ∧ v.directory.owner = w.directory.owner
      ∧ ∀ stream,
        ((∃ id, v.directory.rooms.find? stream = some id)
          ↔ ∃ before cast m after, events = before ++ (cast, .sent m) :: after ∧ m.stream = stream
            ∧ ∀ x ∈ after, x.2.isLeaveOf w.directory.owner.id stream = false)
        ∧ ∀ id, v.directory.rooms.find? stream = some id →
          (v.directory.chat id).stream = some stream
            ∧ (v.directory.chat id).localUser = some w.directory.owner
            ∧ (v.directory.chat id).last = (events.filterMap (·.2.messageOn? stream)).getLast?
            ∧ (v.directory.chat id).remotes.record? = rollOf w.directory.owner stream
              (stay w.directory.owner.id stream events) := by
  have hnothing : ∀ stream, w.directory.rooms.find? stream = none := fun stream => by
    rw [empty, Rooms.find?_empty]
  have tidy : w.Tidy := by
    constructor <;> intro stream id h <;> rw [hnothing] at h <;> cases h
  obtain ⟨⟨⟩, v, hrun, -, howner, hrooms⟩ := session_ends depth quiet tidy
  refine ⟨v, hrun, howner, fun stream => ?_⟩
  have hroom := hrooms stream
  rw [World.room?_eq_none (hnothing stream)] at hroom
  rw [← stay_ne_nil_iff]
  rcases attended_followAll w.directory.owner stream events with ⟨hnone, hfollow⟩
    | ⟨goes, c, hfollow, h⟩
  · have hgone : v.directory.rooms.find? stream = none := by
      have hmap := hroom.trans hfollow
      rwa [World.room?, Option.map_eq_none_iff] at hmap
    rw [hgone]
    exact ⟨⟨by simp, fun goes => absurd hnone goes⟩, by simp⟩
  · obtain ⟨id, hid, hc⟩ := Option.map_eq_some_iff.mp (hroom.trans hfollow)
    refine ⟨⟨fun _ => goes, fun _ => ⟨id, hid⟩⟩, fun a ha => ?_⟩
    obtain rfl := Option.some.inj (hid.symm.trans ha)
    subst hc
    exact ⟨h.stream_eq, h.localUser, h.last, h.remotes⟩

/-- The owner has left, and a message comes of somebody whom a look-up found before and finds no
more: whoever joined before it is not in the new chat, its sender is there as the bare one, and a
user who joins twice keeps the first record. -/
theorem directory_shows_attendance_after_return :
    let knowing (known : List User) : Cast := {
      observer := fun _ => .scripted { attach := some "ear" }
      lookup := some fun user => match known.find? (·.id = user) with
        | some u => { outcome := .ok u }
        | none => { delay := 5, outcome := .error ["nobody"] } }
    let before := knowing [.named "ann" "Ann", .named "carl" "Carl"]
    let after := knowing []
    let w : World := {
      directory := { owner := .bare "bot", observers := Roster.empty.insert "desk" } }
    let events : List (Cast × Event) := [(before, .sent (.plain "1" "room" "carl" "hello")),
      (before, .joined "room" (.named "ann" "Ann")), (before, .left "room" (.bare "bot")),
      (after, .joined "room" (.bare "eve")), (after, .sent (.plain "2" "room" "carl" "hello")),
      (before, .joined "room" (.named "bob" "Bob")),
      (after, .joined "room" (.named "bob" "Robert")), (after, .joined "room" (.bare "bot"))]
    ∃ v id, (session 0 events).run w = some ((), v)
      ∧ v.directory.rooms.find? "room" = some id
      ∧ ((v.directory.chat id).last.map (·.id)) = some "2"
      ∧ ["ann", "bob", "bot", "carl", "eve"].map (v.directory.chat id).remotes.record?
        = [none, some (.named "bob" "Bob"), none, some (.bare "carl"), none] := by
  intro knowing before after w events
  have quiet : ∀ known, (knowing known).Quiet := fun known => {
    listeners := fun name react h m n => by
      obtain rfl := ListenerRole.scripted.inj h
      rfl
    arrivals := fun name script h stream n => by
      obtain rfl := ObserverRole.scripted.inj h
      rfl
    departures := fun name script h stream n => by
      obtain rfl := ObserverRole.scripted.inj h
      rfl }
  have hquiet : ∀ x ∈ events, x.1.Quiet := by
    simp [events, before, after, quiet]
  obtain ⟨v, hrun, -, hshows⟩ := directory_shows_attendance hquiet 0 (w := w) rfl
  obtain ⟨hiff, hchat⟩ := hshows "room"
  obtain ⟨id, hid⟩ := hiff.mpr ⟨events.take 4, after, .plain "2" "room" "carl" "hello",
    events.drop 5, rfl, rfl, by decide⟩
  obtain ⟨-, -, hlast, hremotes⟩ := hchat id hid
  refine ⟨v, id, hrun, hid, ?_, ?_⟩
  · rw [hlast]
    decide
  · rw [hremotes]
    decide

end ChatFeed
