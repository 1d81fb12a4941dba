import ChatFeed.Proofs.Chat.Passage

/-!
# Proofs/Chat/Account — what a listener is due from the calls on its chat

An `Account` says, from the calls that have entered a chat's lock, what a listener is to have been
handed.  `Fits` relates it to the chat in the middle of a call, and `Fits.pace` says that every step
of the call fits on.
-/

namespace ChatFeed

/-! ## What a listener is due -/

/-- The message that a call delivers. -/
def ChatCall.message? : ChatCall → Option Message
  | .deliver m => some m
  | .register _ => none

/-- The messages that some calls deliver, in order. -/
def messagesOf (calls : List ChatCall) : List Message := calls.filterMap ChatCall.message?

/-- **The last message after some calls**, given the one before them. -/
def lastAfter (last : Option Message) (calls : List ChatCall) : Option Message :=
  (messagesOf calls).getLast?.or last

/-- **A listener's account**: whether it is registered, the last message, and what the listener is
to have been handed. -/
structure Account where
  known : Bool
  last : Option Message
  due : List Message

namespace Account

variable {l : String} {a : Account} {m : Message} {calls : List ChatCall}

/-- **A call in an account**: who is registered is due every message, and the last one on being
registered. -/
def enter (l : String) (a : Account) : ChatCall → Account
  | .deliver m => ⟨a.known, some m, a.due ++ if a.known then [m] else []⟩
  | .register x =>
    if x = l ∧ a.known = false then ⟨true, a.last, a.due ++ a.last.toList⟩ else a

/-- Some calls in an account, in order. -/
def after (l : String) (a : Account) (calls : List ChatCall) : Account := calls.foldl (enter l) a

theorem after_concat (l : String) (a : Account) (calls : List ChatCall) (c : ChatCall) :
    a.after l (calls ++ [c]) = (a.after l calls).enter l c := by
  rw [after, List.foldl_append]
  rfl

theorem last_after (l : String) (a : Account) (calls : List ChatCall) :
    (a.after l calls).last = lastAfter a.last calls := by
  induction calls generalizing a with
  | nil => rfl
  | cons c calls ih =>
    refine (ih (a.enter l c)).trans ?_
    cases c with
    | deliver m => simp [lastAfter, messagesOf, enter, ChatCall.message?, List.getLast?_cons]
    | register x =>
      have hlast : (a.enter l (.register x)).last = a.last := by
        rw [enter]
        split <;> rfl
      rw [hlast]
      rfl

/-- **Who is registered is due all that follows.** -/
theorem due_after_of_known (h : a.known = true) (calls : List ChatCall) :
    (a.after l calls).due = a.due ++ messagesOf calls := by
  induction calls generalizing a with
  | nil => exact (List.append_nil _).symm
  | cons c calls ih =>
    cases c with
    | deliver m =>
      have hnext : (a.enter l (.deliver m)).due = a.due ++ [m] := by simp [enter, h]
      refine (ih (a := a.enter l (.deliver m)) h).trans ?_
      rw [hnext, List.append_assoc]
      rfl
    | register x =>
      have hnext : a.enter l (.register x) = a := by simp [enter, h]
      refine (ih (a := a.enter l (.register x)) (by rw [hnext, h])).trans ?_
      rw [hnext]
      rfl

/-- Who is not registered is due nothing. -/
theorem after_of_absent (h : a.known = false) (absent : .register l ∉ calls) :
    (a.after l calls).known = false ∧ (a.after l calls).due = a.due := by
  induction calls generalizing a with
  | nil => exact ⟨h, rfl⟩
  | cons c calls ih =>
    obtain ⟨hc, habsent⟩ := not_or.mp (mt List.mem_cons.mpr absent)
    have hnext : (a.enter l c).known = false ∧ (a.enter l c).due = a.due := by
      cases c with
      | deliver m => simp [enter, h]
      | register x =>
        have hx : x ≠ l := fun hx => hc (by rw [hx])
        simp [enter, h, hx]
    obtain ⟨hknown, hdue⟩ := ih hnext.1 habsent
    exact ⟨hknown, hdue.trans hnext.2⟩

/-- **Who is registered in between** is due the last message of that moment and all that follow. -/
theorem due_after_register {before after : List ChatCall} (h : a.known = false)
    (absent : .register l ∉ before) :
    (a.after l (before ++ .register l :: after)).due
      = a.due ++ ((lastAfter a.last before).toList ++ messagesOf after) := by
  obtain ⟨hknown, hdue⟩ := after_of_absent h absent
  have hlast := last_after l a before
  have hregister : (a.after l before).enter l (.register l)
      = ⟨true, lastAfter a.last before, a.due ++ (lastAfter a.last before).toList⟩ := by
    simp [enter, hknown, hdue, hlast]
  have hsplit : a.after l (before ++ .register l :: after)
      = ((a.after l before).enter l (.register l)).after l after := by
    simp [Account.after, List.foldl_append]
  rw [hsplit, hregister, due_after_of_known rfl, List.append_assoc]

end Account

/-- The account of a listener before any call. -/
def World.account (w : World) (id : ChatId) (l : String) : Account :=
  ⟨decide (l ∈ w.members id), (w.directory.chat id).last, []⟩

/-- **The chat squares with an account.** -/
structure Squares (l : String) (id : ChatId) (w : World) (heard : List Message) (a : Account) :
    Prop where
  last : (w.directory.chat id).last = a.last
  known : l ∈ w.members id ↔ a.known = true
  heard : heard = a.due

/-- **How a passage fits an account** that its call has still to be entered in. -/
inductive Fits (l : String) (id : ChatId) (w : World) (heard : List Message) (a : Account) :
    ChatCall → Passage → Prop
  | recording {m : Message} (squares : Squares l id w heard a) :
      Fits l id w heard a (.deliver m) (.recording m)
  | listing {m : Message} (squares : Squares l id w heard { a with last := some m }) :
      Fits l id w heard a (.deliver m) (.listing m)
  | handing {m : Message} {given left : List String} {r : Report}
      (split : w.members id = given ++ left)
      (squares : Squares l id w heard
        ⟨a.known, some m, a.due ++ if l ∈ given then [m] else []⟩) :
      Fits l id w heard a (.deliver m) (.handing m left r)
  | checking {x : String} (squares : Squares l id w heard a) :
      Fits l id w heard a (.register x) (.checking x)
  | recalling {x : String} (new : x ∉ w.members id) (squares : Squares l id w heard a) :
      Fits l id w heard a (.register x) (.recalling x)
  | replaying {x : String} {m : Message} (new : x ∉ w.members id) (last : a.last = some m)
      (squares : Squares l id w heard a) : Fits l id w heard a (.register x) (.replaying x m)
  | inserting {x : String} (new : x ∉ w.members id) (squares : Squares l id w heard
        { a with due := a.due ++ if x = l then a.last.toList else [] }) :
      Fits l id w heard a (.register x) (.inserting x)
  | done {c : ChatCall} {reply : Reply} (squares : Squares l id w heard (a.enter l c)) :
      Fits l id w heard a c (.done reply)

variable {k : Company} {id : ChatId} {l : String} {w w' : World} {heard : List Message}
  {a : Account} {m : Message} {p p' : Passage} {c : ChatCall}

/-- A call begins where it fits. -/
theorem Squares.fits_first (squares : Squares l id w heard a) (c : ChatCall) :
    Fits l id w heard a c c.first := by
  cases c with
  | deliver m => exact .recording squares
  | register x => exact .checking squares

theorem Directory.chat_congr {d d' : Directory} (h : d'.chats[id]? = d.chats[id]?) :
    d'.chat id = d.chat id := by
  rw [Directory.chat, Directory.chat, List.getD_eq_getElem?_getD, List.getD_eq_getElem?_getD, h]

/-- Where the chat is left alone, only what is handed over is to be entered. -/
theorem Squares.spared (squares : Squares l id w heard a)
    (spared : w'.directory.chats[id]? = w.directory.chats[id]?) (more : List Message) :
    Squares l id w' (heard ++ more) { a with due := a.due ++ more } where
  last := by rw [Directory.chat_congr spared, squares.last]
  known := by rw [World.members, Directory.chat_congr spared]; exact squares.known
  heard := by rw [squares.heard]

/-- A snapshot that is got through has been handed to every listener. -/
theorem Squares.handed (squares : Squares l id w heard
    ⟨a.known, some m, a.due ++ if l ∈ w.members id then [m] else []⟩) :
    Squares l id w heard (a.enter l (.deliver m)) := by
  have hknown : l ∈ w.members id ↔ a.known = true := squares.known
  have hdue := squares.heard
  simp only [hknown] at hdue
  exact ⟨squares.last, hknown, hdue⟩

/-- A registration of a listener that is there enters nothing. -/
theorem Squares.registered {x : String} (squares : Squares l id w heard a)
    (old : x ∈ w.members id) : Squares l id w heard (a.enter l (.register x)) := by
  have hsame : a.enter l (.register x) = a := by
    have hnot : ¬ (x = l ∧ a.known = false) := by
      rintro ⟨rfl, hknown⟩
      rw [squares.known.mp old] at hknown
      cases hknown
    rw [Account.enter, if_neg hnot]
  rw [hsame]
  exact squares

/-- **A listener is inserted** when it has been caught up. -/
theorem Squares.insert {x : String} (hlt : id < w.directory.chats.length)
    (new : x ∉ w.members id) (squares : Squares l id w heard
      { a with due := a.due ++ if x = l then a.last.toList else [] }) :
    Squares l id (w.onChat id fun c => { c with listeners := c.listeners.insert x }) heard
      (a.enter l (.register x)) := by
  have hchat : (w.onChat id fun c => { c with listeners := c.listeners.insert x }).directory.chat id
      = { w.directory.chat id with listeners := (w.directory.chat id).listeners.insert x } :=
    Directory.chat_update hlt _
  have hmembers : (w.onChat id fun c =>
      { c with listeners := c.listeners.insert x }).members id = w.members id ++ [x] := by
    rw [World.members, hchat, Roster.members_insert]
    exact if_neg new
  have hlast : (w.directory.chat id).last = a.last := squares.last
  have hknown : l ∈ w.members id ↔ a.known = true := squares.known
  have hdue := squares.heard
  by_cases hx : x = l
  · subst hx
    have hnot : a.known = false := by simpa using mt hknown.mpr new
    rw [Account.enter, if_pos ⟨rfl, hnot⟩]
    refine ⟨by rw [hchat]; exact hlast, by rw [hmembers]; simp, ?_⟩
    simpa using hdue
  · rw [Account.enter, if_neg fun h => hx h.1]
    refine ⟨by rw [hchat]; exact hlast, ?_, by simpa [hx] using hdue⟩
    rw [hmembers, List.mem_append, List.mem_singleton, ← hknown]
    exact or_iff_left fun h => hx h.symm

/-- **The next listener of a snapshot is called.** -/
theorem Fits.hand {x : String} {given left : List String} {r : Report}
    (split : w.members id = given ++ x :: left)
    (squares : Squares l id w heard ⟨a.known, some m, a.due ++ if l ∈ given then [m] else []⟩)
    (spared : w'.directory.chats[id]? = w.directory.chats[id]?) :
    Fits l id w' (heard ++ heardBy l [(x, m)]) a (.deliver m) (.handing m left r) := by
  have hmembers : w'.members id = w.members id := by
    rw [World.members, Directory.chat_congr spared]
    rfl
  have hsplit : w.members id = (given ++ [x]) ++ left := by simp [split]
  refine .handing (hmembers.trans hsplit) ?_
  have hnext := squares.spared spared (heardBy l [(x, m)])
  -- the snapshot has nobody twice, so it was not this listener's turn before
  have hnodup : (given ++ x :: left).Nodup := split ▸ (w.directory.chat id).listeners.distinct
  have hnew : x ∉ given := fun hx =>
    (List.nodup_append.mp hnodup).2.2 x hx x List.mem_cons_self rfl
  have hdue : (a.due ++ if l ∈ given then [m] else []) ++ heardBy l [(x, m)]
      = a.due ++ if l ∈ given ++ [x] then [m] else [] := by
    rw [heardBy_single, List.append_assoc]
    by_cases hx : x = l
    · subst hx
      simp [hnew]
    · have hxl : l ≠ x := Ne.symm hx
      simp [hx, hxl]
  rw [← hdue]
  exact hnext

/-- **A message is recorded.** -/
theorem Squares.record (squares : Squares l id w heard a) (hlt : id < w.directory.chats.length)
    (m : Message) : Squares l id (w.onChat id fun c => { c with last := some m }) heard
      { a with last := some m } where
  last := by rw [World.onChat, Directory.chat_update hlt]
  known := by rw [World.members_withLast]; exact squares.known
  heard := squares.heard

/-- A listener that there is nothing to catch up with is caught up. -/
theorem Squares.blank (squares : Squares l id w heard a) (x : String)
    (last : (w.directory.chat id).last = none) :
    Squares l id w heard { a with due := a.due ++ if x = l then a.last.toList else [] } := by
  have hlast : a.last = none := squares.last.symm.trans last
  have hsame : (a.due ++ if x = l then a.last.toList else []) = a.due := by simp [hlast]
  rw [hsame]
  exact squares

/-- **A new listener is handed the last message.** -/
theorem Fits.replay {x : String} (new : x ∉ w.members id) (last : a.last = some m)
    (squares : Squares l id w heard a)
    (spared : w'.directory.chats[id]? = w.directory.chats[id]?) :
    Fits l id w' (heard ++ heardBy l [(x, m)]) a (.register x) (.inserting x) := by
  have hnew : x ∉ w'.members id := by
    rw [World.members, Directory.chat_congr spared]
    exact new
  have hcaught : a.last.toList = [m] := by rw [last]; rfl
  refine .inserting hnew ?_
  rw [hcaught, ← heardBy_single]
  exact squares.spared spared _

/-- Where nobody is handed anything nothing more is heard. -/
theorem Fits.silent (fits : Fits l id w heard a c p) :
    Fits l id w (heard ++ heardBy l []) a c p := by
  simpa [heardBy] using fits

/-- **Every step of a passage fits on.** -/
theorem Fits.pace (fits : Fits l id w heard a c p) (spares : k.Spares id w p)
    (hlt : id < w.directory.chats.length) (pace : Company.Pace k id w p p' w') :
    Fits l id w' (heard ++ heardBy l p.hands) a c p' := by
  cases fits with
  | recording squares =>
    cases pace
    exact (Fits.listing (squares.record hlt _)).silent
  | listing squares =>
    cases pace
    exact (Fits.handing (List.nil_append _).symm (by simpa using squares)).silent
  | handing split squares =>
    cases pace with
    | hand calling => exact .hand split squares (spares.attempt List.mem_cons_self calling)
    | handed =>
      have hall : w.members id = _ := split.trans (List.append_nil _)
      rw [← hall] at squares
      exact (Fits.done squares.handed).silent
  | checking squares =>
    cases pace with
    | known old => exact (Fits.done (squares.registered old)).silent
    | fresh new => exact (Fits.recalling new squares).silent
  | recalling new squares =>
    cases pace with
    | blank last => exact (Fits.inserting new (squares.blank _ last)).silent
    | remembered last => exact (Fits.replaying new (squares.last.symm.trans last) squares).silent
  | replaying new last squares =>
    cases pace with
    | replay calling => exact .replay new last squares (spares.attempt List.mem_cons_self calling)
  | inserting new squares =>
    cases pace
    exact (Fits.done (squares.insert hlt new)).silent
  | done squares =>
    cases pace
    exact (Fits.done squares).silent

end ChatFeed
