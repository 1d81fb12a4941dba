import ChatFeed.Proofs.Chat.Dispatch
import ChatFeed.Proofs.Transcript.Archive
import ChatFeed.Replay.Playback

/-!
# Proofs/Replay/Scribe — what an event leaves in the transcripts

In a playback one observer has one listener record every chat.  A world is **wired** when every chat
of its directory has just that listener (`World.Wired`): a chat is made without it, gets it when the
observer is told, before the first message is handed over, and there is no last message to be
replayed then.

* `Company.receive_records` — a message is written down once, by way of its chat.
* `Company.dispatch_records` — every event keeps the world wired, and writes its message, if it has
  one, and nothing else.
-/

namespace ChatFeed

namespace World

/-- **Directory and files stay as they are**; what is noted of the run may be more. -/
structure Steady (w v : World) : Prop where
  directory : v.directory = w.directory
  folder : v.folder = w.folder

/-- A message is written down. -/
def pen (w : World) (directory now : String) (m : Message) : World :=
  { w with folder := (Transcript.write directory now m w.folder).2 }

/-- **Wired for recording**: the recorder is the one observer, and each chat of the directory has
the scribe as its one listener. -/
structure Wired (w : World) : Prop where
  tidy : w.Tidy
  observers : w.directory.observers.members = [Playback.recorder]
  listeners : ∀ {stream id}, w.directory.rooms.find? stream = some id →
    w.members id = [Playback.scribe]

variable {w v u : World} {id : ChatId} {stream directory now : String} {m : Message}

namespace Steady

theorem refl (w : World) : w.Steady w := ⟨rfl, rfl⟩

theorem trans (h : w.Steady v) (h' : v.Steady u) : w.Steady u :=
  ⟨h'.directory.trans h.directory, h'.folder.trans h.folder⟩

theorem onChat (h : w.Steady v) (id : ChatId) (f : Chat → Chat) :
    (w.onChat id f).Steady (v.onChat id f) :=
  ⟨congrArg (·.update id f) h.directory, h.folder⟩

theorem pen (h : w.Steady v) (directory now : String) (m : Message) :
    (w.pen directory now m).Steady (v.pen directory now m) :=
  ⟨h.directory, congrArg (fun f => (Transcript.write directory now m f).2) h.folder⟩

theorem members (h : w.Steady v) (id : ChatId) : v.members id = w.members id := by
  rw [World.members, h.directory, World.members]

end Steady

/-- Being wired is a matter of the directory. -/
theorem Wired.of_directory (wired : w.Wired) (h : v.directory = w.directory) : v.Wired where
  tidy := (Unmoved.of_directory h).tidy wired.tidy
  observers := by rw [h, wired.observers]
  listeners := by
    intro stream id hroom
    rw [members, h]
    exact wired.listeners (h ▸ hroom)

theorem members_onChat_self (hlt : id < w.directory.chats.length) (f : Chat → Chat) :
    (w.onChat id f).members id = (f (w.directory.chat id)).listeners.members := by
  rw [members, onChat, Directory.chat_update hlt]

theorem members_onChat_ne {other : ChatId} (h : other ≠ id) (f : Chat → Chat) :
    (w.onChat id f).members other = w.members other := by
  rw [members, onChat, Directory.chat_update_ne h, members]

/-- **A chat that keeps its listeners may change.** -/
theorem Wired.onChat (wired : w.Wired) (hroom : w.directory.rooms.find? stream = some id)
    {f : Chat → Chat} (hstream : ∀ c, (f c).stream = c.stream)
    (hgate : ∀ c, (f c).gateOpen = c.gateOpen) (hlisteners : ∀ c, (f c).listeners = c.listeners) :
    (w.onChat id f).Wired where
  tidy := (wired.tidy.onChat hroom hstream hgate).1
  observers := wired.observers
  listeners := by
    intro other a ha
    by_cases hself : a = id
    · subst hself
      rw [members_onChat_self (wired.tidy.lt ha), hlisteners]
      exact wired.listeners ha
    · rw [members_onChat_ne hself]
      exact wired.listeners ha

/-- **A chat may go.** -/
theorem Wired.erase (wired : w.Wired) (stream : String) :
    ({ w with directory := { w.directory with rooms := w.directory.rooms.erase stream } } :
      World).Wired where
  tidy := (wired.tidy.erase stream).1
  observers := wired.observers
  listeners := by
    intro other a ha
    have hne : other ≠ stream := by
      rintro rfl
      exact absurd ((Rooms.find?_erase_self _ _).symm.trans ha) (by simp)
    exact wired.listeners ((Rooms.find?_erase_of_ne _ hne).symm.trans ha)

/-- A chat that has been made, recorded and opened. -/
def founded (w : World) (m : Message) (make : Chat) : World :=
  ({ w with directory := Company.withChat w.directory m.stream make } : World).onChat
    w.directory.nextId fun c =>
      { c with listeners := c.listeners.insert Playback.scribe, last := some m, gateOpen := true }

/-- **A chat may come**, if it has the scribe as its listener. -/
theorem Wired.founded (wired : w.Wired)
    (absent : w.directory.rooms.find? m.stream = none) {make : Chat}
    (hstream : make.stream = some m.stream) (hlisteners : make.listeners = .empty) :
    (w.founded m make).Wired := by
  have hlt : w.directory.nextId < (Company.withChat w.directory m.stream make).chats.length := by
    rw [Directory.length_withChat]
    exact Nat.lt_succ_self _
  refine ⟨(wired.tidy.withChat absent make _ rfl hstream rfl rfl).1, wired.observers, ?_⟩
  intro other a ha
  by_cases hother : other = m.stream
  · subst hother
    obtain rfl : w.directory.nextId = a :=
      Option.some.inj ((Rooms.find?_insert_self _ absent).symm.trans ha)
    rw [World.founded, members_onChat_self hlt, Directory.chat_withChat_self]
    simp [hlisteners, Roster.insert, Roster.contains, Roster.empty]
  · have hold : w.directory.rooms.find? other = some a :=
      (Rooms.find?_insert_of_ne _ _ hother).symm.trans ha
    have holdlt := wired.tidy.lt hold
    have hne : a ≠ w.directory.nextId := Nat.ne_of_lt holdlt
    rw [World.founded, members_onChat_ne hne, World.members, Directory.chat_withChat_of_lt holdlt]
    exact wired.listeners hold

end World

/-! ## Listener and observer -/

namespace Run

variable {w : World}

/-- Nothing of the directory and the files is touched by what is reported. -/
theorem remark_steady (r : Remark) : (remark r).EndsIn w fun _ v => w.Steady v :=
  endsIn_modify ⟨rfl, rfl⟩

theorem failure_steady (message : String) (details : List (String × Detail)) :
    (Run.failure message details).EndsIn w fun _ v => w.Steady v :=
  (remark_steady _).bind fun _ _ hv => (remark_steady _).mono fun _ _ hu => hv.trans hu

end Run

namespace Company

open World

variable {k : Company} {directory now : String} {w v u : World} {id : ChatId} {m : Message}
  {e : Event}

theorem observer_of_playing (playing : k.toCast = Playback.cast (some directory) now)
    (o : String) : k.observer o = .recorder Playback.scribe :=
  congrFun (congrArg Cast.observer playing) o

/-- **The scribe writes the message down**, and does nothing else. -/
theorem call_pens (playing : k.toCast = Playback.cast (some directory) now) (l : String)
    (m : Message) (w : World) :
    (k.call l m).EndsIn w fun _ v => (w.pen directory now m).Steady v := by
  have hlistener : k.listener l = .transcript (some directory) :=
    congrFun (congrArg Cast.listener playing) l
  have hnow : k.now = now := congrArg Cast.now playing
  have hrespond : ∀ about turn w, (k.respond l m about turn).EndsIn w fun _ v =>
      (w.pen directory now m).Steady v := by
    intro about turn w
    unfold respond
    rw [hlistener, ← hnow]
    exact ⟨_, _, rfl, rfl, rfl⟩
  obtain ⟨e, v, hrun, hv⟩ := hrespond (w.directory.rooms.find? m.stream)
    (w.received.countP (·.1 = l)) (w.hear [(l, m)])
  exact ⟨e, v, (run_call k l m w).trans hrun, hv.directory, hv.folder⟩

/-- A message that is handed to the scribe alone is written down once. -/
theorem handTo_pens (playing : k.toCast = Playback.cast (some directory) now) (m : Message)
    (w : World) : (k.handTo m [Playback.scribe]).EndsIn w fun _ v =>
      (w.pen directory now m).Steady v := by
  refine (call_pens playing Playback.scribe m w).bind fun e v hv => ?_
  have hend : ∀ f : Report → Report, (do return f (← k.handTo m []) : Run Report).EndsIn v
      fun _ u => v.Steady u := fun f => Run.endsIn_pure (.refl v)
  cases e with
  | none => exact (hend _).mono fun _ _ hu => hv.trans hu
  | some e =>
    refine (Run.failure_steady _ _).bind fun _ u hu => ?_
    exact Run.endsIn_pure (hv.trans hu)

/-- **A message that is delivered to a recorded chat** is its last one and written down once. -/
theorem deliver_pens (playing : k.toCast = Playback.cast (some directory) now)
    (hlt : id < w.directory.chats.length) (hscribe : w.members id = [Playback.scribe])
    (m : Message) : (k.deliver id m).EndsIn w fun _ v =>
      ((w.onChat id fun c => { c with last := some m }).pen directory now m).Steady v := by
  refine (Run.endsIn_modify rfl : (Run.onChat id _).EndsIn w fun _ v => v = w.onChat id _).bind ?_
  rintro - v rfl
  have hmembers : (w.onChat id fun c => { c with last := some m }).members id
      = [Playback.scribe] := (members_onChat_self hlt _).trans hscribe
  refine Run.endsIn_chat_bind ?_
  rw [World.members] at hmembers
  rw [hmembers]
  exact handTo_pens playing m _

/-- **A listener that has nothing to catch up** is registered, and that is all. -/
theorem register_fresh (k : Company) {l : String} (hlast : (w.directory.chat id).last = none)
    (hnone : l ∉ w.members id) : (k.register id l).EndsIn w fun _ v =>
      v = w.onChat id fun c => { c with listeners := c.listeners.insert l } := by
  have hcontains : ¬ (w.directory.chat id).listeners.contains l = true := by
    rw [Roster.contains_iff]
    exact hnone
  have hcatchUp : (k.catchUp id l).EndsIn w fun _ v => v = w := by
    refine Run.endsIn_chat_bind ?_
    rw [hlast]
    exact Run.endsIn_pure rfl
  refine Run.endsIn_chat_bind ?_
  rw [if_neg hcontains]
  refine hcatchUp.bind ?_
  rintro - v rfl
  exact ⟨_, _, rfl, rfl⟩

/-- Telling the recorder is an item of news, and then the recorder's own part. -/
theorem inform_playing (playing : k.toCast = Playback.cast (some directory) now) (o : String)
    (news : News) {P : World → Prop}
    (h : (k.tellRecorder Playback.scribe news id).EndsIn
      (w.learn o news (w.directory.chat id).streamText) fun ending v => ending = .done ∧ P v) :
    (k.inform o news id).EndsIn w fun _ v => P v := by
  have htell : (k.tell o news id).EndsIn w fun ending v => ending = .done ∧ P v := by
    unfold tell
    rw [observer_of_playing playing o]
    exact h
  refine htell.bind ?_
  rintro - v ⟨rfl, hP⟩
  exact Run.endsIn_pure hP

/-- **A new chat that the recorder is told of** gets the scribe, which has nothing to catch up. -/
theorem inform_arrived (playing : k.toCast = Playback.cast (some directory) now) (o : String)
    (hlast : (w.directory.chat id).last = none) (hnone : w.members id = []) :
    (k.inform o .arrived id).EndsIn w fun _ v =>
      (w.onChat id fun c =>
        { c with listeners := c.listeners.insert Playback.scribe }).Steady v := by
  refine inform_playing playing o .arrived (Run.endsIn_chat_bind ?_)
  have hlearn : w.Steady (w.learn o .arrived (w.directory.chat id).streamText) := ⟨rfl, rfl⟩
  refine (Run.remark_steady _).bind fun _ v hv => ?_
  have hsteady := hlearn.trans hv
  have hlast' : (v.directory.chat id).last = none := by rw [hsteady.directory, hlast]
  have hnone' : Playback.scribe ∉ v.members id := by simp [hsteady.members, hnone]
  refine (register_fresh k hlast' hnone').bind ?_
  rintro - u rfl
  exact Run.endsIn_pure ⟨rfl, hsteady.onChat id _⟩

/-- A chat that goes is no matter of the transcripts. -/
theorem announce_gone (playing : k.toCast = Playback.cast (some directory) now) (id : ChatId)
    (w : World) : (k.announce .gone id).EndsIn w fun _ v => w.Steady v := by
  refine Run.endsIn_directory_bind ?_
  induction w.directory.observers.members generalizing w with
  | nil => exact Run.endsIn_pure (.refl w)
  | cons o os ih =>
    have hinform : (k.inform o .gone id).EndsIn w fun _ v => w.Steady v := by
      refine inform_playing playing o .gone (Run.endsIn_chat_bind ?_)
      exact (Run.remark_steady _).bind fun _ v hv => Run.endsIn_pure ⟨rfl, hv.directory, hv.folder⟩
    refine hinform.bind fun _ v hv => (ih v).mono fun _ _ hu => hv.trans hu

theorem changed_steady (message stream : String) :
    (changed message stream).EndsIn w fun _ v => w.Steady v :=
  (Run.remark_steady _).bind fun _ _ hv =>
    Run.endsIn_directory_bind ((Run.remark_steady _).mono fun _ _ hu => hv.trans hu)

/-! ## The way of a message -/

/-- **What an event does to a playback**: the world stays wired, and its message is written. -/
structure Records (directory now : String) (e : Event) (w v : World) : Prop where
  wired : v.Wired
  folder : v.folder = Transcript.writeAll directory now e.message?.toList w.folder

theorem Records.after (h : Records directory now e v u) (hv : w.Steady v) :
    Records directory now e w u := ⟨h.wired, by rw [h.folder, hv.folder]⟩

/-- A message that has found its chat. -/
theorem arrives_gated_records (playing : k.toCast = Playback.cast (some directory) now)
    (wired : w.Wired) (hroom : w.directory.rooms.find? m.stream = some id) :
    Arrives k m 2 (.gated id) w (Records directory now (.sent m) w) := by
  have hwired : (w.onChat id fun c => { c with last := some m }).Wired :=
    wired.onChat hroom (fun _ => rfl) (fun _ => rfl) fun _ => rfl
  have hdeliver := deliver_pens playing (wired.tidy.lt hroom) (wired.listeners hroom) m
  exact arrives_gated (wired.tidy.gate hroom)
    (hdeliver.mono fun _ v hv => ⟨hwired.of_directory hv.directory, hv.folder⟩)

/-- **A message for a chat without listeners**: the recorder is told, and then it is written
down. -/
theorem inform_deliver_pens (playing : k.toCast = Playback.cast (some directory) now)
    (hlt : id < w.directory.chats.length) (hlast : (w.directory.chat id).last = none)
    (hnone : (w.directory.chat id).listeners = .empty) :
    (k.informAll .arrived id [Playback.recorder]).EndsIn w fun _ v =>
      (k.deliver id m).EndsIn v fun _ u => ((w.onChat id fun c => { c with
        listeners := c.listeners.insert Playback.scribe, last := some m }).pen
          directory now m).Steady u := by
  have hmembers : w.members id = [] := by
    rw [World.members, hnone]
    rfl
  refine (inform_arrived playing _ hlast hmembers).bind fun _ v hv => Run.endsIn_pure ?_
  have hvlt : id < v.directory.chats.length := by
    rw [hv.directory, World.onChat, Directory.length_update]
    exact hlt
  have hscribe : v.members id = [Playback.scribe] := by
    rw [hv.members, members_onChat_self hlt, hnone]
    rfl
  refine (deliver_pens playing hvlt hscribe m).mono fun _ u hu => ?_
  have hlast := hv.onChat id fun c => { c with last := some m }
  have hdelivered := (hlast.pen directory now m).trans hu
  rw [onChat_onChat] at hdelivered
  exact hdelivered

/-- **A message that makes its chat.** -/
theorem arrives_knocking_records (playing : k.toCast = Playback.cast (some directory) now)
    (wired : w.Wired) (hroom : w.directory.rooms.find? m.stream = none) (sender : Option User) :
    Arrives k m 5 (.knocking sender) w (Records directory now (.sent m) w) := by
  let make : Chat := chatFor w.directory.owner m sender
  have hfounded : (w.founded m make).Wired := wired.founded hroom rfl rfl
  have hsize : w.directory.observers.size + 4 = 5 := by
    rw [Roster.size, wired.observers]
    rfl
  refine hsize ▸ arrives_knocking hroom sender ((changed_steady _ _).mono fun _ v hv => ?_)
  rw [wired.observers]
  have hself : v.directory.chat w.directory.nextId = { make with gateOpen := false } := by
    rw [hv.directory]
    exact Directory.chat_withChat_self
  have hlt : w.directory.nextId < v.directory.chats.length := by
    rw [hv.directory, Directory.length_withChat]
    exact Nat.lt_succ_self _
  refine (inform_deliver_pens playing hlt (by rw [hself]; rfl) (by rw [hself]; rfl)).mono
    fun _ v' hv' => hv'.mono fun _ u hu => ?_
  have hwritten := ((hv.onChat w.directory.nextId fun c => { c with
    listeners := c.listeners.insert Playback.scribe, last := some m }).pen directory now m).trans hu
  have hopened := hwritten.onChat w.directory.nextId fun c => { c with gateOpen := true }
  -- what is done to the chat and what is written do not meet
  change (((World.onChat _ _ _).onChat _ _).pen directory now m).Steady _ at hopened
  rw [onChat_onChat] at hopened
  exact ⟨hfounded.of_directory hopened.directory, hopened.folder⟩

/-- **A message is written down once**, by way of its chat, which is made for it when there is
none. -/
theorem receive_records (playing : k.toCast = Playback.cast (some directory) now)
    (wired : w.Wired) (m : Message) :
    (k.receive m).EndsIn w fun _ v => Records directory now (.sent m) w v := by
  refine receive_ends_of (fun id hroom => arrives_gated_records playing wired hroom)
    fun hroom v hv => ?_
  have hsteady : w.Steady v := ⟨hv.directory, hv.folder⟩
  have hsize : w.directory.observers.size + 4 = 5 := by
    rw [Roster.size, wired.observers]
    rfl
  have hknock := arrives_knocking_records (m := m) playing (wired.of_directory hv.directory)
    (by rw [hv.directory, hroom]) (k.founder w.directory.owner m)
  rw [hsize]
  exact fun more => (hknock more).mono fun _ _ h => ⟨h.1, h.2.after hsteady⟩

/-! ## Events -/

/-- An event that changes a chat, but neither its listeners nor the files. -/
theorem records_onChat (wired : w.Wired) {stream : String}
    (hroom : w.directory.rooms.find? stream = some id) {f : Chat → Chat}
    (hstream : ∀ c, (f c).stream = c.stream) (hgate : ∀ c, (f c).gateOpen = c.gateOpen)
    (hlisteners : ∀ c, (f c).listeners = c.listeners) (silent : e.message? = none) :
    Records directory now e w (w.onChat id f) :=
  ⟨wired.onChat hroom hstream hgate hlisteners, by rw [silent]; rfl⟩

theorem records_of_steady (wired : w.Wired) (h : w.Steady v) (silent : e.message? = none) :
    Records directory now e w v :=
  ⟨wired.of_directory h.directory, by rw [silent]; exact h.folder⟩

/-- A user who joins. -/
theorem joined_records (wired : w.Wired) (stream : String) (user : User) :
    (joined stream user).EndsIn w fun _ v => Records directory now (.joined stream user) w v :=
  joined_ends_of (fun _ => records_of_steady wired (.refl w) rfl) fun _ _ hroom =>
    records_onChat wired hroom (fun _ => rfl) (fun _ => rfl) (fun _ => rfl) rfl

/-- A user who leaves. -/
theorem left_records (playing : k.toCast = Playback.cast (some directory) now) (wired : w.Wired)
    (stream : String) (user : User) :
    (k.left stream user).EndsIn w fun _ v => Records directory now (.left stream user) w v := by
  refine left_ends_of (fun _ => records_of_steady wired (.refl w) rfl) (fun id _ _ => ?_)
    (fun _ _ hroom => ?_) fun v r hv => ⟨hv.wired.of_directory rfl, hv.folder⟩
  · refine (changed_steady "Chat removed" stream).bind fun _ v hv => ?_
    refine (announce_gone playing id v).mono fun _ u hu => ?_
    have hsteady := hv.trans hu
    exact ⟨(wired.erase stream).of_directory hsteady.directory, hsteady.folder⟩
  · exact records_onChat wired hroom (fun _ => rfl) (fun _ => rfl)
      (fun _ => rfl) rfl

/-- **Every event is seen through**: it keeps the world wired, and writes its message, if it has
one, and nothing else. -/
theorem dispatch_records (playing : k.toCast = Playback.cast (some directory) now)
    (wired : w.Wired) (e : Event) :
    (k.dispatch e).EndsIn w fun _ v => Records directory now e w v := by
  refine dispatch_ends_of fun v hasked => ?_
  have hv : w.Steady v := ⟨hasked.directory, hasked.folder⟩
  have hwired : v.Wired := wired.of_directory hasked.directory
  cases e with
  | sent m => exact (receive_records playing hwired m).mono fun _ _ h => h.after hv
  | joined s u => exact (joined_records hwired s u).mono fun _ _ h => h.after hv
  | left s u => exact (left_records playing hwired s u).mono fun _ _ h => h.after hv
  | other kind => exact records_of_steady wired hv rfl

end Company

end ChatFeed
