import ChatFeed.Chat.Addition
import ChatFeed.Proofs.Chat.Crowd

/-!
# Proofs/Chat/Debut — messages that come while their chat is added

A `Debut` is a chat that is added to the directory while messages of its stream are on their way.
Its **beats** are the steps of the addition and the turns of the messages, in any order.  The added
chat has an open gate from the moment at which it can be found, so nothing makes a message wait for
the observers: `Debut.lawful_iff_patient` says that the observers are all told before anything is
handed over just when no message happens to come through meanwhile, and `Debut.lost_before_told` is
a history in which a listener misses one.
-/

namespace ChatFeed

namespace Company

variable (k : Company)

/-- Whom an addition has still to tell is told in order. -/
theorem addOn_announcing (id : ChatId) (observers : List String) :
    k.addOn (observers.length + 1) (.announcing id observers)
      = (do k.informAll .arrived id observers; return .done none) := by
  induction observers with
  | nil => simp [addOn, addStep, informAll]
  | cons o os ih =>
    rw [List.length_cons, addOn, informAll]
    simp only [addStep, bind_assoc, pure_bind]
    rw [ih]

/-- **Adding a chat is all of its steps** without a pause. -/
theorem addOn_eq_addChat (id : ChatId) (w : World) :
    (k.addOn (w.directory.observers.size + 2) (.of w.directory id)).run w
      = ((k.addChat id).run w).map fun r => (.done r.1, r.2) := by
  unfold addChat
  rw [Run.run_chat_bind, Addition.of]
  cases hstream : (w.directory.chat id).stream with
  | none => rfl
  | some stream =>
    by_cases hroom : (w.directory.rooms.find? stream).isSome
    · rw [addOn, addStep]
      simp only [bind_assoc]
      rw [Run.run_directory_bind, Run.run_directory_bind, if_pos hroom, if_pos hroom, pure_bind]
      rfl
    · -- the observers are the same before the news of the change and after
      obtain ⟨v, hv, hobservers⟩ : ∃ v, (do
          Run.onDirectory fun d => { d with rooms := d.rooms.insert stream id }
          changed "Chat added" stream : Run Unit).run w = some ((), v)
            ∧ v.directory.observers = w.directory.observers := ⟨_, rfl, rfl⟩
      have hstep : (k.addStep (.knocking id stream)).run w
          = some (some (.announcing id w.directory.observers.members), v) := by
        rw [addStep, Run.run_directory_bind, if_neg hroom]
        exact congrArg (Option.map fun p => (some _, p.2)) hv
      have hrest : (k.addOn (w.directory.observers.size + 2) (.knocking id stream)).run w
          = (k.addOn (w.directory.observers.members.length + 1)
            (.announcing id w.directory.observers.members)).run v := by
        rw [addOn, StateT.run_bind, hstep]
        rfl
      have hadd : (do
          Run.onDirectory fun d => { d with rooms := d.rooms.insert stream id }
          changed "Chat added" stream
          k.announce .arrived id
          return none : Run (Option AddError)).run w = (do
          k.informAll .arrived id w.directory.observers.members
          return none : Run (Option AddError)).run v := by
        rw [← bind_assoc, StateT.run_bind, hv, ← hobservers]
        rfl
      rw [hrest, addOn_announcing, Run.run_directory_bind, if_neg hroom, hadd, StateT.run_bind,
        StateT.run_bind]
      cases (k.informAll .arrived id w.directory.observers.members).run v <;> rfl

/-- **What one step of an addition can be**, from a stage in a world: the next stage and the world
then. -/
inductive AddStride (w : World) : Addition → Addition → World → Prop
  | refuse {id : ChatId} {stream : String}
      (room : (w.directory.rooms.find? stream).isSome) :
      AddStride w (.knocking id stream) (.done (some (.taken stream))) w
  | enter {id : ChatId} {stream : String} {w' : World}
      (room : w.directory.rooms.find? stream = none)
      (directory : w'.directory
        = { w.directory with rooms := w.directory.rooms.insert stream id }) :
      AddStride w (.knocking id stream) (.announcing id w.directory.observers.members) w'
  | tell {id : ChatId} {o : String} {os : List String} {u : Unit} {w' : World}
      (telling : (k.inform o .arrived id).run w = some (u, w')) :
      AddStride w (.announcing id (o :: os)) (.announcing id os) w'
  | told {id : ChatId} : AddStride w (.announcing id []) (.done none) w
  | done {refusal : Option AddError} : AddStride w (.done refusal) (.done refusal) w

variable {k} {w w' : World} {a : Addition} {next : Option Addition}

/-- **Every step of an addition is one of the listed ones.** -/
theorem addStride_of_addStep (h : (k.addStep a).run w = some (next, w')) :
    AddStride k w a (next.getD a) w' := by
  cases a with
  | knocking id stream =>
    unfold addStep at h
    rw [Run.run_directory_bind] at h
    by_cases hroom : (w.directory.rooms.find? stream).isSome
    · rw [if_pos hroom] at h
      obtain ⟨rfl, rfl⟩ := Run.run_pure_eq_some.mp h
      exact .refuse hroom
    · rw [if_neg hroom] at h
      obtain ⟨rfl, rfl⟩ := Prod.mk.inj (Option.some.inj h)
      exact .enter (by simpa using hroom) rfl
  | announcing id observers =>
    cases observers with
    | nil =>
      obtain ⟨rfl, rfl⟩ := Run.run_pure_eq_some.mp h
      exact .told
    | cons o os =>
      obtain ⟨u, v, hinform, h⟩ := Run.run_bind_eq_some.mp h
      obtain ⟨rfl, rfl⟩ := Run.run_pure_eq_some.mp h
      exact .tell hinform
  | done refusal =>
    obtain ⟨rfl, rfl⟩ := Run.run_pure_eq_some.mp h
    exact .done

end Company

/-- Whether a message is handed over next by one chat. -/
def Stage.deliversTo (id : ChatId) : Stage → Bool
  | .admitted a => a = id
  | .handing a => a = id
  | _ => false

/-- **Which message a turn hands over to a chat**, if any, with its place in the crowd. -/
def Crowd.handsTo (c : Crowd) (id : ChatId) : Turn → List (Message × Nat)
  | .wait _ => []
  | .call i => match c.calls[i]? with
    | some (m, s) => if s.deliversTo id then [(m, i)] else []
    | none => []

/-- **A chat that can be added** under a stream: the stream has none, the chat is not on another
stream, nor is its last message, and its gate is open. -/
structure World.Offers (w : World) (id : ChatId) (stream : String) : Prop where
  absent : w.directory.rooms.find? stream = none
  lt : id < w.directory.chats.length
  stream_eq : (w.directory.chat id).stream = some stream
  last : ∀ m, (w.directory.chat id).last = some m → m.stream = stream
  gate : (w.directory.chat id).gateOpen = true

/-- **A beat of a debut**: a step of the addition, or a turn of the messages. -/
inductive Beat
  | add
  | message (t : Turn)

/-- **A chat that is added while messages of its stream are on their way**, and what it has handed
over, in order. -/
structure Debut where
  crowd : Crowd
  chat : ChatId
  adding : Addition
  heard : List (Message × Nat) := []

namespace Debut

/-- An addition that has just begun beside messages that have just come. -/
def begin (w : World) (id : ChatId) (ms : List Message) : Debut where
  crowd := .gather w ms
  chat := id
  adding := .of w.directory id

/-- The world of a debut. -/
def world (d : Debut) : World := d.crowd.world

/-- The addition comes to another stage. -/
def added (d : Debut) (a : Addition) (w : World) : Debut :=
  { d with crowd := { d.crowd with world := w }, adding := a }

/-- The messages have had a turn. -/
def turned (d : Debut) (t : Turn) (c : Crowd) : Debut :=
  { d with crowd := c, heard := d.heard ++ d.crowd.handsTo d.chat t }

/-- **A beat.** -/
def step (k : Company) (d : Debut) : Beat → Option Debut
  | .add => do
    let (next, w) ← (k.addStep d.adding).run d.world
    some (d.added (next.getD d.adding) w)
  | .message t => do
    let c ← d.crowd.step k t
    some (d.turned t c)

/-- **Beats in some order.** -/
def run (k : Company) (beats : List Beat) (d : Debut) : Option Debut := beats.foldlM (step k) d

/-- **The observers hear of the chat in time.**  Nothing is handed over while one of them is still
to be told; and when one is told, the listener that it registers is one of the chat then, and every
listener that the chat has then is handed, from there on, all that the chat ever hands over, each
message once and in order. -/
structure Lawful (k : Company) (start : Debut) (beats : List Beat) : Prop where
  silent : ∀ before after d, beats = before ++ after → start.run k before = some d →
    d.adding.isUntold = true → d.heard = []
  hears : ∀ before between after d d' d'' o os, beats = before ++ .add :: (between ++ after) →
    start.run k before = some d → d.adding = .announcing d.chat (o :: os) →
    d.step k .add = some d' → d'.run k between = some d'' →
      (∀ l ∈ k.attaches? o, l ∈ d'.world.members d.chat)
        ∧ ∀ l ∈ d'.world.members d.chat, d''.world.received.filter (·.1 = l)
          = d'.world.received.filter (·.1 = l) ++ d''.heard.map fun x => (l, x.1)

/-- **The messages are patient**: none that has come through the gate of the added chat gets its
turn while an observer is still to be told. -/
def Patient (k : Company) (start : Debut) (beats : List Beat) : Prop :=
  ∀ before after d i m, beats = before ++ .message (.call i) :: after →
    start.run k before = some d → d.adding.isUntold = true →
      d.crowd.calls[i]? ≠ some (m, .admitted d.chat)

variable {k : Company} {w₀ w : World} {id : ChatId} {stream : String} {ms : List Message}
  {d d' d'' : Debut} {b : Beat} {beats : List Beat} {l : String} {i : Nat} {m : Message}
  {s s' : Stage} {handed : List (Message × Nat)}

/-- **What a beat is**: a step of the addition or a turn of the messages. -/
theorem step_cases (h : d.step k b = some d') :
    (∃ a w, b = .add ∧ Company.AddStride k d.world d.adding a w ∧ d' = d.added a w)
      ∨ ∃ t c, b = .message t ∧ d.crowd.step k t = some c ∧ d' = d.turned t c := by
  cases b with
  | add =>
    obtain ⟨⟨next, w⟩, hadd, h⟩ := Option.bind_eq_some_iff.mp h
    obtain rfl := Option.some.inj h
    exact .inl ⟨_, w, rfl, Company.addStride_of_addStep hadd, rfl⟩
  | message t =>
    obtain ⟨c, hturn, h⟩ := Option.bind_eq_some_iff.mp h
    obtain rfl := Option.some.inj h
    exact .inr ⟨t, c, rfl, hturn, rfl⟩

/-- The messages stay who they are. -/
theorem rolled_step (rolled : d.crowd.Rolled ms) (h : d.step k b = some d') :
    d'.crowd.Rolled ms := by
  rcases step_cases h with ⟨a, w, -, -, rfl⟩ | ⟨t, c, -, hturn, rfl⟩
  · exact ⟨rolled.messages, rolled.nodup, rolled.mem_iff⟩
  · exact rolled.step hturn

/-! ## In the directory -/

/-- A message at no other chat is handed over by no other chat. -/
theorem deliversTo_of_isAbout (about : s.IsAbout id) : s.deliversTo id = s.delivers := by
  cases s <;> simp_all [Stage.IsAbout, Stage.deliversTo, Stage.delivers]

theorem handsTo_call {c : Crowd} (hcall : c.calls[i]? = some (m, s)) (about : s.IsAbout id) :
    c.handsTo id (.call i) = if s.delivers then [(m, i)] else [] := by
  simp [Crowd.handsTo, hcall, deliversTo_of_isAbout about]

/-- **A message whose chat is in the directory with its gate open** only goes towards it, and the
chat stays there and open. -/
theorem follows_of_stride (keeps : k.Keeps id stream) (modest : k.toCast.Modest)
    (hosts : w.Hosts id stream) (gate : (w.directory.chat id).gateOpen = true)
    (hm : m.stream = stream) (follows : Crowd.Follows id true s) {w' : World}
    (hstride : Company.Stride k m w s (some s') w') :
    w'.Hosts id stream ∧ (w'.directory.chat id).gateOpen = true ∧ Crowd.Follows id true s' := by
  have room : ∀ a, w.directory.rooms.find? m.stream = some a → a = id :=
    fun a ha => Option.some.inj (ha.symm.trans (hm ▸ hosts.room))
  have taken : w.directory.rooms.find? m.stream ≠ none := by
    rw [hm, hosts.room]
    simp
  cases hstride with
  | found hroom => exact ⟨hosts, gate, room _ hroom⟩
  | absent hroom => exact absurd hroom taken
  | enter => exact ⟨hosts, gate, follows, rfl⟩
  | serve delivery =>
    obtain rfl : _ = id := follows.1
    obtain ⟨hosts', -, -, hgate⟩ := Company.frame_deliver keeps modest hm hosts delivery
    exact ⟨hosts', hgate.trans gate, rfl⟩
  | wake alike =>
    have hcalm := alike.calm id
    exact ⟨hcalm.hosts hosts, hcalm.gate.trans gate, trivial⟩
  | join hroom => exact ⟨hosts, gate, room _ hroom⟩
  | make hroom => exact absurd hroom taken
  | announced => exact follows.elim
  | tell => exact follows.elim
  | hand => exact follows.elim
  | openUp => exact follows.elim

/-- **The chat is in the directory**: some observers are left to be told, or the addition is over,
and there is nothing between the chat and the messages. -/
structure Added (stream : String) (d : Debut) : Prop where
  hosts : d.world.Hosts d.chat stream
  gate : (d.world.directory.chat d.chat).gateOpen = true
  follows : ∀ (i : Nat) (m : Message) (s : Stage), d.crowd.calls[i]? = some (m, s) → Crowd.Follows d.chat true s
  adding : (∃ left, d.adding = .announcing d.chat left) ∨ ∃ refusal, d.adding = .done refusal

theorem Added.isAbout (added : d.Added stream) (hcall : d.crowd.calls[i]? = some (m, s)) :
    s.IsAbout d.chat := Crowd.isAbout_of_follows (added.follows i m s hcall)

/-- A step of the addition keeps a chat in the directory, and who hears goes on hearing. -/
theorem Added.step_add (added : d.Added stream) (keeps : k.Keeps d.chat stream)
    (modest : k.toCast.Modest) {a : Addition}
    (hstride : Company.AddStride k d.world d.adding a w) :
    (d.added a w).Added stream ∧ ∀ w₀ handed l, Crowd.Hears w₀ d.chat d.world handed l →
      Crowd.Hears w₀ d.chat (d.added a w).world handed l := by
  rcases added.adding with ⟨left, hadding⟩ | ⟨refusal, hadding⟩
  · rw [hadding] at hstride
    cases hstride with
    | @tell _ o os u _ telling =>
      obtain ⟨hcalm, -⟩ := Company.calm_inform keeps modest added.hosts telling
      have hosts : (Company.told d.world o stream).Hosts d.chat stream :=
        added.hosts.of_directory rfl
      exact ⟨⟨hcalm.hosts hosts, hcalm.gate.trans added.gate, added.follows, .inl ⟨os, rfl⟩⟩,
        fun w₀ handed l hl => (hl.told o stream).calm hcalm⟩
    | told =>
      exact ⟨⟨added.hosts, added.gate, added.follows, .inr ⟨none, rfl⟩⟩, fun _ _ _ hl => hl⟩
  · rw [hadding] at hstride
    cases hstride with
    | done =>
      exact ⟨⟨added.hosts, added.gate, added.follows, .inr ⟨refusal, rfl⟩⟩, fun _ _ _ hl => hl⟩

/-- A turn of the messages keeps a chat in the directory, and who hears goes on hearing. -/
theorem Added.step_message (added : d.Added stream) (rolled : d.crowd.Rolled ms)
    (here : ∀ m ∈ ms, m.stream = stream) (keeps : k.Keeps d.chat stream)
    (modest : k.toCast.Modest) {t : Turn} {c : Crowd} (hturn : d.crowd.step k t = some c) :
    (d.turned t c).Added stream ∧ ∀ w₀ handed l, Crowd.Hears w₀ d.chat d.world handed l →
      Crowd.Hears w₀ d.chat (d.turned t c).world (handed ++ d.crowd.handsTo d.chat t) l := by
  rcases Crowd.turn_cases hturn with ⟨w, alike, rfl, hidle⟩
    | ⟨i, m, s, s', w, rfl, hcall, hstride, rfl⟩
  · have hcalm := alike.calm d.chat
    have hnone : d.crowd.handsTo d.chat t = [] := by
      cases t with
      | wait => rfl
      | call i =>
        cases hcall : d.crowd.calls[i]? with
        | none => simp [Crowd.handsTo, hcall]
        | some x => simp [handsTo_call hcall (added.isAbout hcall), hidle i x.1 x.2 rfl hcall]
    refine ⟨⟨hcalm.hosts added.hosts, hcalm.gate.trans added.gate, added.follows, added.adding⟩,
      fun w₀ handed l hl => ?_⟩
    rw [hnone, List.append_nil]
    exact hl.calm hcalm
  · have hm : m.stream = stream := rolled.stream_eq here hcall
    have about := added.isAbout hcall
    obtain ⟨hosts, gate, hfollows⟩ := follows_of_stride keeps modest added.hosts added.gate hm
      (added.follows i m s hcall) hstride
    refine ⟨⟨hosts, gate, fun j m' s₁ hj => ?_, added.adding⟩, fun w₀ handed l hl => ?_⟩
    · rcases Crowd.getElem?_moved hcall hj with ⟨-, -, rfl⟩ | ⟨-, hj⟩
      · exact hfollows
      · exact added.follows j m' s₁ hj
    · have hheard := hl.stride keeps modest added.hosts hm i about hstride
      rw [handsTo_call hcall about]
      change Crowd.Hears w₀ d.chat w _ l
      cases hdelivers : s.delivers <;> simpa [hdelivers] using hheard

/-- **A beat keeps a chat in the directory**, and who hears goes on hearing all that it hands
over. -/
theorem Added.step (added : d.Added stream) (rolled : d.crowd.Rolled ms)
    (here : ∀ m ∈ ms, m.stream = stream) (keeps : k.Keeps d.chat stream)
    (modest : k.toCast.Modest) (h : d.step k b = some d') :
    d'.Added stream ∧ d'.chat = d.chat ∧ ∃ new, d'.heard = d.heard ++ new
      ∧ ∀ w₀ handed l, Crowd.Hears w₀ d.chat d.world handed l →
        Crowd.Hears w₀ d.chat d'.world (handed ++ new) l := by
  rcases step_cases h with ⟨a, w, -, hstride, rfl⟩ | ⟨t, c, -, hturn, rfl⟩
  · obtain ⟨added', hkeep⟩ := added.step_add keeps modest hstride
    exact ⟨added', rfl, [], (List.append_nil _).symm, by simpa using hkeep⟩
  · obtain ⟨added', hkeep⟩ := added.step_message rolled here keeps modest hturn
    exact ⟨added', rfl, _, rfl, hkeep⟩

/-- **From the moment at which it listens, a listener of the chat hears all**, whatever the
beats. -/
theorem Added.run (added : d.Added stream) (rolled : d.crowd.Rolled ms)
    (here : ∀ m ∈ ms, m.stream = stream) (keeps : k.Keeps d.chat stream)
    (modest : k.toCast.Modest) (h : d.run k beats = some d') (hl : l ∈ d.world.members d.chat) :
    ∃ since, d'.heard = d.heard ++ since ∧ Crowd.Hears d.world d.chat d'.world since l := by
  have hstart : ∃ since, d.heard = d.heard ++ since
      ∧ Crowd.Hears d.world d.chat d.world since l := ⟨[], by simp, hl, by simp⟩
  refine (foldlM_keeps (P := fun c => c.Added stream ∧ c.crowd.Rolled ms ∧ c.chat = d.chat
    ∧ ∃ since, c.heard = d.heard ++ since ∧ Crowd.Hears d.world d.chat c.world since l) ?_
    ⟨added, rolled, rfl, hstart⟩ h).2.2.2
  rintro b - c c' ⟨hadded, hrolled, hchat, since, hheard, hears⟩ hstep
  have hkeeps : k.Keeps c.chat stream := by rwa [hchat]
  obtain ⟨hadded', hchat', new, hnew, hkeep⟩ := hadded.step hrolled here hkeeps modest hstep
  refine ⟨hadded', rolled_step hrolled hstep, hchat'.trans hchat, since ++ new, ?_, ?_⟩
  · rw [hnew, hheard, List.append_assoc]
  · rw [← hchat] at hears ⊢
    exact hkeep _ _ _ hears

/-! ## From the beginning -/

/-- **How far a debut has come**: the addition has still to look for a place, where perhaps another
chat is made meanwhile; the place was taken; or the chat is in the directory. -/
inductive Phase (k : Company) (w₀ : World) (stream : String) (d : Debut) : Prop
  | waiting (adding : d.adding = .knocking d.chat stream)
      (orderly : d.crowd.Orderly k w₀ stream) (heard : d.heard = [])
  | refused (refusal : AddError) (adding : d.adding = .done (some refusal))
  | added (added : d.Added stream)

/-- Before the chat is in the directory no message is at it. -/
theorem handsTo_of_orderly {c : Crowd} (orderly : c.Orderly k w₀ stream)
    (hid : id < w₀.directory.chats.length) (t : Turn) : c.handsTo id t = [] := by
  cases t with
  | wait => rfl
  | call i =>
    cases hcall : c.calls[i]? with
    | none => simp [Crowd.handsTo, hcall]
    | some x =>
      have hother : x.2.deliversTo id = false := by
        rcases orderly with unseen | ⟨j, m, s, left, led⟩
        · have houtside := unseen.outside i x.1 x.2 hcall
          cases hx : x.2 <;> simp_all [Stage.isOutside, Stage.deliversTo]
        · have habout : x.2.IsAbout w₀.directory.nextId := led.isAbout hcall
          have hne : w₀.directory.nextId ≠ id := Nat.ne_of_gt hid
          cases hx : x.2 <;> simp_all [Stage.IsAbout, Stage.deliversTo]
      simp [Crowd.handsTo, hcall, hother]

/-- **The chat comes into the directory** when nobody has come to a chat of its stream yet. -/
theorem added_of_enter (offers : w₀.Offers d.chat stream) (unseen : Crowd.Unseen w₀ d.crowd)
    (hdirectory : w.directory = { d.world.directory with
      rooms := d.world.directory.rooms.insert stream d.chat }) (left : List String) :
    (d.added (.announcing d.chat left) w).Added stream := by
  have hsame : d.world.directory = w₀.directory := unseen.alike.directory
  rw [hsame] at hdirectory
  have hchat : w.directory.chat d.chat = w₀.directory.chat d.chat := by rw [hdirectory]; rfl
  refine ⟨⟨?_, ?_, ?_, ?_⟩, ?_, ?_, .inl ⟨left, rfl⟩⟩
  · change w.directory.rooms.find? stream = some d.chat
    rw [hdirectory]
    exact Rooms.find?_insert_self _ offers.absent
  · change d.chat < w.directory.chats.length
    rw [hdirectory]
    exact offers.lt
  · exact hchat ▸ offers.stream_eq
  · exact hchat ▸ offers.last
  · exact hchat ▸ offers.gate
  · intro i m s hcall
    have houtside : s.isOutside = true := unseen.outside i m s hcall
    cases s <;> simp_all [Crowd.Follows, Stage.isOutside]

/-- **Every beat keeps a debut in its phases.** -/
theorem Phase.step (phase : Phase k w₀ stream d) (offers : w₀.Offers d.chat stream)
    (rolled : d.crowd.Rolled ms) (here : ∀ m ∈ ms, m.stream = stream)
    (keeps : ∀ id, k.Keeps id stream) (modest : k.toCast.Modest) (h : d.step k b = some d') :
    Phase k w₀ stream d' := by
  cases phase with
  | added added => exact .added (added.step rolled here (keeps _) modest h).1
  | refused refusal hadding =>
    rcases step_cases h with ⟨a, w, -, hstride, rfl⟩ | ⟨t, c, -, hturn, rfl⟩
    · rw [hadding] at hstride
      cases hstride
      exact .refused refusal rfl
    · exact .refused refusal hadding
  | waiting hadding orderly heard =>
    rcases step_cases h with ⟨a, w, -, hstride, rfl⟩ | ⟨t, c, -, hturn, rfl⟩
    · rw [hadding] at hstride
      cases hstride with
      | refuse => exact .refused _ rfl
      | enter hroom hdirectory =>
        rcases orderly with unseen | ⟨j, m, s, left, led⟩
        · exact .added (added_of_enter offers unseen hdirectory _)
        · exact absurd (hroom.symm.trans led.hosts.room) (by simp)
    · have horderly := orderly.step rolled here offers.absent (keeps _) modest hturn
      refine .waiting hadding horderly ?_
      rw [turned, heard, handsTo_of_orderly orderly offers.lt]
      rfl

/-- **Along all beats a debut is in one of its phases.** -/
theorem phase_run (offers : w₀.Offers id stream) (here : ∀ m ∈ ms, m.stream = stream)
    (keeps : ∀ id, k.Keeps id stream) (modest : k.toCast.Modest)
    (h : (begin w₀ id ms).run k beats = some d) :
    d.chat = id ∧ d.crowd.Rolled ms ∧ Phase k w₀ stream d := by
  have hstart : Phase k w₀ stream (begin w₀ id ms) :=
    .waiting (by simp [begin, Addition.of, offers.stream_eq]) (Crowd.orderly_gather w₀ ms) rfl
  refine foldlM_keeps (P := fun d => d.chat = id ∧ d.crowd.Rolled ms ∧ Phase k w₀ stream d) ?_
    ⟨rfl, Crowd.rolled_gather w₀ ms, hstart⟩ h
  rintro b - d d' ⟨rfl, hrolled, hphase⟩ hstep
  have hchat : d'.chat = d.chat := by
    rcases step_cases hstep with ⟨a, w, -, -, rfl⟩ | ⟨t, c, -, -, rfl⟩ <;> rfl
  exact ⟨hchat, rolled_step hrolled hstep, hphase.step offers hrolled here keeps modest hstep⟩

/-- A beat is the last one. -/
theorem run_concat {before : List Beat} :
    d.run k (before ++ [b]) = some d'' ↔ ∃ d', d.run k before = some d' ∧ d'.step k b = some d'' :=
  foldlM_concat

/-- Where no message that has come through the gate has its turn nothing is handed over. -/
theorem Added.handsTo_eq_nil (added : d.Added stream) {t : Turn}
    (waits : ∀ i m, t = .call i → d.crowd.calls[i]? ≠ some (m, .admitted d.chat)) :
    d.crowd.handsTo d.chat t = [] := by
  cases t with
  | wait => rfl
  | call i =>
    cases hcall : d.crowd.calls[i]? with
    | none => simp [Crowd.handsTo, hcall]
    | some x =>
      obtain ⟨m, s⟩ := x
      have hfollows := added.follows i m s hcall
      have hnot := waits i m rfl
      rw [handsTo_call hcall (added.isAbout hcall)]
      cases s <;> simp_all [Crowd.Follows, Stage.delivers]

/-- An observer that is still to be told was still to be told before. -/
theorem isUntold_of_addStride {a a' : Addition} (h : Company.AddStride k w a a' w')
    (untold : a'.isUntold = true) : a.isUntold = true := by
  cases h <;> simp_all [Addition.isUntold]

/-- **While the messages are patient nothing is handed over** before all observers have been
told. -/
theorem Patient.silent (patient : Patient k (begin w₀ id ms) beats)
    (offers : w₀.Offers id stream) (here : ∀ m ∈ ms, m.stream = stream)
    (keeps : ∀ id, k.Keeps id stream) (modest : k.toCast.Modest) {before after : List Beat}
    (split : beats = before ++ after) (h : (begin w₀ id ms).run k before = some d)
    (untold : d.adding.isUntold = true) : d.heard = [] := by
  induction before using List.reverseRecOn generalizing after d with
  | nil =>
    obtain rfl := Option.some.inj h
    rfl
  | append_singleton before b ih =>
    obtain ⟨c, hc, hstep⟩ := run_concat.mp h
    have hsplit : beats = before ++ b :: after := by simp [split]
    rcases step_cases hstep with ⟨a, w, rfl, hstride, rfl⟩ | ⟨t, c', rfl, hturn, rfl⟩
    · have hnone : c.heard = [] := ih hsplit hc (isUntold_of_addStride hstride untold)
      exact hnone
    · have hnone : c.crowd.handsTo c.chat t = [] := by
        obtain ⟨hchat, -, hphase⟩ := phase_run offers here keeps modest hc
        cases hphase with
        | waiting hadding orderly => exact handsTo_of_orderly orderly (hchat ▸ offers.lt) t
        | refused refusal hadding =>
          rw [turned, hadding] at untold
          cases untold
        | added added =>
          refine added.handsTo_eq_nil fun i m hi => ?_
          subst hi
          exact patient before after c i m hsplit hc untold
      rw [turned, ih hsplit hc untold, hnone]
      rfl

/-- Where observers are being told the chat is in the directory. -/
theorem Phase.added_of_announcing (phase : Phase k w₀ stream d) {left : List String}
    (hadding : d.adding = .announcing d.chat left) : d.Added stream := by
  cases phase with
  | waiting hwaiting => cases hadding.symm.trans hwaiting
  | refused refusal hrefused => cases hadding.symm.trans hrefused
  | added added => exact added

/-- **An observer is told**, and its listener is one of the chat then. -/
theorem Added.tell (added : d.Added stream) (keeps : k.Keeps d.chat stream)
    (modest : k.toCast.Modest) {o : String} {os : List String}
    (hadding : d.adding = .announcing d.chat (o :: os)) (h : d.step k .add = some d') :
    d'.heard = d.heard ∧ ∀ l ∈ k.attaches? o, l ∈ d'.world.members d.chat := by
  rcases step_cases h with ⟨a, w, -, hstride, rfl⟩ | ⟨t, c, hbeat, -, -⟩
  · rw [hadding] at hstride
    cases hstride with
    | tell telling => exact ⟨rfl, (Company.calm_inform keeps modest added.hosts telling).2⟩
  · cases hbeat

/-- **A debut in which the observers hear in time is patient**: a message that has come through the
gate is handed over by its next turn. -/
theorem Lawful.patient {start last : Debut} (lawful : Lawful k start beats)
    (h : start.run k beats = some last) : Patient k start beats := by
  intro before after d i m split hd untold hcall
  rw [split] at h
  obtain ⟨d₁, hd₁, hafter⟩ := foldlM_append.mp h
  obtain rfl := Option.some.inj (hd.symm.trans hd₁)
  obtain ⟨d', hstep, -⟩ := Option.bind_eq_some_iff.mp hafter
  have hrun := run_concat.mpr ⟨d, hd, hstep⟩
  rcases step_cases hstep with ⟨a, w, hbeat, -, -⟩ | ⟨t, c, hbeat, -, rfl⟩
  · cases hbeat
  · obtain rfl := Beat.message.inj hbeat
    have hsilent := lawful.silent _ after _ (by simp [split]) hrun untold
    simp [turned, Crowd.handsTo, hcall, Stage.deliversTo] at hsilent

/-- **While the messages are patient the observers hear in time.** -/
theorem Patient.lawful (patient : Patient k (begin w₀ id ms) beats)
    (offers : w₀.Offers id stream) (here : ∀ m ∈ ms, m.stream = stream)
    (keeps : ∀ id, k.Keeps id stream) (modest : k.toCast.Modest) :
    Lawful k (begin w₀ id ms) beats where
  silent before after d split hd untold := patient.silent offers here keeps modest split hd untold
  hears before between after d d' d'' o os split hd hadding hstep hbetween := by
    obtain ⟨-, rolled, phase⟩ := phase_run offers here keeps modest hd
    have added := phase.added_of_announcing hadding
    obtain ⟨hheard, hattach⟩ := added.tell (keeps _) modest hadding hstep
    obtain ⟨added', hchat, -⟩ := added.step rolled here (keeps _) modest hstep
    refine ⟨hattach, fun l hl => ?_⟩
    rw [← hchat] at hl
    obtain ⟨since, hsince, hears⟩ :=
      added'.run (rolled_step rolled hstep) here (keeps _) modest hbetween hl
    have hnone : d.heard = [] :=
      patient.silent offers here keeps modest split hd (by rw [hadding]; rfl)
    rw [hears.received, hsince, hheard, hnone, List.nil_append]

/-- **The open gate of the added chat stops no message.** -/
theorem Added.passes (added : d.Added stream) (m : Message) :
    (k.step m (.gated d.chat)).run d.world = some (some (.admitted d.chat), d.world) := by
  unfold Company.step
  change ((if (d.world.directory.chat d.chat).gateOpen then
    pure (some (.admitted d.chat)) else pure none : Run (Option Stage)).run d.world) = _
  rw [added.gate]
  rfl

/-- **Whether a chat that is added keeps what is promised to observers is left to chance.**  The
observers hear of it in time exactly when no message happens to be handed over while one of them is
still to be told; and its gate, which is open, lets every message through meanwhile. -/
theorem lawful_iff_patient {cast : Cast} {depth : Nat} (modest : cast.Modest) {w₀ : World}
    {id : ChatId} {stream : String} (offers : w₀.Offers id stream) {ms : List Message}
    (here : ∀ m ∈ ms, m.stream = stream) {beats : List Beat} {last : Debut}
    (h : (begin w₀ id ms).run (cast.company depth) beats = some last) :
    (Lawful (cast.company depth) (begin w₀ id ms) beats
        ↔ Patient (cast.company depth) (begin w₀ id ms) beats)
      ∧ ∀ before after d left m, beats = before ++ after →
        (begin w₀ id ms).run (cast.company depth) before = some d →
        d.adding = .announcing id left →
          ((cast.company depth).step m (.gated id)).run d.world
            = some (some (.admitted id), d.world) := by
  have keeps := fun id => modest.keeps depth id stream
  refine ⟨⟨fun lawful => lawful.patient h,
    fun patient => patient.lawful offers here keeps modest⟩, ?_⟩
  intro before after d left m split hd hadding
  obtain ⟨rfl, -, phase⟩ := phase_run offers here keeps modest hd
  exact (phase.added_of_announcing hadding).passes m

/-- Both observers are told before the messages get through: what is promised is kept. -/
theorem lawful_iff_patient_when_told_first :
    let cast : Cast := { observer := fun _ => .scripted { attach := some "ear" } }
    let w : World := { directory := {
      owner := .bare "bot", chats := [.fresh (some "room")]
      observers := (Roster.empty.insert "desk").insert "office" } }
    let ms : List Message := [.plain "1" "room" "ann" "hello", .plain "2" "room" "bob" "hello"]
    let beats : List Beat := [.message (.call 1), .add, .message (.call 0), .add,
      .message (.call 0), .add, .message (.call 0), .add, .message (.call 1), .message (.call 1)]
    ((begin w 0 ms).run (cast.company 2) beats).map (·.heard.map (·.1.id)) = some ["1"]
      ∧ (Lawful (cast.company 2) (begin w 0 ms) beats
        ↔ Patient (cast.company 2) (begin w 0 ms) beats) := by
  intro cast w ms beats
  have modest : cast.Modest := {
    listeners := fun name react h m n => by
      obtain rfl := ListenerRole.scripted.inj h
      rfl
    observers := fun name script h stream n => by
      obtain rfl := ObserverRole.scripted.inj h
      rfl }
  have offers : w.Offers 0 "room" := ⟨rfl, by decide, rfl, fun m h => (nomatch h), rfl⟩
  have heard : ((begin w 0 ms).run (cast.company 2) beats).map (·.heard.map (·.1.id))
      = some ["1"] := by
    decide +kernel
  obtain ⟨d, hrun, -⟩ := Option.map_eq_some_iff.mp heard
  have hlaw := @lawful_iff_patient cast 2 modest w 0 "room" offers ms (by decide) beats d hrun
  exact ⟨heard, hlaw.1⟩

/-- **A message is lost between the first observer and the second**: two are handed over when only
the first has been told of the chat, and the listener that the second registers gets the later one
alone. -/
theorem lost_before_told :
    let cast : Cast := {
      observer := fun o => .scripted { attach := if o = "office" then some "ear" else none } }
    let w : World := { directory := {
      owner := .bare "bot", chats := [.fresh (some "room")]
      observers := (Roster.empty.insert "desk").insert "office" } }
    let ms : List Message := [.plain "1" "room" "ann" "hello", .plain "2" "room" "bob" "hello"]
    let beats : List Beat := [.add, .add, .message (.call 0), .message (.call 0),
      .message (.call 0), .message (.call 1), .message (.call 1), .message (.call 1), .add, .add]
    ¬ Lawful (cast.company 2) (begin w 0 ms) beats
      ∧ ∃ d, (begin w 0 ms).run (cast.company 2) beats = some d ∧ d.adding = .done none
        ∧ d.heard.map (·.1.id) = ["1", "2"]
        ∧ d.world.received.map (fun x => (x.1, x.2.id)) = [("ear", "2")] := by
  intro cast w ms beats
  have hmoment : ((begin w 0 ms).run (cast.company 2) (beats.take 5)).map
      (fun d => (d.adding, d.heard.map (·.1.id))) = some (.announcing 0 ["office"], ["1"]) := by
    decide +kernel
  have hend : ((begin w 0 ms).run (cast.company 2) beats).map (fun d => (d.adding,
      d.heard.map (·.1.id), d.world.received.map fun x => (x.1, x.2.id)))
        = some (.done none, ["1", "2"], [("ear", "2")]) := by
    decide +kernel
  obtain ⟨d, hd, hview⟩ := Option.map_eq_some_iff.mp hmoment
  obtain ⟨hadding, hheard⟩ := Prod.mk.inj hview
  obtain ⟨e, he, hresult⟩ := Option.map_eq_some_iff.mp hend
  obtain ⟨hdone, hall⟩ := Prod.mk.inj hresult
  obtain ⟨hall, hgot⟩ := Prod.mk.inj hall
  refine ⟨fun lawful => ?_, e, he, hdone, hall, hgot⟩
  have hsilent := lawful.silent (beats.take 5) (beats.drop 5) d (List.take_append_drop 5 beats).symm
    hd (by rw [hadding]; rfl)
  rw [hsilent] at hheard
  cases hheard

end Debut

end ChatFeed
