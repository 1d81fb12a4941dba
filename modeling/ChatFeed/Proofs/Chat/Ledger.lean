import ChatFeed.Proofs.Chat.Quiet
import ChatFeed.Proofs.Chat.Stride
import ChatFeed.Session.Move
import Mathlib.Data.Finmap

/-!
# Proofs/Chat/Ledger — a directory is a map and a list of observers

A `Ledger` is what a directory is to those who use it: a finite map from streams to chats, the
observers in order, and the streams of all chats ever made.  `Ledger.deal` says for each way to use
a directory what comes back, what the ledger is then, and what the observers are to be told; the
directory does just that (`Company.Does`).

* `Company.deal_does` — every single use, in any world.
* `Company.directory_keeps_ledger` — after any uses one after the other, and for the next.
-/

namespace ChatFeed

/-! ## The ledger -/

/-- **What a directory is to those who use it.** -/
structure Ledger where
  /-- Which chat is under which stream. -/
  rooms : Finmap fun _ : String => ChatId
  /-- The observers, in the order in which they came. -/
  observers : List String
  /-- The streams of all chats that were ever made. -/
  streams : List (Option String)

/-- **A use of a directory**: a chat is made, outside of it; a chat is added or removed, or the one
under a stream is removed, or found, or made if there is none; the chats are listed or counted; an
observer comes or goes. -/
inductive Deal
  | make (chat : Chat)
  | add (id : ChatId)
  | remove (id : ChatId)
  | removeStream (stream : String)
  | findOrMake (stream : String) (make : Chat)
  | find (stream : String)
  | chats
  | size
  | addObserver (observer : String)
  | removeObserver (observer : String)

/-- **What comes back.**  The chats of a directory come in no particular order. -/
inductive Receipt
  | made (id : ChatId)
  | added (refusal : Option AddError)
  | flag (b : Bool)
  | chat (id : Option ChatId)
  | provided (id : ChatId) (new : Bool)
  | chats (ids : Multiset ChatId)
  | size (n : Nat)

/-- **What a use comes to**: what comes back, the ledger then, and what observers are to be told. -/
structure Upshot where
  receipt : Receipt
  ledger : Ledger
  news : Option (News × ChatId) := none

namespace Ledger

/-- The stream of a chat. -/
def streamOf (b : Ledger) (id : ChatId) : Option String := b.streams.getD id none

/-- The chat under a stream is removed, if there is one. -/
def removal (b : Ledger) (stream : String) (receipt : Option ChatId → Receipt) : Upshot :=
  match b.rooms.lookup stream with
  | none => { receipt := receipt none, ledger := b }
  | some id =>
    { receipt := receipt (some id), ledger := { b with rooms := b.rooms.erase stream },
      news := some (.gone, id) }

/-- **How a directory is used.** -/
def deal (b : Ledger) : Deal → Upshot
  | .make chat =>
    { receipt := .made b.streams.length,
      ledger := { b with streams := b.streams ++ [chat.stream] } }
  | .add id =>
    match b.streamOf id with
    | none => { receipt := .added (some .noStream), ledger := b }
    | some stream =>
      if stream ∈ b.rooms then { receipt := .added (some (.taken stream)), ledger := b }
      else
        { receipt := .added none, ledger := { b with rooms := b.rooms.insert stream id },
          news := some (.arrived, id) }
  | .remove id =>
    match b.streamOf id with
    | none => { receipt := .flag false, ledger := b }
    | some stream => b.removal stream fun removed => .flag removed.isSome
  | .removeStream stream => b.removal stream .chat
  | .findOrMake stream make =>
    match b.rooms.lookup stream with
    | some id => { receipt := .provided id false, ledger := b }
    | none =>
      let id := b.streams.length
      { receipt := .provided id true,
        ledger := { b with rooms := b.rooms.insert stream id,
                           streams := b.streams ++ [make.stream] },
        news := some (.arrived, id) }
  | .find stream => { receipt := .chat (b.rooms.lookup stream), ledger := b }
  | .chats => { receipt := .chats (b.rooms.entries.map Sigma.snd), ledger := b }
  | .size => { receipt := .size b.rooms.keys.card, ledger := b }
  | .addObserver o =>
    { receipt := .flag (decide (o ∉ b.observers)),
      ledger := { b with observers := if o ∈ b.observers then b.observers
                                      else b.observers ++ [o] } }
  | .removeObserver o =>
    { receipt := .flag (decide (o ∈ b.observers)),
      ledger := { b with observers := b.observers.filter (· ≠ o) } }

/-- The ledger after some uses. -/
def after (b : Ledger) (deals : List Deal) : Ledger :=
  deals.foldl (fun b d => (b.deal d).ledger) b

/-- What comes back from some uses. -/
def receipts (b : Ledger) : List Deal → List Receipt
  | [] => []
  | d :: deals => (b.deal d).receipt :: receipts (b.deal d).ledger deals

end Ledger

namespace Company

variable (k : Company)

/-- **A use of the directory.** -/
def deal : Deal → Run Receipt
  | .make chat => do
    let id := (← Run.directory).nextId
    Run.onDirectory (·.make chat)
    return .made id
  | .add id => do return .added (← k.addChat id)
  | .remove id => do return .flag (← k.removeChat id)
  | .removeStream stream => do return .chat (← k.removeStream stream)
  | .findOrMake stream make => do
    let (id, new) ← k.findOrMake stream make
    return .provided id new
  | .find stream => do return .chat ((← Run.directory).rooms.find? stream)
  | .chats => do return .chats (← Session.listed)
  | .size => do return .size (← Run.directory).rooms.size
  | .addObserver o => do return .flag (← addObserver o)
  | .removeObserver o => do return .flag (← removeObserver o)

/-- Uses one after the other. -/
def dealAll : List Deal → Run (List Receipt)
  | [] => return []
  | d :: deals => do
    let receipt ← k.deal d
    return receipt :: (← dealAll deals)

end Company

/-! ## The ledger of a directory -/

namespace Rooms

/-- The chats under their streams, as a map. -/
def toFinmap (r : Rooms) : Finmap fun _ : String => ChatId :=
  AList.toFinmap ⟨r.entries.map fun e => ⟨e.1, e.2⟩, by
    rw [List.NodupKeys, List.keys, List.map_map]
    exact r.distinct⟩

variable {r : Rooms} {stream : String}

theorem dlookup_map (entries : List (String × ChatId)) (stream : String) :
    (entries.map fun e => (⟨e.1, e.2⟩ : Sigma fun _ : String => ChatId)).dlookup stream
      = entries.lookup stream := by
  induction entries with
  | nil => rfl
  | cons e es ih =>
    obtain ⟨s, id⟩ := e
    by_cases hs : stream = s
    · rw [hs, List.map_cons, List.dlookup_cons_eq, List.lookup_cons_self]
    · have hb : (stream == s) = false := by simpa using hs
      rw [List.map_cons, List.dlookup_cons_ne _ _ hs, List.lookup_cons, hb, ih]

theorem lookup_toFinmap (r : Rooms) (stream : String) :
    r.toFinmap.lookup stream = r.find? stream := dlookup_map r.entries stream

theorem mem_toFinmap : stream ∈ r.toFinmap ↔ (r.find? stream).isSome = true := by
  rw [← Finmap.lookup_isSome, lookup_toFinmap]

theorem toFinmap_insert (id : ChatId) (h : r.find? stream = none) :
    (r.insert stream id).toFinmap = r.toFinmap.insert stream id := by
  refine Finmap.ext_lookup fun other => ?_
  rw [lookup_toFinmap]
  by_cases ho : other = stream
  · rw [ho, find?_insert_self id h, Finmap.lookup_insert]
  · rw [find?_insert_of_ne r id ho, Finmap.lookup_insert_of_ne _ ho, lookup_toFinmap]

theorem toFinmap_erase (r : Rooms) (stream : String) :
    (r.erase stream).toFinmap = r.toFinmap.erase stream := by
  refine Finmap.ext_lookup fun other => ?_
  rw [lookup_toFinmap]
  by_cases ho : other = stream
  · rw [ho, find?_erase_self, Finmap.lookup_erase]
  · rw [find?_erase_of_ne r ho, Finmap.lookup_erase_ne ho, lookup_toFinmap]

/-- There are as many chats as streams that have one. -/
theorem card_keys (r : Rooms) : r.toFinmap.keys.card = r.size := by
  change Multiset.card (r.toFinmap.keys).val = _
  rw [toFinmap, Finmap.keys_val]
  simp [AList.keys, List.keys, size]

/-- The chats that are listed are those under the streams. -/
theorem map_entries (r : Rooms) :
    r.toFinmap.entries.map Sigma.snd = (r.entries.map Prod.snd : List ChatId) := by
  rw [toFinmap, AList.toFinmap_entries]
  exact congrArg _ List.map_map

end Rooms

/-- **The ledger of a directory.** -/
def Directory.ledger (d : Directory) : Ledger where
  rooms := d.rooms.toFinmap
  observers := d.observers.members
  streams := d.chats.map Chat.stream

/-- A directory keeps its observers when they stay in order. -/
theorem Directory.eq_of_observers {d : Directory} {r : Roster String}
    (h : r.members = d.observers.members) : { d with observers := r } = d := by
  obtain ⟨owner, chats, rooms, ⟨members, distinct⟩⟩ := d
  obtain ⟨members', distinct'⟩ := r
  obtain rfl : members' = members := h
  rfl

theorem Directory.streamOf_ledger (d : Directory) (id : ChatId) :
    d.ledger.streamOf id = (d.chat id).stream := by
  rw [Ledger.streamOf, Directory.ledger, Directory.chat]
  exact List.getD_map d.chats (Chat.fresh none) Chat.stream

namespace World

/-- The ledger of the directory. -/
def ledger (w : World) : Ledger := w.directory.ledger

/-- Who listens to a chat is not in the ledger. -/
theorem Unmoved.ledger {w v : World} (h : w.Unmoved v) : v.ledger = w.ledger := by
  have hstreams : ∀ cs : List Chat, cs.map Chat.stream = (cs.map Chat.alone).map Chat.stream :=
    fun cs => by simp [Chat.alone, Function.comp_def]
  unfold World.ledger Directory.ledger
  rw [h.rooms, h.observers, hstreams, h.chats, ← hstreams]

/-- Nor is anything of a chat but its stream. -/
theorem ledger_onChat (w : World) (id : ChatId) {f : Chat → Chat}
    (hf : ∀ c, (f c).stream = c.stream) : (w.onChat id f).ledger = w.ledger := by
  have hstreams : (w.directory.chats.modify id f).map Chat.stream
      = w.directory.chats.map Chat.stream := by
    refine List.ext_getElem? fun i => ?_
    rw [List.getElem?_map, List.getElem?_map, List.getElem?_modify]
    cases w.directory.chats[i]? with
    | none => rfl
    | some c => by_cases hi : id = i <;> simp [hi, hf]
  unfold World.ledger Directory.ledger World.onChat Directory.update
  rw [hstreams]

end World

/-! ## Telling the observers -/

/-- **An observer is told of a chat**, and its callback comes to an end. -/
structure Telling where
  observer : String
  news : News
  chat : ChatId
  ending : Ending

/-- Who is told what of which chat. -/
def Telling.what (t : Telling) : String × News × ChatId := (t.observer, t.news, t.chat)

/-- Whether it panics. -/
def Ending.isPanic : Ending → Bool
  | .panicked _ => true
  | _ => false

/-- **What is left of a callback** of an observer: a panic is counted and warned of. -/
def World.settle (w : World) (t : Telling) : World :=
  match t.ending with
  | .panicked words =>
    { w with journal := w.journal ++ [.count .listenerFailures] ++ [.warn
      (Company.observerWarning t.news)
      [("stream_id", .text (Text.quotedOption (w.directory.chat t.chat).stream)),
        ("error", .text (panicText words))]] }
  | _ => w

/-- **Some tellings, one right after the other**, lead from a world to another. -/
inductive Company.Tells (k : Company) : World → List Telling → World → Prop
  | nil (w : World) : Tells k w [] w
  | cons {w v u : World} {t : Telling} {ts : List Telling}
      (tell : (k.tell t.observer t.news t.chat).run w = some (t.ending, v))
      (rest : Tells k (v.settle t) ts u) : Tells k w (t :: ts) u

/-- Small steps report nothing of the number of chats, and nobody else is told of anything. -/
structure World.Discreet (w v : World) : Prop where
  news : v.news = w.news
  gauge : v.journal.last? .activeChats = w.journal.last? .activeChats

theorem World.passive_discreet : World.Passive World.Discreet where
  refl := fun _ => ⟨rfl, rfl⟩
  trans := fun h h' => ⟨h'.news.trans h.news, h'.gauge.trans h.gauge⟩
  line := fun w line => ⟨rfl, Journal.last?_append w.journal [.line line] _⟩
  count := fun w => ⟨rfl, Journal.last?_append w.journal [.count .listenerFailures] _⟩
  note := fun _ _ => ⟨rfl, rfl⟩
  hear := fun _ _ => ⟨rfl, rfl⟩
  write := fun _ _ => ⟨rfl, rfl⟩
  label := fun _ _ _ => ⟨rfl, rfl⟩
  listen := fun _ _ _ _ => ⟨rfl, rfl⟩

theorem World.unmoved_settle (w : World) (t : Telling) : w.Unmoved (w.settle t) := by
  unfold World.settle
  cases t.ending <;> exact .of_directory rfl

theorem World.discreet_settle (w : World) (t : Telling) : w.Discreet (w.settle t) := by
  unfold World.settle
  cases t.ending with
  | panicked words =>
    have hmarks := (World.passive_discreet.count w).gauge
    exact ⟨rfl, (Journal.last?_append _ [.warn _ _] _).trans hmarks⟩
  | _ => exact World.passive_discreet.refl w

/-- A panic adds one to the failures. -/
theorem World.total_settle (w : World) (t : Telling) :
    (w.settle t).journal.total .listenerFailures
      = w.journal.total .listenerFailures + if t.ending.isPanic then 1 else 0 := by
  unfold World.settle
  cases t.ending with
  | panicked words => rw [Journal.total_append, Journal.total_append]; rfl
  | _ => rfl

namespace Company

variable {k : Company} {w v u : World} {t : Telling} {ts : List Telling} {o : String}
  {news : News} {id : ChatId} {e : Ending}

/-- What an observer that cares for it learns of a chat on a stream. -/
def item? (k : Company) (stream : String) (t : Telling) : Option (String × News × String) :=
  if cares (k.observer t.observer) t.news then some (t.observer, t.news, stream) else none

/-- **Telling an observer** moves nothing, and nobody else learns of it. -/
theorem tell_cases (quiet : k.toCast.Quiet)
    (h : (k.tell t.observer t.news t.chat).run w = some (e, v)) :
    w.Unmoved v ∧ v.journal.last? .activeChats = w.journal.last? .activeChats
      ∧ v.news = w.news ++ (k.item? (w.directory.chat t.chat).streamText t).toList := by
  have hdiscreet := (tell_ends quiet World.passive_discreet _ _ _ w).elim h
  refine ⟨(still_tell quiet _ _ _ w).elim h, ?_⟩
  unfold item?
  by_cases hcares : cares (k.observer t.observer) t.news = true
  · rw [if_pos hcares] at hdiscreet ⊢
    exact ⟨hdiscreet.gauge, hdiscreet.news⟩
  · rw [if_neg hcares] at hdiscreet ⊢
    exact ⟨hdiscreet.gauge, hdiscreet.news.trans (List.append_nil _).symm⟩

theorem journal_labelOf {label : String} (h : (Run.labelOf id).run w = some (label, v)) :
    v.journal = w.journal := by
  rw [Run.labelOf, Run.run_get_bind] at h
  cases hlabel : w.label? id with
  | some label =>
    rw [hlabel] at h
    rw [(Run.run_pure_eq_some.mp h).2]
  | none =>
    rw [hlabel] at h
    rw [← (Prod.mk.inj (Option.some.inj h)).2]
    rfl

/-- The part of an observer that does not call back reports nothing. -/
theorem journal_part {p : Part} (hp : p.steps = []) {ending : Ending}
    (h : (do
      Run.note (.told news o (← Run.labelOf id))
      k.play ⟨o, some id⟩ p : Run Ending).run w = some (ending, v)) : v.journal = w.journal := by
  obtain ⟨label, u, hlabel, h⟩ := Run.run_bind_eq_some.mp h
  obtain ⟨_, u', hnote, h⟩ := Run.run_bind_eq_some.mp h
  obtain rfl := Run.run_modify_eq_some.mp hnote
  unfold play at h
  rw [hp] at h
  have hjournal := journal_labelOf hlabel
  rw [(Run.run_pure_eq_some.mp h).2]
  exact hjournal

/-- **An observer without a listener to register** reports nothing. -/
theorem journal_tell (quiet : k.toCast.Quiet) (hattach : k.attaches? o = none)
    (h : (k.tell o news id).run w = some (e, v)) : v.journal = w.journal := by
  unfold tell at h
  unfold Cast.attaches? at hattach
  cases hrole : k.observer o with
  | recorder l => simp [hrole] at hattach
  | scripted script =>
    rw [hrole] at h hattach
    change script.attach = none at hattach
    by_cases hcares : cares (.scripted script) news = true
    · rw [if_neg (by simp [hcares]), Run.run_chat_bind, Run.run_get_bind] at h
      obtain ⟨_, u, hlearn, h⟩ := Run.run_bind_eq_some.mp h
      obtain rfl := Run.run_modify_eq_some.mp hlearn
      unfold tellScripted at h
      rw [Run.run_chat_bind] at h
      cases news with
      | arrived =>
        rw [hattach] at h
        have hjournal := journal_part (quiet.arrivals o script hrole _ _) h
        exact hjournal
      | gone =>
        have hjournal := journal_part (quiet.departures o script hrole _ _) h
        exact hjournal
    · rw [if_pos (by simp [hcares])] at h
      rw [(Run.run_pure_eq_some.mp h).2]

/-- **Telling some observers**, one after the other. -/
theorem informAll_ends (quiet : k.toCast.Quiet) (news : News) (id : ChatId) (os : List String)
    (w : World) : (k.informAll news id os).EndsIn w fun _ u => ∃ ts, k.Tells w ts u
      ∧ ts.map Telling.what = os.map fun o => (o, news, id) := by
  induction os generalizing w with
  | nil => exact ⟨_, _, rfl, [], .nil w, rfl⟩
  | cons o os ih =>
    obtain ⟨e, v, htell, -⟩ := still_tell quiet o news id w
    obtain ⟨x, u, hrest, ts, htells, hts⟩ := ih (v.settle ⟨o, news, id, e⟩)
    have hinform : (k.inform o news id).run w = some ((), v.settle ⟨o, news, id, e⟩) := by
      refine Run.run_bind_eq_some.mpr ⟨e, v, htell, ?_⟩
      cases e <;> rfl
    refine ⟨x, u, Run.run_bind_eq_some.mpr ⟨(), _, hinform, hrest⟩, ⟨o, news, id, e⟩ :: ts,
      .cons htell htells, ?_⟩
    rw [List.map_cons, List.map_cons, hts, Telling.what]

/-- **Tellings move nothing**, and say nothing of the number of chats. -/
theorem Tells.unmoved (quiet : k.toCast.Quiet) (h : k.Tells w ts u) :
    w.Unmoved u ∧ u.journal.last? .activeChats = w.journal.last? .activeChats := by
  induction h with
  | nil w => exact ⟨.refl w, rfl⟩
  | @cons w v u t ts tell rest ih =>
    obtain ⟨hmoved, hgauge, -⟩ := tell_cases quiet tell
    exact ⟨hmoved.trans ((v.unmoved_settle t).trans ih.1),
      ih.2.trans ((v.discreet_settle t).gauge.trans hgauge)⟩

/-- **Every observer learns of it once**, in order, if it cares for it. -/
theorem Tells.learns (quiet : k.toCast.Quiet) (h : k.Tells w ts u) {stream : Option String}
    (hstream : ∀ t ∈ ts, (w.directory.chat t.chat).stream = stream) :
    u.news = w.news ++ ts.filterMap (k.item? (stream.getD "")) := by
  induction h with
  | nil w => simp
  | @cons w v u t ts tell rest ih =>
    obtain ⟨hmoved, -, hnews⟩ := tell_cases quiet tell
    have hsame := (hmoved.trans (v.unmoved_settle t)).stream
    have hrest := ih fun t' ht' => (hsame _).trans (hstream t' (List.mem_cons_of_mem _ ht'))
    have hfirst : (w.directory.chat t.chat).streamText = stream.getD "" :=
      congrArg (Option.getD · "") (hstream t List.mem_cons_self)
    rw [hrest, (v.discreet_settle t).news, hnews, hfirst, List.append_assoc]
    cases hitem : k.item? (stream.getD "") t <;> simp [hitem]

/-- **Every panic adds one to the failures**; there are no others where no listener is called. -/
theorem Tells.failures (quiet : k.toCast.Quiet) (h : k.Tells w ts u)
    (hattach : ∀ t ∈ ts, k.attaches? t.observer = none) :
    u.journal.total .listenerFailures
      = w.journal.total .listenerFailures + ts.countP fun t => t.ending.isPanic := by
  induction h with
  | nil w => simp
  | @cons w v u t ts tell rest ih =>
    have hrest := ih fun t' ht' => hattach t' (List.mem_cons_of_mem _ ht')
    have hjournal := journal_tell quiet (hattach t List.mem_cons_self) tell
    rw [hrest, World.total_settle, hjournal, List.countP_cons]
    omega

end Company

/-! ## Every use -/

/-- **All observers are told of a chat**, between two worlds and with the ledger as it is then. -/
structure Company.Announces (k : Company) (b : Ledger) (news : News) (id : ChatId)
    (w v : World) : Prop where
  /-- Each one is told once, in order and of this chat, after the ledger has changed; a panic adds
  one to the failures, and there are no others where no listener is called. -/
  told : ∃ u x ts, u.ledger = b ∧ (u.news = w.news ∧ u.notes = w.notes ∧ u.received = w.received)
    ∧ k.Tells u ts x ∧ v = { x with directory := v.directory }
    ∧ ts.map Telling.what = (w.ledger.observers.map fun o => (o, news, id))
    ∧ ((∀ o ∈ w.ledger.observers, k.attaches? o = none) →
      v.journal.total .listenerFailures
        = w.journal.total .listenerFailures + ts.countP fun t => t.ending.isPanic)
  /-- Those who care have learnt of it. -/
  learnt : v.news = w.news ++ (w.ledger.observers.filter fun o =>
    cares (k.observer o) news).map fun o => (o, news, (b.streamOf id).getD "")
  /-- The number of chats is shown. -/
  gauge : v.journal.last? .activeChats = some b.rooms.keys.card

/-- **A use of a directory does what the ledger says.** -/
structure Company.Does (k : Company) (up : Upshot) (w : World) (receipt : Receipt) (v : World) :
    Prop where
  receipt : receipt = up.receipt
  ledger : v.ledger = up.ledger
  /-- Where the ledger stays as it is nothing at all has changed. -/
  still : up.ledger = w.ledger → v = w
  /-- Where nothing is to be told the directory alone has changed. -/
  silent : up.news = none → v = { w with directory := v.directory }
  announced : ∀ news id, up.news = some (news, id) → k.Announces up.ledger news id w v

namespace Company

variable {k : Company} {w v u : World} {news : News} {id : ChatId} {b : Ledger} {d : Directory}
  {message stream : String} {receipt : Receipt}

/-- What observers learn is what those of them are told who care for it. -/
theorem items_eq (k : Company) (stream : String) (ts : List Telling) :
    ts.filterMap (k.item? stream) = ((ts.map Telling.what).filter fun what =>
      cares (k.observer what.1) what.2.1).map fun what => (what.1, what.2.1, stream) := by
  induction ts with
  | nil => rfl
  | cons t ts ih =>
    by_cases hcares : cares (k.observer t.observer) t.news = true
    · simp [item?, Telling.what, hcares, ih]
    · simp [item?, Telling.what, hcares, ih]

/-- **An announcement after a change** tells all observers. -/
theorem announce_ends (quiet : k.toCast.Quiet) (hobservers : d.observers = w.directory.observers)
    (news : News) (id : ChatId) (message stream : String) :
    (k.announce news id).EndsIn (w.change d message stream) fun _ v =>
      v.ledger = d.ledger ∧ k.Announces d.ledger news id w v := by
  refine (informAll_ends quiet news id d.observers.members (w.change d message stream)).mono ?_
  rintro - v ⟨ts, htells, hts⟩
  rw [hobservers] at hts
  obtain ⟨hmoved, hgauge⟩ := htells.unmoved quiet
  have hwho : ∀ t ∈ ts, t.observer ∈ w.ledger.observers ∧ t.news = news ∧ t.chat = id := by
    intro t ht
    obtain ⟨o, ho, heq⟩ := List.mem_map.mp (hts ▸ List.mem_map_of_mem (f := Telling.what) ht)
    obtain ⟨rfl, rfl, rfl⟩ : o = t.observer ∧ news = t.news ∧ id = t.chat := by
      simpa [Telling.what] using heq
    exact ⟨ho, rfl, rfl⟩
  refine ⟨hmoved.ledger, ⟨w.change d message stream, v, ts, rfl, ⟨rfl, rfl, rfl⟩, htells, rfl, hts,
    fun hattach => ?_⟩, ?_, ?_⟩
  · rw [htells.failures quiet fun t ht => hattach _ (hwho t ht).1]
    simp only [World.change, Journal.total_append]
    rfl
  · have hstream : ∀ t ∈ ts, ((w.change d message stream).directory.chat t.chat).stream
        = d.ledger.streamOf id := by
      intro t ht
      rw [(hwho t ht).2.2, d.streamOf_ledger]
      rfl
    rw [htells.learns quiet hstream, items_eq, hts, List.filter_map, List.map_map]
    rfl
  · rw [hgauge, World.change, Journal.last?_append, Directory.ledger, Rooms.card_keys]
    rfl

/-- The gate of a chat is no matter of what is told. -/
theorem Announces.of_directory (h : k.Announces b news id w u)
    (hv : v = { u with directory := v.directory }) : k.Announces b news id w v := by
  obtain ⟨⟨x, y, ts, hledger, hsame, htells, hu, hts, hfailures⟩, hlearnt, hgauge⟩ := h
  have hjournal : v.journal = u.journal := by rw [hv]
  have hnews : v.news = u.news := by rw [hv]
  refine ⟨⟨x, y, ts, hledger, hsame, htells, ?_, hts, ?_⟩, hnews.trans hlearnt, ?_⟩
  · rw [hv, hu]
  · rwa [hjournal]
  · rwa [hjournal]

theorem does_still (receipt : Receipt) :
    k.Does { receipt := receipt, ledger := w.ledger } w receipt w where
  receipt := rfl
  ledger := rfl
  still := fun _ => rfl
  silent := fun _ => rfl
  announced := by simp

theorem does_silent (receipt : Receipt) (hledger : d.ledger = b)
    (hstill : b = w.ledger → d = w.directory) :
    k.Does { receipt := receipt, ledger := b } w receipt { w with directory := d } where
  receipt := rfl
  ledger := hledger
  still := fun h => by rw [hstill h]
  silent := fun _ => rfl
  announced := by simp

theorem does_announced (receipt : Receipt) (hne : b ≠ w.ledger) (hledger : v.ledger = b)
    (h : k.Announces b news id w v) :
    k.Does { receipt := receipt, ledger := b, news := some (news, id) } w receipt v where
  receipt := rfl
  ledger := hledger
  still := fun hsame => absurd hsame hne
  silent := by simp
  announced := by
    intro news' id' hnews
    obtain ⟨rfl, rfl⟩ : news = news' ∧ id = id' := by simpa using hnews
    exact h

/-- A change is reported, and announced. -/
theorem change_ends (quiet : k.toCast.Quiet) (f : Directory → Directory)
    (hobservers : (f w.directory).observers = w.directory.observers) (message stream : String)
    (news : News) (id : ChatId) {α : Type} {x : Run α} {P : α → World → Prop}
    (hx : ∀ v, v.ledger = (f w.directory).ledger →
      k.Announces (f w.directory).ledger news id w v → x.EndsIn v P) :
    (do
      Run.onDirectory f
      changed message stream
      k.announce news id
      x : Run α).EndsIn w P := by
  have hmodify : (Run.onDirectory f).EndsIn w fun _ v =>
      v = { w with directory := f w.directory } := Run.endsIn_modify rfl
  refine hmodify.bind ?_
  rintro - v rfl
  have hchanged : (changed message stream).EndsIn { w with directory := f w.directory } fun _ v =>
      v = w.change (f w.directory) message stream := ⟨_, _, rfl, rfl⟩
  refine hchanged.bind ?_
  rintro - v rfl
  exact (announce_ends quiet hobservers news id message stream).bind fun _ v hv =>
    hx v hv.1 hv.2

theorem removeStream_does (quiet : k.toCast.Quiet) (stream : String)
    (receipt : Option ChatId → Receipt) (w : World) :
    (k.removeStream stream).EndsIn w fun r v =>
      k.Does (w.ledger.removal stream receipt) w (receipt r) v := by
  have hlookup : w.ledger.rooms.lookup stream = w.directory.rooms.find? stream :=
    Rooms.lookup_toFinmap _ _
  unfold removeStream Ledger.removal
  rw [hlookup]
  refine Run.endsIn_directory_bind ?_
  cases hroom : w.directory.rooms.find? stream with
  | none => exact Run.endsIn_pure (does_still _)
  | some id =>
    refine change_ends quiet (fun d => { d with rooms := d.rooms.erase stream }) rfl _ _ _ _ ?_
    intro v hledger hannounces
    have hrooms : (Directory.ledger { w.directory with rooms := w.directory.rooms.erase stream })
        = { w.ledger with rooms := w.ledger.rooms.erase stream } := by
      simp only [Directory.ledger, Rooms.toFinmap_erase]
      rfl
    rw [hrooms] at hledger hannounces
    refine Run.endsIn_pure (does_announced _ (fun hsame => ?_) hledger hannounces)
    have hgone := congrArg (fun b : Ledger => b.rooms.lookup stream) hsame
    simp [hlookup, hroom, Finmap.lookup_erase] at hgone

theorem addChat_does (quiet : k.toCast.Quiet) (id : ChatId) (w : World) :
    (k.addChat id).EndsIn w fun r v => k.Does (w.ledger.deal (.add id)) w (.added r) v := by
  have hstream : w.ledger.streamOf id = (w.directory.chat id).stream :=
    w.directory.streamOf_ledger id
  unfold addChat Ledger.deal
  dsimp only
  rw [hstream]
  refine Run.endsIn_chat_bind ?_
  cases (w.directory.chat id).stream with
  | none => exact Run.endsIn_pure (does_still _)
  | some stream =>
    have hmem : stream ∈ w.ledger.rooms ↔ (w.directory.rooms.find? stream).isSome = true :=
      Rooms.mem_toFinmap
    refine Run.endsIn_directory_bind ?_
    dsimp only
    by_cases htaken : (w.directory.rooms.find? stream).isSome = true
    · rw [if_pos htaken, if_pos (hmem.mpr htaken)]
      exact Run.endsIn_pure (does_still _)
    · rw [if_neg htaken, if_neg (mt hmem.mp htaken)]
      refine change_ends quiet (fun d => { d with rooms := d.rooms.insert stream id }) rfl
        _ _ _ _ fun v hledger hannounces => ?_
      have hfree : w.directory.rooms.find? stream = none := by simpa using htaken
      have hrooms : (Directory.ledger
          { w.directory with rooms := w.directory.rooms.insert stream id })
          = { w.ledger with rooms := w.ledger.rooms.insert stream id } := by
        simp only [Directory.ledger, Rooms.toFinmap_insert id hfree]
        rfl
      rw [hrooms] at hledger hannounces
      refine Run.endsIn_pure (does_announced _ (fun hsame => ?_) hledger hannounces)
      have hthere := congrArg (fun b : Ledger => b.rooms) hsame
      exact mt hmem.mp htaken (hthere ▸ (Finmap.mem_insert.mpr (.inl rfl)))

theorem findOrMake_does (quiet : k.toCast.Quiet) (stream : String) (make : Chat) (w : World) :
    (k.findOrMake stream make).EndsIn w fun r v =>
      k.Does (w.ledger.deal (.findOrMake stream make)) w (.provided r.1 r.2) v := by
  have hlookup : w.ledger.rooms.lookup stream = w.directory.rooms.find? stream :=
    Rooms.lookup_toFinmap _ _
  have hcount : w.ledger.streams.length = w.directory.nextId := List.length_map _
  unfold findOrMake Ledger.deal
  dsimp only
  rw [hlookup, hcount]
  cases hroom : w.directory.rooms.find? stream with
  | some id =>
    have hprovide : (provide stream make).EndsIn w fun r v => r = (id, false) ∧ v = w :=
      ⟨_, _, provide_of_some hroom, rfl, rfl⟩
    refine hprovide.bind ?_
    rintro - v ⟨rfl, rfl⟩
    exact Run.endsIn_pure (does_still _)
  | none =>
    let d : Directory := { w.directory.make { make with gateOpen := false } with
      rooms := w.directory.rooms.insert stream w.directory.nextId }
    have hledger : d.ledger = { w.ledger with
        rooms := w.ledger.rooms.insert stream w.directory.nextId,
        streams := w.ledger.streams ++ [make.stream] } := by
      simp only [d, Directory.ledger, Rooms.toFinmap_insert _ hroom, Directory.make,
        List.map_append]
      rfl
    have hprovide : (provide stream make).EndsIn w fun r v => r = (w.directory.nextId, true)
        ∧ v = w.change d "Chat created for new stream" stream :=
      ⟨_, _, provide_of_none hroom, rfl, rfl⟩
    refine hprovide.bind ?_
    rintro - v ⟨rfl, rfl⟩
    refine (announce_ends quiet (d := d) rfl .arrived w.directory.nextId _ _).bind ?_
    rintro - v ⟨hv, hannounces⟩
    have hopen : (openGate w.directory.nextId).EndsIn v fun _ u =>
        u = v.onChat w.directory.nextId fun c => { c with gateOpen := true } :=
      Run.endsIn_modify rfl
    refine hopen.bind ?_
    rintro - u rfl
    rw [hledger] at hv hannounces
    refine Run.endsIn_pure (does_announced _ (fun hsame => ?_) ?_ (hannounces.of_directory rfl))
    · have hlength := congrArg (fun b : Ledger => b.streams.length) hsame
      simp at hlength
    · have hsame := v.ledger_onChat w.directory.nextId
        (f := fun c => { c with gateOpen := true }) fun _ => rfl
      exact hsame.trans hv

/-- **Every use of a directory does what the ledger says**, in any world. -/
theorem deal_does (quiet : k.toCast.Quiet) (deal : Deal) (w : World) :
    (k.deal deal).EndsIn w fun r v => k.Does (w.ledger.deal deal) w r v := by
  have hlookup : ∀ stream, w.ledger.rooms.lookup stream = w.directory.rooms.find? stream :=
    Rooms.lookup_toFinmap _
  cases deal with
  | make chat =>
    have hcount : w.ledger.streams.length = w.directory.nextId := List.length_map _
    refine ⟨.made w.directory.nextId, _, rfl, ?_⟩
    rw [← hcount]
    refine does_silent _ ?_ fun hsame => ?_
    · simp [Directory.ledger, Directory.make, World.ledger]
    · have hlength := congrArg (fun b : Ledger => b.streams.length) hsame
      simp at hlength
  | add id => exact (addChat_does quiet id w).bind fun _ v hv => Run.endsIn_pure hv
  | remove id =>
    have hstream : w.ledger.streamOf id = (w.directory.chat id).stream :=
      w.directory.streamOf_ledger id
    have hremove : (k.removeChat id).EndsIn w fun r v =>
        k.Does (w.ledger.deal (.remove id)) w (.flag r) v := by
      unfold removeChat Ledger.deal
      dsimp only
      rw [hstream]
      refine Run.endsIn_chat_bind ?_
      cases (w.directory.chat id).stream with
      | none => exact Run.endsIn_pure (does_still _)
      | some stream =>
        exact (removeStream_does quiet stream _ w).bind fun _ v hv => Run.endsIn_pure hv
    exact hremove.bind fun _ v hv => Run.endsIn_pure hv
  | removeStream stream =>
    exact (removeStream_does quiet stream .chat w).bind fun _ v hv => Run.endsIn_pure hv
  | findOrMake stream make =>
    exact (findOrMake_does quiet stream make w).bind fun _ v hv => Run.endsIn_pure hv
  | find stream =>
    refine ⟨_, _, rfl, ?_⟩
    rw [← hlookup stream]
    exact does_still _
  | chats =>
    refine ⟨_, _, rfl, ?_⟩
    rw [← Rooms.map_entries]
    exact does_still _
  | size =>
    refine ⟨_, _, rfl, ?_⟩
    rw [← Rooms.card_keys]
    exact does_still _
  | addObserver o =>
    have hknown : (!w.directory.observers.contains o) = decide (o ∉ w.ledger.observers) := by
      by_cases ho : o ∈ w.directory.observers.members <;>
        simp [World.ledger, Directory.ledger, Roster.contains, ho]
    refine ⟨.flag (!w.directory.observers.contains o), _, rfl, ?_⟩
    rw [hknown]
    refine does_silent _ ?_ fun hsame => ?_
    · simp only [Directory.ledger, Roster.members_insert]
      rfl
    · refine Directory.eq_of_observers ((Roster.members_insert _ o).trans ?_)
      exact congrArg Ledger.observers hsame
  | removeObserver o =>
    have hknown : w.directory.observers.contains o = decide (o ∈ w.ledger.observers) := by
      by_cases ho : o ∈ w.directory.observers.members <;>
        simp [World.ledger, Directory.ledger, Roster.contains, ho]
    refine ⟨.flag (w.directory.observers.contains o), _, rfl, ?_⟩
    rw [hknown]
    exact does_silent _ rfl fun hsame =>
      Directory.eq_of_observers (congrArg Ledger.observers hsame)

/-- **After any uses** the ledger is as it should be, and so is what came back. -/
theorem dealAll_ends (quiet : k.toCast.Quiet) (deals : List Deal) (w : World) :
    (k.dealAll deals).EndsIn w fun receipts v =>
      receipts = w.ledger.receipts deals ∧ v.ledger = w.ledger.after deals := by
  induction deals generalizing w with
  | nil => exact Run.endsIn_pure ⟨rfl, rfl⟩
  | cons deal deals ih =>
    refine (deal_does quiet deal w).bind fun receipt v does => (ih v).bind ?_
    rintro receipts u ⟨rfl, hu⟩
    rw [does.ledger] at hu ⊢
    exact Run.endsIn_pure ⟨by rw [Ledger.receipts, does.receipt], hu⟩

/-- **A directory is a map with a list of observers**, whatever is done with it, one thing after the
other, as long as no callback calls back; callbacks may panic.

After any uses what came back and what the directory has become are as the ledger says, no observer
being listed twice, and so it is with the next use: it comes to its end, and changes nothing at all
where the ledger stays as it is.  A chat that comes or goes is told of to each observer once, in
order; every panic adds one to the failures, and the number of chats is shown. -/
theorem directory_keeps_ledger {cast : Cast} (quiet : cast.Quiet) (depth : Nat)
    (before : List Deal) (deal : Deal) (w : World) :
    ((cast.company depth).dealAll before).EndsIn w fun receipts u =>
      receipts = w.ledger.receipts before ∧ u.ledger = w.ledger.after before
        ∧ u.ledger.observers.Nodup
        ∧ ((cast.company depth).deal deal).EndsIn u fun receipt v =>
          (cast.company depth).Does (u.ledger.deal deal) u receipt v := by
  have quiet' : (cast.company depth).toCast.Quiet := quiet
  refine (dealAll_ends quiet' before w).mono fun receipts u hu => ?_
  exact ⟨hu.1, hu.2, u.directory.observers.distinct, deal_does quiet' deal u⟩

/-- A chat is added, removed and added again while the first of two observers panics at everything:
both are told of it once more, and the number of chats is one again. -/
theorem directory_keeps_ledger_when_added_again :
    let ending (o : String) : Ending := if o = "loud" then .panicked none else .done
    let script (o : String) : ObserverScript :=
      { onNew := fun _ _ => ⟨[], ending o⟩, onGone := fun _ _ => ⟨[], ending o⟩ }
    let cast : Cast := { observer := fun o => .scripted (script o) }
    let before : List Deal :=
      [.make (.fresh (some "S")), .addObserver "loud", .addObserver "calm", .add 0, .remove 0]
    ∃ receipts u v, ((cast.company 0).dealAll before).run { directory := { owner := .bare "bot" } }
        = some (receipts, u)
      ∧ ((cast.company 0).deal (.add 0)).run u = some (.added none, v)
      ∧ v.news = u.news ++ [("loud", .arrived, "S"), ("calm", .arrived, "S")]
      ∧ v.journal.last? .activeChats = some 1 := by
  intro ending script cast before
  have quiet : cast.Quiet :=
    { listeners := fun _ _ hrole m n => by obtain rfl := ListenerRole.scripted.inj hrole; rfl
      arrivals := fun _ _ hrole _ _ => by obtain rfl := ObserverRole.scripted.inj hrole; rfl
      departures := fun _ _ hrole _ _ => by obtain rfl := ObserverRole.scripted.inj hrole; rfl }
  obtain ⟨receipts, u, hbefore, -, hledger, -, receipt, v, hdeal, does⟩ :=
    directory_keeps_ledger quiet 0 before (.add 0) { directory := { owner := .bare "bot" } }
  rw [hledger] at does
  obtain ⟨-, hlearnt, hgauge⟩ := does.announced .arrived 0 rfl
  rw [hledger] at hlearnt
  obtain rfl : receipt = .added none := does.receipt
  exact ⟨receipts, u, v, hbefore, hdeal, hlearnt, hgauge⟩

end Company

end ChatFeed
