import ChatFeed.Proofs.Chat.Crowd
import ChatFeed.Proofs.Chat.Ledger

/-!
# Proofs/Chat/Reentry — callbacks that call back

A callback may take any action on the directory that is just calling it, and that action may lead to
further callbacks.  A run **leads** by a relation of worlds when the world at its end, if it comes
to one, stands in that relation to the world in which it began.

Most of what a callback does leaves alone which chat is under which stream, who takes part in it,
and what observers have been told; a relation that nothing of that kind breaks is `World.Lasting`.
Whenever a chat comes or goes the directory reports it, and reports nothing of the kind otherwise,
so the changes of a directory can be read from the journal (`Journal.changes`).
Where moreover every action of a callback leads by it (`Company.Heeds`), so does whatever runs
callbacks, up to the moment when a chat comes or goes:

* `Company.tell_leads` — telling an observer is one item of news, and then a callback.
* `Company.leads_takeAction` — what has to hold of the actions on the directory for all actions.
* `Company.addChat_cases`, `removeStream_cases`, `findOrMake_cases` — a chat comes or goes, which is
  announced, or nothing happens.

A relation that no coming or going breaks either is `World.Enduring`; then chats may be added and
removed, and a message may take its steps (`Company.leads_step`), as long as it makes no chat that
would break it.
-/

namespace ChatFeed

/-- **A run leads by a relation**: wherever it comes to an end, the world there stands in the
relation to the one in which it began. -/
def Run.Leads {α : Type} (R : World → World → Prop) (x : Run α) : Prop :=
  ∀ w a v, x.run w = some (a, v) → R w v

/-! ## Changes that are reported -/

/-- **The change of a directory that a remark reports**: a chat has come to a stream, or has gone
from it. -/
def Remark.change? : Remark → Option (News × String)
  | .line ⟨.info, message, [(_, .text stream)]⟩ =>
    if message = "Chat removed" then some (.gone, stream)
    else if message = "Chat added" ∨ message = "Chat created for new stream" then
      some (.arrived, stream)
    else none
  | _ => none

namespace Journal

/-- **The changes of a directory** that a journal reports, in order. -/
def changes (j : Journal) : List (News × String) := j.filterMap Remark.change?

theorem changes_append (j j' : Journal) : (j ++ j').changes = j.changes ++ j'.changes :=
  List.filterMap_append

/-- Some other remark reports no change. -/
theorem changes_concat {r : Remark} (hr : r.change? = none) (j : Journal) :
    (j ++ [r]).changes = j.changes := by
  have hnone : changes [r] = [] := List.filterMap_cons_none hr
  rw [changes_append, hnone, List.append_nil]

end Journal

namespace World

/-- **A change of the directory is reported**, in one of the ways in which that is done. -/
theorem changes_change {d : Directory} {message stream : String} {n : News} (w : World)
    (hmessage : (Remark.info message [("stream_id", .text stream)]).change? = some (n, stream)) :
    (w.change d message stream).journal.changes = w.journal.changes ++ [(n, stream)] := by
  have hsize : (Remark.activeChats d.rooms.size).change? = none := rfl
  rw [change, Journal.changes_concat hsize, Journal.changes_append]
  simp [Journal.changes, hmessage]

/-- **Worlds of one directory**, with the same news, the same changes reported and the same messages
held. -/
structure Beside (w v : World) : Prop where
  directory : v.directory = w.directory
  news : v.news = w.news
  changes : v.journal.changes = w.journal.changes
  held : v.held = w.held

theorem Beside.refl (w : World) : w.Beside w := ⟨rfl, rfl, rfl, rfl⟩

theorem Beside.trans {w v u : World} (h : w.Beside v) (h' : v.Beside u) : w.Beside u :=
  ⟨h'.directory.trans h.directory, h'.news.trans h.news, h'.changes.trans h.changes,
    h'.held.trans h.held⟩

/-- **A relation that lasts** as long as only books change, and chats in all but their streams and
those who take part. -/
structure Lasting (R : World → World → Prop) : Prop where
  trans : ∀ {w v u}, R w v → R v u → R w u
  beside : ∀ {w v : World}, w.Beside v → R w v
  onChat : ∀ (w : World) id f, (∀ c : Chat, (f c).stream = c.stream) →
    (∀ c : Chat, (f c).remotes = c.remotes) → R w (w.onChat id f)

theorem Lasting.refl {R : World → World → Prop} (lasting : Lasting R) (w : World) : R w w :=
  lasting.beside (.refl w)

/-- What observers have been told, which changes have been reported and which messages are held is
such a relation. -/
theorem lasting_untold : Lasting fun w v => v.news = w.news
    ∧ v.journal.changes = w.journal.changes ∧ v.held = w.held where
  trans := fun h h' => ⟨h'.1.trans h.1, h'.2.1.trans h.2.1, h'.2.2.trans h.2.2⟩
  beside := fun h => ⟨h.news, h.changes, h.held⟩
  onChat := fun _ _ _ _ _ => ⟨rfl, rfl, rfl⟩

/-- **A relation that endures** moreover what observers learn, the coming and going of observers,
and that of chats: one that is added is put under its own stream, which has none. -/
structure Enduring (R : World → World → Prop) : Prop extends Lasting R where
  learn : ∀ (w : World) o news stream, R w (w.learn o news stream)
  observers : ∀ (w : World) (f : Roster String → Roster String),
    R w { w with directory := { w.directory with observers := f w.directory.observers } }
  insert : ∀ {w : World} {id : ChatId} {stream : String},
    (w.directory.chat id).stream = some stream → w.directory.rooms.find? stream = none →
    ∀ message, R w (w.change
      { w.directory with rooms := w.directory.rooms.insert stream id } message stream)
  erase : ∀ (w : World) stream message, R w (w.change
    { w.directory with rooms := w.directory.rooms.erase stream } message stream)

end World

namespace Run

variable {α β : Type} {R : World → World → Prop}

theorem leads_pure (lasting : World.Lasting R) (a : α) : (pure a : Run α).Leads R := by
  intro w b v h
  obtain ⟨-, rfl⟩ := run_pure_eq_some.mp h
  exact lasting.refl v

theorem Leads.bind {x : Run α} {f : α → Run β} (hx : x.Leads R) (lasting : World.Lasting R)
    (hf : ∀ a, (f a).Leads R) : (x >>= f).Leads R := by
  intro w b v h
  obtain ⟨a, u, hrun, h⟩ := run_bind_eq_some.mp h
  exact lasting.trans (hx w a u hrun) (hf a u b v h)

theorem leads_modify {f : World → World} (hf : ∀ w, R w (f w)) : (modify f : Run Unit).Leads R := by
  intro w a v h
  obtain rfl := run_modify_eq_some.mp h
  exact hf w

theorem leads_directory_bind {f : Directory → Run β} (hf : ∀ d, (f d).Leads R) :
    (directory >>= f).Leads R := fun w b v h => hf w.directory w b v h

theorem leads_chat_bind {id : ChatId} {f : Chat → Run β} (hf : ∀ c, (f c).Leads R) :
    (chat id >>= f).Leads R := fun w b v h => hf (w.directory.chat id) w b v h

/-- A remark that reports no change. -/
theorem leads_remark (lasting : World.Lasting R) {r : Remark} (hr : r.change? = none) :
    (remark r).Leads R :=
  leads_modify fun w => lasting.beside ⟨rfl, rfl, Journal.changes_concat hr w.journal, rfl⟩

theorem leads_note (lasting : World.Lasting R) (n : Note) : (note n).Leads R :=
  leads_modify fun _ => lasting.beside ⟨rfl, rfl, rfl, rfl⟩

theorem leads_failure (lasting : World.Lasting R) (message : String)
    (details : List (String × Detail)) : (failure message details).Leads R :=
  (leads_remark lasting (by rfl)).bind lasting fun _ => leads_remark lasting rfl

theorem leads_onChat (lasting : World.Lasting R) (id : ChatId) {f : Chat → Chat}
    (hstream : ∀ c, (f c).stream = c.stream) (hremotes : ∀ c, (f c).remotes = c.remotes) :
    (onChat id f).Leads R :=
  leads_modify fun w => lasting.onChat w id f hstream hremotes

theorem leads_labelOf (lasting : World.Lasting R) (id : ChatId) : (labelOf id).Leads R := by
  intro w b v h
  rw [labelOf, run_get_bind] at h
  cases hlabel : w.label? id with
  | some label =>
    rw [hlabel] at h
    obtain ⟨-, rfl⟩ := run_pure_eq_some.mp h
    exact lasting.refl v
  | none =>
    rw [hlabel] at h
    obtain rfl := (Prod.mk.inj (Option.some.inj h)).2
    exact lasting.beside ⟨rfl, rfl, rfl, rfl⟩

theorem leads_unregister (lasting : World.Lasting R) (id : ChatId) (l : String) :
    (unregister id l).Leads R :=
  leads_chat_bind fun _ =>
    (leads_onChat lasting id (f := fun c => { c with listeners := c.listeners.erase l })
      (fun _ => rfl) fun _ => rfl).bind lasting fun _ => leads_pure lasting _

end Run

/-! ## Casts that keep to some actions -/

/-- **Callbacks that keep to some actions**: every step of every part takes one of them. -/
structure Cast.KeepsTo (cast : Cast) (allowed : Action → Prop) : Prop where
  listeners : ∀ name react, cast.listener name = .scripted react →
    ∀ m n, ∀ s ∈ (react m n).steps, allowed s.action
  arrivals : ∀ name script, cast.observer name = .scripted script →
    ∀ stream n, ∀ s ∈ (script.onNew stream n).steps, allowed s.action
  departures : ∀ name script, cast.observer name = .scripted script →
    ∀ stream n, ∀ s ∈ (script.onGone stream n).steps, allowed s.action

/-- Callbacks that do nothing keep to anything. -/
theorem Cast.Quiet.keepsTo {cast : Cast} (quiet : cast.Quiet) (allowed : Action → Prop) :
    cast.KeepsTo allowed where
  listeners := fun name react hrole m n => by
    rw [quiet.listeners name react hrole m n]
    exact List.forall_mem_nil _
  arrivals := fun name script hrole stream n => by
    rw [quiet.arrivals name script hrole stream n]
    exact List.forall_mem_nil _
  departures := fun name script hrole stream n => by
    rw [quiet.departures name script hrole stream n]
    exact List.forall_mem_nil _

/-- **A company whose callbacks lead by a lasting relation.** -/
structure Company.Heeds (k : Company) (R : World → World → Prop) (allowed : Action → Prop) :
    Prop where
  lasting : World.Lasting R
  keepsTo : k.toCast.KeepsTo allowed
  act : ∀ o a, allowed a → (k.act o a).Leads R

namespace Company

variable {k : Company} {R : World → World → Prop} {allowed : Action → Prop} {w v : World}
  {id : ChatId} {l : String} {m : Message}

/-- What leads by a relation leads by a wider one. -/
theorem Heeds.mono {R' : World → World → Prop} (heeds : k.Heeds R allowed)
    (lasting : World.Lasting R') (h : ∀ w v, R w v → R' w v) : k.Heeds R' allowed where
  lasting := lasting
  keepsTo := heeds.keepsTo
  act := fun o a ha w reply v hrun => h w v (heeds.act o a ha w reply v hrun)

/-! ## Listeners -/

theorem leads_enter (lasting : World.Lasting R) (mark : Option String) : (enter mark).Leads R := by
  intro w b v h
  rcases Run.enter_cases h with rfl | ⟨name, rfl⟩
  · exact lasting.refl v
  · exact lasting.beside ⟨rfl, rfl, rfl, rfl⟩

theorem leads_take (heeds : k.Heeds R allowed) (o : Occasion) {steps : List Step}
    (hsteps : ∀ s ∈ steps, allowed s.action) : (k.take o steps).Leads R := by
  induction steps with
  | nil => exact Run.leads_pure heeds.lasting ()
  | cons s steps ih =>
    have hrest := ih fun s' hs => hsteps s' (List.mem_cons_of_mem _ hs)
    have hact := heeds.act o s.action (hsteps s List.mem_cons_self)
    refine (leads_enter heeds.lasting s.mark).bind heeds.lasting fun entered => ?_
    cases entered with
    | false => exact hrest
    | true =>
      exact hact.bind heeds.lasting fun _ => (Run.leads_note heeds.lasting _).bind heeds.lasting
        fun _ => hrest

theorem leads_play (heeds : k.Heeds R allowed) (o : Occasion) {p : Part}
    (hsteps : ∀ s ∈ p.steps, allowed s.action) : (k.play o p).Leads R :=
  (leads_take heeds o hsteps).bind heeds.lasting fun _ => Run.leads_pure heeds.lasting _

theorem leads_recording (lasting : World.Lasting R) (directory : Option String) (m : Message) :
    (k.recording directory m).Leads R := by
  refine (Run.leads_remark lasting (by rfl)).bind lasting fun _ => ?_
  intro w b v h
  obtain rfl := (Prod.mk.inj (Option.some.inj h)).2
  exact lasting.beside ⟨rfl, rfl, rfl, rfl⟩

/-- **A call of a listener**, whatever it does. -/
theorem leads_call (heeds : k.Heeds R allowed) (l : String) (m : Message) :
    (k.call l m).Leads R := by
  have hrespond : ∀ about turn, (k.respond l m about turn).Leads R := by
    intro about turn
    refine (Run.leads_note heeds.lasting _).bind heeds.lasting fun _ => ?_
    cases hrole : k.listener l with
    | transcript directory =>
      exact (leads_recording heeds.lasting directory m).bind heeds.lasting fun _ =>
        Run.leads_pure heeds.lasting _
    | scripted react =>
      exact (leads_play heeds _ (heeds.keepsTo.listeners l react hrole m turn)).bind heeds.lasting
        fun _ => Run.leads_pure heeds.lasting _
  intro w e v h
  rw [run_call] at h
  have hhear : R w (w.hear [(l, m)]) := heeds.lasting.beside ⟨rfl, rfl, rfl, rfl⟩
  exact heeds.lasting.trans hhear (hrespond _ _ _ _ _ h)

theorem leads_handTo (heeds : k.Heeds R allowed) (m : Message) (ls : List String) :
    (k.handTo m ls).Leads R := by
  induction ls with
  | nil => exact Run.leads_pure heeds.lasting _
  | cons l ls ih =>
    have hrest : ∀ f : Report → Report, (do return f (← k.handTo m ls) : Run Report).Leads R :=
      fun f => ih.bind heeds.lasting fun r => Run.leads_pure heeds.lasting (f r)
    refine (leads_call heeds l m).bind heeds.lasting fun e => ?_
    cases e with
    | none => exact hrest _
    | some e => exact (Run.leads_failure heeds.lasting _ _).bind heeds.lasting fun _ => hrest _

/-- **A delivery**, whatever the listeners do. -/
theorem leads_deliver (heeds : k.Heeds R allowed) (id : ChatId) (m : Message) :
    (k.deliver id m).Leads R :=
  (Run.leads_onChat heeds.lasting id (f := fun c => { c with last := some m }) (fun _ => rfl)
    fun _ => rfl).bind heeds.lasting fun _ => Run.leads_chat_bind fun _ => leads_handTo heeds m _

theorem leads_catchUp (heeds : k.Heeds R allowed) (id : ChatId) (l : String) :
    (k.catchUp id l).Leads R := by
  refine Run.leads_chat_bind fun c => ?_
  cases c.last with
  | none => exact Run.leads_pure heeds.lasting ()
  | some m =>
    refine (leads_call heeds l m).bind heeds.lasting fun e => ?_
    cases e with
    | none => exact Run.leads_pure heeds.lasting ()
    | some e => exact Run.leads_failure heeds.lasting _ _

/-- **A registration**, whatever the listener does. -/
theorem leads_register (heeds : k.Heeds R allowed) (id : ChatId) (l : String) :
    (k.register id l).Leads R := by
  refine Run.leads_chat_bind fun c => ?_
  by_cases hl : c.listeners.contains l = true
  · rw [if_pos hl]
    exact Run.leads_pure heeds.lasting false
  · rw [if_neg hl]
    refine (leads_catchUp heeds id l).bind heeds.lasting fun _ => Run.leads_chat_bind fun c => ?_
    have hinsert : (Run.onChat id fun c => { c with listeners := c.listeners.insert l }).Leads R :=
      Run.leads_onChat heeds.lasting id (fun _ => rfl) fun _ => rfl
    exact hinsert.bind heeds.lasting fun _ => Run.leads_pure heeds.lasting _

/-! ## Observers -/

theorem leads_tellRecorder (heeds : k.Heeds R allowed) (l : String) (news : News) (id : ChatId) :
    (k.tellRecorder l news id).Leads R := by
  refine Run.leads_chat_bind fun c => ?_
  cases news with
  | arrived =>
    exact (Run.leads_remark heeds.lasting (by rfl)).bind heeds.lasting fun _ =>
      (leads_register heeds id l).bind heeds.lasting fun _ => Run.leads_pure heeds.lasting _
  | gone =>
    exact (Run.leads_remark heeds.lasting (by rfl)).bind heeds.lasting fun _ =>
      Run.leads_pure heeds.lasting _

theorem leads_tellScripted (heeds : k.Heeds R allowed) {o : String} {script : ObserverScript}
    (hrole : k.observer o = .scripted script) (turn : Nat) (news : News) (id : ChatId) :
    (k.tellScripted o script turn news id).Leads R := by
  have hplay : ∀ p : Part, (∀ s ∈ p.steps, allowed s.action) → (do
      Run.note (.told news o (← Run.labelOf id))
      k.play ⟨o, some id⟩ p : Run Ending).Leads R := fun p hp =>
    (Run.leads_labelOf heeds.lasting id).bind heeds.lasting fun _ =>
      (Run.leads_note heeds.lasting _).bind heeds.lasting fun _ => leads_play heeds _ hp
  refine Run.leads_chat_bind fun c => ?_
  cases news with
  | arrived =>
    have hnew := hplay _ (heeds.keepsTo.arrivals o script hrole c.streamText turn)
    cases script.attach with
    | none => exact hnew
    | some l => exact (leads_register heeds id l).bind heeds.lasting fun _ => hnew
  | gone => exact hplay _ (heeds.keepsTo.departures o script hrole c.streamText turn)

/-- The world in which the callback of an observer begins: it has learnt of a chat, if it cares. -/
def learnt (k : Company) (w : World) (o : String) (news : News) (id : ChatId) : World :=
  if cares (k.observer o) news then w.learn o news (w.directory.chat id).streamText else w

/-- **Telling an observer** is one item of news, if it cares, and then a callback. -/
theorem tell_leads (heeds : k.Heeds R allowed) {o : String} {news : News} {e : Ending}
    (h : (k.tell o news id).run w = some (e, v)) : R (k.learnt w o news id) v := by
  unfold tell at h
  unfold learnt
  by_cases hcares : cares (k.observer o) news = true
  · rw [if_neg (by simp [hcares]), Run.run_chat_bind, Run.run_get_bind] at h
    rw [if_pos hcares]
    obtain ⟨_, u, hlearn, h⟩ := Run.run_bind_eq_some.mp h
    obtain rfl := Run.run_modify_eq_some.mp hlearn
    cases hrole : k.observer o with
    | recorder l =>
      rw [hrole] at h
      exact leads_tellRecorder heeds l news id _ _ _ h
    | scripted script =>
      rw [hrole] at h
      exact leads_tellScripted heeds hrole _ news id _ _ _ h
  · rw [if_pos (by simp [hcares])] at h
    rw [if_neg hcares, (Run.run_pure_eq_some.mp h).2]
    exact heeds.lasting.refl w

theorem inform_leads (heeds : k.Heeds R allowed) {o : String} {news : News} {u : Unit}
    (h : (k.inform o news id).run w = some (u, v)) : R (k.learnt w o news id) v := by
  obtain ⟨e, x, htell, h⟩ := Run.run_bind_eq_some.mp h
  have hcallback := tell_leads heeds htell
  cases e with
  | panicked words =>
    have hrest := Run.leads_failure heeds.lasting (observerWarning news)
      [("stream_id", .text (Text.quotedOption (x.directory.chat id).stream)),
        ("error", .text (panicText words))]
    exact heeds.lasting.trans hcallback (hrest _ _ _ h)
  | _ =>
    rw [(Run.run_pure_eq_some.mp h).2]
    exact hcallback

theorem leads_inform (heeds : k.Heeds R allowed) (enduring : World.Enduring R) (o : String)
    (news : News) (id : ChatId) : (k.inform o news id).Leads R := by
  intro w u v h
  refine heeds.lasting.trans ?_ (inform_leads heeds h)
  unfold learnt
  split
  · exact enduring.learn w o news _
  · exact heeds.lasting.refl w

theorem leads_informAll (heeds : k.Heeds R allowed) (enduring : World.Enduring R) (news : News)
    (id : ChatId) (os : List String) : (k.informAll news id os).Leads R := by
  induction os with
  | nil => exact Run.leads_pure heeds.lasting ()
  | cons o os ih => exact (leads_inform heeds enduring o news id).bind heeds.lasting fun _ => ih

/-- **An announcement**, whatever the observers do. -/
theorem leads_announce (heeds : k.Heeds R allowed) (enduring : World.Enduring R) (news : News)
    (id : ChatId) : (k.announce news id).Leads R :=
  Run.leads_directory_bind fun _ => leads_informAll heeds enduring news id _

/-- Telling some observers and then others. -/
theorem informAll_append {news : News} {os more : List String} {u : Unit}
    (h : (k.informAll news id (os ++ more)).run w = some (u, v)) :
    ∃ x, (k.informAll news id os).run w = some ((), x)
      ∧ (k.informAll news id more).run x = some (u, v) := by
  induction os generalizing w with
  | nil => exact ⟨w, rfl, h⟩
  | cons o os ih =>
    obtain ⟨_, x, hinform, h⟩ := Run.run_bind_eq_some.mp h
    obtain ⟨y, hos, hmore⟩ := ih h
    exact ⟨y, Run.run_bind_eq_some.mpr ⟨(), x, hinform, hos⟩, hmore⟩

/-! ## Chats that come and go -/

/-- Only books change when the directory's change is reported. -/
theorem changed_cases {message stream : String} {f : Directory → Directory} {u : Unit}
    (h : (do Run.onDirectory f; changed message stream : Run Unit).run w = some (u, v)) :
    v = w.change (f w.directory) message stream := by
  obtain rfl := (Prod.mk.inj (Option.some.inj h)).2
  rfl

/-- **A chat is added**, which is announced, or nothing happens. -/
theorem addChat_cases {r : Option AddError} (h : (k.addChat id).run w = some (r, v)) :
    (r.isSome = true ∧ v = w) ∨ ∃ stream u, (w.directory.chat id).stream = some stream
      ∧ w.directory.rooms.find? stream = none ∧ r = none
      ∧ (k.announce .arrived id).run (w.change
        { w.directory with rooms := w.directory.rooms.insert stream id } "Chat added" stream)
          = some (u, v) := by
  unfold addChat at h
  rw [Run.run_chat_bind] at h
  cases hstream : (w.directory.chat id).stream with
  | none =>
    rw [hstream] at h
    obtain ⟨rfl, rfl⟩ := Run.run_pure_eq_some.mp h
    exact .inl ⟨rfl, rfl⟩
  | some stream =>
    rw [hstream] at h
    change (if (w.directory.rooms.find? stream).isSome then pure (some (.taken stream)) else do
      (do Run.onDirectory fun d => { d with rooms := d.rooms.insert stream id }
          changed "Chat added" stream : Run Unit)
      k.announce .arrived id
      return none : Run (Option AddError)).run w = some (r, v) at h
    split at h
    · obtain ⟨rfl, rfl⟩ := Run.run_pure_eq_some.mp h
      exact .inl ⟨rfl, rfl⟩
    · rename_i htaken
      obtain ⟨_, x, hchanged, h⟩ := Run.run_bind_eq_some.mp h
      obtain rfl := changed_cases hchanged
      obtain ⟨u, y, hannounce, h⟩ := Run.run_bind_eq_some.mp h
      obtain ⟨rfl, rfl⟩ := Run.run_pure_eq_some.mp h
      exact .inr ⟨stream, u, rfl, by simpa using htaken, rfl, hannounce⟩

/-- **A chat is removed**, which is announced, or there is none. -/
theorem removeStream_cases {stream : String} {r : Option ChatId}
    (h : (k.removeStream stream).run w = some (r, v)) :
    (w.directory.rooms.find? stream = none ∧ r = none ∧ v = w)
      ∨ ∃ id u, w.directory.rooms.find? stream = some id ∧ r = some id
        ∧ (k.announce .gone id).run (w.change
          { w.directory with rooms := w.directory.rooms.erase stream } "Chat removed" stream)
            = some (u, v) := by
  unfold removeStream at h
  rw [Run.run_directory_bind] at h
  cases hroom : w.directory.rooms.find? stream with
  | none =>
    rw [hroom] at h
    obtain ⟨rfl, rfl⟩ := Run.run_pure_eq_some.mp h
    exact .inl ⟨rfl, rfl, rfl⟩
  | some id =>
    rw [hroom] at h
    change (do
      (do Run.onDirectory fun d => { d with rooms := d.rooms.erase stream }
          changed "Chat removed" stream : Run Unit)
      k.announce .gone id
      return some id : Run (Option ChatId)).run w = some (r, v) at h
    obtain ⟨_, x, hchanged, h⟩ := Run.run_bind_eq_some.mp h
    obtain rfl := changed_cases hchanged
    obtain ⟨u, y, hannounce, h⟩ := Run.run_bind_eq_some.mp h
    obtain ⟨rfl, rfl⟩ := Run.run_pure_eq_some.mp h
    exact .inr ⟨id, u, rfl, rfl, hannounce⟩

theorem leads_addChat (heeds : k.Heeds R allowed) (enduring : World.Enduring R) (id : ChatId) :
    (k.addChat id).Leads R := by
  intro w r v h
  rcases addChat_cases h with ⟨-, rfl⟩ | ⟨stream, u, hstream, absent, -, hannounce⟩
  · exact heeds.lasting.refl v
  · exact heeds.lasting.trans (enduring.insert hstream absent _)
      (leads_announce heeds enduring _ _ _ _ _ hannounce)

theorem leads_removeStream (heeds : k.Heeds R allowed) (enduring : World.Enduring R)
    (stream : String) : (k.removeStream stream).Leads R := by
  intro w r v h
  rcases removeStream_cases h with ⟨-, -, rfl⟩ | ⟨id, u, -, -, hannounce⟩
  · exact heeds.lasting.refl v
  · exact heeds.lasting.trans (enduring.erase w stream _)
      (leads_announce heeds enduring _ _ _ _ _ hannounce)

/-- **A chat is found under its stream**, or made, which is announced; then its gate is opened. -/
theorem findOrMake_cases {stream : String} {make : Chat} {r : ChatId × Bool}
    (h : (k.findOrMake stream make).run w = some (r, v)) :
    (∃ id, w.directory.rooms.find? stream = some id ∧ r = (id, false) ∧ v = w)
      ∨ ∃ u y, w.directory.rooms.find? stream = none ∧ r = (w.directory.nextId, true)
        ∧ (k.announce .arrived w.directory.nextId).run (w.change
          (withChat w.directory stream make) "Chat created for new stream" stream) = some (u, y)
        ∧ v = y.onChat w.directory.nextId fun c => { c with gateOpen := true } := by
  obtain ⟨p, x, hprovide, hrest⟩ := Run.run_bind_eq_some.mp h
  rcases provide_cases hprovide with ⟨id, hroom, rfl, rfl⟩ | ⟨hroom, rfl, rfl⟩
  · obtain ⟨rfl, rfl⟩ := Run.run_pure_eq_some.mp hrest
    exact .inl ⟨id, hroom, rfl, rfl⟩
  · obtain ⟨u, y, hannounce, hrest⟩ := Run.run_bind_eq_some.mp hrest
    obtain ⟨_, z, hopen, hrest⟩ := Run.run_bind_eq_some.mp hrest
    obtain rfl := Run.run_modify_eq_some.mp hopen
    obtain ⟨rfl, rfl⟩ := Run.run_pure_eq_some.mp hrest
    exact .inr ⟨u, y, hroom, rfl, hannounce, rfl⟩

/-! ## Actions -/

theorem leads_addObserver (enduring : World.Enduring R) (o : String) :
    (addObserver o).Leads R :=
  Run.leads_directory_bind fun _ =>
    (Run.leads_modify fun w => enduring.observers w (·.insert o)).bind enduring.toLasting
      fun _ => Run.leads_pure enduring.toLasting _

theorem leads_removeObserver (enduring : World.Enduring R) (o : String) :
    (removeObserver o).Leads R :=
  Run.leads_directory_bind fun _ =>
    (Run.leads_modify fun w => enduring.observers w (·.erase o)).bind enduring.toLasting
      fun _ => Run.leads_pure enduring.toLasting _

/-- Adding somebody to a chat is what a relation has to be asked for, which only lasts. -/
theorem leads_addRemote (lasting : World.Lasting R) {u : User} (hinsert : ∀ w : World,
    R w (w.onChat id fun c => { c with remotes := c.remotes.insert u })) :
    (addRemote id u).Leads R :=
  Run.leads_chat_bind fun _ => (Run.leads_modify hinsert).bind lasting fun _ =>
    Run.leads_pure lasting _

theorem leads_actOn (heeds : k.Heeds R allowed) (hadd : (k.addChat id).Leads R)
    {action : ChatAction} (hguest : ∀ u, action = .addRemote u → (addRemote id u).Leads R) :
    (k.actOn id action).Leads R := by
  have hpure : ∀ reply : Reply, (pure reply : Run Reply).Leads R := Run.leads_pure heeds.lasting
  cases action with
  | register l => exact (leads_register heeds id l).bind heeds.lasting fun _ => hpure _
  | unregister l =>
    exact (Run.leads_unregister heeds.lasting id l).bind heeds.lasting fun _ => hpure _
  | deliver m => exact (leads_deliver heeds id m).bind heeds.lasting fun _ => hpure _
  | count => exact Run.leads_chat_bind fun _ => hpure _
  | last => exact Run.leads_chat_bind fun _ => hpure _
  | addRemote u => exact (hguest u rfl).bind heeds.lasting fun _ => hpure _
  | addChat => exact hadd.bind heeds.lasting fun _ => hpure _

/-- **All actions lead by a relation** when those do that are on the directory, and those that add
somebody to a chat. -/
theorem leads_takeAction (heeds : k.Heeds R allowed) (hadd : ∀ id, (k.addChat id).Leads R)
    (hremove : ∀ stream, (k.removeStream stream).Leads R) (hsend : ∀ m, (k.send m).Leads R)
    (haddObserver : ∀ o, (addObserver o).Leads R) {a : Action}
    (hremoveObserver : ∀ o, a = .removeObserver o → (removeObserver o).Leads R)
    (hguest : ∀ target u, a = .onChat target (.addRemote u) → ∀ id, (addRemote id u).Leads R)
    (o : Occasion) :
    (k.takeAction o a).Leads R := by
  have hpure : ∀ reply : Reply, (pure reply : Run Reply).Leads R := Run.leads_pure heeds.lasting
  cases a with
  | onChat target action =>
    have hfind : (find o target).Leads R := by
      cases target with
      | labelled label => exact fun w _ v h => (Run.run_pure_eq_some.mp h).2 ▸ heeds.lasting.refl w
      | onStream stream => exact Run.leads_directory_bind fun _ => Run.leads_pure heeds.lasting _
      | current => exact Run.leads_pure heeds.lasting _
    refine hfind.bind heeds.lasting fun found => ?_
    cases found with
    | none => exact hpure _
    | some id =>
      exact leads_actOn heeds (hadd id) fun u haction => hguest target u (haction ▸ rfl) id
  | removeChat stream => exact (hremove stream).bind heeds.lasting fun _ => hpure _
  | addObserver name => exact (haddObserver name).bind heeds.lasting fun _ => hpure _
  | removeObserver name => exact (hremoveObserver name rfl).bind heeds.lasting fun _ => hpure _
  | size => exact Run.leads_directory_bind fun _ => hpure _
  | pause => exact hpure _
  | send m => exact hsend m

/-! ## Messages on their way -/

/-- **A message that is sent** is answered at once, or held. -/
theorem send_cases {reply : Reply} (h : (k.send m).run w = some (reply, v)) :
    ∃ s x, (k.advance m .fresh).run w = some (s, x)
      ∧ ((s.isAnswered = true ∧ v = x) ∨ v = { x with held := x.held ++ [(m, s)] }) := by
  obtain ⟨s, x, hadvance, h⟩ := Run.run_bind_eq_some.mp h
  refine ⟨s, x, hadvance, ?_⟩
  cases s with
  | answered report =>
    obtain ⟨-, rfl⟩ := Run.run_pure_eq_some.mp h
    exact .inl ⟨rfl, rfl⟩
  | _ => exact .inr (Prod.mk.inj (Option.some.inj h)).2.symm

theorem leads_senderOf (lasting : World.Lasting R) (user : String) (r : LookupResult) :
    (senderOf user r).Leads R := by
  unfold senderOf
  cases r.outcome with
  | ok u => exact Run.leads_pure lasting u
  | error chain =>
    exact (Run.leads_remark lasting (by rfl)).bind lasting fun _ => Run.leads_pure lasting _

theorem leads_lookUp (lasting : World.Lasting R) (user : String) : (k.lookUp user).Leads R := by
  unfold lookUp
  cases k.lookup with
  | none => exact Run.leads_pure lasting _
  | some table =>
    refine (Run.leads_note lasting _).bind lasting fun _ => ?_
    by_cases hdelay : (table user).delay = 0
    · simp only [if_pos hdelay]
      exact (leads_senderOf lasting user _).bind lasting fun _ => Run.leads_pure lasting _
    · simp only [if_neg hdelay]
      exact fun w _ v h => (Run.run_pure_eq_some.mp h).2 ▸ lasting.refl w

theorem leads_lookedUp (lasting : World.Lasting R) (user : String) :
    (k.lookedUp user).Leads R := by
  unfold lookedUp
  cases k.lookup with
  | none => exact Run.leads_pure lasting _
  | some table => exact leads_senderOf lasting user _

/-- **One step of a message** leads by a relation that endures, if making its chat does. -/
theorem leads_step (heeds : k.Heeds R allowed) (enduring : World.Enduring R) {s : Stage}
    (hmake : ∀ sender, s = .knocking sender → ∀ w : World,
      w.directory.rooms.find? m.stream = none → R w (w.change
        (withChat w.directory m.stream (chatFor w.directory.owner m sender))
        "Chat created for new stream" m.stream)) : (k.step m s).Leads R := by
  have hpure : ∀ next : Option Stage, (pure next : Run (Option Stage)).Leads R :=
    Run.leads_pure heeds.lasting
  cases s with
  | fresh =>
    refine Run.leads_directory_bind fun d => ?_
    cases d.rooms.find? m.stream with
    | some id => exact hpure _
    | none =>
      by_cases howner : m.sender = d.owner.id
      · simp only [if_pos howner]
        exact hpure _
      · simp only [if_neg howner]
        exact (leads_lookUp heeds.lasting m.sender).bind heeds.lasting fun _ => hpure _
  | gated id =>
    refine Run.leads_chat_bind fun c => ?_
    cases c.gateOpen with
    | true => exact hpure _
    | false => exact hpure _
  | admitted id => exact (leads_deliver heeds id m).bind heeds.lasting fun _ => hpure _
  | asleep wake user =>
    intro w next v h
    unfold step at h
    rw [Run.run_get_bind] at h
    split at h
    · exact hpure _ _ _ _ h
    · exact (leads_lookedUp heeds.lasting user).bind heeds.lasting (fun _ => hpure _) _ _ _ h
  | knocking sender =>
    intro w next v h
    unfold step at h
    rw [Run.run_directory_bind] at h
    obtain ⟨r, x, hprovide, h⟩ := Run.run_bind_eq_some.mp h
    obtain rfl : v = x := (Run.run_pure_eq_some.mp h).2
    rcases provide_cases hprovide with ⟨id, -, -, rfl⟩ | ⟨absent, -, rfl⟩
    · exact heeds.lasting.refl v
    · exact hmake sender rfl w absent
  | announcing id observers =>
    cases observers with
    | nil => exact hpure _
    | cons o os =>
      exact (leads_inform heeds enduring o .arrived id).bind heeds.lasting fun _ => hpure _
  | handing id => exact (leads_deliver heeds id m).bind heeds.lasting fun _ => hpure _
  | opening id report =>
    have hopen : (openGate id).Leads R :=
      Run.leads_onChat heeds.lasting id (fun _ => rfl) fun _ => rfl
    exact hopen.bind heeds.lasting fun _ => hpure _
  | answered report => exact hpure _

/-- Only time goes by until a sleeper wakes. -/
theorem leads_wait (lasting : World.Lasting R) (s : Stage) : (wait s).Leads R := by
  cases s with
  | asleep wake user => exact Run.leads_modify fun _ => lasting.beside ⟨rfl, rfl, rfl, rfl⟩
  | _ => exact Run.leads_pure lasting ()

end Company

/-- **However deep callbacks go** their actions lead by a relation, when those of a company do whose
own callbacks lead by it. -/
theorem Cast.heeds {cast : Cast} {R : World → World → Prop} {allowed : Action → Prop}
    (lasting : World.Lasting R) (keepsTo : cast.KeepsTo allowed)
    (act : ∀ k : Company, k.toCast = cast → k.Heeds R allowed →
      ∀ o a, allowed a → (k.takeAction o a).Leads R)
    (depth : Nat) : (cast.company depth).Heeds R allowed := by
  refine ⟨lasting, keepsTo, ?_⟩
  induction depth with
  | zero => exact fun o a _ w b v h => (nomatch h)
  | succ n ih => exact act (cast.company n) rfl ⟨lasting, keepsTo, ih⟩

end ChatFeed
