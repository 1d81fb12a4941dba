import ChatFeed.Chat.Traffic
import ChatFeed.Proofs.Chat.Quiet
import ChatFeed.Proofs.Chat.Stride

/-!
# Proofs/Chat/Passage — the steps of a call inside the lock

`Company.passOn_deliver` and `Company.passOn_register` say that the steps of a passage, taken
without a pause, are a delivery and a registration.  `Company.Spares` is what is asked of callbacks
when many threads are at a chat: whatever they do, they leave the chat alone.
-/

namespace ChatFeed

namespace World

variable {w : World} {id : ChatId}

/-- Who listens is no matter of the last message. -/
theorem members_withLast (w : World) (id : ChatId) (m : Message) :
    (w.onChat id fun c => { c with last := some m }).members id = w.members id := by
  by_cases hlt : id < w.directory.chats.length
  · rw [World.members, World.onChat, Directory.chat_update hlt]
    rfl
  · have hsame : w.directory.update id (fun c => { c with last := some m }) = w.directory := by
      rw [Directory.update, List.modify_eq_self (Nat.le_of_not_lt hlt)]
    rw [World.members, World.onChat, hsame]
    rfl

end World

namespace Report

/-- Two reports on one message. -/
def plus (r r' : Report) : Report := ⟨r.delivered + r'.delivered, r.failed + r'.failed⟩

theorem withOne_plus (r r' : Report) (taken : Bool) :
    (r.withOne taken).plus r' = r.plus (r'.withOne taken) := by
  cases taken <;> simp [withOne, plus] <;> omega

theorem plus_none (r : Report) : r.plus {} = r := rfl

theorem none_plus (r : Report) : ({} : Report).plus r = r := by simp [plus]

end Report

namespace Company

variable (k : Company) (id : ChatId)

/-! ## Steps without a pause -/

theorem passOn_done (n : Nat) (reply : Reply) :
    k.passOn id n (.done reply) = pure (.done reply) := by
  induction n with
  | zero => rfl
  | succ n ih => rw [passOn, pass, pure_bind, ih]

/-- One listener is handed a message, and then the others. -/
theorem handTo_cons (m : Message) (l : String) (ls : List String) :
    k.handTo m (l :: ls) = (do
      let taken ← k.attempt "Chat listener failed" l m
      return (← k.handTo m ls).withOne taken) := by
  rw [handTo, attempt]
  simp only [bind_assoc]
  refine bind_congr fun e => ?_
  cases e <;> simp [Report.withOne]

/-- **Those whom a delivery has still to call** are handed the message in order. -/
theorem passOn_handing (m : Message) (ls : List String) (r : Report) :
    k.passOn id (ls.length + 1) (.handing m ls r)
      = (do return .done (.report (r.plus (← k.handTo m ls)))) := by
  induction ls generalizing r with
  | nil => simp [passOn, pass, handTo, Report.plus_none]
  | cons l ls ih =>
    rw [List.length_cons, passOn, pass, handTo_cons]
    simp only [bind_assoc, pure_bind, ih, Report.withOne_plus]

/-- **All steps of a delivery are a delivery.** -/
theorem passOn_deliver (m : Message) (w : World) :
    (k.passOn id ((w.members id).length + 3) (.recording m)).run w
      = (do return .done (.report (← k.deliver id m)) : Run Passage).run w := by
  have hlisted : (k.passOn id ((w.members id).length + 3) (.recording m)).run w
      = (k.passOn id ((w.members id).length + 1)
        (.handing m ((w.onChat id fun c => { c with last := some m }).members id) {})).run
          (w.onChat id fun c => { c with last := some m }) := rfl
  rw [hlisted, World.members_withLast, passOn_handing]
  simp only [Report.none_plus]
  rw [← World.members_withLast w id m]
  rfl

/-- A listener that is not registered is caught up first. -/
theorem passOn_recalling (l : String) :
    k.passOn id 3 (.recalling l) = (do k.catchUp id l; k.passOn id 1 (.inserting l)) := by
  have hlast : k.passOn id 2 (.inserting l) = k.passOn id 1 (.inserting l) := by
    simp only [passOn, pass, bind_assoc, pure_bind]
  rw [passOn, pass, catchUp]
  simp only [bind_assoc]
  refine bind_congr fun c => ?_
  cases c.last with
  | none => simp only [pure_bind, hlast]
  | some m =>
    simp only [pure_bind]
    rw [passOn, pass, attempt]
    simp only [bind_assoc]
    refine bind_congr fun e => ?_
    cases e <;> simp

/-- **All steps of a registration are a registration.** -/
theorem passOn_register (l : String) :
    k.passOn id 4 (.checking l) = (do return .done (.flag (← k.register id l))) := by
  rw [passOn, pass, register]
  simp only [bind_assoc]
  refine bind_congr fun c => ?_
  by_cases hl : c.listeners.contains l = true
  · simp [hl, passOn_done]
  · simp only [hl, Bool.false_eq_true, if_false, pure_bind, bind_assoc, passOn_recalling]
    simp only [passOn, pass, bind_assoc, pure_bind]

/-! ## Callbacks that leave the chat alone -/

/-- **The callback that comes next leaves a chat alone**: whatever the listener does when it is
called, and however it ends, the chat is as it was. -/
def Spares (w : World) (p : Passage) : Prop :=
  ∀ x ∈ p.hands, ∀ e w', (k.call x.1 x.2).run w = some (e, w') →
    w'.directory.chats[id]? = w.directory.chats[id]?

variable {k id} {w w' : World} {l : String} {m : Message} {p p' : Passage}

/-- A call that is told of when it fails leaves the chat alone as well. -/
theorem Spares.attempt (spares : k.Spares id w p) (hands : (l, m) ∈ p.hands) {warning : String}
    {taken : Bool} (h : (k.attempt warning l m).run w = some (taken, w')) :
    w'.directory.chats[id]? = w.directory.chats[id]? := by
  obtain ⟨e, v, hcall, h⟩ := Run.run_bind_eq_some.mp h
  have hspared := spares (l, m) hands e v hcall
  cases e with
  | none =>
    obtain ⟨-, rfl⟩ := Run.run_pure_eq_some.mp h
    exact hspared
  | some e =>
    obtain ⟨_, u, hfail, h⟩ := Run.run_bind_eq_some.mp h
    obtain ⟨-, rfl⟩ := Run.run_pure_eq_some.mp h
    rw [(Run.aside_failure hfail).directory, hspared]

/-- **A listener that takes no step** only gets the message. -/
theorem alike_call (quiet : k.toCast.Quiet) {e : Option CallbackError}
    (h : (k.call l m).run w = some (e, w')) : (w.hear [(l, m)]).Alike w' := by
  rw [run_call] at h
  obtain ⟨_, v, hnote, h⟩ := Run.run_bind_eq_some.mp h
  have halike := (Run.aside_note hnote).toAlike
  cases hrole : k.listener l with
  | transcript directory =>
    rw [hrole] at h
    obtain ⟨ending, u, hrecord, h⟩ := Run.run_bind_eq_some.mp h
    obtain ⟨-, rfl⟩ := Run.run_pure_eq_some.mp h
    exact halike.trans (Run.aside_recording hrecord).toAlike
  | scripted react =>
    have hsteps := quiet.listeners l react hrole m (w.received.countP (·.1 = l))
    rw [hrole] at h
    dsimp only at h
    rw [play, hsteps] at h
    obtain ⟨-, rfl⟩ := Prod.mk.inj (Option.some.inj h)
    exact halike

/-- Callbacks that take no step leave every chat alone. -/
theorem spares_of_quiet (quiet : k.toCast.Quiet) (id : ChatId) (w : World) (p : Passage) :
    k.Spares id w p := by
  intro x _ e w' h
  rw [(alike_call quiet h).directory]
  rfl

/-- Callbacks that take no step hand nothing on. -/
theorem received_attempt (quiet : k.toCast.Quiet) {warning : String} {taken : Bool}
    (h : (k.attempt warning l m).run w = some (taken, w')) :
    w'.received = w.received ++ [(l, m)] := by
  obtain ⟨e, v, hcall, h⟩ := Run.run_bind_eq_some.mp h
  have halike := alike_call quiet hcall
  cases e with
  | none =>
    obtain ⟨-, rfl⟩ := Run.run_pure_eq_some.mp h
    exact halike.received
  | some e =>
    obtain ⟨_, u, hfail, h⟩ := Run.run_bind_eq_some.mp h
    obtain ⟨-, rfl⟩ := Run.run_pure_eq_some.mp h
    rw [(Run.aside_failure hfail).received, halike.received]
    rfl

/-- **What a step of a passage can be**, and what it leaves of the chat. -/
inductive Pace (k : Company) (id : ChatId) (w : World) : Passage → Passage → World → Prop
  | record {m : Message} : Pace k id w (.recording m) (.listing m)
      (w.onChat id fun c => { c with last := some m })
  | list {m : Message} : Pace k id w (.listing m) (.handing m (w.members id) {}) w
  | hand {m : Message} {l : String} {ls : List String} {r : Report} {taken : Bool} {w' : World}
      (calling : (k.attempt "Chat listener failed" l m).run w = some (taken, w')) :
      Pace k id w (.handing m (l :: ls) r) (.handing m ls (r.withOne taken)) w'
  | handed {m : Message} {r : Report} : Pace k id w (.handing m [] r) (.done (.report r)) w
  | known {l : String} (old : l ∈ w.members id) :
      Pace k id w (.checking l) (.done (.flag false)) w
  | fresh {l : String} (new : l ∉ w.members id) : Pace k id w (.checking l) (.recalling l) w
  | blank {l : String} (last : (w.directory.chat id).last = none) :
      Pace k id w (.recalling l) (.inserting l) w
  | remembered {l : String} {m : Message} (last : (w.directory.chat id).last = some m) :
      Pace k id w (.recalling l) (.replaying l m) w
  | replay {l : String} {m : Message} {taken : Bool} {w' : World}
      (calling : (k.attempt "Listener failed during last-message replay" l m).run w
        = some (taken, w')) : Pace k id w (.replaying l m) (.inserting l) w'
  | insert {l : String} {b : Bool} : Pace k id w (.inserting l) (.done (.flag b))
      (w.onChat id fun c => { c with listeners := c.listeners.insert l })
  | done {reply : Reply} : Pace k id w (.done reply) (.done reply) w

/-- **Every step of a passage is one of the listed ones.** -/
theorem pace_of_pass (h : (k.pass id p).run w = some (p', w')) :
    Pace k id w p p' w' := by
  cases p with
  | recording m =>
    obtain ⟨rfl, rfl⟩ := Prod.mk.inj (Option.some.inj h)
    exact .record
  | listing m =>
    obtain ⟨rfl, rfl⟩ := Prod.mk.inj (Option.some.inj h)
    exact .list
  | handing m left r =>
    cases left with
    | nil =>
      obtain ⟨rfl, rfl⟩ := Run.run_pure_eq_some.mp h
      exact .handed
    | cons l ls =>
      obtain ⟨taken, v, hcall, h⟩ := Run.run_bind_eq_some.mp h
      obtain ⟨rfl, rfl⟩ := Run.run_pure_eq_some.mp h
      exact .hand hcall
  | checking l =>
    rw [pass, Run.run_chat_bind] at h
    by_cases hl : (w.directory.chat id).listeners.contains l = true
    · rw [if_pos hl] at h
      obtain ⟨rfl, rfl⟩ := Run.run_pure_eq_some.mp h
      exact .known (Roster.contains_iff.mp hl)
    · rw [if_neg hl] at h
      obtain ⟨rfl, rfl⟩ := Run.run_pure_eq_some.mp h
      exact .fresh (mt Roster.contains_iff.mpr hl)
  | recalling l =>
    rw [pass, Run.run_chat_bind] at h
    cases hlast : (w.directory.chat id).last with
    | none =>
      rw [hlast] at h
      obtain ⟨rfl, rfl⟩ := Run.run_pure_eq_some.mp h
      exact .blank hlast
    | some m =>
      rw [hlast] at h
      obtain ⟨rfl, rfl⟩ := Run.run_pure_eq_some.mp h
      exact .remembered hlast
  | replaying l m =>
    obtain ⟨taken, v, hcall, h⟩ := Run.run_bind_eq_some.mp h
    obtain ⟨rfl, rfl⟩ := Run.run_pure_eq_some.mp h
    exact .replay hcall
  | inserting l =>
    obtain ⟨rfl, rfl⟩ := Prod.mk.inj (Option.some.inj h)
    exact .insert
  | done reply =>
    obtain ⟨rfl, rfl⟩ := Run.run_pure_eq_some.mp h
    exact .done

/-- A step of a passage hands over what it says, where callbacks take no step. -/
theorem Pace.received (h : Pace k id w p p' w') (quiet : k.toCast.Quiet) :
    w'.received = w.received ++ p.hands := by
  cases h with
  | hand calling => exact received_attempt quiet calling
  | replay calling => exact received_attempt quiet calling
  | _ => exact (List.append_nil _).symm

/-- The chats are as many as before where callbacks leave one alone. -/
theorem Pace.lt (h : Pace k id w p p' w') (spares : k.Spares id w p)
    (hlt : id < w.directory.chats.length) : id < w'.directory.chats.length := by
  have hsame : ∀ v : World, v.directory.chats[id]? = w.directory.chats[id]? →
      id < v.directory.chats.length := by
    intro v hv
    rw [List.getElem?_eq_getElem hlt] at hv
    exact (List.getElem?_eq_some_iff.mp hv).1
  cases h with
  | record => exact (Directory.length_update _ _ _).symm ▸ hlt
  | hand calling => exact hsame _ (spares.attempt List.mem_cons_self calling)
  | replay calling => exact hsame _ (spares.attempt List.mem_cons_self calling)
  | insert => exact (Directory.length_update _ _ _).symm ▸ hlt
  | _ => exact hlt

end Company

end ChatFeed
