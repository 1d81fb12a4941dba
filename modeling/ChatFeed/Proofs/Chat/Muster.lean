import ChatFeed.Proofs.Chat.Chronicle

/-!
# Proofs/Chat/Muster — every delivery calls all who were there when it started

A callback may do whatever calls it likes to the chat that calls it, and end as it likes: a message
that is delivered is handed to those who listened when its delivery started, to each once, and the
report tells how many of them failed (`Muster.all_served`).

How callbacks end changes nobody's turn.  Two runs of casts that take the same steps are **twins**
all the way (`World.Twin`), so they tell the same story but for its endings
(`Chronicler.mirrors_actAll`).
-/

namespace ChatFeed

/-- The steps that a listener takes when it is called. -/
def ListenerRole.steps : ListenerRole → Message → Nat → List Step
  | .scripted react, m, turn => (react m turn).steps
  | .transcript _, _, _ => []

/-- **A cast takes the steps of another**; its callbacks may end in other ways. -/
def Cast.Follows (b a : Cast) : Prop :=
  ∀ l m turn, (b.listener l).steps m turn = (a.listener l).steps m turn

/-- An action that is a call on a chat. -/
def Action.isCall : Action → Bool
  | .onChat _ action => action.isCall
  | _ => false

/-- **Listeners that only make calls** when they are called. -/
def Cast.OnlyCalls (cast : Cast) : Prop :=
  ∀ l m turn, ∀ s ∈ (cast.listener l).steps m turn, s.action.isCall = true

theorem Cast.Devoted.onlyCalls {cast : Cast} {w : World} {id : ChatId} (h : cast.Devoted w id) :
    cast.OnlyCalls := by
  intro l m turn s hs
  cases hrole : cast.listener l with
  | transcript directory =>
    rw [hrole] at hs
    cases hs
  | scripted react =>
    rw [hrole] at hs
    obtain ⟨target, action, haction, hcall, -⟩ := h l react hrole m turn s hs
    rw [haction]
    exact hcall

/-- **Two worlds in which the same comes next**: what has been noted, counted and written down may
differ. -/
structure World.Twin (w u : World) : Prop where
  directory : u.directory = w.directory
  labels : u.labels = w.labels
  received : u.received = w.received
  spent : u.spent = w.spent

theorem World.Twin.refl (w : World) : w.Twin w := ⟨rfl, rfl, rfl, rfl⟩

theorem World.Twin.trans {w v u : World} (h : w.Twin v) (h' : v.Twin u) : w.Twin u :=
  ⟨h'.directory.trans h.directory, h'.labels.trans h.labels, h'.received.trans h.received,
    h'.spent.trans h.spent⟩

theorem World.Twin.symm {w u : World} (h : w.Twin u) : u.Twin w :=
  ⟨h.directory.symm, h.labels.symm, h.received.symm, h.spent.symm⟩

namespace Diary

open World

variable {α β γ δ : Type} {R : α → β → Prop} {S : γ → δ → Prop}

/-- **One diary mirrors another**: from twin worlds it tells the same story but for the endings, and
leads to twin worlds. -/
def Mirrors (x : Diary α) (y : Diary β) (R : α → β → Prop) : Prop :=
  ∀ w u, Twin w u → ∀ a t w', x.run.run w = some ((a, t), w') →
    ∃ b s u', y.run.run u = some ((b, s), u') ∧ R a b ∧ s.bare = t.bare ∧ Twin w' u'

theorem mirrors_pure {a : α} {b : β} (h : R a b) : (pure a : Diary α).Mirrors (pure b) R := by
  intro w u twin a' t w' hrun
  obtain ⟨rfl, rfl, rfl⟩ := run_pure_eq_some.mp hrun
  exact ⟨b, .quiet, u, rfl, h, rfl, twin⟩

theorem Mirrors.bind {x : Diary α} {y : Diary β} {f : α → Diary γ} {g : β → Diary δ}
    (h : x.Mirrors y R) (hf : ∀ a b, R a b → (f a).Mirrors (g b) S) :
    (x >>= f).Mirrors (y >>= g) S := by
  intro w u twin c t w' hrun
  obtain ⟨a, s, v, s', hx, hrest, rfl⟩ := run_bind_eq_some.mp hrun
  obtain ⟨b, r, z, hy, hab, hbare, twin⟩ := h w u twin a s v hx
  obtain ⟨d, r', u', hg, hcd, hbare', twin⟩ := hf a b hab v z twin c s' w' hrest
  exact ⟨d, r ++ r', u', run_bind_eq_some.mpr ⟨b, r, z, r', hy, hg, rfl⟩, hcd,
    by rw [Story.bare_append, Story.bare_append, hbare, hbare'], twin⟩

theorem Mirrors.entry {x : Diary α} {y : Diary β} {what : α → Incident} {what' : β → Incident}
    (h : x.Mirrors y R) (same : ∀ a b, R a b → (what' b).bare = (what a).bare) :
    (Diary.entry what x).Mirrors (Diary.entry what' y) R := by
  intro w u twin a t w' hrun
  obtain ⟨within, hx, rfl⟩ := run_entry_eq_some.mp hrun
  obtain ⟨b, s, u', hy, hab, hbare, twin⟩ := h w u twin a within w' hx
  exact ⟨b, _, u', run_entry_eq_some.mpr ⟨s, hy, rfl⟩, hab,
    by simp only [Story.bare, same a b hab, hbare], twin⟩

theorem mirrors_lift {x : Run α} {y : Run β} (h : ∀ w u, Twin w u → ∀ a w', x.run w = some (a, w') →
      ∃ b u', y.run u = some (b, u') ∧ R a b ∧ Twin w' u') :
    (liftM x : Diary α).Mirrors (liftM y) R := by
  intro w u twin a t w' hrun
  obtain ⟨hx, rfl⟩ := run_lift_eq_some.mp hrun
  obtain ⟨b, u', hy, hab, twin⟩ := h w u twin a w' hx
  exact ⟨b, .quiet, u', run_lift_eq_some.mpr ⟨hy, rfl⟩, hab, rfl, twin⟩

/-- Twins look at the same chat. -/
theorem mirrors_chat_bind {id : ChatId} {f : Chat → Diary γ} {g : Chat → Diary δ}
    (hf : ∀ c, (f c).Mirrors (g c) S) :
    ((liftM (Run.chat id) : Diary Chat) >>= f).Mirrors ((liftM (Run.chat id) : Diary Chat) >>= g)
      S := by
  refine (mirrors_lift (R := Eq) fun w u twin c w' hrun => ?_).bind fun c d hcd => hcd ▸ hf c
  obtain ⟨rfl, rfl⟩ := Prod.mk.inj (Option.some.inj hrun)
  exact ⟨_, u, rfl, by rw [twin.directory], twin⟩

theorem mirrors_onChat (id : ChatId) (f : Chat → Chat) :
    (liftM (Run.onChat id f) : Diary Unit).Mirrors (liftM (Run.onChat id f)) Eq := by
  refine mirrors_lift fun w u twin c w' hrun => ?_
  obtain rfl := Run.run_modify_eq_some.mp hrun
  exact ⟨_, _, rfl, rfl, congrArg (·.update id f) twin.directory, twin.labels, twin.received,
    twin.spent⟩

/-- **Books are only kept**, which always comes to an end. -/
def Bookish (x : Diary α) : Prop :=
  ∀ w, ∃ a w', x.run.run w = some ((a, .quiet), w') ∧ Twin w w'

theorem bookish_pure (a : α) : (pure a : Diary α).Bookish := fun w => ⟨a, w, rfl, .refl w⟩

theorem bookish_lift {x : Run α} (hx : ∀ w, ∃ a w', x.run w = some (a, w') ∧ Twin w w') :
    (liftM x : Diary α).Bookish := by
  intro w
  obtain ⟨a, w', hrun, twin⟩ := hx w
  exact ⟨a, w', run_lift_eq_some.mpr ⟨hrun, rfl⟩, twin⟩

theorem Bookish.bind {x : Diary α} {f : α → Diary β} (hx : x.Bookish) (hf : ∀ a, (f a).Bookish) :
    (x >>= f).Bookish := by
  intro w
  obtain ⟨a, v, hrun, twin⟩ := hx w
  obtain ⟨b, w', hrest, twin'⟩ := hf a v
  exact ⟨b, w', run_bind_eq_some.mpr ⟨a, .quiet, v, .quiet, hrun, hrest, rfl⟩, twin.trans twin'⟩

/-- Whoever only keeps books mirrors whoever does. -/
theorem Bookish.mirrors {x : Diary α} {y : Diary β} (hx : x.Bookish) (hy : y.Bookish) :
    x.Mirrors y fun _ _ => True := by
  intro w u twin a t w' hrun
  obtain ⟨a', v, hrun', hwv⟩ := hx w
  rw [hrun'] at hrun
  obtain ⟨hpair, rfl⟩ := Prod.mk.inj (Option.some.inj hrun)
  obtain ⟨rfl, rfl⟩ := Prod.mk.inj hpair
  obtain ⟨b, u', hy, huu⟩ := hy u
  exact ⟨b, .quiet, u', hy, trivial, rfl, (hwv.symm.trans twin).trans huu⟩

theorem bookish_note (n : Note) : (liftM (Run.note n) : Diary Unit).Bookish :=
  bookish_lift fun _ => ⟨_, _, rfl, rfl, rfl, rfl, rfl⟩

theorem bookish_failure (message : String) (details : List (String × Detail)) :
    (liftM (Run.failure message details) : Diary Unit).Bookish :=
  bookish_lift fun _ => ⟨_, _, rfl, rfl, rfl, rfl, rfl⟩

theorem bookish_recording (k : Company) (directory : Option String) (m : Message) :
    (liftM (k.recording directory m) : Diary Ending).Bookish :=
  bookish_lift fun _ => ⟨_, _, rfl, rfl, rfl, rfl, rfl⟩

/-- Twins have the same marks. -/
theorem mirrors_enter (mark : Option String) :
    (liftM (Company.enter mark) : Diary Bool).Mirrors (liftM (Company.enter mark)) Eq := by
  refine mirrors_lift fun w u twin b w' hrun => ?_
  cases mark with
  | none =>
    obtain ⟨rfl, rfl⟩ := Run.run_pure_eq_some.mp hrun
    exact ⟨true, u, rfl, rfl, twin⟩
  | some mark =>
    have hsame : u.spent.contains mark = w.spent.contains mark := by rw [twin.spent]
    rw [Run.run_enter] at hrun
    by_cases hspent : w.spent.contains mark = true
    · rw [if_pos hspent] at hrun
      obtain ⟨rfl, rfl⟩ := Prod.mk.inj (Option.some.inj hrun)
      exact ⟨false, u, by rw [Run.run_enter, hsame, if_pos hspent], rfl, twin⟩
    · rw [if_neg hspent] at hrun
      obtain ⟨rfl, rfl⟩ := Prod.mk.inj (Option.some.inj hrun)
      refine ⟨true, { u with spent := u.spent ++ [mark] }, ?_, rfl, twin.directory, twin.labels,
        twin.received, ?_⟩
      · rw [Run.run_enter, hsame, if_neg hspent]
      · exact congrArg (· ++ [mark]) twin.spent

end Diary

namespace Chronicler

open Diary World

/-- **Two chroniclers in step**: their listeners take the same steps, calls all of them, and what
comes of a call is the same but for the endings. -/
structure InStep (k k' : Chronicler) : Prop where
  follows : k'.toCast.Follows k.toCast
  onlyCalls : k.toCast.OnlyCalls
  act : ∀ o a, a.isCall = true → (k.act o a).Mirrors (k'.act o a) fun _ _ => True

variable {k k' : Chronicler} {plain plain' : Company} {id : ChatId}

theorem mirrors_take (inStep : k.InStep k') (o : Occasion) {steps : List Step}
    (calls : ∀ s ∈ steps, s.action.isCall = true) :
    (k.take o steps).Mirrors (k'.take o steps) fun _ _ => True := by
  induction steps with
  | nil => exact mirrors_pure trivial
  | cons s steps ih =>
    have hrest := ih fun s' hs => calls s' (List.mem_cons_of_mem s hs)
    refine (mirrors_enter s.mark).bind fun entered entered' hentered => ?_
    subst hentered
    cases entered with
    | false => exact hrest
    | true =>
      refine (inStep.act o s.action (calls s List.mem_cons_self)).bind fun _ _ _ => ?_
      exact ((bookish_note _).mirrors (bookish_note _)).bind fun _ _ _ => hrest

/-- What a listener without steps does is for the books. -/
theorem bookish_respond (k : Chronicler) (plain : Company) {role : ListenerRole} {m : Message}
    {turn : Nat} (o : Occasion) (h : role.steps m turn = []) :
    (k.respond plain o m turn role).Bookish := by
  cases role with
  | transcript directory => exact bookish_recording plain directory m
  | scripted react =>
    change (k.take o (react m turn).steps >>= fun _ => pure (react m turn).ending).Bookish
    change (react m turn).steps = [] at h
    rw [h]
    exact (bookish_pure ()).bind fun _ => bookish_pure _

/-- **Listeners that take the same steps** make the same calls, however they end. -/
theorem mirrors_respond (inStep : k.InStep k') {role role' : ListenerRole} {m : Message}
    {turn : Nat} (o : Occasion) (same : role'.steps m turn = role.steps m turn)
    (calls : ∀ s ∈ role.steps m turn, s.action.isCall = true) :
    (k.respond plain o m turn role).Mirrors (k'.respond plain' o m turn role')
      fun _ _ => True := by
  by_cases hnone : role.steps m turn = []
  · exact (bookish_respond k plain o hnone).mirrors (bookish_respond k' plain' o (same.trans hnone))
  · cases role with
    | transcript directory => exact absurd rfl hnone
    | scripted react =>
      cases role' with
      | transcript directory => exact absurd same.symm hnone
      | scripted react' =>
        change (react' m turn).steps = (react m turn).steps at same
        have htake : (k.take o (react m turn).steps).Mirrors (k'.take o (react' m turn).steps)
            fun _ _ => True := by
          rw [same]
          exact mirrors_take inStep o calls
        exact htake.bind fun _ _ _ => mirrors_pure trivial

theorem mirrors_perform (inStep : k.InStep k') (l : String) (m : Message) :
    (k.perform plain l m).Mirrors (k'.perform plain' l m) fun _ _ => True := by
  have hhand : (liftM (Run.hand l m) : Diary (Nat × Option ChatId)).Mirrors
      (liftM (Run.hand l m)) Eq := by
    refine mirrors_lift fun w u twin x w' hrun => ?_
    obtain ⟨rfl, rfl⟩ := Prod.mk.inj (Option.some.inj hrun)
    refine ⟨_, _, rfl, by rw [twin.received, twin.directory], twin.directory, twin.labels, ?_,
      twin.spent⟩
    exact congrArg (· ++ [(l, m)]) twin.received
  refine hhand.bind fun x x' hx => ?_
  subst hx
  exact mirrors_respond inStep _ (inStep.follows l m x.1) (inStep.onlyCalls l m x.1)

theorem mirrors_attempt (inStep : k.InStep k') (warning l : String) (m : Message) :
    (k.attempt plain warning l m).Mirrors (k'.attempt plain' warning l m) fun _ _ => True := by
  have hentry : (entry (.call l m) (k.perform plain l m)).Mirrors
      (entry (.call l m) (k'.perform plain' l m)) fun _ _ => True :=
    (mirrors_perform inStep l m).entry fun _ _ _ => rfl
  have hfail : ∀ e, (Run.failure warning (Company.listenerDetails m e) >>= fun _ => pure false :
      Diary Bool).Bookish := fun e => (bookish_failure _ _).bind fun _ => bookish_pure false
  refine hentry.bind fun a b _ => Bookish.mirrors ?_ ?_
  · cases a.error? with
    | none => exact bookish_pure true
    | some e => exact hfail e
  · cases b.error? with
    | none => exact bookish_pure true
    | some e => exact hfail e

theorem mirrors_handTo (inStep : k.InStep k') (m : Message) (ls : List String) :
    (k.handTo plain m ls).Mirrors (k'.handTo plain' m ls) fun _ _ => True := by
  induction ls with
  | nil => exact mirrors_pure trivial
  | cons l ls ih =>
    exact (mirrors_attempt inStep _ l m).bind fun _ _ _ => ih.bind fun _ _ _ => mirrors_pure trivial

theorem mirrors_deliver (inStep : k.InStep k') (id : ChatId) (m : Message) :
    (k.deliver plain id m).Mirrors (k'.deliver plain' id m) fun _ _ => True := by
  refine mirrors_chat_bind fun c => Mirrors.entry ?_ fun _ _ _ => rfl
  exact (mirrors_onChat id _).bind fun _ _ _ => mirrors_chat_bind fun c => mirrors_handTo inStep m _

theorem mirrors_catchUp (inStep : k.InStep k') (id : ChatId) (l : String) :
    (k.catchUp plain id l).Mirrors (k'.catchUp plain' id l) fun _ _ => True := by
  refine mirrors_chat_bind fun c => ?_
  cases c.last with
  | none => exact mirrors_pure trivial
  | some m => exact (mirrors_attempt inStep _ l m).bind fun _ _ _ => mirrors_pure trivial

theorem mirrors_register (inStep : k.InStep k') (id : ChatId) (l : String) :
    (k.register plain id l).Mirrors (k'.register plain' id l) fun _ _ => True := by
  refine mirrors_chat_bind fun c => Mirrors.entry ?_ fun _ _ _ => rfl
  refine mirrors_chat_bind fun c => ?_
  by_cases hl : c.listeners.contains l = true
  · rw [if_pos hl, if_pos hl]
    exact mirrors_pure trivial
  · rw [if_neg hl, if_neg hl]
    refine (mirrors_catchUp inStep id l).bind fun _ _ _ => mirrors_chat_bind fun c => ?_
    exact (mirrors_onChat id _).bind fun _ _ _ => mirrors_pure trivial

theorem mirrors_unregister (id : ChatId) (l : String) :
    (liftM (Run.unregister id l) : Diary Bool).Mirrors (liftM (Run.unregister id l)) Eq := by
  refine mirrors_lift fun w u twin b w' hrun => ?_
  obtain ⟨rfl, rfl⟩ := Prod.mk.inj (Option.some.inj hrun)
  refine ⟨_, _, rfl, by rw [twin.directory], ?_, twin.labels, twin.received, twin.spent⟩
  exact congrArg (·.update id fun c => { c with listeners := c.listeners.erase l }) twin.directory

/-- **A call on the chat** is told alike. -/
theorem mirrors_actOn (inStep : k.InStep k') (id : ChatId) {action : ChatAction}
    (hcall : action.isCall = true) :
    (k.actOn plain id action).Mirrors (k'.actOn plain' id action) fun _ _ => True := by
  cases action with
  | register l => exact (mirrors_register inStep id l).bind fun _ _ _ => mirrors_pure trivial
  | unregister l =>
    exact ((mirrors_unregister id l).entry fun _ _ h => by rw [h]).bind fun _ _ _ =>
      mirrors_pure trivial
  | deliver m => exact (mirrors_deliver inStep id m).bind fun _ _ _ => mirrors_pure trivial
  | _ => simp [ChatAction.isCall] at hcall

theorem mirrors_takeAction (inStep : k.InStep k') (o : Occasion) {a : Action}
    (hcall : a.isCall = true) :
    (k.takeAction plain o a).Mirrors (k'.takeAction plain' o a) fun _ _ => True := by
  cases a with
  | onChat target action =>
    have hfind : (liftM (Company.find o target) : Diary (Option ChatId)).Mirrors
        (liftM (Company.find o target)) Eq := by
      refine mirrors_lift fun w u twin found w' hrun => ?_
      cases target <;> obtain ⟨rfl, rfl⟩ := Prod.mk.inj (Option.some.inj hrun)
      · exact ⟨_, u, rfl, by rw [twin.labels], twin⟩
      · exact ⟨_, u, rfl, by rw [twin.directory], twin⟩
      · exact ⟨_, u, rfl, rfl, twin⟩
    refine hfind.bind fun found found' hfound => ?_
    subst hfound
    cases found with
    | none => exact mirrors_pure trivial
    | some id => exact mirrors_actOn inStep id hcall
  | _ => simp [Action.isCall] at hcall

theorem mirrors_actAll (inStep : k.InStep k') (id : ChatId) {actions : List ChatAction}
    (calls : ∀ a ∈ actions, a.isCall = true) :
    (k.actAll plain id actions).Mirrors (k'.actAll plain' id actions) fun _ _ => True := by
  induction actions with
  | nil => exact mirrors_pure trivial
  | cons a actions ih =>
    have hrest := ih fun b hb => calls b (List.mem_cons_of_mem a hb)
    exact (mirrors_actOn inStep id (calls a List.mem_cons_self)).bind fun _ _ _ => hrest

end Chronicler

/-- **Casts that take the same steps are in step**, however deep callbacks go. -/
theorem Cast.Follows.inStep {a b : Cast} (follows : b.Follows a) (onlyCalls : a.OnlyCalls)
    (depth : Nat) : (a.chronicler depth).InStep (b.chronicler depth) := by
  refine ⟨follows, onlyCalls, fun o action hcall => ?_⟩
  induction depth generalizing o action with
  | zero =>
    intro w u twin r t w' hrun
    obtain ⟨hrun, -⟩ := Diary.run_lift_eq_some.mp hrun
    cases hrun
  | succ n ih => exact Chronicler.mirrors_takeAction ⟨follows, onlyCalls, ih⟩ o hcall

namespace Muster

/-- **Every delivery calls all who were there when it started.**  Take any calls on a chat, with
callbacks that make any calls on it themselves, to any depth, and end in any way.  What happens is
told by a story: it plays between the stands of the chat, its calls are what has been handed over,
and every delivery in it, however deep, calls each of those who were there once, in order, with a
report that says how many of them failed.  Every failure is counted once.  With callbacks that take
the same steps and end in other ways the story is the same but for the endings. -/
theorem all_served {cast : Cast} {depth : Nat} {w₀ w : World} {id : ChatId}
    (devoted : cast.Devoted w₀ id) (lt : id < w₀.directory.chats.length)
    {actions : List ChatAction} (calls : ∀ a ∈ actions, a.isCall = true) {u : Unit}
    (h : ((cast.company depth).actAll id actions).run w₀ = some (u, w)) :
    ∃ story, ((cast.chronicler depth).actAll (cast.company depth) id actions).run.run w₀
        = some ((u, story), w)
      ∧ story.Plays .steps (w₀.stand id) (w.stand id)
      ∧ w.received = w₀.received ++ story.hands
      ∧ (∀ m there report within, (.delivery m there report, within) ∈ story.parts →
        within.Serves m there report)
      ∧ w.failures = w₀.failures + story.failures
      ∧ ∀ other : Cast, other.Follows cast → ∃ story' w',
        ((other.chronicler depth).actAll (other.company depth) id actions).run.run w₀
          = some ((u, story'), w')
        ∧ story'.bare = story.bare ∧ w'.received = w.received := by
  obtain ⟨story, hrun⟩ :=
    (Chronicler.recalls_actAll (cast.recalls depth) id actions).exists_story h
  have hrecount := Chronicler.recounts_actAll (devoted.truthful depth) devoted calls
    w₀ u story w ⟨rfl, rfl, lt⟩ hrun
  refine ⟨story, hrun, hrecount.plays, hrecount.received,
    fun _ _ _ _ hpart => hrecount.plays.serves hpart, hrecount.failures, fun other follows => ?_⟩
  obtain ⟨u'', story', w', hother, -, hbare, twin⟩ := Chronicler.mirrors_actAll
    (follows.inStep devoted.onlyCalls depth) id calls w₀ w₀ (.refl w₀) u story w hrun
  exact ⟨story', w', hother, hbare, twin.received⟩

/-- The first of two listeners has a third registered and delivers an answer, and then fails; the
second panics whenever it is called.  All three are called for the answer, and still the second for
the message; it does not matter that they fail. -/
theorem all_served_when_nested :
    let message : Message := .plain "1" "room" "ann" "hello"
    let answer : Message := .plain "2" "room" "bot" "hi"
    let steps : String → Message → List Step := fun l m =>
      if l = "first" ∧ m.id = "1" then [⟨none, .onChat (.labelled "room") (.register "third")⟩,
        ⟨none, .onChat (.labelled "room") (.deliver answer)⟩] else []
    let cast : Cast := { listener := fun l => .scripted fun m _ =>
      { steps := steps l m,
        ending := if l = "second" then .panicked none else if m.id = "1" ∧ l = "first" then
          .failed ["no"] else .done } }
    let calm : Cast := { listener := fun l => .scripted fun m _ => { steps := steps l m } }
    let w₀ : World := {
      directory := { owner := .bare "bot", chats := [.fresh (some "room")] }
      labels := [("room", 0)] }
    let actions : List ChatAction := [.register "first", .register "second", .deliver message]
    let hands := [("first", message), ("third", message), ("first", answer), ("second", answer),
      ("third", answer), ("second", message)]
    ∃ (w : World) (story : Story), ((cast.company 3).actAll 0 actions).run w₀ = some ((), w)
      ∧ w.received = hands ∧ w.failures = 3
      ∧ (∃ within, (.delivery message ["first", "second"] ⟨0, 2⟩, within) ∈ story.parts
        ∧ within.Serves message ["first", "second"] ⟨0, 2⟩)
      ∧ (∃ within, (.delivery answer ["first", "second", "third"] ⟨2, 1⟩, within) ∈ story.parts
        ∧ within.Serves answer ["first", "second", "third"] ⟨2, 1⟩)
      ∧ ∃ story' w', (((calm.chronicler 3).actAll (calm.company 3) 0 actions).run).run w₀
          = some (((), story'), w') ∧ story'.bare = story.bare ∧ w'.received = hands := by
  intro message answer steps cast calm w₀ actions hands
  have devoted : cast.Devoted w₀ 0 := by
    intro name react h m n s hs
    obtain rfl := ListenerRole.scripted.inj h
    by_cases hfirst : name = "first" ∧ m.id = "1"
    · simp only [steps, if_pos hfirst, List.mem_cons, List.not_mem_nil, or_false] at hs
      rcases hs with rfl | rfl <;> exact ⟨_, _, rfl, rfl, rfl⟩
    · simp [steps, if_neg hfirst] at hs
  have hview : (((cast.company 3).actAll 0 actions).run w₀).map (fun r =>
      (r.2.received, r.2.failures)) = some (hands, 3) := by
    decide +kernel
  obtain ⟨⟨u, w⟩, hrun, hw⟩ := Option.map_eq_some_iff.mp hview
  obtain ⟨hreceived, hfailures⟩ := Prod.mk.inj hw
  obtain ⟨story, htold, -, -, hserves, -, hother⟩ :=
    all_served devoted (by decide) (by decide) hrun
  have htelling : ((((cast.chronicler 3).actAll (cast.company 3) 0 actions).run).run w₀).map
      (fun r => r.1.2.incidents.filter fun what => what.hand?.isNone) = some
        [.registration "first" false, .registration "second" false,
          .delivery message ["first", "second"] ⟨0, 2⟩, .registration "third" false,
          .delivery answer ["first", "second", "third"] ⟨2, 1⟩] := by
    decide +kernel
  rw [htold] at htelling
  have hpart : ∀ what ∈ story.incidents.filter fun what => what.hand?.isNone,
      ∃ within, (what, within) ∈ story.parts := fun what hmem =>
    Story.exists_part (List.mem_filter.mp hmem).1
  rw [show story.incidents.filter (fun what => what.hand?.isNone) = _ from
    Option.some.inj htelling] at hpart
  obtain ⟨within, hmessage⟩ := hpart (.delivery message ["first", "second"] ⟨0, 2⟩) (by simp)
  obtain ⟨within', hanswer⟩ :=
    hpart (.delivery answer ["first", "second", "third"] ⟨2, 1⟩) (by simp)
  obtain ⟨story', w', hcalm, hbare, hsame⟩ := hother calm fun l m turn => rfl
  exact ⟨w, story, hrun, hreceived, hfailures, ⟨within, hmessage, hserves _ _ _ _ hmessage⟩,
    ⟨within', hanswer, hserves _ _ _ _ hanswer⟩, story', w', hcalm, hbare, hsame.trans hreceived⟩

end Muster

end ChatFeed
