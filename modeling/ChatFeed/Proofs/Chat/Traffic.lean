import ChatFeed.Proofs.Chat.Account
import ChatFeed.Proofs.History

/-!
# Proofs/Chat/Traffic — one call at a time, and nobody left asleep

Any number of threads make deliveries and registrations on one chat, whose callbacks leave it alone.
A step of a thread is one `Traffic.Move`, and each move keeps these:

* `Traffic.Guarded` — who is inside the lock holds it, and whoever sleeps will be notified by the
  last one to hold it;
* `Traffic.Ordered` — every thread makes its calls in order;
* `Traffic.Booked` — what a listener has been handed is what it is due from the calls that have
  entered the lock, in their order.

`Traffic.handed_in_order` tells what comes of it.
-/

namespace ChatFeed

/-- The calls of a thread that have not entered the lock. -/
def Thread.pending (thread : Thread) : List ChatCall :=
  match thread.place with
  | .outside => thread.calls
  | .blocked => thread.calls
  | _ => thread.calls.tail

namespace Traffic

variable {k : Company} {id : ChatId} {t t' : Traffic} {i j : Nat} {thread other : Thread}
  {slice : Slice} {slices : List Slice} {l : String} {w₀ w : World} {p p' : Passage} {c : ChatCall}

/-- Who is inside the lock holds it, and **whoever sleeps will be notified**: the lock is held, or
the last one to hold it is about to. -/
structure Guarded (t : Traffic) : Prop where
  inside : ∀ i thread owned p, t.threads[i]? = some thread → thread.place = .inside owned p →
    owned = true ∧ t.lock.holder = some i
  holds : ∀ i, t.lock.holder = some i → ∃ thread p before c, t.threads[i]? = some thread
    ∧ thread.place = .inside true p ∧ t.entries = before ++ [(i, c)]
  woken : t.lock.sleepers ≠ [] → t.lock.holder ≠ none
    ∨ ∃ before i c thread, t.entries = before ++ [(i, c)] ∧ t.threads[i]? = some thread
      ∧ thread.place = .leaving
  busy : ∀ (i : Nat) (thread : Thread), t.threads[i]? = some thread → thread.place ≠ .outside →
    thread.calls ≠ []

/-- **What a slice of time can be.** -/
inductive Move (k : Company) (id : ChatId) (t : Traffic) : Traffic → Prop
  | idle {lock : DeliveryLock} (holder : lock.holder = t.lock.holder)
      (sleepers : t.lock.sleepers = [] → lock.sleepers = []) : Move k id t { t with lock := lock }
  | wait {i : Nat} {thread : Thread} (here : t.threads[i]? = some thread)
      (place : thread.place = .outside ∨ thread.place = .blocked) (busy : thread.calls ≠ [])
      (held : t.lock.holder ≠ none) :
      Move k id t { t with
        lock := { t.lock with sleepers := t.lock.sleepers ++ [i] }
        threads := t.threads.set i { thread with place := .blocked } }
  | enter {i : Nat} {thread : Thread} {c : ChatCall} {cs : List ChatCall}
      (here : t.threads[i]? = some thread)
      (place : thread.place = .outside ∨ thread.place = .blocked) (calls : thread.calls = c :: cs)
      (free : t.lock.holder = none) :
      Move k id t { t with
        lock := { t.lock with holder := some i }
        threads := t.threads.set i { thread with place := .inside true c.first }
        entries := t.entries ++ [(i, c)] }
  | pass {i : Nat} {thread : Thread} {p p' : Passage} {w : World}
      (here : t.threads[i]? = some thread) (place : thread.place = .inside true p)
      (pace : Company.Pace k id t.world p p' w) :
      Move k id t { t with
        world := w
        threads := t.threads.set i { thread with place := .inside true p' }
        handed := t.handed ++ p.hands }
  | giveUp {i : Nat} {thread : Thread} {reply : Reply} (here : t.threads[i]? = some thread)
      (place : thread.place = .inside true (.done reply)) :
      Move k id t (t.giveUp i thread true reply)
  | notify {i : Nat} {thread : Thread} {c : ChatCall} {cs : List ChatCall}
      (here : t.threads[i]? = some thread) (place : thread.place = .leaving)
      (calls : thread.calls = c :: cs) :
      Move k id t { t with
        lock := t.lock.notifyAll
        threads := t.threads.set i { thread with place := .outside, calls := cs } }

/-- A thread at a lock that another one holds, or nobody. -/
theorem move_await {cs : List ChatCall} (here : t.threads[i]? = some thread)
    (place : thread.place = .outside ∨ thread.place = .blocked) (calls : thread.calls = c :: cs) :
    Move k id t (t.enter i thread c (t.lock.await i)) := by
  by_cases hheld : t.lock.holder.isSome
  · have hasked : t.lock.await i
        = (.asleep, { t.lock with sleepers := t.lock.sleepers ++ [i] }) := if_pos hheld
    rw [hasked]
    exact .wait here place (by simp [calls]) (by simpa [Option.isSome_iff_ne_none] using hheld)
  · have hasked : t.lock.await i = (.entered, { t.lock with holder := some i }) := if_neg hheld
    rw [hasked]
    exact .enter here place calls (by simpa using hheld)

/-- **No slice of time is anything else.** -/
theorem move_of_step (guarded : t.Guarded) (h : t.step k id slice = some t') : Move k id t t' := by
  cases slice with
  | stir i =>
    obtain rfl := Option.some.inj h
    exact .idle rfl fun hnone => by simp [DeliveryLock.stir, hnone]
  | thread i =>
    obtain ⟨thread, here, h⟩ := Option.bind_eq_some_iff.mp h
    unfold go at h
    split at h
    · obtain rfl := Option.some.inj h
      exact .idle rfl fun hnone => hnone
    · rename_i c cs hcalls hplace
      obtain rfl := Option.some.inj h
      -- the lock is not this thread's already, since the holder is inside
      have hnot : t.lock.holder ≠ some i := fun hheld => by
        obtain ⟨other, p, before, c', hother, hinside, -⟩ := guarded.holds i hheld
        obtain rfl := Option.some.inj (here.symm.trans hother)
        cases hplace.symm.trans hinside
      rw [DeliveryLock.acquire, if_neg hnot]
      exact move_await here (.inl hplace) hcalls
    · rename_i c cs hcalls hplace
      split at h
      · obtain rfl := Option.some.inj h
        exact .idle rfl fun hnone => hnone
      · obtain rfl := Option.some.inj h
        exact move_await here (.inr hplace) hcalls
    · rename_i c cs owned p hcalls hplace
      obtain ⟨rfl, -⟩ := guarded.inside i thread owned p here hplace
      cases hreply : p.reply? with
      | some reply =>
        rw [hreply] at h
        obtain rfl := Option.some.inj h
        cases p <;> simp [Passage.reply?] at hreply
        subst hreply
        exact .giveUp here hplace
      | none =>
        rw [hreply] at h
        obtain ⟨⟨p', w⟩, hpass, h⟩ := Option.bind_eq_some_iff.mp h
        obtain rfl := Option.some.inj h
        exact .pass here hplace (Company.pace_of_pass hpass)
    · rename_i c cs hcalls hplace
      obtain rfl := Option.some.inj h
      exact .notify here hplace hcalls

/-! ## The lock -/

/-- The thread that took a step, and the others. -/
theorem getElem?_set_cases {threads : List Thread} {a b : Thread}
    (h : (threads.set i a)[j]? = some b) : (j = i ∧ b = a) ∨ (j ≠ i ∧ threads[j]? = some b) := by
  by_cases hj : j = i
  · subst hj
    have hlt : j < threads.length := by
      have hset := (List.getElem?_eq_some_iff.mp h).1
      rwa [List.length_set] at hset
    rw [List.getElem?_set_self hlt] at h
    exact .inl ⟨rfl, (Option.some.inj h).symm⟩
  · rw [List.getElem?_set_ne (Ne.symm hj)] at h
    exact .inr ⟨hj, h⟩

theorem getElem?_set_here {threads : List Thread} {a b : Thread} (here : threads[i]? = some a) :
    (threads.set i b)[i]? = some b :=
  List.getElem?_set_self (List.getElem?_eq_some_iff.mp here).1

/-- **No two threads are inside the lock.** -/
theorem Guarded.single (guarded : t.Guarded) {owned owned' : Bool}
    (here : t.threads[i]? = some thread) (place : thread.place = .inside owned p)
    (there : t.threads[j]? = some other) (place' : other.place = .inside owned' p') : i = j := by
  have hi := (guarded.inside i thread owned p here place).2
  have hj := (guarded.inside j other owned' p' there place').2
  exact Option.some.inj (hi.symm.trans hj)

/-- Nobody is inside a lock that nobody holds. -/
theorem Guarded.nobody (guarded : t.Guarded) (free : t.lock.holder = none) {owned : Bool}
    (here : t.threads[i]? = some thread) : thread.place ≠ .inside owned p := by
  intro hplace
  have hheld := (guarded.inside i thread owned p here hplace).2
  rw [free] at hheld
  cases hheld

/-- The holder is not a thread that is elsewhere. -/
theorem Guarded.ne_of_holds (guarded : t.Guarded) (here : t.threads[i]? = some thread)
    (elsewhere : ∀ p, thread.place ≠ .inside true p) (held : t.lock.holder = some j) : j ≠ i := by
  rintro rfl
  obtain ⟨other, p, -, -, hother, hplace, -⟩ := guarded.holds j held
  obtain rfl := Option.some.inj (here.symm.trans hother)
  exact elsewhere p hplace

/-- Where the thread that took a step has a call to make unless it is outside, so has every one. -/
theorem Guarded.busy_set (guarded : t.Guarded) (busy : thread.place ≠ .outside → thread.calls ≠ [])
    (hj : (t.threads.set i thread)[j]? = some other) (away : other.place ≠ .outside) :
    other.calls ≠ [] := by
  rcases getElem?_set_cases hj with ⟨-, rfl⟩ | ⟨-, hj⟩
  · exact busy away
  · exact guarded.busy j other hj away

/-- **A thread that is not inside the lock stays out of it**: it waits for the one that holds it, or
it notifies the sleepers. -/
theorem Guarded.aside {next : Thread} {lock : DeliveryLock} (guarded : t.Guarded)
    (here : t.threads[i]? = some thread) (elsewhere : ∀ p, thread.place ≠ .inside true p)
    (still : ∀ owned p, next.place ≠ .inside owned p)
    (busy : next.place ≠ .outside → next.calls ≠ []) (holder : lock.holder = t.lock.holder)
    (woken : lock.sleepers ≠ [] → lock.holder ≠ none) :
    Guarded { t with lock := lock, threads := t.threads.set i next } where
  inside := by
    intro j other owned p hj hplace
    rcases getElem?_set_cases hj with ⟨-, rfl⟩ | ⟨-, hj⟩
    · exact absurd hplace (still owned p)
    · rw [holder]
      exact guarded.inside j other owned p hj hplace
  holds := by
    intro j hheld
    rw [holder] at hheld
    have hne : j ≠ i := guarded.ne_of_holds here elsewhere hheld
    obtain ⟨other, p, before, c, hj, hplace, hentries⟩ := guarded.holds j hheld
    exact ⟨other, p, before, c, (List.getElem?_set_ne hne.symm).trans hj, hplace, hentries⟩
  woken := fun hne => .inl (woken hne)
  busy := fun _ _ => guarded.busy_set busy

/-- **A thread enters the lock.** -/
theorem Guarded.enter {cs : List ChatCall} (guarded : t.Guarded)
    (here : t.threads[i]? = some thread) (calls : thread.calls = c :: cs)
    (free : t.lock.holder = none) :
    Guarded { t with
      lock := { t.lock with holder := some i }
      threads := t.threads.set i { thread with place := .inside true c.first }
      entries := t.entries ++ [(i, c)] } where
  inside := by
    intro j other owned p hj hplace
    rcases getElem?_set_cases hj with ⟨rfl, rfl⟩ | ⟨-, hj⟩
    · obtain ⟨rfl, -⟩ := Place.inside.inj hplace
      exact ⟨rfl, rfl⟩
    · exact absurd hplace (guarded.nobody free hj)
  holds := by
    intro j hheld
    obtain rfl := Option.some.inj hheld
    exact ⟨_, c.first, t.entries, c, getElem?_set_here here, rfl, rfl⟩
  woken := fun _ => .inl (by simp)
  busy := fun _ _ => guarded.busy_set fun _ => by simp [calls]

/-- **A thread takes a step of its passage.** -/
theorem Guarded.pass (guarded : t.Guarded) (here : t.threads[i]? = some thread)
    (place : thread.place = .inside true p) :
    Guarded { t with
      world := w
      threads := t.threads.set i { thread with place := .inside true p' }
      handed := t.handed ++ p.hands } where
  inside := by
    intro j other owned q hj hplace
    rcases getElem?_set_cases hj with ⟨rfl, rfl⟩ | ⟨-, hj⟩
    · obtain ⟨rfl, -⟩ := Place.inside.inj hplace
      exact guarded.inside j thread true p here place
    · exact guarded.inside j other owned q hj hplace
  holds := by
    intro j hheld
    have hholder := (guarded.inside i thread true p here place).2
    obtain rfl := Option.some.inj (hholder.symm.trans hheld)
    obtain ⟨-, -, before, c, -, -, hentries⟩ := guarded.holds i hheld
    exact ⟨_, p', before, c, getElem?_set_here here, rfl, hentries⟩
  woken := fun _ => .inl fun hnone => guarded.nobody hnone here place
  busy := fun _ _ => guarded.busy_set fun _ => guarded.busy i thread here (by simp [place])

/-- **A thread gives the lock up**, and is about to notify. -/
theorem Guarded.giveUp (guarded : t.Guarded) {reply : Reply} (here : t.threads[i]? = some thread)
    (place : thread.place = .inside true (.done reply)) :
    (t.giveUp i thread true reply).Guarded where
  inside := by
    intro j other owned p hj hplace
    rcases getElem?_set_cases hj with ⟨-, rfl⟩ | ⟨hne, hj⟩
    · cases hplace
    · exact absurd (guarded.single hj hplace here place) hne
  holds := fun j hheld => by cases hheld
  woken := by
    intro _
    have hholder := (guarded.inside i thread true _ here place).2
    obtain ⟨-, -, before, c, -, -, hentries⟩ := guarded.holds i hholder
    exact .inr ⟨before, i, c, _, hentries, getElem?_set_here here, rfl⟩
  busy := fun _ _ => guarded.busy_set fun _ => guarded.busy i thread here (by simp [place])

/-- **Every move keeps the lock guarded.** -/
theorem Guarded.move (guarded : t.Guarded) (move : Move k id t t') : t'.Guarded := by
  cases move with
  | idle holder sleepers =>
    refine ⟨fun j other owned p hj hplace => ?_, fun j hheld => ?_, fun hne => ?_, guarded.busy⟩
    · rw [holder]
      exact guarded.inside j other owned p hj hplace
    · exact guarded.holds j (holder.symm.trans hheld)
    · rw [holder]
      exact guarded.woken (mt sleepers hne)
  | wait here place busy held =>
    exact guarded.aside here (by rcases place with h | h <;> simp [h]) (by simp) (fun _ => busy) rfl
      fun _ => held
  | enter here place calls free => exact guarded.enter here calls free
  | pass here place pace => exact guarded.pass here place
  | giveUp here place => exact guarded.giveUp here place
  | notify here place calls =>
    exact guarded.aside here (by simp [place]) (by simp) (fun away => absurd rfl away) rfl
      fun hne => absurd rfl hne

/-! ## The calls of a thread -/

/-- The calls of one thread that have entered the lock, in order. -/
def entered (i : Nat) (entries : List (Nat × ChatCall)) : List ChatCall :=
  (entries.filter (·.1 = i)).map (·.2)

/-- **Every thread makes its calls in order.** -/
def Ordered (lists : List (List ChatCall)) (t : Traffic) : Prop :=
  ∀ (i : Nat) (thread : Thread), t.threads[i]? = some thread →
    lists[i]? = some (entered i t.entries ++ thread.pending)

variable {lists : List (List ChatCall)}

/-- A thread takes a step that enters no call. -/
theorem Ordered.set (ordered : t.Ordered lists) (here : t.threads[i]? = some thread)
    (pending : other.pending = thread.pending) :
    ∀ (j : Nat) (b : Thread), (t.threads.set i other)[j]? = some b →
      lists[j]? = some (entered j t.entries ++ b.pending) := by
  intro j b hj
  rcases getElem?_set_cases hj with ⟨rfl, rfl⟩ | ⟨-, hj⟩
  · rw [pending]
    exact ordered j thread here
  · exact ordered j b hj

/-- A thread enters the lock with its next call. -/
theorem Ordered.enter {cs : List ChatCall} (ordered : t.Ordered lists)
    (here : t.threads[i]? = some thread) (pending : thread.pending = c :: cs)
    (next : other.pending = cs) :
    ∀ (j : Nat) (b : Thread), (t.threads.set i other)[j]? = some b →
      lists[j]? = some (entered j (t.entries ++ [(i, c)]) ++ b.pending) := by
  intro j b hj
  rcases getElem?_set_cases hj with ⟨rfl, rfl⟩ | ⟨hne, hj⟩
  · have hnow : entered j (t.entries ++ [(j, c)]) = entered j t.entries ++ [c] := by
      simp [entered]
    rw [hnow, next, List.append_assoc, List.singleton_append, ← pending]
    exact ordered j thread here
  · have hsame : entered j (t.entries ++ [(i, c)]) = entered j t.entries := by
      simp [entered, hne.symm]
    rw [hsame]
    exact ordered j b hj

/-- **Every move keeps the calls of a thread in order.** -/
theorem Ordered.move (ordered : t.Ordered lists) (move : Move k id t t') : t'.Ordered lists := by
  cases move with
  | idle => exact ordered
  | wait here place =>
    refine ordered.set here ?_
    rcases place with hplace | hplace <;> simp [Thread.pending, hplace]
  | @enter i thread c cs here place calls =>
    have hpending : thread.pending = c :: cs := by
      rcases place with hplace | hplace <;> simp [Thread.pending, hplace, calls]
    exact ordered.enter here hpending (by simp [Thread.pending, calls])
  | pass here place => exact ordered.set here (by simp [Thread.pending, place])
  | giveUp here place => exact ordered.set here (by simp [Thread.pending, place])
  | notify here place calls => exact ordered.set here (by simp [Thread.pending, place, calls])

/-! ## What listeners are handed -/

/-- The calls that have entered the lock, in order. -/
def calls (t : Traffic) : List ChatCall := t.entries.map (·.2)

/-- **A listener has been handed what it is due**, up to the call that is inside the lock. -/
structure Booked (w₀ : World) (id : ChatId) (l : String) (t : Traffic) : Prop where
  lt : id < t.world.directory.chats.length
  free : t.lock.holder = none →
    Squares l id t.world (heardBy l t.handed) ((w₀.account id l).after l t.calls)
  inside : ∀ i thread p, t.threads[i]? = some thread → thread.place = .inside true p →
    ∃ before c, t.entries = before ++ [(i, c)]
      ∧ Fits l id t.world (heardBy l t.handed)
        ((w₀.account id l).after l (before.map (·.2))) c p

/-- A call enters the lock of a chat that squares with the account. -/
theorem Booked.enter (booked : t.Booked w₀ id l) (guarded : t.Guarded)
    (free : t.lock.holder = none) :
    Booked w₀ id l { t with
      lock := { t.lock with holder := some i }
      threads := t.threads.set i { thread with place := .inside true c.first }
      entries := t.entries ++ [(i, c)] } where
  lt := booked.lt
  free := fun hnone => by cases hnone
  inside := by
    intro j other p hj hplace
    rcases getElem?_set_cases hj with ⟨rfl, rfl⟩ | ⟨-, hj⟩
    · obtain ⟨-, rfl⟩ := Place.inside.inj hplace
      exact ⟨t.entries, c, rfl, (booked.free free).fits_first c⟩
    · exact absurd hplace (guarded.nobody free hj)

/-- **The call inside the lock takes a step.** -/
theorem Booked.pass (booked : t.Booked w₀ id l) (guarded : t.Guarded)
    (spares : k.Spares id t.world p)
    (here : t.threads[i]? = some thread) (place : thread.place = .inside true p)
    (pace : Company.Pace k id t.world p p' w) :
    Booked w₀ id l { t with
      world := w
      threads := t.threads.set i { thread with place := .inside true p' }
      handed := t.handed ++ p.hands } where
  lt := pace.lt spares booked.lt
  free := fun hnone => absurd place (guarded.nobody hnone here)
  inside := by
    intro j other q hj hplace
    rcases getElem?_set_cases hj with ⟨rfl, rfl⟩ | ⟨hne, hj⟩
    · obtain ⟨-, rfl⟩ := Place.inside.inj hplace
      obtain ⟨before, c, hentries, hfits⟩ := booked.inside j thread p here place
      refine ⟨before, c, hentries, ?_⟩
      rw [heardBy_append]
      exact hfits.pace spares booked.lt pace
    · exact absurd (guarded.single hj hplace here place) hne

/-- **A call that leaves the lock has been entered in the account.** -/
theorem Booked.giveUp (booked : t.Booked w₀ id l) (guarded : t.Guarded) {reply : Reply}
    (here : t.threads[i]? = some thread) (place : thread.place = .inside true (.done reply)) :
    (t.giveUp i thread true reply).Booked w₀ id l where
  lt := booked.lt
  free := by
    intro _
    obtain ⟨before, c, hentries, hfits⟩ := booked.inside i thread _ here place
    have hcalls : (t.giveUp i thread true reply).calls = before.map (·.2) ++ [c] := by
      change t.entries.map (·.2) = _
      simp [hentries]
    rw [hcalls, Account.after_concat]
    cases hfits with
    | done squares => exact squares
  inside := by
    intro j other q hj hplace
    rcases getElem?_set_cases hj with ⟨-, rfl⟩ | ⟨hne, hj⟩
    · cases hplace
    · exact absurd (guarded.single hj hplace here place) hne

/-- **Callbacks leave the chat alone for now.** -/
def Spared (k : Company) (id : ChatId) (t : Traffic) : Prop :=
  ∀ (i : Nat) (thread : Thread) owned p, t.threads[i]? = some thread →
    thread.place = .inside owned p → k.Spares id t.world p

/-- A thread that stays out of the lock changes nothing in the account. -/
theorem Booked.aside {next : Thread} {lock : DeliveryLock} (booked : t.Booked w₀ id l)
    (still : ∀ owned p, next.place ≠ .inside owned p) (holder : lock.holder = t.lock.holder) :
    Booked w₀ id l { t with lock := lock, threads := t.threads.set i next } where
  lt := booked.lt
  free := fun hnone => booked.free (holder.symm.trans hnone)
  inside := by
    intro j other p hj hplace
    rcases getElem?_set_cases hj with ⟨-, rfl⟩ | ⟨-, hj⟩
    · exact absurd hplace (still true p)
    · exact booked.inside j other p hj hplace

/-- **Every move keeps what a listener has been handed in its account.** -/
theorem Booked.move (booked : t.Booked w₀ id l) (guarded : t.Guarded) (spared : t.Spared k id)
    (move : Move k id t t') : t'.Booked w₀ id l := by
  cases move with
  | idle holder sleepers =>
    exact ⟨booked.lt, fun hnone => booked.free (holder.symm.trans hnone), booked.inside⟩
  | wait => exact booked.aside (by simp) rfl
  | enter here place calls free => exact booked.enter guarded free
  | pass here place pace =>
    exact booked.pass guarded (spared _ _ _ _ here place) here place pace
  | giveUp here place => exact booked.giveUp guarded here place
  | notify => exact booked.aside (by simp) rfl

/-- A call that is inside the lock has handed over some of what is due with it. -/
theorem prefix_of_fits {heard : List Message} {a : Account} (fits : Fits l id w heard a c p) :
    heard <+: (a.enter l c).due := by
  have hgrows : ∀ c, a.due <+: (a.enter l c).due := by
    intro c
    cases c with
    | deliver m => exact List.prefix_append _ _
    | register x =>
      rw [Account.enter]
      split
      · exact List.prefix_append _ _
      · exact List.prefix_refl _
  cases fits with
  | recording squares => exact squares.heard ▸ hgrows _
  | listing squares => exact squares.heard ▸ hgrows (.deliver _)
  | @handing m given left _ split squares =>
    have hknown : l ∈ w.members id ↔ a.known = true := squares.known
    rw [squares.heard]
    by_cases hl : l ∈ given
    · have hmember : a.known = true := hknown.mp (split ▸ List.mem_append_left _ hl)
      simp [Account.enter, hl, hmember]
    · simp [Account.enter, hl]
  | checking squares => exact squares.heard ▸ hgrows _
  | recalling new squares => exact squares.heard ▸ hgrows _
  | replaying new last squares => exact squares.heard ▸ hgrows _
  | @inserting x new squares =>
    have hknown : l ∈ w.members id ↔ a.known = true := squares.known
    rw [squares.heard]
    by_cases hx : x = l
    · subst hx
      have hnot : a.known = false := by simpa using mt hknown.mpr new
      simp [Account.enter, hnot]
    · simp [Account.enter, hx]
  | done squares => exact squares.heard ▸ List.prefix_refl _

/-- **At every moment a listener has been handed the beginning of what it is due**, and all of it
when nobody is inside the lock. -/
theorem Booked.begins (booked : t.Booked w₀ id l) (guarded : t.Guarded) :
    heardBy l t.handed <+: ((w₀.account id l).after l t.calls).due := by
  cases hheld : t.lock.holder with
  | none => exact (booked.free hheld).heard ▸ List.prefix_refl _
  | some i =>
    obtain ⟨thread, p, -, -, here, place, -⟩ := guarded.holds i hheld
    obtain ⟨before, c, hentries, hfits⟩ := booked.inside i thread p here place
    have hcalls : t.calls = before.map (·.2) ++ [c] := by simp [calls, hentries]
    rw [hcalls, Account.after_concat]
    exact prefix_of_fits hfits

/-! ## From the beginning -/

/-- Threads that have not begun guard the lock. -/
theorem guarded_begin (w : World) (lists : List (List ChatCall)) : (begin w lists).Guarded := by
  have hplace : ∀ (i : Nat) (thread : Thread), (begin w lists).threads[i]? = some thread →
      thread.place = .outside := by
    intro i thread here
    obtain ⟨calls, -, rfl⟩ := List.mem_map.mp (List.mem_of_getElem? here)
    rfl
  refine ⟨fun i thread owned p here place => ?_, fun i hheld => ?_, fun hne => absurd rfl hne,
    fun i thread here place => absurd (hplace i thread here) place⟩
  · cases (hplace i thread here).symm.trans place
  · cases hheld

theorem ordered_begin (w : World) (lists : List (List ChatCall)) :
    (begin w lists).Ordered lists := by
  intro i thread here
  rw [begin, List.getElem?_map, Option.map_eq_some_iff] at here
  obtain ⟨calls, hcalls, rfl⟩ := here
  exact hcalls

theorem booked_begin (lists : List (List ChatCall)) (lt : id < w.directory.chats.length) :
    (begin w lists).Booked w id l where
  lt := lt
  free := fun _ => ⟨rfl, (decide_eq_true_iff).symm, rfl⟩
  inside := by
    intro i thread p here place
    cases ((guarded_begin w lists).inside i thread true p here place).2

/-- Along all slices the lock is guarded. -/
theorem guarded_run (h : (begin w₀ lists).run k id slices = some t) : t.Guarded :=
  foldlM_keeps (P := Guarded) (fun _ _ _ _ guarded hstep => guarded.move (move_of_step guarded hstep))
    (guarded_begin w₀ lists) h

/-- Along all slices the calls of a thread are in order. -/
theorem ordered_run (h : (begin w₀ lists).run k id slices = some t) : t.Ordered lists := by
  refine (foldlM_keeps (P := fun t => t.Guarded ∧ t.Ordered lists) ?_
    ⟨guarded_begin w₀ lists, ordered_begin w₀ lists⟩ h).2
  rintro slice - b b' ⟨guarded, ordered⟩ hstep
  have move := move_of_step guarded hstep
  exact ⟨guarded.move move, ordered.move move⟩

/-- **Callbacks leave a chat alone**, at every moment of some slices. -/
def Aloof (k : Company) (id : ChatId) (start : Traffic) (slices : List Slice) : Prop :=
  ∀ before after t, slices = before ++ after → start.run k id before = some t → t.Spared k id

/-- Callbacks that take no step leave every chat alone. -/
theorem aloof_of_quiet (quiet : k.toCast.Quiet) (start : Traffic) (slices : List Slice) :
    Aloof k id start slices := fun _ _ t _ _ _ _ _ p _ _ =>
  Company.spares_of_quiet quiet id t.world p

/-- **Along all slices a listener is handed what it is due.** -/
theorem booked_run (aloof : Aloof k id (begin w₀ lists) slices)
    (lt : id < w₀.directory.chats.length) (h : (begin w₀ lists).run k id slices = some t)
    (l : String) : t.Booked w₀ id l := by
  induction slices using List.reverseRecOn generalizing t with
  | nil =>
    obtain rfl := Option.some.inj h
    exact booked_begin lists lt
  | append_singleton slices slice ih =>
    obtain ⟨b, hb, hstep⟩ := foldlM_concat.mp h
    have hearlier : Aloof k id (begin w₀ lists) slices := fun before after t split hrun =>
      aloof before (after ++ [slice]) t (by simp [split]) hrun
    have guarded := guarded_run hb
    exact (ih hearlier hb).move guarded (aloof slices [slice] b rfl hb) (move_of_step guarded hstep)

/-- Where callbacks take no step, what has been handed over is all that has been. -/
theorem received_run (quiet : k.toCast.Quiet) (h : (begin w₀ lists).run k id slices = some t) :
    t.world.received = w₀.received ++ t.handed := by
  refine (foldlM_keeps (P := fun t => t.Guarded ∧ t.world.received = w₀.received ++ t.handed) ?_
    ⟨guarded_begin w₀ lists, (List.append_nil _).symm⟩ h).2
  rintro slice - b b' ⟨guarded, hreceived⟩ hstep
  have move := move_of_step guarded hstep
  refine ⟨guarded.move move, ?_⟩
  cases move with
  | pass here place pace =>
    change _ = w₀.received ++ (b.handed ++ _)
    rw [pace.received quiet, hreceived, List.append_assoc]
  | _ => exact hreceived

/-- **The lock is free, and the last thread to hold it has notified the others.** -/
def Released (t : Traffic) : Prop :=
  t.lock.holder = none ∧ ∀ before i c thread, t.entries = before ++ [(i, c)] →
    t.threads[i]? = some thread → thread.place ≠ .leaving

/-- Nobody sleeps at a lock that has been released. -/
theorem Guarded.awake (guarded : t.Guarded) (released : t.Released) : t.lock.sleepers = [] := by
  by_contra hne
  rcases guarded.woken hne with hheld | ⟨before, i, c, thread, hentries, here, place⟩
  · exact hheld released.1
  · exact released.2 before i c thread hentries here place

/-- **Who waits at a free lock and has been notified enters it** when it gets its turn. -/
theorem Guarded.enters (guarded : t.Guarded) (free : t.lock.holder = none)
    (awake : i ∉ t.lock.sleepers) (here : t.threads[i]? = some thread)
    (blocked : thread.place = .blocked) :
    ∃ t', t.step k id (.thread i) = some t' ∧ t'.lock.holder = some i := by
  obtain ⟨c, cs, hcalls⟩ :=
    List.exists_cons_of_ne_nil (guarded.busy i thread here (by simp [blocked]))
  have hasked : t.lock.await i = (.entered, { t.lock with holder := some i }) := by
    rw [DeliveryLock.await, free]
    rfl
  have hgo : t.go k id i thread = some (t.enter i thread c (t.lock.await i)) := by
    rw [go, hcalls, blocked]
    exact if_neg awake
  rw [hasked] at hgo
  exact ⟨_, Option.bind_eq_some_iff.mpr ⟨thread, here, hgo⟩, rfl⟩

/-- **Calls on a chat take turns, whatever the threads do**, and no message is lost, repeated or out
of order.  At every moment of every interleaving, when callbacks leave the chat alone:

* At most one thread is inside the lock.
* When the lock is free and the last one to hold it has notified, nobody who waits is asleep: each
  enters the lock when it gets its turn.
* The calls of a thread have entered the lock in order, with the rest still to come.
* A listener that is registered by a call has been handed the last message of the moment at which
  the first such call entered the lock, then every message whose call entered later, in that order:
  all of it when the lock is free, and at any time a beginning of it.
* A listener that has been there from the start has been handed every message in the same way, and
  one that no call registers nothing.
* When the lock is free the last message is that of the last delivery to have entered. -/
theorem handed_in_order (aloof : Aloof k id (begin w₀ lists) slices)
    (lt : id < w₀.directory.chats.length) (h : (begin w₀ lists).run k id slices = some t) :
    (∀ (i j : Nat) (a b : Thread) owned owned' p p', t.threads[i]? = some a →
        a.place = .inside owned p → t.threads[j]? = some b → b.place = .inside owned' p' → i = j)
      ∧ (t.Released → ∀ (i : Nat) (thread : Thread), t.threads[i]? = some thread →
        thread.place = .blocked → i ∉ t.lock.sleepers
          ∧ ∃ t', t.step k id (.thread i) = some t' ∧ t'.lock.holder = some i)
      ∧ (∀ (i : Nat) (thread : Thread), t.threads[i]? = some thread →
        lists[i]? = some (entered i t.entries ++ thread.pending))
      ∧ (∀ l before after, l ∉ w₀.members id → t.calls = before ++ .register l :: after →
        .register l ∉ before →
          heardBy l t.handed
              <+: (lastAfter (w₀.directory.chat id).last before).toList ++ messagesOf after
            ∧ (t.lock.holder = none → heardBy l t.handed
              = (lastAfter (w₀.directory.chat id).last before).toList ++ messagesOf after))
      ∧ (∀ l ∈ w₀.members id, heardBy l t.handed <+: messagesOf t.calls
        ∧ (t.lock.holder = none → heardBy l t.handed = messagesOf t.calls))
      ∧ (∀ l, l ∉ w₀.members id → .register l ∉ t.calls → heardBy l t.handed = [])
      ∧ (t.lock.holder = none → (t.world.directory.chat id).last
        = lastAfter (w₀.directory.chat id).last t.calls)
      ∧ (k.toCast.Quiet → t.world.received = w₀.received ++ t.handed) := by
  have guarded := guarded_run h
  have booked := booked_run aloof lt h
  have hdue : ∀ l, heardBy l t.handed <+: ((w₀.account id l).after l t.calls).due
      ∧ (t.lock.holder = none →
        heardBy l t.handed = ((w₀.account id l).after l t.calls).due) := fun l =>
    ⟨(booked l).begins guarded, fun hfree => ((booked l).free hfree).heard⟩
  have hknown : ∀ l, l ∈ w₀.members id → (w₀.account id l).known = true := fun l hl =>
    decide_eq_true hl
  have hnew : ∀ l, l ∉ w₀.members id → (w₀.account id l).known = false := fun l hl =>
    decide_eq_false hl
  refine ⟨fun i j a b owned owned' p p' here place there place' =>
      guarded.single here place there place', fun released i thread here blocked => ?_,
    ordered_run h, fun l before after hl split absent => ?_, fun l hl => ?_,
    fun l hl absent => ?_, fun hfree => ?_, fun quiet => received_run quiet h⟩
  · have hawake : i ∉ t.lock.sleepers := by simp [guarded.awake released]
    exact ⟨hawake, guarded.enters released.1 hawake here blocked⟩
  · have hsum := hdue l
    rw [split, Account.due_after_register (hnew l hl) absent] at hsum
    exact hsum
  · have hsum := hdue l
    rw [Account.due_after_of_known (hknown l hl)] at hsum
    exact hsum
  · have hsum := (hdue l).1
    rw [(Account.after_of_absent (hnew l hl) absent).2] at hsum
    exact List.prefix_nil.mp hsum
  · exact ((booked "").free hfree).last.trans (Account.last_after _ _ _)

/-- Two threads deliver while a third one registers a listener, which fails, beside one that panics:
the third waits for the first delivery, wakes once by chance, and gets its message and the
second. -/
theorem handed_in_order_of_three :
    let cast : Cast := { listener := fun l => .scripted fun _ _ =>
      { ending := if l = "ear" then .failed ["deaf"] else .panicked none } }
    let chat : Chat := { Chat.fresh (some "room") with listeners := Roster.empty.insert "eye" }
    let w : World := { directory := { owner := .bare "bot", chats := [chat] } }
    let lists : List (List ChatCall) := [[.deliver (.plain "1" "room" "ann" "hello")],
      [.register "ear"], [.deliver (.plain "2" "room" "bob" "hello")]]
    let slices : List Slice := [.thread 0, .thread 1, .thread 0, .stir 1, .thread 0, .thread 1,
        .thread 0, .thread 0, .thread 0, .thread 1, .thread 0, .thread 1, .thread 2]
      ++ List.replicate 6 (.thread 1) ++ List.replicate 8 (.thread 2)
    ∃ t, (begin w lists).run (cast.company 1) 0 slices = some t
      ∧ heardBy "ear" t.handed
        = [.plain "1" "room" "ann" "hello", .plain "2" "room" "bob" "hello"]
      ∧ t.world.received = t.handed := by
  intro cast chat w lists slices
  have quiet : cast.Quiet := {
    listeners := fun name react h m n => by
      obtain rfl := ListenerRole.scripted.inj h
      rfl
    arrivals := fun name script h stream n => by
      obtain rfl := ObserverRole.scripted.inj h
      rfl
    departures := fun name script h stream n => by
      obtain rfl := ObserverRole.scripted.inj h
      rfl }
  have hview : ((begin w lists).run (cast.company 1) 0 slices).map (fun t => (t.calls, t.lock))
      = some ([.deliver (.plain "1" "room" "ann" "hello"), .register "ear",
        .deliver (.plain "2" "room" "bob" "hello")], {}) := by
    decide +kernel
  obtain ⟨t, hrun, ht⟩ := Option.map_eq_some_iff.mp hview
  obtain ⟨hcalls, hlock⟩ := Prod.mk.inj ht
  obtain ⟨-, -, -, hregistered, -, -, -, hreceived⟩ :=
    handed_in_order (aloof_of_quiet (k := cast.company 1) quiet _ _) (by decide) hrun
  have hear := (hregistered "ear" [.deliver (.plain "1" "room" "ann" "hello")]
    [.deliver (.plain "2" "room" "bob" "hello")] (by decide) hcalls (by decide)).2 (by rw [hlock])
  exact ⟨t, hrun, hear, hreceived quiet⟩

end Traffic

end ChatFeed
