import ChatFeed.Proofs.Chat.Dispatch
import ChatFeed.Proofs.Chat.Reentry

/-!
# Proofs/Chat/Journey — how far a message gets in one go

A message that is taken on without a pause either has to wait, and then nothing but books has
changed, or it is handed over: by the chat that its stream has, or by one that is made for it, of
which all observers are told first.  `Company.journey_of_advance` says so whatever callbacks do; in
particular no message is ever left in the middle of an announcement.
-/

namespace ChatFeed

/-- Whether a message that has got there in one go may be there: at a gate, asleep, or at its
end. -/
def Stage.isResting : Stage → Bool
  | .gated _ => true
  | .asleep _ _ => true
  | .answered _ => true
  | _ => false

namespace Company

/-- **How far a message gets in one go**, and what has happened then. -/
inductive Journey (k : Company) (m : Message) (w : World) : Stage → World → Prop
  | waits {s : Stage} {v : World} (resting : s.isResting = true) (beside : w.Beside v) :
      Journey k m w s v
  | served {id : ChatId} {report : Report} {x v : World} (beside : w.Beside x)
      (delivery : (k.deliver id m).run x = some (report, v)) : Journey k m w (.answered report) v
  | founded {sender : Option User} {report : Report} {x y v : World} (beside : w.Beside x)
      (absent : x.directory.rooms.find? m.stream = none)
      (telling : (k.informAll .arrived x.directory.nextId x.directory.observers.members).run
        (x.change (withChat x.directory m.stream (chatFor x.directory.owner m sender))
          "Chat created for new stream" m.stream) = some ((), y))
      (delivery : (k.deliver x.directory.nextId m).run y = some (report, v)) :
      Journey k m w (.answered report)
        (v.onChat x.directory.nextId fun c => { c with gateOpen := true })

variable {k : Company} {m : Message} {w v x : World} {s s' : Stage} {id : ChatId}

theorem Journey.after (h : Journey k m x s v) (hx : w.Beside x) : Journey k m w s v := by
  cases h with
  | waits resting beside => exact .waits resting (hx.trans beside)
  | served beside delivery => exact .served (hx.trans beside) delivery
  | founded beside absent telling delivery =>
    exact .founded (hx.trans beside) absent telling delivery

/-- A message takes a step, or has to wait. -/
theorem goOn_cases {n : Nat} (h : (k.goOn m (n + 1) s).run w = some (s', v)) :
    ((k.step m s).run w = some (none, v) ∧ s' = s)
      ∨ ∃ t x, (k.step m s).run w = some (some t, x) ∧ (k.goOn m n t).run x = some (s', v) := by
  obtain ⟨next, x, hstep, h⟩ := Run.run_bind_eq_some.mp h
  cases next with
  | none =>
    obtain ⟨rfl, rfl⟩ := Run.run_pure_eq_some.mp h
    exact .inl ⟨hstep, rfl⟩
  | some t => exact .inr ⟨t, x, hstep, h⟩

/-- A message at its end goes no further. -/
theorem goOn_answered {n : Nat} {report : Report}
    (h : (k.goOn m n (.answered report)).run w = some (s, v)) : s = .answered report ∧ v = w := by
  cases n with
  | zero => exact Run.run_pure_eq_some.mp h
  | succ n => exact Run.run_pure_eq_some.mp h

/-- **All observers are told**, and then the message goes on. -/
theorem goOn_announcing {os : List String} {n : Nat}
    (h : (k.goOn m (os.length + n) (.announcing id os)).run w = some (s, v)) :
    ∃ x, (k.informAll .arrived id os).run w = some ((), x)
      ∧ (k.goOn m n (.announcing id [])).run x = some (s, v) := by
  induction os generalizing w with
  | nil =>
    rw [List.length_nil, Nat.zero_add] at h
    exact ⟨w, rfl, h⟩
  | cons o os ih =>
    rw [List.length_cons, Nat.add_right_comm] at h
    rcases goOn_cases h with ⟨hstep, -⟩ | ⟨t, x, hstep, hrest⟩
    · obtain ⟨u, y, -, hpure⟩ := Run.run_bind_eq_some.mp hstep
      exact nomatch (Run.run_pure_eq_some.mp hpure).1
    · obtain ⟨u, y, hinform, hpure⟩ := Run.run_bind_eq_some.mp hstep
      obtain ⟨ht, rfl⟩ := Run.run_pure_eq_some.mp hpure
      obtain rfl := Option.some.inj ht
      obtain ⟨z, htell, hgo⟩ := ih hrest
      exact ⟨z, Run.run_bind_eq_some.mpr ⟨u, x, hinform, htell⟩, hgo⟩

/-- **When all have been told** the message is handed over, and then the gate is opened. -/
theorem goOn_handing {n : Nat}
    (h : (k.goOn m (n + 3) (.announcing id [])).run w = some (s, v)) :
    ∃ report x, (k.deliver id m).run w = some (report, x) ∧ s = .answered report
      ∧ v = x.onChat id fun c => { c with gateOpen := true } := by
  have hhand : (k.goOn m (n + 2) (.handing id)).run w = some (s, v) := h
  obtain ⟨next, x, hstep, hrest⟩ := Run.run_bind_eq_some.mp hhand
  obtain ⟨report, y, hdeliver, hpure⟩ := Run.run_bind_eq_some.mp hstep
  obtain ⟨rfl, rfl⟩ := Run.run_pure_eq_some.mp hpure
  have hopen : (k.goOn m n (.answered report)).run
      (x.onChat id fun c => { c with gateOpen := true }) = some (s, v) := hrest
  obtain ⟨rfl, rfl⟩ := goOn_answered hopen
  exact ⟨report, x, hdeliver, rfl, rfl⟩

/-! ## Journeys -/

theorem journey_gated {n : Nat} (h : (k.goOn m (n + 2) (.gated id)).run w = some (s, v)) :
    Journey k m w s v := by
  rcases goOn_cases h with ⟨hstep, rfl⟩ | ⟨t, x, hstep, hrest⟩
  · cases stride_of_step hstep
    exact .waits rfl (.refl w)
  · cases stride_of_step hstep
    obtain ⟨next, y, hserve, hrest⟩ := Run.run_bind_eq_some.mp hrest
    obtain ⟨report, z, hdeliver, hpure⟩ := Run.run_bind_eq_some.mp hserve
    obtain ⟨rfl, rfl⟩ := Run.run_pure_eq_some.mp hpure
    obtain ⟨rfl, rfl⟩ := goOn_answered hrest
    exact .served (.refl w) hdeliver

theorem journey_knocking {n : Nat} {sender : Option User}
    (h : (k.goOn m (w.directory.observers.size + (n + 4)) (.knocking sender)).run w = some (s, v)) :
    Journey k m w s v := by
  obtain ⟨next, x, hstep, hrest⟩ := Run.run_bind_eq_some.mp h
  unfold step at hstep
  rw [Run.run_directory_bind] at hstep
  obtain ⟨r, y, hprovide, hpure⟩ := Run.run_bind_eq_some.mp hstep
  obtain ⟨rfl, rfl⟩ := Run.run_pure_eq_some.mp hpure
  rcases provide_cases hprovide with ⟨id, -, rfl, rfl⟩ | ⟨absent, rfl, rfl⟩
  · exact journey_gated (n := x.directory.observers.size + (n + 1)) hrest
  · obtain ⟨y, htelling, hhand⟩ := goOn_announcing (n := n + 3) hrest
    obtain ⟨report, z, hdeliver, rfl, rfl⟩ := goOn_handing hhand
    exact .founded (.refl w) absent htelling hdeliver

theorem beside_lookUp {user : String} (h : (k.lookUp user).run w = some (s, v)) :
    w.Beside v ∧ ((∃ sender, s = .knocking sender) ∨ ∃ wake, s = .asleep wake user) := by
  obtain ⟨hnews, hchanges, hheld⟩ := leads_lookUp World.lasting_untold user w s v h
  refine ⟨⟨(alike_lookUp h).2.directory, hnews, hchanges, hheld⟩, ?_⟩
  exact ((lookUp_ends user).elim h).2.imp_left fun hs => ⟨_, hs⟩

theorem beside_lookedUp {user : String} {u : User} (h : (k.lookedUp user).run w = some (u, v)) :
    w.Beside v := by
  obtain ⟨hnews, hchanges, hheld⟩ := leads_lookedUp World.lasting_untold user w u v h
  exact ⟨(alike_lookedUp h).directory, hnews, hchanges, hheld⟩

theorem journey_asleep {n wake : Nat} {user : String}
    (h : (k.goOn m (w.directory.observers.size + (n + 5)) (.asleep wake user)).run w
      = some (s, v)) : Journey k m w s v := by
  obtain ⟨next, x, hstep, hrest⟩ := Run.run_bind_eq_some.mp h
  unfold step at hstep
  rw [Run.run_get_bind] at hstep
  split at hstep
  · obtain ⟨rfl, rfl⟩ := Run.run_pure_eq_some.mp hstep
    obtain ⟨rfl, rfl⟩ := Run.run_pure_eq_some.mp hrest
    exact .waits rfl (.refl v)
  · obtain ⟨u, y, hlook, hpure⟩ := Run.run_bind_eq_some.mp hstep
    obtain ⟨rfl, rfl⟩ := Run.run_pure_eq_some.mp hpure
    have hbeside := beside_lookedUp hlook
    rw [← hbeside.directory] at hrest
    exact (journey_knocking hrest).after hbeside

theorem journey_fresh {n : Nat}
    (h : (k.goOn m (w.directory.observers.size + (n + 6)) .fresh).run w = some (s, v)) :
    Journey k m w s v := by
  obtain ⟨next, x, hstep, hrest⟩ := Run.run_bind_eq_some.mp h
  unfold step at hstep
  rw [Run.run_directory_bind] at hstep
  cases hroom : w.directory.rooms.find? m.stream with
  | some id =>
    rw [hroom] at hstep
    obtain ⟨rfl, rfl⟩ := Run.run_pure_eq_some.mp hstep
    exact journey_gated (n := x.directory.observers.size + (n + 3)) hrest
  | none =>
    rw [hroom] at hstep
    by_cases howner : m.sender = w.directory.owner.id
    · simp only [if_pos howner] at hstep
      obtain ⟨rfl, rfl⟩ := Run.run_pure_eq_some.mp hstep
      exact journey_knocking (n := n + 1) hrest
    · simp only [if_neg howner] at hstep
      obtain ⟨t, y, hlook, hpure⟩ := Run.run_bind_eq_some.mp hstep
      obtain ⟨rfl, rfl⟩ := Run.run_pure_eq_some.mp hpure
      obtain ⟨hbeside, hstage⟩ := beside_lookUp hlook
      rw [← hbeside.directory] at hrest
      rcases hstage with ⟨sender, rfl⟩ | ⟨wake, rfl⟩
      · exact (journey_knocking (n := n + 1) hrest).after hbeside
      · exact (journey_asleep (n := n) hrest).after hbeside

/-- **A message gets as far as it can**: it has to wait, or it is handed over. -/
theorem journey_of_advance (hs : s = .fresh ∨ s.isResting = true)
    (h : (k.advance m s).run w = some (s', v)) : Journey k m w s' v := by
  have hgo : (k.goOn m (w.directory.observers.size + 8) s).run w = some (s', v) := h
  rcases hs with rfl | hs
  · exact journey_fresh (n := 2) hgo
  · cases s with
    | gated id => exact journey_gated (n := w.directory.observers.size + 6) hgo
    | asleep wake user => exact journey_asleep (n := 3) hgo
    | answered report =>
      obtain ⟨rfl, rfl⟩ := goOn_answered hgo
      exact .waits rfl (.refl v)
    | _ => cases hs

theorem Journey.resting (h : Journey k m w s v) : s.isResting = true := by
  cases h with
  | waits resting => exact resting
  | served => rfl
  | founded => rfl

/-- **A message is taken all the way** in two goes, between which time goes by. -/
theorem finish_cases {report : Report} (hs : s = .fresh ∨ s.isResting = true)
    (h : (k.finish m s).run w = some (report, v)) :
    ∃ s₁ x y, Journey k m w s₁ x ∧ x.Beside y ∧ Journey k m y (.answered report) v := by
  obtain ⟨s₁, x, hfirst, h⟩ := Run.run_bind_eq_some.mp h
  obtain ⟨_, y, hwait, h⟩ := Run.run_bind_eq_some.mp h
  obtain ⟨s₂, z, hsecond, h⟩ := Run.run_bind_eq_some.mp h
  have hbeside : x.Beside y := by
    cases s₁ with
    | asleep wake user =>
      obtain rfl := Run.run_modify_eq_some.mp hwait
      exact ⟨rfl, rfl, rfl, rfl⟩
    | _ =>
      rw [(Run.run_pure_eq_some.mp hwait).2]
      exact .refl x
  have hjourney := journey_of_advance hs hfirst
  cases s₂ with
  | answered report' =>
    obtain ⟨rfl, rfl⟩ := Run.run_pure_eq_some.mp h
    exact ⟨s₁, x, y, hjourney, hbeside, journey_of_advance (.inr hjourney.resting) hsecond⟩
  | _ => cases h

end Company

end ChatFeed
