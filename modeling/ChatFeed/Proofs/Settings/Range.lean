import ChatFeed.Proofs.Settings.Layers

/-!
# Proofs/Settings/Range — settings that load are in order

Every number of the settings has a range.  A file tells only numbers within it, nor does a variable
that is in order bring one out of it, and the defaults are within theirs; so are the settings that
load, and nothing that is checked last is wrong with them (`Settings.sound_of_load`).
-/

namespace ChatFeed

open Data

/-- **Every number of the feed's settings is within its range.** -/
structure FeedSettings.InRange (s : FeedSettings) : Prop where
  batch : s.batch ≤ Numeral.max64
  timeoutSecs : s.timeoutSecs ≤ Numeral.max64
  initialMillis : s.initialMillis ≤ Numeral.max64
  ceilingMillis : s.ceilingMillis ≤ Numeral.max64
  factor : s.factor ≤ Numeral.max32
  retries : s.retries ≤ Numeral.max32

/-- The defaults are within their ranges. -/
theorem FeedSettings.inRange_default : ({} : FeedSettings).InRange := by
  constructor <;> decide

/-- A number that is there, or else one within the range. -/
theorem getD_le {o : Option Nat} {n bound : Nat} (ho : ∀ x ∈ o, x ≤ bound) (hn : n ≤ bound) :
    o.getD n ≤ bound := by
  cases o with
  | none => exact hn
  | some x => exact ho x rfl

/-- A number that members tell is within the range that it is told for. -/
theorem le_of_taken {name : String} {es : List (String × Value)} {o : Option Nat} {bound n : Nat}
    (h : Taken (IsNatural bound) name es none o) (hn : n ∈ o) : n ≤ bound := by
  obtain rfl := hn
  obtain ⟨v, -, ⟨hle⟩⟩ := h
  exact hle

/-- **The feed's settings that members tell are within their ranges.** -/
theorem FeedSettings.Draft.ToldBy.inRange {es : List (String × Value)} {d : FeedSettings.Draft}
    (h : d.ToldBy es) : d.settings.InRange where
  batch := getD_le (fun _ => le_of_taken h.batch) (by decide)
  timeoutSecs := getD_le (fun _ => le_of_taken h.timeoutSecs) (by decide)
  initialMillis := getD_le (fun _ => le_of_taken h.initialMillis) (by decide)
  ceilingMillis := getD_le (fun _ => le_of_taken h.ceilingMillis) (by decide)
  factor := getD_le (fun _ => le_of_taken h.factor) (by decide)
  retries := getD_le (fun _ => le_of_taken h.retries) (by decide)

namespace Settings

variable {f : Folder} {path : String} {e : Environment} {s : Settings} {l : Layer}

/-- What a file gives is within the ranges. -/
theorem FromFile.inRange (h : FromFile f path l) : l.settings.feed.InRange := by
  cases h with
  | absent => exact FeedSettings.inRange_default
  | document _ _ shape =>
    obtain ⟨es, -, told⟩ := shape
    obtain ⟨-, hfeed⟩ | ⟨v, -, es', -, hfeed⟩ := told.feed
    · rw [Layer.settings, hfeed]
      exact FeedSettings.inRange_default
    · exact hfeed.inRange

/-- A variable is within its range. -/
theorem number?_le {v : NumberVariable} {n : Nat} (h : n ∈ e.number? v) : n ≤ v.bound := by
  obtain ⟨text, -, htext⟩ := Option.bind_eq_some_iff.mp h
  cases hread : Numeral.read v.bound text.toList with
  | error fault =>
    rw [hread] at htext
    cases htext
  | ok m =>
    rw [hread] at htext
    cases htext
    exact Numeral.le_of_read hread

/-- What the environment overrides stays within the ranges. -/
theorem inRange_under (h : s.feed.InRange) (e : Environment) : (s.under e).feed.InRange :=
  { h with
    batch := getD_le (fun _ => number?_le (v := .batch)) h.batch
    timeoutSecs := getD_le (fun _ => number?_le (v := .timeout)) h.timeoutSecs
    retries := getD_le (fun _ => number?_le (v := .retries)) h.retries }

/-- **Settings that load are in order**: their numbers are within their ranges, and nothing is wrong
with them. -/
theorem sound_of_load (h : load f path e = .ok s) : s.feed.InRange ∧ s.fault? = none := by
  obtain ⟨l, layer, -, valid, rfl⟩ := load_eq_ok_iff.mp h
  refine ⟨?_, fault?_eq_none_iff.mpr valid⟩
  rw [l.over_eq]
  exact inRange_under layer.inRange e

/-- Settings with which nothing is wrong let waits grow, and allow the first one. -/
theorem growing_of_fault?_eq_none (h : s.fault? = none) :
    1 ≤ s.feed.factor ∧ s.feed.initialMillis ≤ s.feed.ceilingMillis := by
  obtain ⟨-, -, factor, delays⟩ := fault?_eq_none_iff.mp h
  exact ⟨factor, delays⟩

end Settings

end ChatFeed
