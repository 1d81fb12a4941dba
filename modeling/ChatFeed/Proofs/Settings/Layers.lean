import ChatFeed.Proofs.Number.Numeral
import ChatFeed.Proofs.Settings.Document

/-!
# Proofs/Settings/Layers — settings come in layers

Each setting has up to three layers: the variable that overrides it, the file, and its default.
**The first layer that has the setting counts** (`Layer.over`), and what is checked is what has come
of all layers: the file alone is never judged.

Loading goes through stages in a fixed order (`Stage.all`), and is told by the first one that fails
(`First`).  So settings load exactly if no stage fails, and then they are the layers put together
(`load_layer_by_layer`).
-/

namespace ChatFeed

/-! ## Variables -/

/-- The number that a variable is, when it is set to one within its range. -/
def Environment.number? (e : Environment) (v : NumberVariable) : Option Nat :=
  (e.get? v.name).bind fun text => (Numeral.read v.bound text.toList).toOption

/-- An environment with a variable set. -/
def Environment.set (e : Environment) (name value : String) : Environment :=
  { e with entries := (name, value) :: e.entries }

/-- **A variable is in order**: it is not set, or it is the numeral of a number within its range. -/
def NumberVariable.Fits (v : NumberVariable) (e : Environment) : Prop :=
  ∀ text, e.get? v.name = some text →
    ∃ n, Numeral.IsNumeral text.toList n ∧ n ≤ v.bound ∧ e.number? v = some n

namespace Settings

variable {f : Folder} {path : String} {e e' : Environment} {v : NumberVariable} {s : Settings}
  {l l' : Layer} {error error' : SettingsError}

theorem fits_of_unset (h : e.get? v.name = none) : v.Fits e := by
  intro text htext
  cases h.symm.trans htext

theorem fits_of_read {text : String} {n : Nat} (hget : e.get? v.name = some text)
    (hread : Numeral.read v.bound text.toList = .ok n) : v.Fits e ∧ e.number? v = some n := by
  have hnumber : e.number? v = some n := by
    simp [Environment.number?, hget, hread, Except.toOption]
  refine ⟨fun text' h => ?_, hnumber⟩
  obtain rfl := Option.some.inj (hget.symm.trans h)
  obtain ⟨hnumeral, hle⟩ := Numeral.read_eq_ok_iff.mp hread
  exact ⟨n, hnumeral, hle, hnumber⟩

/-- Only the variable itself makes a difference. -/
theorem fits_congr (h : e'.get? v.name = e.get? v.name) : v.Fits e' ↔ v.Fits e := by
  rw [NumberVariable.Fits, NumberVariable.Fits, Environment.number?, Environment.number?, h]

/-! ## Layers put together -/

/-- **A layer below the environment and above the defaults.** -/
def Layer.over (l : Layer) (e : Environment) : Settings where
  bot := {
    userId := ((e.get? "SYMPHONY_BOT_USER_ID").or l.bot.userId).getD ""
    displayName := (e.get? "SYMPHONY_BOT_DISPLAY_NAME").or l.bot.displayName
    email := l.bot.email }
  feed := {
    batch := ((e.number? .batch).or l.feed.batch).getD 100
    timeoutSecs := ((e.number? .timeout).or l.feed.timeoutSecs).getD 30
    initialMillis := l.feed.initialMillis.getD 1000
    ceilingMillis := l.feed.ceilingMillis.getD 60000
    factor := l.feed.factor.getD 2
    retries := ((e.number? .retries).or l.feed.retries).getD 0 }
  metricsAddress := (e.get? "SYMPHONY_PROMETHEUS_ADDR").or l.metricsAddress
  log := { json := l.log.json.getD false, file := l.log.file.getD false }

/-- Settings below the environment, wherever they come from. -/
def under (s : Settings) (e : Environment) : Settings where
  bot := { s.bot with
    userId := (e.get? "SYMPHONY_BOT_USER_ID").getD s.bot.userId
    displayName := (e.get? "SYMPHONY_BOT_DISPLAY_NAME").or s.bot.displayName }
  feed := { s.feed with
    batch := (e.number? .batch).getD s.feed.batch
    timeoutSecs := (e.number? .timeout).getD s.feed.timeoutSecs
    retries := (e.number? .retries).getD s.feed.retries }
  metricsAddress := (e.get? "SYMPHONY_PROMETHEUS_ADDR").or s.metricsAddress
  log := s.log

theorem Layer.over_eq (l : Layer) (e : Environment) : l.over e = l.settings.under e := by
  simp only [Layer.over, under, settings, BotSettings.Draft.settings, FeedSettings.Draft.settings,
    LogSettings.Draft.settings, Option.getD_or]

/-- A file gives one layer only, as far as settings go. -/
theorem FromFile.over_eq (h : FromFile f path l) (h' : FromFile f path l') (e : Environment) :
    l.over e = l'.over e := by
  have hsettings : l.settings = l'.settings := Except.ok.inj (h.ofFile_eq.symm.trans h'.ofFile_eq)
  rw [l.over_eq, l'.over_eq, hsettings]

/-- **Settings are valid.** -/
structure Valid (s : Settings) : Prop where
  user : ∃ c ∈ s.bot.userId.toList, Text.isBlank c = false
  batch : 1 ≤ s.feed.batch
  factor : 1 ≤ s.feed.factor
  delays : s.feed.initialMillis ≤ s.feed.ceilingMillis

/-! ## Stages -/

/-- **The stages of loading.** -/
inductive Stage
  | file
  | number (v : NumberVariable)
  | user
  | batch
  | factor
  | delays

/-- All stages, in order. -/
def Stage.all : List Stage :=
  [.file, .number .batch, .number .timeout, .number .retries, .user, .batch, .factor, .delays]

/-- **Something is wrong with settings** at a stage that checks them. -/
@[mk_iff]
inductive Wrong (s : Settings) : Stage → SettingsError → Prop
  | user (blank : ∀ c ∈ s.bot.userId.toList, Text.isBlank c = true) : Wrong s .user .noUser
  | batch (zero : s.feed.batch = 0) : Wrong s .batch .noBatch
  | factor (zero : s.feed.factor = 0) : Wrong s .factor .noFactor
  | delays (low : s.feed.ceilingMillis < s.feed.initialMillis) :
      Wrong s .delays (.ceilingTooLow s.feed.initialMillis s.feed.ceilingMillis)

/-- **A stage fails**, and with which error; what is checked is what has come of all layers. -/
inductive Stage.Fails (f : Folder) (path : String) (e : Environment) : Stage → SettingsError → Prop
  | file {error : SettingsError} (fails : FileFails f path error) : Fails f path e .file error
  | number {v : NumberVariable} {text : String} {fault : Numeral.Fault}
      (given : e.get? v.name = some text)
      (bad : ∀ n, Numeral.IsNumeral text.toList n → v.bound < n)
      (told : Numeral.read v.bound text.toList = .error fault) :
      Fails f path e (.number v) (.badNumber v text fault)
  | check {l : Layer} {stage : Stage} {error : SettingsError} (layer : FromFile f path l)
      (wrong : (l.over e).Wrong stage error) : Fails f path e stage error

/-- **The first stage that fails** tells the error. -/
inductive First (fails : Stage → SettingsError → Prop) : List Stage → SettingsError → Prop
  | here {stage : Stage} {rest : List Stage} {error : SettingsError} (h : fails stage error) :
      First fails (stage :: rest) error
  | later {stage : Stage} {rest : List Stage} {error : SettingsError}
      (passes : ∀ error, ¬ fails stage error) (h : First fails rest error) :
      First fails (stage :: rest) error

theorem not_first_nil {fails : Stage → SettingsError → Prop} : ¬ First fails [] error := nofun

theorem first_cons_iff {fails : Stage → SettingsError → Prop} {stage : Stage} {rest : List Stage} :
    First fails (stage :: rest) error
      ↔ fails stage error ∨ (∀ error, ¬ fails stage error) ∧ First fails rest error := by
  constructor
  · intro h
    cases h with
    | here h => exact .inl h
    | later passes h => exact .inr ⟨passes, h⟩
  · rintro (h | ⟨passes, h⟩)
    · exact .here h
    · exact .later passes h

theorem Wrong.unique {stage : Stage} (h : s.Wrong stage error) (h' : s.Wrong stage error') :
    error = error' := by
  cases h <;> cases h' <;> rfl

/-- A stage fails in one way only. -/
theorem Stage.Fails.unique {stage : Stage} (h : stage.Fails f path e error)
    (h' : stage.Fails f path e error') : error = error' := by
  cases h with
  | file fails =>
    cases h' with
    | file fails' => exact Except.error.inj (fails.ofFile_eq.symm.trans fails'.ofFile_eq)
    | check _ wrong => cases wrong
  | number given _ told =>
    cases h' with
    | number given' _ told' =>
      obtain rfl := Option.some.inj (given.symm.trans given')
      obtain rfl := Except.error.inj (told.symm.trans told')
      rfl
    | check _ wrong => cases wrong
  | check layer wrong =>
    cases h' with
    | file => cases wrong
    | number => cases wrong
    | check layer' wrong' => exact wrong.unique (layer'.over_eq layer e ▸ wrong')

/-- There is one first stage that fails at most. -/
theorem First.unique {stages : List Stage} (h : First (Stage.Fails f path e) stages error)
    (h' : First (Stage.Fails f path e) stages error') : error = error' := by
  induction h with
  | here h =>
    cases h' with
    | here h' => exact h.unique h'
    | later passes' => exact absurd h (passes' _)
  | later passes _ ih =>
    cases h' with
    | here h' => exact absurd h' (passes _)
    | later _ h' => exact ih h'

/-- The first stage that fails is one that fails. -/
theorem First.exists_fails {fails : Stage → SettingsError → Prop} {stages : List Stage}
    (h : First fails stages error) : ∃ stage, fails stage error := by
  induction h with
  | here h => exact ⟨_, h⟩
  | later _ _ ih => exact ih

/-! ## What the stages do -/

/-- A variable is in order, and yields its number if it is set, or else its stage fails. -/
theorem numberOf_cases (f : Folder) (path : String) (e : Environment) (v : NumberVariable) :
    (v.Fits e ∧ ∀ value, numberOf e v value = .ok ((e.number? v).getD value))
      ∨ ∃ error, (Stage.number v).Fails f path e error
        ∧ ∀ value, numberOf e v value = .error error := by
  cases hget : e.get? v.name with
  | none =>
    refine .inl ⟨fits_of_unset hget, fun value => ?_⟩
    simp [numberOf, Environment.number?, hget]
  | some text =>
    cases hread : Numeral.read v.bound text.toList with
    | ok n =>
      obtain ⟨fits, hnumber⟩ := fits_of_read hget hread
      refine .inl ⟨fits, fun value => ?_⟩
      simp [numberOf, hget, hread, hnumber]
    | error fault =>
      refine .inr ⟨_, .number hget (fun n hn => ?_) hread, fun value => ?_⟩
      · refine Nat.lt_of_not_le fun hle => ?_
        cases hread.symm.trans (Numeral.read_eq_ok_iff.mpr ⟨hn, hle⟩)
      · simp [numberOf, hget, hread]

/-- A variable that is in order does not fail. -/
theorem not_fails_of_fits (h : v.Fits e) (error : SettingsError) :
    ¬ (Stage.number v).Fails f path e error := by
  intro hfails
  cases hfails with
  | number given bad told =>
    obtain ⟨n, hnumeral, hle, -⟩ := h _ given
    exact absurd (bad n hnumeral) (Nat.not_lt.mpr hle)
  | check _ wrong => cases wrong

/-- A file that gives a layer does not fail. -/
theorem FromFile.not_fails (layer : FromFile f path l) (error : SettingsError) :
    ¬ Stage.file.Fails f path e error := by
  intro hfails
  cases hfails with
  | file fails => cases layer.ofFile_eq.symm.trans fails.ofFile_eq
  | check _ wrong => cases wrong

/-- **The stages of the variables**: all are in order and override what they have to, or the first
that fails tells the error. -/
theorem override_cases (f : Folder) (path : String) (s : Settings) (e : Environment) :
    ((∀ v : NumberVariable, v.Fits e) ∧ s.override e = .ok (s.under e))
      ∨ ∃ error, (∀ rest, First (Stage.Fails f path e)
          (.number .batch :: .number .timeout :: .number .retries :: rest) error)
        ∧ s.override e = .error error := by
  simp only [override, bind, Except.bind]
  obtain ⟨hbatch, hb⟩ | ⟨error, hfails, hb⟩ := numberOf_cases f path e .batch
  · obtain ⟨htimeout, ht⟩ | ⟨error, hfails, ht⟩ := numberOf_cases f path e .timeout
    · obtain ⟨hretries, hr⟩ | ⟨error, hfails, hr⟩ := numberOf_cases f path e .retries
      · refine .inl ⟨fun v => ?_, by simp only [hb, ht, hr]; rfl⟩
        cases v
        exacts [hbatch, htimeout, hretries]
      · refine .inr ⟨error, fun rest => ?_, by simp only [hb, ht, hr]⟩
        exact .later (not_fails_of_fits hbatch) (.later (not_fails_of_fits htimeout) (.here hfails))
    · refine .inr ⟨error, fun rest => ?_, by simp only [hb, ht]⟩
      exact .later (not_fails_of_fits hbatch) (.here hfails)
  · exact .inr ⟨error, fun rest => .here hfails, by simp only [hb]⟩

theorem allBlank_iff {text : String} :
    Text.allBlank text = true ↔ ∀ c ∈ text.toList, Text.isBlank c = true := List.all_eq_true

/-- **The checks tell the first thing that is wrong.** -/
theorem fault?_eq_some_iff :
    s.fault? = some error ↔ First s.Wrong [.user, .batch, .factor, .delays] error := by
  rw [@eq_comm _ _ (some error), fault?]
  simp only [first_cons_iff, not_first_nil, wrong_iff, ← allBlank_iff]
  split_ifs <;> simp [*]

/-- **The checks tell nothing of valid settings**, and of no others. -/
theorem fault?_eq_none_iff : s.fault? = none ↔ s.Valid := by
  have huser : ¬ Text.allBlank s.bot.userId = true
      ↔ ∃ c ∈ s.bot.userId.toList, Text.isBlank c = false := by simp [allBlank_iff]
  unfold fault?
  constructor
  · intro h
    split_ifs at h with hblank hbatch hfactor hdelays
    exact ⟨huser.mp hblank, Nat.pos_of_ne_zero hbatch, Nat.pos_of_ne_zero hfactor,
      Nat.le_of_not_lt hdelays⟩
  · rintro ⟨user, batch, factor, delays⟩
    rw [if_neg (huser.mpr user), if_neg (Nat.ne_zero_of_lt batch),
      if_neg (Nat.ne_zero_of_lt factor), if_neg (Nat.not_lt.mpr delays)]

/-- Checks fail as stages when something is wrong with the layers put together. -/
theorem First.of_wrong {stages : List Stage} (layer : FromFile f path l)
    (h : First (l.over e).Wrong stages error)
    (checks : ∀ stage ∈ stages, stage ≠ .file ∧ ∀ v, stage ≠ .number v) :
    First (Stage.Fails f path e) stages error := by
  induction h with
  | here h => exact .here (.check layer h)
  | later passes _ ih =>
    obtain ⟨hcheck, hrest⟩ := List.forall_mem_cons.mp checks
    refine .later (fun error hfails => ?_) (ih hrest)
    cases hfails with
    | file => exact hcheck.1 rfl
    | number => exact hcheck.2 _ rfl
    | check layer' wrong => exact passes error (layer'.over_eq layer e ▸ wrong)

/-- Where the file gives a layer and all variables are in order, the first check that fails is the
first stage. -/
theorem First.of_checks (h : First (l.over e).Wrong [.user, .batch, .factor, .delays] error)
    (layer : FromFile f path l) (fits : ∀ v : NumberVariable, v.Fits e) :
    First (Stage.Fails f path e) Stage.all error := by
  have hnumber : ∀ v error, ¬ (Stage.number v).Fails f path e error := fun v =>
    not_fails_of_fits (fits v)
  exact .later layer.not_fails <| .later (hnumber _) <| .later (hnumber _) <|
    .later (hnumber _) <| .of_wrong layer h (by simp)

/-! ## Loading -/

/-- Settings load when the file gives a layer and nothing is wrong with it below the environment. -/
theorem load_cases (f : Folder) (path : String) (e : Environment) :
    (∃ l, FromFile f path l ∧ (∀ v : NumberVariable, v.Fits e) ∧ (l.over e).Valid
        ∧ load f path e = .ok (l.over e))
      ∨ ∃ error, First (Stage.Fails f path e) Stage.all error ∧ load f path e = .error error := by
  obtain ⟨l, layer⟩ | ⟨error, hfile⟩ := fromFile_or_fails f path
  · obtain ⟨fits, hover⟩ | ⟨error, hfirst, hover⟩ := override_cases f path l.settings e
    · rw [← l.over_eq] at hover
      cases hfault : (l.over e).fault? with
      | none =>
        refine .inl ⟨l, layer, fits, fault?_eq_none_iff.mp hfault, ?_⟩
        simp [load, layer.ofFile_eq, hover, hfault, bind, Except.bind]
      | some error =>
        refine .inr ⟨error, (fault?_eq_some_iff.mp hfault).of_checks layer fits, ?_⟩
        simp [load, layer.ofFile_eq, hover, hfault, bind, Except.bind]
    · refine .inr ⟨error, .later layer.not_fails (hfirst _), ?_⟩
      simp [load, layer.ofFile_eq, hover, bind, Except.bind]
  · refine .inr ⟨error, .here (.file hfile), ?_⟩
    simp [load, hfile.ofFile_eq, bind, Except.bind]

theorem Valid.not_wrong (h : s.Valid) (stage : Stage) (error : SettingsError) :
    ¬ s.Wrong stage error := by
  intro hwrong
  cases hwrong with
  | user blank =>
    obtain ⟨c, hc, hvisible⟩ := h.user
    rw [blank c hc] at hvisible
    cases hvisible
  | batch zero => exact absurd h.batch (by omega)
  | factor zero => exact absurd h.factor (by omega)
  | delays low => exact absurd h.delays (Nat.not_le.mpr low)

/-- Where all is in order, no stage fails. -/
theorem not_fails (layer : FromFile f path l) (fits : ∀ v : NumberVariable, v.Fits e)
    (valid : (l.over e).Valid) (stage : Stage) (error : SettingsError) :
    ¬ stage.Fails f path e error := by
  intro hfails
  have hstage := hfails
  cases hfails with
  | file => exact layer.not_fails error hstage
  | number => exact not_fails_of_fits (fits _) _ hstage
  | check layer' wrong => exact valid.not_wrong stage error (layer'.over_eq layer e ▸ wrong)

/-- **Settings load exactly when all is in order**, and as the layers put together. -/
theorem load_eq_ok_iff : load f path e = .ok s ↔ ∃ l, FromFile f path l
    ∧ (∀ v : NumberVariable, v.Fits e) ∧ (l.over e).Valid ∧ s = l.over e := by
  obtain ⟨l, layer, fits, valid, hload⟩ | ⟨error, hfirst, hload⟩ := load_cases f path e
  · rw [hload, Except.ok.injEq]
    constructor
    · rintro rfl
      exact ⟨l, layer, fits, valid, rfl⟩
    · rintro ⟨l', layer', -, -, rfl⟩
      exact layer.over_eq layer' e
  · rw [hload]
    refine iff_of_false nofun ?_
    rintro ⟨l, layer, fits, valid, -⟩
    obtain ⟨stage, hfails⟩ := hfirst.exists_fails
    exact not_fails layer fits valid stage error hfails

/-- **Loading fails exactly with the first stage that fails.** -/
theorem load_eq_error_iff :
    load f path e = .error error ↔ First (Stage.Fails f path e) Stage.all error := by
  obtain ⟨l, layer, fits, valid, hload⟩ | ⟨error', hfirst, hload⟩ := load_cases f path e
  · rw [hload]
    refine iff_of_false nofun fun hfirst => ?_
    obtain ⟨stage, hfails⟩ := hfirst.exists_fails
    exact not_fails layer fits valid stage error hfails
  · rw [hload, Except.error.injEq]
    exact ⟨fun h => h ▸ hfirst, fun h => hfirst.unique h⟩

/-! ## Mending and spoiling -/

theorem get?_set_self (e : Environment) (name value : String) :
    (e.set name value).get? name = some value := by
  simp [Environment.set, Environment.get?]

theorem get?_set_of_ne {name other : String} (h : other ≠ name) (e : Environment)
    (value : String) : (e.set name value).get? other = e.get? other := by
  have hother : (other == name) = false := by simpa using h
  simp [Environment.set, Environment.get?, List.lookup_cons, hother]

/-- **Every layer can be mended** of which the values are valid that no variable overrides. -/
theorem exists_load_of_layer (layer : FromFile f path l) (factor : 1 ≤ l.settings.feed.factor)
    (delays : l.settings.feed.initialMillis ≤ l.settings.feed.ceilingMillis) :
    ∃ e s, load f path e = .ok s := by
  let e : Environment :=
    ⟨[("SYMPHONY_BOT_USER_ID", "bot"), ("SYMPHONY_DATAFEED_MAX_BATCH_SIZE", "1")], none⟩
  obtain ⟨hbatch, hnumber⟩ : NumberVariable.batch.Fits e ∧ e.number? .batch = some 1 :=
    fits_of_read rfl (by decide)
  have fits : ∀ v : NumberVariable, v.Fits e := by
    rintro (_ | _ | _)
    · exact hbatch
    · exact fits_of_unset (by decide)
    · exact fits_of_unset (by decide)
  have valid : (l.over e).Valid := by
    refine ⟨⟨'b', ?_, by decide⟩, ?_, factor, delays⟩
    · change 'b' ∈ "bot".toList
      decide
    · simp [Layer.over, hnumber]
  exact ⟨e, _, load_eq_ok_iff.mpr ⟨l, layer, fits, valid, rfl⟩⟩

/-- **A variable can spoil the user.** -/
theorem load_of_blank_user (h : load f path e = .ok s) :
    load f path (e.set "SYMPHONY_BOT_USER_ID" " ") = .error .noUser := by
  obtain ⟨l, layer, fits, -, -⟩ := load_eq_ok_iff.mp h
  have hblank : (l.over (e.set "SYMPHONY_BOT_USER_ID" " ")).bot.userId = " " := by
    simp [Layer.over, get?_set_self]
  refine load_eq_error_iff.mpr (First.of_checks (.here (.user ?_)) layer fun v => ?_)
  · rw [hblank]
    exact allBlank_iff.mp rfl
  · refine (fits_congr (get?_set_of_ne ?_ e " ")).mpr (fits v)
    cases v <;> decide

/-- **A variable can spoil the size of batches.** -/
theorem load_of_zero_batch (h : load f path e = .ok s) :
    load f path (e.set "SYMPHONY_DATAFEED_MAX_BATCH_SIZE" "0") = .error .noBatch := by
  obtain ⟨l, layer, fits, valid, -⟩ := load_eq_ok_iff.mp h
  let e' := e.set "SYMPHONY_DATAFEED_MAX_BATCH_SIZE" "0"
  obtain ⟨hbatch, hnumber⟩ : NumberVariable.batch.Fits e' ∧ e'.number? .batch = some 0 :=
    fits_of_read (get?_set_self e _ "0") (by decide)
  have hother : ∀ {name}, name ≠ "SYMPHONY_DATAFEED_MAX_BATCH_SIZE" →
      e'.get? name = e.get? name := fun hname => get?_set_of_ne hname e "0"
  have huser : (l.over e').bot.userId = (l.over e).bot.userId := by
    simp only [Layer.over, hother (by decide : "SYMPHONY_BOT_USER_ID" ≠ _)]
  have hzero : (l.over e').feed.batch = 0 := by simp [Layer.over, hnumber]
  have hpasses : ∀ error, ¬ (l.over e').Wrong .user error := fun error hwrong => by
    cases hwrong with
    | user blank => exact valid.not_wrong .user _ (.user (huser ▸ blank))
  refine load_eq_error_iff.mpr
    (First.of_checks (.later hpasses (.here (.batch hzero))) layer fun v => ?_)
  cases v with
  | batch => exact hbatch
  | timeout => exact (fits_congr (hother (by decide))).mpr (fits .timeout)
  | retries => exact (fits_congr (hother (by decide))).mpr (fits .retries)

/-- **The layers put together load or fail as a whole**, whatever the file and the environment.

* Settings load exactly if the file gives a layer, every variable that has to be a number is one
  within its range if it is set, and what comes of all layers is valid.  They are, field by field,
  what the variable says, or else the file, or else the default.
* An error is that of the first stage that fails.
* Of a file some environment can be found with which it loads exactly if the values that no variable
  overrides are valid; so what is wrong with the others can be mended.
* Settings that load fail once a variable spoils the user or the size of batches.
* What no variable overrides is the same in every environment. -/
theorem load_layer_by_layer (f : Folder) (path : String) :
    (∀ e s, load f path e = .ok s ↔ ∃ l, FromFile f path l
      ∧ (∀ v : NumberVariable, v.Fits e) ∧ (l.over e).Valid ∧ s = l.over e)
    ∧ (∀ e error, load f path e = .error error ↔ First (Stage.Fails f path e) Stage.all error)
    ∧ ((∃ e s, load f path e = .ok s) ↔ ∃ l, FromFile f path l ∧ 1 ≤ l.settings.feed.factor
      ∧ l.settings.feed.initialMillis ≤ l.settings.feed.ceilingMillis)
    ∧ (∀ e s, load f path e = .ok s →
      load f path (e.set "SYMPHONY_BOT_USER_ID" " ") = .error .noUser
        ∧ load f path (e.set "SYMPHONY_DATAFEED_MAX_BATCH_SIZE" "0") = .error .noBatch)
    ∧ ∀ e s e' s', load f path e = .ok s → load f path e' = .ok s' →
      s.bot.email = s'.bot.email ∧ s.feed.initialMillis = s'.feed.initialMillis
        ∧ s.feed.ceilingMillis = s'.feed.ceilingMillis ∧ s.feed.factor = s'.feed.factor
        ∧ s.log = s'.log := by
  refine ⟨fun e s => load_eq_ok_iff, fun e error => load_eq_error_iff, ⟨?_, ?_⟩,
    fun e s h => ⟨load_of_blank_user h, load_of_zero_batch h⟩, ?_⟩
  · rintro ⟨e, s, h⟩
    obtain ⟨l, layer, -, valid, -⟩ := load_eq_ok_iff.mp h
    exact ⟨l, layer, valid.factor, valid.delays⟩
  · rintro ⟨l, layer, factor, delays⟩
    exact exists_load_of_layer layer factor delays
  · intro e s e' s' h h'
    obtain ⟨l, layer, -, -, rfl⟩ := load_eq_ok_iff.mp h
    obtain ⟨l', layer', -, -, rfl⟩ := load_eq_ok_iff.mp h'
    rw [layer.over_eq layer' e]
    exact ⟨rfl, rfl, rfl, rfl, rfl⟩

/-- A file whose user is blank and whose batches are empty, with a list in the place of a group: two
variables mend it, and one of them spoils it again. -/
theorem load_layer_by_layer_of_mended_file :
    let text := "metrics = [\"a:1\"]\n[bot]\nuser_id = \" \"\n[datafeed]\nmax_batch_size = 0\n"
      ++ "backoff_multiplier = 3\n"
    let f := ({} : Folder).plant "c.toml" (.file (.text text))
    let e := (({} : Environment).set "SYMPHONY_BOT_USER_ID" "x").set
      "SYMPHONY_DATAFEED_MAX_BATCH_SIZE" "+7"
    let s : Settings := {
      bot := { userId := "x" }
      feed := { batch := 7, factor := 3 }
      metricsAddress := some "a:1" }
    (load f "c.toml" {}).toOption = none ∧ load f "c.toml" e = .ok s
      ∧ (∃ l, FromFile f "c.toml" l ∧ (l.over e).Valid ∧ s = l.over e)
      ∧ load f "c.toml" (e.set "SYMPHONY_DATAFEED_MAX_BATCH_SIZE" "0") = .error .noBatch := by
  intro text f e s
  have hsome : (load f "c.toml" e).toOption = some s := by decide +kernel
  have hload : load f "c.toml" e = .ok s := by
    cases hcase : load f "c.toml" e with
    | error error =>
      rw [hcase] at hsome
      cases hsome
    | ok s' =>
      rw [hcase] at hsome
      exact congrArg _ (Option.some.inj hsome)
  obtain ⟨hok, -, -, hspoil, -⟩ := load_layer_by_layer f "c.toml"
  obtain ⟨l, layer, -, valid, hs⟩ := (hok e s).mp hload
  exact ⟨by decide +kernel, hload, ⟨l, layer, valid, hs⟩, (hspoil e s hload).2⟩

end Settings

end ChatFeed
