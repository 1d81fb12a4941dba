import ChatFeed.Proofs.Data.Record
import ChatFeed.Settings.Load

/-!
# Proofs/Settings/Document — what a file says of the settings

A file gives a **layer** of settings: each of them may be there or not (`Layer`), and which are is
told by the members of its groups (`Layer.ToldBy`).  A document is of the right shape when it tells
a layer, and **what is read is that layer on top of the defaults** (`Settings.run_iff`).  A file
that is not there gives the empty layer (`FromFile`), and any other one gives a layer or fails.

Every record of the settings is made of slots that may stay empty, so the general statement on such
records does the reading, and each group brings only its names and the values it takes.
-/

namespace ChatFeed

open Data

variable {es : List (String × Value)} {v : Value}

/-! ## What the groups tell -/

/-- **The members that make the bot's settings.** -/
@[mk_iff]
structure BotSettings.Draft.ToldBy (es : List (String × Value)) (d : BotSettings.Draft) : Prop where
  userId : Taken IsText "user_id" es none d.userId
  displayName : Taken IsText "display_name" es none d.displayName
  email : Taken IsText "email" es none d.email

/-- **The members that make the feed's settings**, each a number within its range. -/
@[mk_iff]
structure FeedSettings.Draft.ToldBy (es : List (String × Value)) (d : FeedSettings.Draft) :
    Prop where
  batch : Taken (IsNatural Numeral.max64) "max_batch_size" es none d.batch
  timeoutSecs : Taken (IsNatural Numeral.max64) "read_timeout_secs" es none d.timeoutSecs
  initialMillis : Taken (IsNatural Numeral.max64) "backoff_initial_ms" es none d.initialMillis
  ceilingMillis : Taken (IsNatural Numeral.max64) "backoff_max_ms" es none d.ceilingMillis
  factor : Taken (IsNatural Numeral.max32) "backoff_multiplier" es none d.factor
  retries : Taken (IsNatural Numeral.max32) "max_retries" es none d.retries

/-- **The members that make the log's settings.** -/
@[mk_iff]
structure LogSettings.Draft.ToldBy (es : List (String × Value)) (d : LogSettings.Draft) : Prop where
  json : Taken IsFlag "json" es none d.json
  file : Taken IsFlag "file" es none d.file

/-- **The member that makes the settings of the measurements.** -/
def MetricsToldBy (es : List (String × Value)) (address : Option String) : Prop :=
  Taken IsText "prometheus_addr" es none address

/-- The names of the bot's settings, in order. -/
def BotSettings.names : List String := ["user_id", "display_name", "email"]

/-- The names of the feed's settings, in order. -/
def FeedSettings.names : List String :=
  ["max_batch_size", "read_timeout_secs", "backoff_initial_ms", "backoff_max_ms",
    "backoff_multiplier", "max_retries"]

/-- The names of the log's settings, in order. -/
def LogSettings.names : List String := ["json", "file"]

/-- The names of the groups, in order. -/
def Settings.names : List String := ["bot", "datafeed", "metrics", "logging"]

namespace Settings

/-- **A layer of settings**: those that a file gives, as far as it does. -/
structure Layer where
  bot : BotSettings.Draft := {}
  feed : FeedSettings.Draft := {}
  metricsAddress : Option String := none
  log : LogSettings.Draft := {}

/-- **The members that make a layer**: each group comes once at most, and one that does not come
gives nothing. -/
structure Layer.ToldBy (es : List (String × Value)) (l : Layer) : Prop where
  bot : AtMostOnce (InRecord BotSettings.names BotSettings.Draft.ToldBy) "bot" es {} l.bot
  feed : AtMostOnce (InRecord FeedSettings.names FeedSettings.Draft.ToldBy) "datafeed" es {} l.feed
  metrics : AtMostOnce (InRecord ["prometheus_addr"] MetricsToldBy) "metrics" es none
    l.metricsAddress
  log : AtMostOnce (InRecord LogSettings.names LogSettings.Draft.ToldBy) "logging" es {} l.log

end Settings

/-! ## The records of the groups -/

/-- The places of the bot's draft. -/
def BotSettings.slots : List (Slot BotSettings.Draft) := [
  ⟨"user_id", true, .text, (·.userId), fun v d => { d with userId := some v }⟩,
  ⟨"display_name", true, .text, (·.displayName), fun v d => { d with displayName := some v }⟩,
  ⟨"email", true, .text, (·.email), fun v d => { d with email := some v }⟩]

theorem BotSettings.hasSlots : BotSettings.record.HasSlots BotSettings.slots where
  fields := rfl
  names := by decide
  blank := by simp [BotSettings.slots, BotSettings.record]
  get_put := by simp [BotSettings.slots]
  get_put_other := by simp [BotSettings.slots]
  finish := by simp +contextual [BotSettings.slots, BotSettings.record]

/-- The bot's settings, with the defaults for those that are not there. -/
def BotSettings.Draft.settings (d : BotSettings.Draft) : BotSettings where
  userId := d.userId.getD ""
  displayName := d.displayName
  email := d.email

/-- **A tree is the bot's settings** when it tells them. -/
theorem BotSettings.run_iff {s : BotSettings} : (Pick.record false BotSettings.record).run v = .ok s
    ↔ ∃ d, InRecord BotSettings.names Draft.ToldBy v d ∧ d.settings = s :=
  BotSettings.hasSlots.run_iff (by decide) (fun _ => rfl) fun es d => by
    simp [slots, Draft.toldBy_iff]

/-- The places of the feed's draft. -/
def FeedSettings.slots : List (Slot FeedSettings.Draft) := [
  ⟨"max_batch_size", true, sizeNumber, (·.batch), fun v d => { d with batch := some v }⟩,
  ⟨"read_timeout_secs", true, longNumber, (·.timeoutSecs),
    fun v d => { d with timeoutSecs := some v }⟩,
  ⟨"backoff_initial_ms", true, longNumber, (·.initialMillis),
    fun v d => { d with initialMillis := some v }⟩,
  ⟨"backoff_max_ms", true, longNumber, (·.ceilingMillis),
    fun v d => { d with ceilingMillis := some v }⟩,
  ⟨"backoff_multiplier", true, shortNumber, (·.factor), fun v d => { d with factor := some v }⟩,
  ⟨"max_retries", true, shortNumber, (·.retries), fun v d => { d with retries := some v }⟩]

theorem FeedSettings.hasSlots : FeedSettings.record.HasSlots FeedSettings.slots where
  fields := rfl
  names := by decide
  blank := by simp [FeedSettings.slots, FeedSettings.record]
  get_put := by simp [FeedSettings.slots]
  get_put_other := by simp [FeedSettings.slots]
  finish := by simp +contextual [FeedSettings.slots, FeedSettings.record]

/-- The feed's settings, with the defaults for those that are not there. -/
def FeedSettings.Draft.settings (d : FeedSettings.Draft) : FeedSettings where
  batch := d.batch.getD 100
  timeoutSecs := d.timeoutSecs.getD 30
  initialMillis := d.initialMillis.getD 1000
  ceilingMillis := d.ceilingMillis.getD 60000
  factor := d.factor.getD 2
  retries := d.retries.getD 0

/-- **A tree is the feed's settings** when it tells them. -/
theorem FeedSettings.run_iff {s : FeedSettings} :
    (Pick.record false FeedSettings.record).run v = .ok s
      ↔ ∃ d, InRecord FeedSettings.names Draft.ToldBy v d ∧ d.settings = s :=
  FeedSettings.hasSlots.run_iff (by decide) (fun _ => rfl) fun es d => by
    simp [slots, Draft.toldBy_iff, sizeNumber, longNumber, shortNumber]

/-- The place of the address where measurements are shown. -/
def metricsSlots : List (Slot (Option String)) :=
  [⟨"prometheus_addr", true, .text, id, fun v _ => some v⟩]

theorem metricsHasSlots : metricsRecord.HasSlots metricsSlots where
  fields := rfl
  names := by decide
  blank := by simp [metricsSlots, metricsRecord]
  get_put := by simp [metricsSlots]
  get_put_other := by simp [metricsSlots]
  finish := by simp +contextual [metricsSlots, metricsRecord]

/-- **A tree is the settings of the measurements** when it tells them. -/
theorem metrics_run_iff {address : Option String} :
    (Pick.record false metricsRecord).run v = .ok address
      ↔ ∃ d, InRecord ["prometheus_addr"] MetricsToldBy v d ∧ d = address :=
  metricsHasSlots.run_iff (by decide) (fun _ => rfl) fun es d => by
    simp [metricsSlots, MetricsToldBy]

/-- The places of the log's draft. -/
def LogSettings.slots : List (Slot LogSettings.Draft) := [
  ⟨"json", true, .flag, (·.json), fun v d => { d with json := some v }⟩,
  ⟨"file", true, .flag, (·.file), fun v d => { d with file := some v }⟩]

theorem LogSettings.hasSlots : LogSettings.record.HasSlots LogSettings.slots where
  fields := rfl
  names := by decide
  blank := by simp [LogSettings.slots, LogSettings.record]
  get_put := by simp [LogSettings.slots]
  get_put_other := by simp [LogSettings.slots]
  finish := by simp +contextual [LogSettings.slots, LogSettings.record]

/-- The log's settings, with the defaults for those that are not there. -/
def LogSettings.Draft.settings (d : LogSettings.Draft) : LogSettings where
  json := d.json.getD false
  file := d.file.getD false

/-- **A tree is the log's settings** when it tells them. -/
theorem LogSettings.run_iff {s : LogSettings} : (Pick.record false LogSettings.record).run v = .ok s
    ↔ ∃ d, InRecord LogSettings.names Draft.ToldBy v d ∧ d.settings = s :=
  LogSettings.hasSlots.run_iff (by decide) (fun _ => rfl) fun es d => by
    simp [slots, Draft.toldBy_iff]

/-! ## The whole document -/

namespace Settings

/-- The places of the draft of all settings. -/
def slots : List (Slot Draft) := [
  ⟨"bot", true, .record false BotSettings.record, (·.bot), fun v d => { d with bot := some v }⟩,
  ⟨"datafeed", true, .record false FeedSettings.record, (·.feed),
    fun v d => { d with feed := some v }⟩,
  ⟨"metrics", true, .record false metricsRecord, (·.metrics),
    fun v d => { d with metrics := some v }⟩,
  ⟨"logging", true, .record false LogSettings.record, (·.log),
    fun v d => { d with log := some v }⟩]

theorem hasSlots : record.HasSlots slots where
  fields := rfl
  names := by decide
  blank := by simp [slots, record]
  get_put := by simp [slots]
  get_put_other := by simp [slots]
  finish := by simp +contextual [slots, record]

/-- **The settings of a draft** whose groups are there or not. -/
def Draft.settings (d : Draft) : Settings where
  bot := d.bot.getD {}
  feed := d.feed.getD {}
  metricsAddress := d.metrics.getD none
  log := d.log.getD {}

/-- What the members make of each group of a draft. -/
@[mk_iff]
structure Draft.ToldBy (es : List (String × Value)) (d : Draft) : Prop where
  bot : Taken (Pick.record false BotSettings.record).Gives "bot" es none d.bot
  feed : Taken (Pick.record false FeedSettings.record).Gives "datafeed" es none d.feed
  metrics : Taken (Pick.record false metricsRecord).Gives "metrics" es none d.metrics
  log : Taken (Pick.record false LogSettings.record).Gives "logging" es none d.log

theorem draft_run_iff {s : Settings} : (Pick.record false record).run v = .ok s
    ↔ ∃ d, InRecord names Draft.ToldBy v d ∧ d.settings = s := by
  have hfinish : ∀ d, record.finish d = .ok d.settings := by
    rintro ⟨_, _, _ | _, _⟩ <;> rfl
  refine hasSlots.run_iff (by decide) hfinish fun es d => ?_
  simp [slots, Draft.toldBy_iff]

/-- **The settings of a layer**, with the defaults for those that it does not give. -/
def Layer.settings (l : Layer) : Settings where
  bot := l.bot.settings
  feed := l.feed.settings
  metricsAddress := l.metricsAddress
  log := l.log.settings

/-- What the members of a group make of it, or else its default. -/
theorem group_iff {δ ρ : Type} {r : Record Pick δ ρ} {names : List String} {name : String}
    {told : List (String × Value) → δ → Prop} {make : δ → ρ} {blank : δ} {a : ρ}
    (h : ∀ {v a}, (Pick.record false r).run v = .ok a
      ↔ ∃ d, InRecord names told v d ∧ make d = a) :
    (∃ o, Taken (Pick.record false r).Gives name es none o ∧ o.getD (make blank) = a)
      ↔ ∃ d, AtMostOnce (InRecord names told) name es blank d ∧ make d = a :=
  atMostOnce_iff.symm.trans (atMostOnce_made_iff fun _ _ => h)

/-- The drafts and the layers that members tell come to the same settings. -/
theorem exists_draft_iff {s : Settings} : (∃ d : Draft, d.ToldBy es ∧ d.settings = s)
    ↔ ∃ l : Layer, l.ToldBy es ∧ l.settings = s := by
  constructor
  · rintro ⟨d, h, rfl⟩
    obtain ⟨bot, hbot, hbots⟩ := (group_iff BotSettings.run_iff).mp ⟨_, h.bot, rfl⟩
    obtain ⟨feed, hfeed, hfeeds⟩ := (group_iff FeedSettings.run_iff).mp ⟨_, h.feed, rfl⟩
    obtain ⟨address, hmetrics, rfl⟩ := (group_iff metrics_run_iff).mp ⟨_, h.metrics, rfl⟩
    obtain ⟨log, hlog, hlogs⟩ := (group_iff LogSettings.run_iff).mp ⟨_, h.log, rfl⟩
    refine ⟨⟨bot, feed, _, log⟩, ⟨hbot, hfeed, hmetrics, hlog⟩, ?_⟩
    rw [Layer.settings, hbots, hfeeds, hlogs]
    rfl
  · rintro ⟨l, h, rfl⟩
    obtain ⟨bot, hbot, hbots⟩ := (group_iff BotSettings.run_iff).mpr ⟨_, h.bot, rfl⟩
    obtain ⟨feed, hfeed, hfeeds⟩ := (group_iff FeedSettings.run_iff).mpr ⟨_, h.feed, rfl⟩
    obtain ⟨metrics, hmetrics, haddress⟩ := (group_iff metrics_run_iff).mpr ⟨_, h.metrics, rfl⟩
    obtain ⟨log, hlog, hlogs⟩ := (group_iff LogSettings.run_iff).mpr ⟨_, h.log, rfl⟩
    refine ⟨⟨bot, feed, metrics, log⟩, ⟨hbot, hfeed, hmetrics, hlog⟩, ?_⟩
    rw [Layer.settings, ← hbots, ← hfeeds, ← hlogs, ← haddress]
    rfl

/-- **A tree is settings when it tells a layer of them**, and then they are that layer's. -/
theorem run_iff {s : Settings} : (Pick.record false record).run v = .ok s
    ↔ ∃ l, InRecord names Layer.ToldBy v l ∧ l.settings = s := by
  rw [draft_run_iff]
  constructor
  · rintro ⟨d, ⟨es, hes, htold⟩, hd⟩
    obtain ⟨l, hl, hs⟩ := exists_draft_iff.mp ⟨d, htold, hd⟩
    exact ⟨l, ⟨es, hes, hl⟩, hs⟩
  · rintro ⟨l, ⟨es, hes, htold⟩, hl⟩
    obtain ⟨d, hd, hs⟩ := exists_draft_iff.mpr ⟨l, htold, hl⟩
    exact ⟨d, ⟨es, hes, hd⟩, hs⟩

/-! ## Files -/

variable {f : Folder} {path : String} {s : Settings} {error : SettingsError}

/-- **A file gives a layer**: none at all when it is not there, and otherwise the one that its
document tells. -/
inductive FromFile (f : Folder) (path : String) : Layer → Prop
  | absent (absent : f.has path = false) : FromFile f path {}
  | document {text : String} {v : Value} {l : Layer} (read : f.read path = .ok text)
      (tree : Toml.read text = some v) (shape : InRecord names Layer.ToldBy v l) :
      FromFile f path l

/-- **A file fails**: it cannot be read, is no document, or is one that tells no layer. -/
inductive FileFails (f : Folder) (path : String) : SettingsError → Prop
  | unreadable {fault : StorageFault} (there : f.has path = true)
      (read : f.read path = .error fault) : FileFails f path (.unreadable path fault)
  | notToml {text : String} (read : f.read path = .ok text) (tree : Toml.read text = none) :
      FileFails f path (.unparsable path .notToml)
  | misshapen {text : String} {v : Value} {cause : Mismatch} (read : f.read path = .ok text)
      (tree : Toml.read text = some v) (shape : ∀ l, ¬ InRecord names Layer.ToldBy v l)
      (told : (Pick.record false record).run v = .error cause) :
      FileFails f path (.unparsable path (.mismatch cause))

/-- A file that is read is there. -/
theorem has_of_read {text : String} (h : f.read path = .ok text) : f.has path = true := by
  rw [Folder.read] at h
  rw [Folder.has]
  cases hnode : f.node? path with
  | none =>
    rw [hnode] at h
    cases h
  | some node => rfl

theorem FromFile.ofFile_eq {l : Layer} (h : FromFile f path l) :
    ofFile f path = .ok l.settings := by
  cases h with
  | absent absent =>
    rw [ofFile, if_neg (by simp [absent])]
    rfl
  | document read tree shape =>
    have hrun := run_iff.mpr ⟨l, shape, rfl⟩
    simp [ofFile, has_of_read read, read, Settings.read, tree, hrun]

theorem FileFails.ofFile_eq (h : FileFails f path error) : ofFile f path = .error error := by
  cases h with
  | unreadable there read => simp [ofFile, there, read]
  | notToml read tree => simp [ofFile, has_of_read read, read, Settings.read, tree]
  | misshapen read tree shape told =>
    simp [ofFile, has_of_read read, read, Settings.read, tree, told]

/-- **A file gives a layer or fails.** -/
theorem fromFile_or_fails (f : Folder) (path : String) :
    (∃ l, FromFile f path l) ∨ ∃ error, FileFails f path error := by
  cases hthere : f.has path with
  | false => exact .inl ⟨_, .absent hthere⟩
  | true =>
    cases hread : f.read path with
    | error fault => exact .inr ⟨_, .unreadable hthere hread⟩
    | ok text =>
      cases htree : Toml.read text with
      | none => exact .inr ⟨_, .notToml hread htree⟩
      | some v =>
        cases hrun : (Pick.record false record).run v with
        | ok s =>
          obtain ⟨l, hl, -⟩ := run_iff.mp hrun
          exact .inl ⟨l, .document hread htree hl⟩
        | error cause =>
          refine .inr ⟨_, .misshapen hread htree (fun l hl => ?_) hrun⟩
          cases hrun.symm.trans (run_iff.mpr ⟨l, hl, rfl⟩)

end Settings

end ChatFeed
