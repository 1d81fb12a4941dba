import ChatFeed.Data.Record
import ChatFeed.Settings.Basic
import ChatFeed.Toml.Document

/-!
# Settings/Document — settings from a text

The text is TOML with a table for each group of settings.  Whatever is not there has its default,
and names that are not known are ignored.
-/

namespace ChatFeed

open Data

/-- What has been read of the bot's settings. -/
structure BotSettings.Draft where
  userId : Option String := none
  displayName : Option String := none
  email : Option String := none

/-- The settings of the bot. -/
def BotSettings.record : Record Pick BotSettings.Draft BotSettings where
  label := "struct BotConfig"
  blank := {}
  fields := [
    ⟨"user_id", true, (·.userId.isSome), (fun v d => { d with userId := some v }) <$> .text⟩,
    ⟨"display_name", true, (·.displayName.isSome),
      (fun v d => { d with displayName := some v }) <$> .text⟩,
    ⟨"email", true, (·.email.isSome), (fun v d => { d with email := some v }) <$> .text⟩]
  finish d := .ok ⟨d.userId.getD "", d.displayName, d.email⟩

/-- What has been read of the feed's settings. -/
structure FeedSettings.Draft where
  batch : Option Nat := none
  timeoutSecs : Option Nat := none
  initialMillis : Option Nat := none
  ceilingMillis : Option Nat := none
  factor : Option Nat := none
  retries : Option Nat := none

/-- A number of sixty-four bits, by the name of its range. -/
def longNumber : Pick Nat := .natural "u64" Numeral.max64

/-- A number of thirty-two bits, by the name of its range. -/
def shortNumber : Pick Nat := .natural "u32" Numeral.max32

/-- A size, by the name of its range. -/
def sizeNumber : Pick Nat := .natural "usize" Numeral.max64

/-- The settings of the feed. -/
def FeedSettings.record : Record Pick FeedSettings.Draft FeedSettings where
  label := "struct DatafeedConfig"
  blank := {}
  fields := [
    ⟨"max_batch_size", true, (·.batch.isSome),
      (fun v d => { d with batch := some v }) <$> sizeNumber⟩,
    ⟨"read_timeout_secs", true, (·.timeoutSecs.isSome),
      (fun v d => { d with timeoutSecs := some v }) <$> longNumber⟩,
    ⟨"backoff_initial_ms", true, (·.initialMillis.isSome),
      (fun v d => { d with initialMillis := some v }) <$> longNumber⟩,
    ⟨"backoff_max_ms", true, (·.ceilingMillis.isSome),
      (fun v d => { d with ceilingMillis := some v }) <$> longNumber⟩,
    ⟨"backoff_multiplier", true, (·.factor.isSome),
      (fun v d => { d with factor := some v }) <$> shortNumber⟩,
    ⟨"max_retries", true, (·.retries.isSome),
      (fun v d => { d with retries := some v }) <$> shortNumber⟩]
  finish d :=
    let s : FeedSettings := {}
    .ok ⟨d.batch.getD s.batch, d.timeoutSecs.getD s.timeoutSecs,
      d.initialMillis.getD s.initialMillis, d.ceilingMillis.getD s.ceilingMillis,
      d.factor.getD s.factor, d.retries.getD s.retries⟩

/-- The settings of the measurements, of which there is one only. -/
def metricsRecord : Record Pick (Option String) (Option String) where
  label := "struct MetricsConfig"
  blank := none
  fields := [⟨"prometheus_addr", true, (·.isSome), (fun v _ => some v) <$> .text⟩]
  finish := .ok

/-- What has been read of the log's settings. -/
structure LogSettings.Draft where
  json : Option Bool := none
  file : Option Bool := none

/-- The settings of the log. -/
def LogSettings.record : Record Pick LogSettings.Draft LogSettings where
  label := "struct LoggingConfig"
  blank := {}
  fields := [
    ⟨"json", true, (·.json.isSome), (fun v d => { d with json := some v }) <$> .flag⟩,
    ⟨"file", true, (·.file.isSome), (fun v d => { d with file := some v }) <$> .flag⟩]
  finish d := .ok ⟨d.json.getD false, d.file.getD false⟩

/-- What has been read of all settings. -/
structure Settings.Draft where
  bot : Option BotSettings := none
  feed : Option FeedSettings := none
  metrics : Option (Option String) := none
  log : Option LogSettings := none

/-- **All settings**, group by group. -/
def Settings.record : Record Pick Settings.Draft Settings where
  label := "struct Config"
  blank := {}
  fields := [
    ⟨"bot", true, (·.bot.isSome),
      (fun v d => { d with bot := some v }) <$> .record false BotSettings.record⟩,
    ⟨"datafeed", true, (·.feed.isSome),
      (fun v d => { d with feed := some v }) <$> .record false FeedSettings.record⟩,
    ⟨"metrics", true, (·.metrics.isSome),
      (fun v d => { d with metrics := some v }) <$> .record false metricsRecord⟩,
    ⟨"logging", true, (·.log.isSome),
      (fun v d => { d with log := some v }) <$> .record false LogSettings.record⟩]
  finish d := .ok ⟨d.bot.getD {}, d.feed.getD {}, d.metrics.join, d.log.getD {}⟩

/-- **Why a text gives no settings.** -/
inductive DocumentFault
  | notToml
  | mismatch (cause : Mismatch)

/-- **Read settings** from a text. -/
def Settings.read (s : String) : Except DocumentFault Settings :=
  match Toml.read s with
  | none => .error .notToml
  | some v =>
    match (Pick.record false Settings.record).run v with
    | .ok settings => .ok settings
    | .error e => .error (.mismatch e)

end ChatFeed
