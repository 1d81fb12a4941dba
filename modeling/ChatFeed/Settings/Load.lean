import ChatFeed.Settings.Document
import ChatFeed.Settings.Places
import ChatFeed.Text.Blank

/-!
# Settings/Load — settings from a file and the environment

Settings come from a file, if there is one, and from the defaults; then variables of the environment
override single ones; what has come of it is checked last.  So a variable can mend a value of the
file, and can spoil one.
-/

namespace ChatFeed

/-- A variable that has to be a number. -/
inductive NumberVariable
  | batch
  | timeout
  | retries
  deriving DecidableEq, Repr

/-- The name of the variable. -/
def NumberVariable.name : NumberVariable → String
  | .batch => "SYMPHONY_DATAFEED_MAX_BATCH_SIZE"
  | .timeout => "SYMPHONY_DATAFEED_READ_TIMEOUT_SECS"
  | .retries => "SYMPHONY_DATAFEED_MAX_RETRIES"

/-- What the variable has to be. -/
def NumberVariable.wanted : NumberVariable → String
  | .batch => "a positive integer"
  | .timeout => "a number of seconds"
  | .retries => "an integer"

/-- The largest number that the variable can be. -/
def NumberVariable.bound : NumberVariable → Nat
  | .batch => Numeral.max64
  | .timeout => Numeral.max64
  | .retries => Numeral.max32

/-- **Why there are no settings.** -/
inductive SettingsError
  | unreadable (path : String) (fault : StorageFault)
  | unparsable (path : String) (fault : DocumentFault)
  | badNumber (which : NumberVariable) (value : String) (fault : Numeral.Fault)
  | noUser
  | noBatch
  | noFactor
  | ceilingTooLow (initial ceiling : Nat)

/-- The sentence that tells it, without its cause. -/
def SettingsError.text : SettingsError → String
  | .unreadable path _ => "Failed to read " ++ path
  | .unparsable path _ => "Failed to parse " ++ path
  | .badNumber which value _ =>
    which.name ++ " must be " ++ which.wanted ++ ", got: " ++ value
  | .noUser => "bot.user_id is required (set in config.toml or SYMPHONY_BOT_USER_ID env var)"
  | .noBatch => "datafeed.max_batch_size must be at least 1"
  | .noFactor => "datafeed.backoff_multiplier must be at least 1"
  | .ceilingTooLow initial ceiling => "datafeed.backoff_initial_ms (" ++ toString initial ++
      ") exceeds datafeed.backoff_max_ms (" ++ toString ceiling ++ ")"

namespace Settings

/-- The settings that a file gives; a file that is not there gives the defaults. -/
def ofFile (f : Folder) (path : String) : Except SettingsError Settings :=
  if f.has path then
    match f.read path with
    | .error fault => .error (.unreadable path fault)
    | .ok s =>
      match Settings.read s with
      | .error fault => .error (.unparsable path fault)
      | .ok settings => .ok settings
  else .ok {}

/-- The number that a variable is, or else a value given. -/
def numberOf (e : Environment) (v : NumberVariable) (value : Nat) : Except SettingsError Nat :=
  match e.get? v.name with
  | none => .ok value
  | some text =>
    match Numeral.read v.bound text.toList with
    | .ok n => .ok n
    | .error fault => .error (.badNumber v text fault)

/-- **The settings with what the environment overrides.** -/
def override (s : Settings) (e : Environment) : Except SettingsError Settings := do
  let bot := { s.bot with
    userId := (e.get? "SYMPHONY_BOT_USER_ID").getD s.bot.userId
    displayName := (e.get? "SYMPHONY_BOT_DISPLAY_NAME").or s.bot.displayName }
  let batch ← numberOf e .batch s.feed.batch
  let timeout ← numberOf e .timeout s.feed.timeoutSecs
  let retries ← numberOf e .retries s.feed.retries
  .ok { s with
    bot := bot
    feed := { s.feed with batch := batch, timeoutSecs := timeout, retries := retries }
    metricsAddress := (e.get? "SYMPHONY_PROMETHEUS_ADDR").or s.metricsAddress }

/-- **What is wrong with settings**, if anything; the first thing wrong is told. -/
def fault? (s : Settings) : Option SettingsError :=
  if Text.allBlank s.bot.userId then some .noUser
  else if s.feed.batch = 0 then some .noBatch
  else if s.feed.factor = 0 then some .noFactor
  else if s.feed.ceilingMillis < s.feed.initialMillis then
    some (.ceilingTooLow s.feed.initialMillis s.feed.ceilingMillis)
  else none

/-- **Load the settings** of a file and an environment. -/
def load (f : Folder) (path : String) (e : Environment) : Except SettingsError Settings := do
  let s ← (← ofFile f path).override e
  match s.fault? with
  | some error => .error error
  | none => .ok s

end Settings

end ChatFeed
