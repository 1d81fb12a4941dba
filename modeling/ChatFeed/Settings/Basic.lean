import ChatFeed.Json.Printer
import ChatFeed.People.User
import ChatFeed.Poll.Config

/-!
# Settings/Basic — what can be set

The settings come in four groups: who the bot is, how the feed is polled, where measurements are
shown, and how the log is written.
-/

namespace ChatFeed

/-- Who the bot is. -/
structure BotSettings where
  userId : String := ""
  displayName : Option String := none
  email : Option String := none
  deriving DecidableEq, Repr

/-- How the feed is polled. -/
structure FeedSettings where
  batch : Nat := 100
  timeoutSecs : Nat := 30
  initialMillis : Nat := 1000
  ceilingMillis : Nat := 60000
  factor : Nat := 2
  retries : Nat := 0
  deriving DecidableEq, Repr

/-- How the log is written. -/
structure LogSettings where
  json : Bool := false
  file : Bool := false
  deriving DecidableEq, Repr

/-- **All settings.** -/
structure Settings where
  bot : BotSettings := {}
  feed : FeedSettings := {}
  metricsAddress : Option String := none
  log : LogSettings := {}
  deriving DecidableEq, Repr

/-- The user that the bot is. -/
def BotSettings.user (s : BotSettings) : User := ⟨s.userId, s.displayName, s.email⟩

/-- How the feed is to be polled. -/
def FeedSettings.poll (s : FeedSettings) : PollConfig :=
  ⟨s.batch, .ofSecs s.timeoutSecs,
    ⟨.ofMillis s.initialMillis, .ofMillis s.ceilingMillis, s.factor, s.retries⟩⟩

open Json

/-- The settings of the feed as JSON text. -/
def FeedSettings.print (s : FeedSettings) : List Char :=
  printObject [("max_batch_size", printInt s.batch), ("read_timeout_secs", printInt s.timeoutSecs),
    ("backoff_initial_ms", printInt s.initialMillis), ("backoff_max_ms", printInt s.ceilingMillis),
    ("backoff_multiplier", printInt s.factor), ("max_retries", printInt s.retries)]

/-- An optional text as a member of an object, left out when there is none. -/
def settingMember (name : String) : Option String → List (String × List Char)
  | none => []
  | some s => [(name, printString s)]

/-- A truth value as JSON text. -/
def printFlag (b : Bool) : List Char :=
  if b then ['t', 'r', 'u', 'e'] else ['f', 'a', 'l', 's', 'e']

/-- **All settings as JSON text.** -/
def Settings.print (s : Settings) : List Char :=
  printObject [
    ("bot", printObject (("user_id", printString s.bot.userId) ::
      settingMember "display_name" s.bot.displayName ++ settingMember "email" s.bot.email)),
    ("datafeed", s.feed.print),
    ("metrics", printObject (settingMember "prometheus_addr" s.metricsAddress)),
    ("logging", printObject [("json", printFlag s.log.json), ("file", printFlag s.log.file)])]

end ChatFeed
