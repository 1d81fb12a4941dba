import ChatFeed.Feed.ReadError

/-!
# Poll/PollError — how polling can end or be refused
-/

namespace ChatFeed

/-- **Why polling ended, or could not be started or stopped.** -/
inductive PollError
  | fatal (cause : ReadError)
  | exhausted (attempts : Nat) (last : ReadError)
  | alreadyRunning
  | notRunning
  | crashed (reason : String)
  deriving DecidableEq, Repr, Inhabited

/-- The sentence that tells it. -/
def PollError.text : PollError → String
  | .fatal cause => "datafeed stopped on fatal backend error: " ++ cause.text
  | .exhausted attempts last => "datafeed gave up after " ++ toString attempts ++
      " consecutive transient failures: " ++ last.text
  | .alreadyRunning => "datafeed poller is already running"
  | .notRunning => "datafeed poller is not running"
  | .crashed reason => "datafeed task panicked: " ++ reason

end ChatFeed
