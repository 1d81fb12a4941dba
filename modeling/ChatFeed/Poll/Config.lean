import ChatFeed.Poll.Retry

/-!
# Poll/Config — how a feed is polled
-/

namespace ChatFeed

/-- **How a feed is polled**: how many events one read may bring at most, how long it may take when
nothing is there, and how failed reads are tried again. -/
structure PollConfig where
  batch : Nat
  patience : Span
  retry : RetryPolicy
  deriving DecidableEq, Repr

/-- A hundred events, half a minute, and the standard way to try again. -/
def PollConfig.standard : PollConfig := ⟨100, .ofSecs 30, .standard⟩

instance : Inhabited PollConfig := ⟨.standard⟩

end ChatFeed
