import ChatFeed.Text.Quoted
import ChatFeed.Time.Span

/-!
# Feed/ReadError — how a read of the feed can fail

Three ways: a passing failure, after which the read is tried again; a fatal one, after which reading
ends; and a cursor that the feed does not accept, after which reading goes on from the feed's tip.
A status code of HTTP decides between the first two.
-/

namespace ChatFeed

/-- **Why a read failed.** -/
inductive ReadError
  | transient (message : String) (retryAfter : Option Span)
  | fatal (message : String)
  | staleCursor (cursor : Option String)
  deriving DecidableEq, Repr, Inhabited

namespace ReadError

/-- Ask to wait before the next read; only a passing failure can. -/
def withRetryAfter (e : ReadError) (delay : Span) : ReadError :=
  match e with
  | .transient message _ => .transient message (some delay)
  | e => e

/-- Whether a status code is fatal: all of the four hundreds are, except a timeout of the request
and too many requests. -/
def isFatalStatus (status : Nat) : Bool :=
  400 ≤ status && status ≤ 499 && status ≠ 408 && status ≠ 429

/-- **The failure that a status code of HTTP means.** -/
def ofStatus (status : Nat) (message : String) : ReadError :=
  let message := "HTTP " ++ toString status ++ ": " ++ message
  if isFatalStatus status then .fatal message else .transient message none

/-- Whether the read may be tried again. -/
def isTransient : ReadError → Bool
  | .transient _ _ => true
  | _ => false

/-- How long the feed asks to wait. -/
def retryAfter? : ReadError → Option Span
  | .transient _ delay => delay
  | _ => none

/-- The sentence that tells a failure. -/
def text : ReadError → String
  | .transient message _ => "transient backend error: " ++ message
  | .fatal message => "fatal backend error: " ++ message
  | .staleCursor cursor => "backend rejected cursor " ++ Text.quotedOption cursor

end ReadError

end ChatFeed
