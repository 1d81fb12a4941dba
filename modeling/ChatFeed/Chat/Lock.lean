/-!
# Chat/Lock — one thread at a time in a chat

The deliveries and registrations of a chat take turns: a thread holds the chat's lock while it is
at one.  The thread that holds it may take it again, which changes nothing; another one falls asleep
until it is notified, and then looks once more, since somebody else may have been faster.  Giving the
lock up and notifying the sleepers are two steps.
-/

namespace ChatFeed

/-- **The lock of a chat**: which thread holds it, and which ones sleep until they are notified. -/
structure DeliveryLock where
  holder : Option Nat := none
  sleepers : List Nat := []
  deriving DecidableEq, Repr

/-- What comes of asking for a lock. -/
inductive Entry
  | nested
  | entered
  | asleep
  deriving DecidableEq, Repr

namespace DeliveryLock

/-- Take the lock if nobody holds it, or fall asleep. -/
def await (lock : DeliveryLock) (me : Nat) : Entry × DeliveryLock :=
  if lock.holder.isSome then (.asleep, { lock with sleepers := lock.sleepers ++ [me] })
  else (.entered, { lock with holder := some me })

/-- **Ask for the lock**; who holds it has it already. -/
def acquire (lock : DeliveryLock) (me : Nat) : Entry × DeliveryLock :=
  if lock.holder = some me then (.nested, lock) else lock.await me

/-- Give the lock up. -/
def giveUp (lock : DeliveryLock) : DeliveryLock := { lock with holder := none }

/-- **Notify all who sleep.** -/
def notifyAll (lock : DeliveryLock) : DeliveryLock := { lock with sleepers := [] }

/-- A sleeper wakes of itself. -/
def stir (lock : DeliveryLock) (who : Nat) : DeliveryLock :=
  { lock with sleepers := lock.sleepers.filter (· ≠ who) }

end DeliveryLock

end ChatFeed
