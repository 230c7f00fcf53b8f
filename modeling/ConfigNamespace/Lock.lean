import ConfigNamespace.Operation

/-!
# A lock for readers and writers

Any number of readers may hold the lock together, or one writer alone. A reader waits while a writer
holds the lock or waits for it; a writer waits while anybody holds it. Who waits goes on only after a
notification, and then looks again.
-/

namespace ConfigNamespace

/-- The two sides of the lock. -/
inductive LockSide
  /-- The side that is shared. -/
  | read
  /-- The side that excludes all others. -/
  | write
  deriving DecidableEq, Repr

/-- Somebody who waits for the lock. -/
structure Waiter where
  /-- The side that is waited for. -/
  side : LockSide
  /-- Whether there was a notification since the waiting began. -/
  notified : Bool
  deriving DecidableEq, Repr

/-- The state of the lock. -/
structure ReadWriteLock where
  /-- How many readers hold it. -/
  readers : Nat
  /-- Whether a writer holds it. -/
  writer : Bool
  /-- How many writers wait for it. -/
  waitingWriters : Nat
  /-- Who waits for it. -/
  waiters : List Waiter
  deriving DecidableEq, Repr

namespace ReadWriteLock

/-- The lock that nobody holds or waits for. -/
def free : ReadWriteLock := ⟨0, false, 0, []⟩

/-- Whether a side can be taken at once. -/
def admits (l : ReadWriteLock) : LockSide → Bool
  | .read => !l.writer && l.waitingWriters = 0
  | .write => !l.writer && l.readers = 0

/-- Takes a side. -/
def take (l : ReadWriteLock) : LockSide → ReadWriteLock
  | .read => { l with readers := l.readers + 1 }
  | .write => { l with writer := true }

/-- Counts a writer among those who wait. -/
def enlist (l : ReadWriteLock) : LockSide → ReadWriteLock
  | .read => l
  | .write => { l with waitingWriters := l.waitingWriters + 1 }

/-- Counts a writer among those who wait no longer. -/
def discharge (l : ReadWriteLock) : LockSide → ReadWriteLock
  | .read => l
  | .write => { l with waitingWriters := l.waitingWriters - 1 }

/-- Asks for a side: takes it, or waits for it. -/
def acquire (l : ReadWriteLock) (side : LockSide) : ReadWriteLock :=
  if l.admits side then l.take side
  else { l.enlist side with waiters := l.waiters ++ [⟨side, false⟩] }

/-- Notifies all who wait. -/
def notifyAll (l : ReadWriteLock) : ReadWriteLock :=
  { l with waiters := l.waiters.map fun waiter => { waiter with notified := true } }

/-- Gives a side back. The last reader and any writer notify those who wait. -/
def release (l : ReadWriteLock) : LockSide → Except Failure ReadWriteLock
  | .read =>
    if l.readers = 0 then .error .releaseReadUnheld
    else
      let left := { l with readers := l.readers - 1 }
      .ok (if left.readers = 0 then left.notifyAll else left)
  | .write =>
    if l.writer then .ok (notifyAll { l with writer := false }) else .error .releaseWriteUnheld

/-- Lets the waiter at a position look again: it takes its side, or goes on waiting. -/
def resume (l : ReadWriteLock) (position : Nat) : ReadWriteLock :=
  match l.waiters[position]? with
  | none => l
  | some waiter =>
    if !waiter.notified then l
    else
      let others := l.waiters.eraseIdx position
      if l.admits waiter.side then { (l.discharge waiter.side).take waiter.side with
        waiters := others }
      else { l with waiters := others ++ [⟨waiter.side, false⟩] }

/-- Lets notified waiters look again, the first of them each time, at most `fuel` times. -/
def settleWithin : (fuel : Nat) → ReadWriteLock → ReadWriteLock
  | 0, l => l
  | fuel + 1, l =>
    match l.waiters.findIdx? Waiter.notified with
    | none => l
    | some position => settleWithin fuel (l.resume position)

/-- Lets all notified waiters look again. -/
def settle (l : ReadWriteLock) : ReadWriteLock := l.settleWithin l.waiters.length

/-- How many wait for a side. -/
def blocked (l : ReadWriteLock) (side : LockSide) : Nat :=
  l.waiters.countP fun waiter => waiter.side = side

/-- Gives a side back. -/
def giveBack (side : LockSide) : Operation ReadWriteLock Unit := do
  let released ← Operation.ofExcept ((← get).release side)
  set released

/-- Holds a side while an operation on the lock runs, and gives it back after any outcome. -/
def holding {α : Type} (side : LockSide) (body : Operation ReadWriteLock α) :
    Operation ReadWriteLock α := do
  modify fun l => l.acquire side
  let result ← body.attempt
  giveBack side
  Operation.ofExcept result

end ReadWriteLock

end ConfigNamespace
