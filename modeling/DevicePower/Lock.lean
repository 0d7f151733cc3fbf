/-!
# Locks

A lock guards a value. Whoever acquires it may look at the value and replace it
until the lock is released; nobody else can acquire it in the meantime.
-/

namespace DevicePower

/-- The kinds of lock a device may be guarded by. -/
inductive LockKind where
  /-- Waiters spin, for short operations. -/
  | spin
  /-- Waiters are served in the order of their arrival. -/
  | mutex
  deriving DecidableEq, Repr

/-- The name a lock kind has in messages. -/
def LockKind.name : LockKind → String
  | .spin => "Spin"
  | .mutex => "Mutex"

/-- A lock, the value behind it, and whether somebody holds it. -/
structure Lock (α : Type) where
  kind : LockKind
  value : α
  held : Bool := false

namespace Lock

variable {α : Type}

/-- Acquire the lock if nobody holds it. -/
def acquire? (lock : Lock α) : Option (Lock α) :=
  if lock.held then none else some { lock with held := true }

/-- Release the lock. -/
def release (lock : Lock α) : Lock α :=
  { lock with held := false }

/-- The value behind the lock, for its holder. -/
def get? (lock : Lock α) : Option α :=
  if lock.held then some lock.value else none

/-- Replace the value behind the lock, if somebody holds it. -/
def set (lock : Lock α) (value : α) : Lock α :=
  if lock.held then { lock with value } else lock

end Lock

end DevicePower
