import DevicePower.Error

/-!
# Register table entries

A register table is straight-line code: a list of entries, each of which reads or
writes one register. A writing entry may wait until the register settles. Entries
never branch; what differs from case to case is which table is run.
-/

namespace DevicePower

/-- How two words are combined. -/
inductive BitOp where
  | or
  | and
  deriving DecidableEq, Repr

namespace BitOp

/-- The combination of two words. -/
def apply : BitOp → UInt32 → UInt32 → UInt32
  | .or, left, right => left ||| right
  | .and, left, right => left &&& right

/-- The word that changes nothing when it is combined with another. -/
def identity : BitOp → UInt32
  | .or => 0
  | .and => 0xffffffff

theorem apply_identity (op : BitOp) (word : UInt32) : op.apply word op.identity = word := by
  cases op with
  | or => exact UInt32.or_zero
  | and => exact UInt32.and_neg_one

/-- The name an operation has in messages. -/
def name : BitOp → String
  | .or => "Or"
  | .and => "And"

end BitOp

/-- What an entry does with its register. -/
inductive Operation where
  /-- Read the register into the slot. -/
  | read
  /-- Read the register and drop the value, which completes earlier writes. -/
  | flushRead
  /-- Write the slot to the register. -/
  | write
  /-- Write the slot, then read the register and drop the value. -/
  | writeThenRead
  /-- Read the register, combine it with the slot and write the result. -/
  | readModifyWrite (op : BitOp)
  /-- Combine the slot with the augment of the entry and write the result. -/
  | writeAugmented (op : BitOp)
  deriving DecidableEq, Repr

namespace Operation

/-- Whether the operation writes its register. -/
def writes : Operation → Bool
  | .read | .flushRead => false
  | _ => true

/-- Whether the operation takes an augment. -/
def augmented : Operation → Bool
  | .writeAugmented _ => true
  | _ => false

/-- The name an operation has in messages. -/
def text : Operation → String
  | .read => "Read"
  | .flushRead => "FlushRead"
  | .write => "Write"
  | .writeThenRead => "WriteThenRead"
  | .readModifyWrite op => "ReadModifyWrite(" ++ op.name ++ ")"
  | .writeAugmented op => "WriteAugmented(" ++ op.name ++ ")"

end Operation

/-- The second operand of an augmented write. -/
inductive Augment where
  /-- No operand, as befits an entry that is no augmented write. -/
  | none
  /-- A constant. -/
  | constant (value : UInt32)
  /-- Two slots, combined. -/
  | combine (left : Nat) (op : BitOp) (right : Nat)
  deriving DecidableEq, Repr

/-- A wait after a write: the register is read again and again until the bits
selected by `mask` equal `expected`, or until the time is up. -/
structure SettlePoll where
  mask : UInt32
  expected : UInt32
  timeoutMicros : UInt32
  deriving DecidableEq, Repr

/-- The poll that waits for one exact value. -/
def SettlePoll.exactly (expected timeoutMicros : UInt32) : SettlePoll :=
  ⟨0xffffffff, expected, timeoutMicros⟩

/-- Whether a value that was read ends the wait. -/
def SettlePoll.accepts (poll : SettlePoll) (value : UInt32) : Bool :=
  value &&& poll.mask == poll.expected

/-- One step of a register table. -/
structure Entry where
  operation : Operation
  /-- The byte offset of the register. -/
  offset : UInt32
  /-- The context slot that is read or written; a flushing read has none. -/
  slot : Nat
  augment : Augment := .none
  poll : Option SettlePoll := none
  deriving DecidableEq, Repr

/-- A register table. -/
abbrev Table : Type := List Entry

/-- Whether running the table may involve a settle poll, and so needs a timer. -/
def Table.polls (table : Table) : Bool :=
  table.any fun entry => entry.poll.isSome

end DevicePower
