import DevicePower.Table.Port

/-!
# Running register tables

Entries run front to back, and the first error stops the table. Nothing is undone:
the context keeps the values that were read before. An entry looks its slots up
before it writes, so an entry that names a slot that does not exist writes
nothing.
-/

namespace DevicePower

open TableM

variable {σ : Type}

namespace Entry

/-- Note that an entry was carried out. -/
def report (entry : Entry) (value : UInt32) : TableM σ Unit :=
  Traced.emit (.note (.entryDone entry.operation entry.offset value))

/-- The value of a slot of the context. -/
def fetch (slot : Nat) : TableM σ UInt32 := do
  configured (← load slot)

/-- The word that the slot of an augmented write is combined with. Without an
augment it is the word that changes nothing. -/
def augmentValue (op : BitOp) : Augment → TableM σ UInt32
  | .none => return op.identity
  | .constant value => return value
  | .combine left inner right => do
      let left ← fetch left
      let right ← fetch right
      return inner.apply left right

/-- Move one value between a register and the context. -/
def transfer (port : Port σ) (entry : Entry) : TableM σ Unit :=
  match entry.operation with
  | .read => do
      let value ← port.read entry.offset
      configured (← store entry.slot value)
      entry.report value
  | .flushRead => do
      let value ← port.read entry.offset
      entry.report value
  | .write => do
      let value ← fetch entry.slot
      port.write entry.offset value
      entry.report value
  | .writeThenRead => do
      let value ← fetch entry.slot
      port.write entry.offset value
      let _ ← port.read entry.offset
      entry.report value
  | .readModifyWrite op => do
      let current ← port.read entry.offset
      let operand ← fetch entry.slot
      let value := op.apply current operand
      port.write entry.offset value
      entry.report value
  | .writeAugmented op => do
      let augment ← augmentValue op entry.augment
      let operand ← fetch entry.slot
      let value := op.apply operand augment
      port.write entry.offset value
      entry.report value

/-- Wait until the register of a writing entry settles, if the entry asks for it. -/
def wait (port : Port σ) (entry : Entry) : TableM σ Unit :=
  match entry.poll with
  | some poll => if entry.operation.writes then port.settle entry.offset poll else pure ()
  | none => pure ()

/-- Run one entry. -/
def run (port : Port σ) (entry : Entry) : TableM σ Unit := do
  entry.transfer port
  entry.wait port

end Entry

namespace Table

/-- Run every entry of a table in order, up to the first that fails. -/
def run (port : Port σ) : Table → TableM σ Unit
  | [] => pure ()
  | entry :: rest => do
      entry.run port
      Table.run port rest

/-- Whether a live register differs from the slot that its entry names. Registers
are read in order, and the first that differs decides. The context is not
changed. -/
def differs (port : Port σ) : Table → TableM σ Bool
  | [] => return false
  | entry :: rest => do
      let live ← port.read entry.offset
      let saved ← Entry.fetch entry.slot
      if live ≠ saved then do
        Traced.emit (.note (.valueLost entry.offset saved live))
        return true
      else
        Table.differs port rest

end Table

end DevicePower
