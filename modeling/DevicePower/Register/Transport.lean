import DevicePower.Traced

/-!
# Register transports

A device is a set of 32-bit registers at byte offsets. A transport reads and
writes one register at a time, the only way in which hardware is reached. It may
be a memory window or sit on top of a slower bus; what it spends on an access is
reported as bus cycles.

The state `σ` of the hardware is arbitrary. A register may answer differently on
every access, and an access to one register may change others.
-/

namespace DevicePower

/-- Why a single access failed. -/
inductive BusError where
  /-- The device did not acknowledge the transfer. -/
  | nack
  /-- The offset is no multiple of the register width. -/
  | misaligned
  /-- The offset lies outside the registers of the device. -/
  | outOfRange
  /-- Any other fault of the bus. -/
  | fault
  deriving DecidableEq, Repr

/-- The name a bus error has in messages. -/
def BusError.name : BusError → String
  | .nack => "Nack"
  | .misaligned => "Misaligned"
  | .outOfRange => "OutOfRange"
  | .fault => "Fault"

/-- One access to a register together with its answer. -/
inductive Access where
  | read (offset : UInt32) (answer : Except BusError UInt32)
  | write (offset value : UInt32) (answer : Except BusError Unit)

/-- Computations that reach hardware in state `σ` and report its bus cycles. -/
abbrev BusM (σ : Type) : Type → Type :=
  Traced BusError Access σ

/-- How the registers of a device are read and written. -/
structure Transport (σ : Type) where
  read : UInt32 → BusM σ UInt32
  write : UInt32 → UInt32 → BusM σ Unit

/-- `old` with the bits selected by `mask` taken from `value`. -/
def mergeBits (old mask value : UInt32) : UInt32 :=
  (old &&& ~~~mask) ||| (value &&& mask)

/-- Each bit that the mask selects is taken from the value, and any other is kept. -/
theorem testBit_mergeBits (old mask value : UInt32) (bit : Nat) :
    (mergeBits old mask value).toNat.testBit bit =
      if mask.toNat.testBit bit then value.toNat.testBit bit else old.toNat.testBit bit := by
  show (mergeBits old mask value).toBitVec.getLsbD bit =
      if mask.toBitVec.getLsbD bit then value.toBitVec.getLsbD bit else old.toBitVec.getLsbD bit
  by_cases bound : bit < 32
  · simp only [mergeBits, UInt32.toBitVec_or, UInt32.toBitVec_and, UInt32.toBitVec_not,
      BitVec.getLsbD_or, BitVec.getLsbD_and, BitVec.getLsbD_not, bound]
    cases mask.toBitVec.getLsbD bit <;> simp
  · have beyond (word : UInt32) : word.toBitVec.getLsbD bit = false :=
      BitVec.getLsbD_of_ge _ _ (Nat.le_of_not_lt bound)
    simp only [beyond, ite_self]

/-- Words with the same bits are the same. -/
theorem eq_of_testBit {word other : UInt32}
    (same : ∀ bit, word.toNat.testBit bit = other.toNat.testBit bit) : word = other :=
  UInt32.toNat_inj.mp (Nat.eq_of_testBit_eq same)

namespace Transport

variable {σ : Type}

/-- Replace the bits selected by `mask`, keeping the others as they are read. -/
def updateBits (transport : Transport σ) (offset mask value : UInt32) :
    BusM σ Unit := do
  let old ← transport.read offset
  transport.write offset (mergeBits old mask value)

end Transport

/-- Registers at the far end of a bus: what they answer to an access and how the
hardware changes with it. -/
structure Bank (σ : Type) where
  read : UInt32 → σ → Except BusError UInt32 × σ
  write : UInt32 → UInt32 → σ → Except BusError Unit × σ

namespace Bank

variable {σ : Type}

/-- Reach a bank directly: every access is one bus cycle. -/
def transport (bank : Bank σ) : Transport σ where
  read offset := fun hardware =>
    let (answer, after) := bank.read offset hardware
    ⟨answer, [.read offset answer], after⟩
  write offset value := fun hardware =>
    let (answer, after) := bank.write offset value hardware
    ⟨answer, [.write offset value answer], after⟩

end Bank

end DevicePower
