import DevicePower.Register.WordBank

/-!
# Simulated registers

Registers made of plain data, for trying out devices without hardware. They behave
like memory, with read-only bits and with answers that were queued beforehand, or
like a bank of words; and they fail when they are told to.
-/

namespace DevicePower.Bench

/-- The two directions of an access. -/
inductive Direction where
  | read
  | write
  deriving DecidableEq, Repr

/-- A fault that was placed at a register. It lets `skip` accesses pass, strikes
`count` times and is spent after that. -/
structure Fault where
  offset : UInt32
  directions : List Direction
  error : BusError
  skip : Nat := 0
  count : Nat := 0xffffffff

/-- Whether a fault is concerned with an access. -/
def Fault.concerns (fault : Fault) (direction : Direction) (offset : UInt32) : Bool :=
  fault.offset == offset && fault.directions.contains direction

/-- The fault that strikes an access, if one does, and the faults after it. Faults
are asked in order; one that lets the access pass leaves it to the next. -/
def strike (direction : Direction) (offset : UInt32) :
    List Fault → Option BusError × List Fault
  | [] => (none, [])
  | fault :: rest =>
      if fault.concerns direction offset && fault.skip = 0 && 0 < fault.count then
        (some fault.error, { fault with count := fault.count - 1 } :: rest)
      else
        let (error, rest) := strike direction offset rest
        if fault.concerns direction offset then
          (error, { fault with skip := fault.skip - 1 } :: rest)
        else
          (error, fault :: rest)

/-- Registers that behave like memory. Every offset exists; one that was never
written holds zero. -/
structure Memory where
  /-- The values, the latest for an offset first. -/
  values : List (UInt32 × UInt32) := []
  /-- The bits of a register that writes do not change. -/
  readOnly : List (UInt32 × UInt32) := []
  /-- Answers that wait to be read instead of the values, the oldest first. -/
  queued : List (UInt32 × UInt32) := []

namespace Memory

/-- Store a value, read-only bits included. -/
def poke (memory : Memory) (offset value : UInt32) : Memory :=
  { memory with values := (offset, value) :: memory.values }

/-- The value that is stored at an offset. -/
def peek (memory : Memory) (offset : UInt32) : UInt32 :=
  (memory.values.lookup offset).getD 0

/-- Queue answers for the reads of a register. -/
def queue (memory : Memory) (offset : UInt32) (answers : List UInt32) : Memory :=
  { memory with queued := memory.queued ++ answers.map fun answer => (offset, answer) }

/-- Answer a read: by the oldest answer that waits for it, if there is one. -/
def read (memory : Memory) (offset : UInt32) : UInt32 × Memory :=
  match memory.queued.lookup offset with
  | some answer =>
      (answer, { memory with queued := memory.queued.eraseP fun entry => entry.1 == offset })
  | none => (memory.peek offset, memory)

/-- Store the bits of a value that writes can change. -/
def write (memory : Memory) (offset value : UInt32) : Memory :=
  let readOnly := (memory.readOnly.lookup offset).getD 0
  memory.poke offset (mergeBits value readOnly (memory.peek offset))

end Memory

/-- What simulated registers are made of. -/
inductive Store where
  | memory (memory : Memory)
  | words (bank : WordBank)

/-- Simulated registers and the faults placed at them. -/
structure Registers where
  store : Store
  faults : List Fault := []

namespace Registers

/-- Answer a read that meets no fault. -/
def readStore (offset : UInt32) : Store → Except BusError UInt32 × Store
  | .memory memory =>
      let (value, memory) := memory.read offset
      (.ok value, .memory memory)
  | .words bank => (bank.read offset, .words bank)

/-- Carry out a write that meets no fault. -/
def writeStore (offset value : UInt32) : Store → Except BusError Unit × Store
  | .memory memory => (.ok (), .memory (memory.write offset value))
  | .words bank =>
      let (answer, bank) := WordBank.registers.write offset value bank
      (answer, .words bank)

/-- Read a register, unless a fault strikes. -/
def read (offset : UInt32) (registers : Registers) : Except BusError UInt32 × Registers :=
  match strike .read offset registers.faults with
  | (some error, faults) => (.error error, { registers with faults })
  | (none, faults) =>
      let (answer, store) := readStore offset registers.store
      (answer, { store, faults })

/-- Write a register, unless a fault strikes. -/
def write (offset value : UInt32) (registers : Registers) :
    Except BusError Unit × Registers :=
  match strike .write offset registers.faults with
  | (some error, faults) => (.error error, { registers with faults })
  | (none, faults) =>
      let (answer, store) := writeStore offset value registers.store
      (answer, { store, faults })

/-- Change a register behind the back of the bus. -/
def poke (offset value : UInt32) (registers : Registers) : Registers :=
  { registers with store :=
      match registers.store with
      | .memory memory => .memory (memory.poke offset value)
      | .words bank => .words (bank.put (offset / 4).toNat value) }

/-- Queue answers for the reads of a register. Banks of words have no queues. -/
def queue (offset : UInt32) (answers : List UInt32) (registers : Registers) : Registers :=
  { registers with store :=
      match registers.store with
      | .memory memory => .memory (memory.queue offset answers)
      | .words bank => .words bank }

/-- Place a fault, after all that were placed before. -/
def inject (fault : Fault) (registers : Registers) : Registers :=
  { registers with faults := registers.faults ++ [fault] }

/-- Remove every fault. -/
def heal (registers : Registers) : Registers :=
  { registers with faults := [] }

end Registers

end DevicePower.Bench
