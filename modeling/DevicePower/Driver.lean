import DevicePower.Lock
import DevicePower.Pins
import DevicePower.Table.Port
import DevicePower.Table.Validation

/-!
# Drivers

A driver describes all devices of one type: the register tables that are run at
every step, how a pending interrupt is recognised, how actions map to pin states,
and which capabilities the devices have. It never changes. It is checked once for
every length of context that it is used with.
-/

namespace DevicePower

/-- Every kind of table, in the order in which the tables of a driver are checked. -/
def TableKind.all : List TableKind :=
  [.save, .contextCheck, .restore, .irqDisable, .irqEnable, .clockDisable, .clockEnable,
    .wakeup]

/-- Whether a match or a mismatch means that an interrupt is pending. -/
inductive Polarity where
  | pendingOnMatch
  | pendingOnMismatch
  deriving DecidableEq, Repr

/-- How a pending interrupt is recognised. -/
structure PendingCheck where
  /-- The status register. -/
  offset : UInt32
  /-- The bits of the status that are compared. -/
  mask : UInt32
  /-- The value they are compared with. -/
  compare : UInt32
  polarity : Polarity
  deriving DecidableEq, Repr

/-- Whether a status means that an interrupt is pending. -/
def PendingCheck.isPending (check : PendingCheck) (status : UInt32) : Bool :=
  match check.polarity with
  | .pendingOnMatch => status &&& check.mask == check.compare
  | .pendingOnMismatch => status &&& check.mask != check.compare

/-- The capabilities of a device type. -/
structure Flags where
  /-- The save table runs once; the saved values never change after that. -/
  saveOnce : Bool := false
  /-- Registers are compared with the context first, and restored only if one of
  them was lost. -/
  checkContextLoss : Bool := false
  /-- The device raises interrupts. -/
  irq : Bool := false
  /-- The device owns DMA channels that are paused while it is suspended. -/
  dma : Bool := false
  /-- What kind of lock guards the device. -/
  lock : LockKind := .spin
  /-- The interrupt lock is held while interrupts are masked and unmasked as part
  of a transition. -/
  irqSublock : Bool := false
  /-- Runtime callbacks run while the interrupt lock is held. -/
  callbackInIrqLock : Bool := false
  /-- System sleep saves the context and gates the clocks. -/
  systemContext : Bool := false
  /-- Runtime power management is on: system sleep ends in runtime suspend. -/
  runtimePm : Bool := true
  deriving DecidableEq, Repr

/-- One line that shows the capabilities, for messages. -/
def Flags.text (flags : Flags) : String :=
  "PmFlags \x7b save_once: " ++ toString flags.saveOnce ++
    ", check_context_loss: " ++ toString flags.checkContextLoss ++
    ", irq: " ++ toString flags.irq ++
    ", dma: " ++ toString flags.dma ++
    ", lock: " ++ flags.lock.name ++
    ", irq_sublock: " ++ toString flags.irqSublock ++
    ", callback_in_irq_lock: " ++ toString flags.callbackInIrqLock ++
    ", system_context: " ++ toString flags.systemContext ++
    ", runtime_pm: " ++ toString flags.runtimePm ++ " \x7d"

/-- The description of a device type. -/
structure Driver where
  name : String
  /-- The table that is run at every step. An empty table does nothing. -/
  tables : TableKind → Table := fun _ => []
  pendingCheck : Option PendingCheck := none
  pins : PinMap := .standard
  flags : Flags := {}
  timeoutPolicy : TimeoutPolicy := .fail
  /-- How long a device has to be unused before `autosuspend` suspends it. -/
  autosuspendMillis : Option UInt32 := none

namespace Driver

/-- Whether some table may wait for a register to settle. -/
def needsTimer (driver : Driver) : Bool :=
  TableKind.all.any fun kind => (driver.tables kind).polls

/-- Check the tables of the given kinds, one after the other. -/
def validateTables (driver : Driver) (length : Nat) : List TableKind → Except ConfigError Unit
  | [] => .ok ()
  | kind :: rest => do
      (driver.tables kind).validate kind length
      driver.validateTables length rest

/-- Require that every claimed capability comes with what it needs: the context is
checked by reads alone, a context check and an interrupt capability have tables,
and only devices with interrupts have a pending check. -/
def validateCapabilities (driver : Driver) : Except ConfigError Unit :=
  if (driver.tables .contextCheck).any fun entry => entry.operation ≠ .read then
    .error (.invalidEntry .contextCheck)
  else if driver.flags.checkContextLoss && (driver.tables .contextCheck).isEmpty then
    .error (.missingTable .contextCheck)
  else if driver.flags.irq && (driver.tables .irqDisable).isEmpty then
    .error (.missingTable .irqDisable)
  else if driver.pendingCheck.isSome && !driver.flags.irq then
    .error .pendingCheckWithoutIrq
  else
    .ok ()

/-- Check a driver against a context of `length` slots. -/
def validate (driver : Driver) (length : Nat) : Except ConfigError Unit := do
  driver.validateTables length TableKind.all
  driver.validateCapabilities
  driver.pins.validate length

end Driver

end DevicePower
