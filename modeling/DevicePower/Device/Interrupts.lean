import DevicePower.Device.Basic

/-!
# Interrupts of a device

Masking the interrupts of a device races with the device itself: an interrupt may
be under way when the mask is written. With a pending check, the status register
is read after masking, and a pending interrupt keeps the device busy.

The interrupt lock keeps the interrupt handler away while interrupts are masked
or unmasked as part of a transition.
-/

namespace DevicePower

namespace Device

open DeviceM

variable {σ α : Type}

/-- Read the interrupt status and decide about the masking. A pending interrupt
wins over a failure of the table, which wins over a failure to read the status. -/
def checkPending (device : Device σ) (check : PendingCheck) (masked : Except Error Unit) :
    DeviceM σ Unit := do
  match ← (working .pendingStatus (device.port.read check.offset)).attempt with
  | .ok status =>
      if check.isPending status then do
        device.tell (.interruptPending status)
        Traced.fail .busy
      else
        Traced.ofExcept masked
  | .error error =>
      match masked with
      | .ok () => Traced.fail error
      | .error first => Traced.fail first

/-- Mask the interrupts of a device. Fails with `busy` if one is pending. A driver
that has nothing to mask is not asked for pending interrupts. -/
def maskInterrupts (device : Device σ) : DeviceM σ Unit :=
  if (device.driver.tables .irqDisable).isEmpty then
    pure ()
  else do
    let masked ← (device.runDriverTable .irqDisable).attempt
    match device.driver.pendingCheck with
    | some check => device.checkPending check masked
    | none => Traced.ofExcept masked

/-- Unmask the interrupts of a device. -/
def unmaskInterrupts (device : Device σ) : DeviceM σ Unit :=
  device.runDriverTable .irqEnable

/-- Take the interrupt lock. A real lock waits while it is held; here the attempt
is reported as contended. -/
def takeIrqLock : DeviceM σ Unit := do
  let held ← Traced.query fun machine => machine.irqHeld
  Traced.emit (.irqTaken held)
  Traced.update fun machine => { machine with irqHeld := true }

/-- Release the interrupt lock. -/
def releaseIrqLock : DeviceM σ Unit := do
  Traced.emit .irqReleased
  Traced.update fun machine => { machine with irqHeld := false }

/-- Run a computation while holding the interrupt lock, if the driver asks for
it. The lock is released however the computation ends. -/
def withIrqLock (device : Device σ) (computation : DeviceM σ α) : DeviceM σ α :=
  if device.driver.flags.irqSublock then do
    takeIrqLock
    let result ← computation.attempt
    releaseIrqLock
    Traced.ofExcept result
  else
    computation

end Device

end DevicePower
