import DevicePower.Device.Channels
import DevicePower.Device.Clocks
import DevicePower.Device.Interrupts
import DevicePower.Device.Pins

/-!
# Runtime power management

A runtime suspend saves the context, pauses busy channels, masks interrupts,
switches the pins, runs the callback, arms the wake-up sources and gates the
clocks, in this order. A runtime resume goes the other way: it restores the
context, ungates the clocks, switches the pins, unmasks interrupts, runs the
callback and resumes the channels. The very first resume of a device only runs
the callback for it.

The first error stops a sequence and is not unwound. The one exception is a
pending interrupt, which the caller is expected to wait for: everything that the
attempt did is then undone, and the device stays active.
-/

namespace DevicePower

namespace Device

open DeviceM

variable {σ : Type}

/-- Move the device to a power state. -/
def enter (power : PowerState) : DeviceM σ Unit :=
  Traced.update fun machine => { machine with power }

/-- Run a callback inside the interrupt lock if the driver wants it there. -/
def callbackInside (device : Device σ) (stage : Stage) : DeviceM σ Unit :=
  if device.driver.flags.callbackInIrqLock then device.callback stage else pure ()

/-- Run a callback outside the interrupt lock unless the driver wants it inside. -/
def callbackOutside (device : Device σ) (stage : Stage) : DeviceM σ Unit :=
  if device.driver.flags.callbackInIrqLock then pure () else device.callback stage

/-- The part of a runtime suspend that a pending interrupt can refuse. -/
def quiesce (device : Device σ) (action : Action) : DeviceM σ Unit := do
  device.withIrqLock do
    device.maskInterrupts
    device.selectPins action
    device.callbackInside .runtimeSuspend
  device.callbackOutside .runtimeSuspend
  device.runDriverTable .wakeup
  device.gateClocks

/-- Undo an attempt to suspend that met a pending interrupt: unmask interrupts,
resume the channels that the attempt paused, and count the device as in use. -/
def abortSuspend (device : Device σ) (paused : UInt32) : DeviceM σ Unit := do
  device.tell .suspendDeferred
  device.withIrqLock do
    match ← device.unmaskInterrupts.attempt with
    | .ok () => pure ()
    | .error error => device.tell (.unmaskFailed error)
  device.resumeChannels paused
  device.markBusy

/-- Conclude an attempt to suspend that paused the given channels. -/
def concludeSuspend (device : Device σ) (paused : UInt32) : Except Error Unit → DeviceM σ Unit
  | .ok () => do
      enter .runtimeSuspended
      device.tell .runtimeSuspended
  | .error .busy => do
      device.abortSuspend paused
      Traced.fail .busy
  | .error error => do
      device.tell (.suspendFailed error)
      Traced.fail error

/-- The part of a runtime suspend that comes before anything is masked. The answer
holds the bits of the channels that were paused. -/
def prepareSuspend (device : Device σ) : DeviceM σ UInt32 := do
  device.save
  device.pauseChannels

/-- Suspend a device that is active. -/
def suspendActive (device : Device σ) (action : Action) : DeviceM σ Unit := do
  match ← device.prepareSuspend.attempt with
  | .ok paused => do
      let result ← (device.quiesce action).attempt
      device.concludeSuspend paused result
  | .error error => device.concludeSuspend 0 (.error error)

/-- Suspend a device at run time, for the given action. Does nothing unless the
device is active. -/
def runtimeSuspendFor (device : Device σ) (action : Action) : DeviceM σ Unit := do
  let power ← Traced.query fun machine => machine.power
  if power = .active then
    device.suspendActive action
  else
    pure ()

/-- Suspend a device at run time. Fails with `busy` if an interrupt is pending. -/
def runtimeSuspend (device : Device σ) : DeviceM σ Unit :=
  device.runtimeSuspendFor .suspend

/-- Whether the device was used so recently that it must not be suspended yet.
The timer is read only if there is a delay and a last use to compare it with. -/
def usedRecently (device : Device σ) : DeviceM σ Bool := do
  let lastBusy ← Traced.query fun machine => machine.lastBusy
  match device.driver.autosuspendMillis, device.timer, lastBusy with
  | some delay, some timer, some last => do
      let now ← onHardware timer.now
      Traced.emit (.reading now)
      return elapsed last now < millisToTicks timer.frequency delay
  | _, _, _ => return false

/-- Suspend a device at run time if it was not used for the delay of its driver.
Fails with `busy` if it was. -/
def autosuspend (device : Device σ) : DeviceM σ Unit := do
  if ← device.usedRecently then
    Traced.fail .busy
  else
    device.runtimeSuspendFor .autosuspend

/-- Bring up a device for the first time. -/
def firstResume (device : Device σ) : DeviceM σ Unit := do
  device.callback .firstResume
  Traced.update fun machine => { machine with firstResumeDone := true, power := .active }

/-- The steps of every resume but the first. -/
def wakeUp (device : Device σ) : DeviceM σ Unit := do
  device.restore
  device.ungateClocks
  device.selectPins .resume
  device.withIrqLock do
    device.unmaskInterrupts
    device.callbackInside .runtimeResume
  device.callbackOutside .runtimeResume
  let paused ← Traced.query fun machine => machine.pausedChannels
  device.resumeChannels paused

/-- Conclude an attempt to resume. -/
def concludeResume (device : Device σ) : Except Error Unit → DeviceM σ Unit
  | .ok () => do
      enter .active
      device.tell .runtimeResumed
  | .error error => do
      device.tell (.resumeFailed error)
      Traced.fail error

/-- Bring a device back from any suspend, as far as runtime power management goes.
Does nothing if the device is active. -/
def runtimeResume (device : Device σ) : DeviceM σ Unit := do
  let machine ← Traced.query fun machine => machine
  if machine.firstResumeDone then
    if machine.power = .active then
      pure ()
    else do
      let result ← device.wakeUp.attempt
      device.concludeResume result
  else
    device.firstResume

end Device

end DevicePower
