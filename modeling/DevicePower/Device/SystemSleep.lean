import DevicePower.Device.RuntimePower

/-!
# System sleep

A device that is suspended at run time is woken up before it goes to system
sleep. What happens next depends on the driver. With `systemContext` the context
is saved, the pins are put to sleep and the clocks are gated, and waking up undoes
exactly that. Otherwise only the callbacks run, and a device with runtime power
management is suspended at run time again.
-/

namespace DevicePower

namespace Device

variable {σ : Type}

/-- Put a device with a system context to sleep. -/
def sleepWithContext (device : Device σ) : DeviceM σ Unit := do
  device.save
  device.selectPins .suspend
  device.gateClocks
  enter .systemSuspended

/-- Wake up a device that was put to sleep with its context. -/
def wakeWithContext (device : Device σ) : DeviceM σ Unit := do
  device.ungateClocks
  device.restore
  device.selectPins .resume
  enter .active

/-- Wake a device up before it goes to sleep, if it is suspended at run time. -/
def wakeBeforeSleep (device : Device σ) : DeviceM σ Unit := do
  let power ← Traced.query fun machine => machine.power
  if power = .runtimeSuspended then device.runtimeResume else pure ()

/-- Put an active device to sleep, in the way of its driver. -/
def sleep (device : Device σ) : DeviceM σ Unit :=
  if device.driver.flags.systemContext then
    device.sleepWithContext
  else if device.driver.flags.runtimePm then
    device.runtimeSuspend
  else
    pure ()

/-- Prepare a device for system sleep. Does nothing if it is asleep. -/
def suspend (device : Device σ) : DeviceM σ Unit := do
  let power ← Traced.query fun machine => machine.power
  if power = .systemSuspended then
    pure ()
  else do
    device.wakeBeforeSleep
    device.callback .suspend
    device.sleep
    let power ← Traced.query fun machine => machine.power
    device.tell (.suspended power)

/-- Wake a device up from the state it is in. -/
def wakeFrom (device : Device σ) : PowerState → DeviceM σ Unit
  | .systemSuspended => device.wakeWithContext
  | .runtimeSuspended => device.runtimeResume
  | .active => pure ()

/-- Bring a device back after system sleep. The callback runs and the device counts
as in use even if it was awake. -/
def resume (device : Device σ) : DeviceM σ Unit := do
  let power ← Traced.query fun machine => machine.power
  device.wakeFrom power
  device.callback .resume
  device.markBusy
  device.tell .resumed

end Device

end DevicePower
