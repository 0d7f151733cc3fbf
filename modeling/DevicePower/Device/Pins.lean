import DevicePower.Device.Basic

/-!
# Pins of a device

Switching pins is best effort. A device whose pins cannot be switched is suspended
and resumed all the same; the failure is only told.
-/

namespace DevicePower

namespace Device

open DeviceM

variable {σ : Type}

/-- Ask the pin controller for a state. -/
def applyPins (device : Device σ) (controller : PinController σ) (state : PinState) :
    DeviceM σ Unit := do
  let accepted ← onHardware (controller.select state)
  Traced.emit (.pins state accepted)
  if accepted then
    pure ()
  else
    device.tell (.pinsRefused state)

/-- Switch the pins to the state that the driver maps an action to. -/
def selectPins (device : Device σ) (action : Action) : DeviceM σ Unit :=
  match device.pins with
  | none => pure ()
  | some controller => do
      let context ← Traced.query fun machine => machine.context
      match (device.driver.pins.selection action).resolve context with
      | .ok (some state) => device.applyPins controller state
      | .ok none => pure ()
      | .error reason => device.tell (.noPinState action (.configuration reason))

end Device

end DevicePower
