import DevicePower.Device.Basic

/-!
# Clocks of a device

On the way down the clock table quiesces the device before the clocks stop; on
the way up the clocks run before the table touches any register. Only clocks that
are not yet in the wanted state are switched.
-/

namespace DevicePower

namespace Clock

open DeviceM

variable {σ : Type}

/-- Stop a clock that runs. -/
def stop (number : Nat) : Clock σ → DeviceM σ Unit
  | .fixed => pure ()
  | .gate isRunning _ disable => do
      let running ← look isRunning
      Traced.emit (.clock number (.found running))
      if running then
        Traced.emit (.clock number .disabled)
        change disable
      else
        pure ()

/-- Start a clock that does not run. -/
def start (number : Nat) : Clock σ → DeviceM σ Unit
  | .fixed => pure ()
  | .gate isRunning enable _ => do
      let running ← look isRunning
      Traced.emit (.clock number (.found running))
      if running then
        pure ()
      else
        Traced.emit (.clock number .enabled)
        change enable

/-- Stop every clock of a list, numbered from `number` on. -/
def stopAll (number : Nat) : List (Clock σ) → DeviceM σ Unit
  | [] => pure ()
  | clock :: rest => do
      clock.stop number
      stopAll (number + 1) rest

/-- Start every clock of a list, numbered from `number` on. -/
def startAll (number : Nat) : List (Clock σ) → DeviceM σ Unit
  | [] => pure ()
  | clock :: rest => do
      clock.start number
      startAll (number + 1) rest

end Clock

namespace Device

variable {σ : Type}

/-- Run the clock table for stopping, then stop the clocks of a device. -/
def gateClocks (device : Device σ) : DeviceM σ Unit := do
  device.runDriverTable .clockDisable
  Clock.stopAll 0 device.clocks

/-- Start the clocks of a device, then run the clock table for starting. -/
def ungateClocks (device : Device σ) : DeviceM σ Unit := do
  Clock.startAll 0 device.clocks
  device.runDriverTable .clockEnable

end Device

end DevicePower
