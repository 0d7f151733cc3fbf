/-!
# Power states

The states a device can be in, the actions that lead from one to another, and the
states its pins can be switched to.
-/

namespace DevicePower

/-- Where a device is in its power cycle. -/
inductive PowerState where
  /-- Powered and usable. -/
  | active
  /-- Suspended by runtime power management. Every device starts here. -/
  | runtimeSuspended
  /-- Suspended as part of system sleep. -/
  | systemSuspended
  deriving DecidableEq, Repr

/-- The actions that may change the pins of a device. -/
inductive Action where
  | suspend
  | resume
  | idle
  | autosuspend
  deriving DecidableEq, Repr

/-- The pin states a pin controller knows. -/
inductive PinState where
  /-- Normal operation. -/
  | default
  /-- Lowest power. -/
  | sleep
  /-- Idle, but quickly usable again. -/
  | idle
  deriving DecidableEq, Repr

/-! ## Wording -/

/-- The name a power state has in messages. -/
def PowerState.name : PowerState → String
  | .active => "Active"
  | .runtimeSuspended => "RuntimeSuspended"
  | .systemSuspended => "SystemSuspended"

/-- The name an action has in messages. -/
def Action.name : Action → String
  | .suspend => "Suspend"
  | .resume => "Resume"
  | .idle => "Idle"
  | .autosuspend => "Autosuspend"

/-- The name a pin state has in messages. -/
def PinState.name : PinState → String
  | .default => "Default"
  | .sleep => "Sleep"
  | .idle => "Idle"

end DevicePower
