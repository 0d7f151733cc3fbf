import DevicePower.Condition
import DevicePower.Power

/-!
# Pin selections

A device type maps every action to a pin state. The choice may depend on the
context of the device, and an action may leave the pins as they are.
-/

namespace DevicePower

/-- How the pin state for one action is chosen. -/
inductive PinSelection where
  /-- The pins are left alone. -/
  | unchanged
  /-- Always this state. -/
  | always (state : PinState)
  /-- One of two states, depending on the context at the time of the action. -/
  | choose (condition : Condition) (yes no : PinState)

namespace PinSelection

/-- The pin state that is chosen in a context, or none to leave the pins alone. -/
def resolve (context : Context) : PinSelection → Except ConfigError (Option PinState)
  | .unchanged => .ok none
  | .always state => .ok (some state)
  | .choose condition yes no => do
      let holds ← condition.eval context
      return some (if holds then yes else no)

/-- Check a selection against a context of `length` slots. -/
def validate (length : Nat) : PinSelection → Except ConfigError Unit
  | .choose condition _ _ => condition.validate length
  | _ => .ok ()

end PinSelection

/-- The pin selections of a device type, one for every action. -/
structure PinMap where
  suspend : PinSelection
  resume : PinSelection
  idle : PinSelection
  autosuspend : PinSelection

namespace PinMap

/-- Sleep while suspended, default while running, idle while idle. -/
def standard : PinMap where
  suspend := .always .sleep
  resume := .always .default
  idle := .always .idle
  autosuspend := .always .sleep

/-- Never touch the pins. -/
def unchanged : PinMap where
  suspend := .unchanged
  resume := .unchanged
  idle := .unchanged
  autosuspend := .unchanged

/-- The selection for an action. -/
def selection (map : PinMap) : Action → PinSelection
  | .suspend => map.suspend
  | .resume => map.resume
  | .idle => map.idle
  | .autosuspend => map.autosuspend

/-- Check every selection against a context of `length` slots. -/
def validate (map : PinMap) (length : Nat) : Except ConfigError Unit := do
  map.suspend.validate length
  map.resume.validate length
  map.idle.validate length
  map.autosuspend.validate length

end PinMap

end DevicePower
