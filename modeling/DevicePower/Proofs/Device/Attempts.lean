import DevicePower.Proofs.Device.Rollback

/-!
# Attempts to suspend

A runtime suspend is asked for by itself, by an autosuspend whose delay has passed, and as the last
part of a system suspend. `suspendStart` says for every request whether it comes to one, for which
action, and in which machine. What a request does before and after that is common to all drivers
and saves nothing.
-/

namespace DevicePower

open DeviceM Traced

variable {σ : Type}

namespace Device

variable (device : Device σ)

/-- An attempt to suspend for the given action. There is none unless the device is active. -/
def attemptFor (action : Action) (machine : Machine σ) : Option (Action × Machine σ) :=
  if machine.power = .active then some (action, machine) else none

/-- The action for which a request attempts to suspend the device, and the machine in which the
attempt starts, if the request comes to one. -/
def suspendStart : Request → Machine σ → Option (Action × Machine σ)
  | .runtimeSuspend, machine => attemptFor .suspend machine
  | .autosuspend, machine =>
      match (device.usedRecently machine).result with
      | .ok false => attemptFor .autosuspend (device.usedRecently machine).state
      | _ => none
  | .suspend, machine =>
      if machine.power = .systemSuspended then
        none
      else
        match (device.beforeSleep machine).result with
        | .ok () =>
            if device.driver.flags.systemContext then none
            else if device.driver.flags.runtimePm then
              attemptFor .suspend (device.beforeSleep machine).state
            else none
        | .error _ => none
  | _, _ => none

/-- What a runtime suspend does is the attempt, or nothing. -/
theorem runtimeSuspendFor_apply (action : Action) (machine : Machine σ) :
    device.runtimeSuspendFor action machine =
      match attemptFor action machine with
      | some (action, start) => device.suspendActive action start
      | none => ⟨.ok (), [], machine⟩ := by
  rw [runtimeSuspendFor, query_bind_apply, attemptFor]
  split <;> rfl

/-- An attempt starts at once. -/
theorem eq_of_attemptFor {action : Action} {machine start : Machine σ}
    (begins : (attemptFor action machine).map Prod.snd = some start) : start = machine := by
  rw [attemptFor] at begins
  split at begins
  · exact (Option.some.inj begins).symm
  · cases begins

end Device

end DevicePower
