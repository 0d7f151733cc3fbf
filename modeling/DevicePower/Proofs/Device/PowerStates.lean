import DevicePower.Bench.Uart
import DevicePower.Proofs.Device.PowerCycle
import DevicePower.Proofs.Device.Transitions

/-!
# Power states and results

The result of a request tells which power state the device is in. A transition enters its new
state at the very end, and a system suspend and resume contain runtime transitions that may
succeed before something else fails; `PowerAgrees` lists for every request what is left of
this. That only a device with a system context ever sleeps is an invariant of all reachable
states.
-/

namespace DevicePower

open DeviceM Traced

variable {σ : Type}

/-- The power state after a runtime suspend. Only a device that is active moves. -/
def PowerState.afterSuspend : PowerState → PowerState
  | .active => .runtimeSuspended
  | other => other

theorem PowerState.afterSuspend_of_ne {power : PowerState} (inactive : power ≠ .active) :
    power.afterSuspend = power := by
  cases power with
  | active => exact absurd rfl inactive
  | _ => rfl

theorem PowerState.afterSuspend_ne (power : PowerState) : power.afterSuspend ≠ .active := by
  cases power <;> simp [afterSuspend]

namespace Device

/-- The power state that system sleep ends in. -/
def sleepState (device : Device σ) : PowerState :=
  if device.driver.flags.systemContext then .systemSuspended
  else if device.driver.flags.runtimePm then .runtimeSuspended
  else .active

/-- The power states before and after a request agree with its result. -/
def PowerAgrees (device : Device σ) (before after : PowerState) :
    Request → Except Error Answer → Prop
  | .runtimeResume, .ok _ => after = .active
  | .runtimeSuspend, .ok _ | .autosuspend, .ok _ =>
      after ≠ .active ∧ after = before.afterSuspend
  | .suspend, .ok _ => after = device.sleepState
  | .suspend, .error _ => after = .active ∨ after = .runtimeSuspended ∧ before = .runtimeSuspended
  | .resume, .ok _ => after = .active
  | .resume, .error _ => after = .active ∨ after = before
  | _, _ => after = before

/-- Only a device with a system context sleeps. -/
def SleepsInContext (device : Device σ) (power : PowerState) : Prop :=
  power = .systemSuspended → device.driver.flags.systemContext = true

/-! ## Runtime power management -/

section Runtime

variable (device : Device σ) (power : PowerState)

theorem ends_runtimeResume_power :
    Ends (fun _ machine => machine.power = power) (fun _ _ machine => machine.power = .active)
      (fun _ _ machine => machine.power = power) device.runtimeResume := by
  have steady := device.steady_record fun current _ => current = power
  apply ends_runtimeResume
  · exact fun _ _ _ _ active => active
  · have woken := steady.wakeUp trivial trivial trivial trivial trivial trivial
    exact woken.ends_sound.weaken (fun _ _ before => before.1) (fun _ _ _ _ => rfl)
      fun _ _ _ kept => kept
  · have called := steady.callback .firstResume trivial
    exact called.ends_sound.weaken (fun _ _ before => before.1) (fun _ _ _ _ => rfl)
      fun _ _ _ kept => kept

theorem ends_runtimeSuspendFor_power (action : Action) :
    Ends (fun _ machine => machine.power = power)
      (fun _ _ machine => machine.power = power.afterSuspend)
      (fun _ _ machine => machine.power = power) (device.runtimeSuspendFor action) := by
  -- Within the attempt, the device is known to be active.
  have steady := device.steady_record fun current _ => current = power ∧ current = .active
  apply ends_runtimeSuspendFor
  · rintro seen machine rfl inactive
    exact (PowerState.afterSuspend_of_ne inactive).symm
  · have quieted (paused : UInt32) : Ends
        (fun _ machine => machine.power = power ∧ machine.power = .active)
        (fun _ _ _ => .runtimeSuspended = power.afterSuspend)
        (fun _ _ machine => machine.power = power ∧ machine.power = .active)
        (device.quiesce action) := by
      have kept := steady.quiesce action trivial trivial trivial trivial
      apply kept.ends_sound.weaken (fun _ _ kept => kept) _ fun _ _ _ kept => kept
      rintro _ seen machine ⟨rfl, active⟩
      rw [active]
      rfl
    apply ends_suspendActive _ quieted
    · intro paused
      exact (steady.abortSuspend trivial paused).ends_sound.weaken (fun _ _ kept => kept)
        (fun _ _ _ kept => kept.1) fun _ _ _ kept => kept.1
    · exact fun _ _ _ _ _ kept => kept.1
    · exact (steady.prepareSuspend trivial).ends_sound

theorem ends_autosuspend_power :
    Ends (fun _ machine => machine.power = power)
      (fun _ _ machine => machine.power = power.afterSuspend)
      (fun _ _ machine => machine.power = power) device.autosuspend := by
  have steady := device.steady_record fun current _ => current = power
  apply steady.usedRecently.ends_sound.bind
  intro recent
  split
  · exact ends_fail fun _ _ kept => kept
  · exact device.ends_runtimeSuspendFor_power power .autosuspend

end Runtime

/-! ## System sleep -/

section System

variable (device : Device σ)

/-- A device that is not asleep is active before it goes to sleep, or waking it up failed. -/
theorem ends_wakeBeforeSleep_power {power : PowerState} (awake : power ≠ .systemSuspended) :
    Ends (fun _ machine => machine.power = power) (fun _ _ machine => machine.power = .active)
      (fun _ _ machine => machine.power = .runtimeSuspended ∧ power = .runtimeSuspended)
      device.wakeBeforeSleep := by
  apply ends_query_bind_of (fun _ _ same => same)
  split
  next suspended =>
    subst suspended
    exact (device.ends_runtimeResume_power .runtimeSuspended).weaken (fun _ _ same => same)
      (fun _ _ _ active => active) fun _ _ _ same => ⟨same, rfl⟩
  next other =>
    apply ends_pure
    rintro seen machine rfl
    cases power : machine.power with
    | active => rfl
    | runtimeSuspended => exact absurd power other
    | systemSuspended => exact absurd power awake

theorem ends_sleep_power :
    Ends (fun _ machine => machine.power = .active)
      (fun _ _ machine => machine.power = device.sleepState)
      (fun _ _ machine => machine.power = .active) device.sleep := by
  have steady := device.steady_record fun current _ => current = .active
  rw [sleep, sleepState]
  split
  · have saved := (steady.save trivial).ends_sound
    have selected := (steady.pins .suspend).ends_sound
    have gated := (steady.gateClocks trivial).ends_sound
    exact saved.bind fun _ => selected.bind fun _ => gated.bind fun _ =>
      ends_update fun _ _ _ => rfl
  · split
    · exact device.ends_runtimeSuspendFor_power .active .suspend
    · exact ends_pure fun _ _ active => active

/-- The state after a system suspend is that of the driver, or the device stayed or became
active, or it was not woken up. -/
theorem ends_suspend_power {power : PowerState} (inContext : device.SleepsInContext power) :
    Ends (fun _ machine => machine.power = power)
      (fun _ _ machine => machine.power = device.sleepState)
      (fun _ _ machine => machine.power = .active ∨
        machine.power = .runtimeSuspended ∧ power = .runtimeSuspended) device.suspend := by
  have active := device.steady_record fun current _ => current = .active
  apply ends_query_bind_of (fun _ _ same => same)
  split
  next asleep =>
    apply ends_pure
    rintro seen machine rfl
    rw [asleep, sleepState, if_pos (inContext asleep)]
  next awake =>
    have woken := device.ends_wakeBeforeSleep_power awake
    have called := (active.callback .suspend trivial).ends_sound
    refine (woken.failing fun _ _ _ stopped => .inr stopped).bind fun _ => ?_
    refine (called.failing fun _ _ _ active => .inl active).bind fun _ => ?_
    refine (device.ends_sleep_power.failing fun _ _ _ active => .inl active).bind fun _ => ?_
    apply ends_query_bind
    intro _ seen machine here
    exact here.1

theorem ends_wakeFrom_power (power : PowerState) :
    Ends (fun _ machine => machine.power = power) (fun _ _ machine => machine.power = .active)
      (fun _ _ machine => machine.power = power) (device.wakeFrom power) := by
  have steady := device.steady_record fun current _ => current = power
  cases power with
  | active => exact ends_pure fun _ _ active => active
  | runtimeSuspended => exact device.ends_runtimeResume_power .runtimeSuspended
  | systemSuspended =>
      have ungated := (steady.ungateClocks trivial).ends_sound
      have restored := (steady.restore trivial trivial trivial).ends_sound
      have selected := (steady.pins .resume).ends_sound
      exact ungated.bind fun _ => restored.bind fun _ => selected.bind fun _ =>
        ends_update fun _ _ _ => rfl

theorem ends_resume_power (power : PowerState) :
    Ends (fun _ machine => machine.power = power) (fun _ _ machine => machine.power = .active)
      (fun _ _ machine => machine.power = .active ∨ machine.power = power) device.resume := by
  have active := device.steady_record fun current _ => current = .active
  apply ends_query_bind_of (fun _ _ same => same)
  have ready : Keeps (Throughout (fun _ => True) fun machine => machine.power = .active)
      (fun _ => True) (do
        device.callback .resume
        device.markBusy
        device.tell .resumed) :=
    (active.callback .resume trivial).bind fun _ =>
      active.markBusy.bind fun _ => active.news _ (by simp)
  refine ((device.ends_wakeFrom_power power).failing fun _ _ _ same => .inr same).bind fun _ => ?_
  exact ready.ends_sound.failing fun _ _ _ active => .inl active

end System

/-! ## Every request in every reachable state -/

section Requests

variable (device : Device σ)

/-- A request leaves a power state that agrees with its result. -/
theorem ends_perform_power {power : PowerState} (inContext : device.SleepsInContext power)
    (request : Request) :
    Ends (fun _ machine => machine.power = power)
      (fun answer _ machine => device.PowerAgrees power machine.power request (.ok answer))
      (fun error _ machine => device.PowerAgrees power machine.power request (.error error))
      (device.perform request) := by
  have steady := device.steady_record fun current _ => current = power
  have working (origin : Origin) {α : Type} (computation : TableM σ α) :=
    record_working (fun current _ => current = power) origin computation
  cases request with
  | runtimeResume => exact ends_answering (device.ends_runtimeResume_power power)
  | runtimeSuspend =>
      refine (device.ends_runtimeSuspendFor_power power .suspend).bind fun _ => ends_pure ?_
      intro seen machine left
      exact ⟨left ▸ power.afterSuspend_ne, left⟩
  | autosuspend =>
      refine (device.ends_autosuspend_power power).bind fun _ => ends_pure ?_
      intro seen machine left
      exact ⟨left ▸ power.afterSuspend_ne, left⟩
  | suspend => exact ends_answering (device.ends_suspend_power inContext)
  | resume => exact ends_answering (device.ends_resume_power power)
  | createContext template =>
      exact (keeps_answering
        (device.record_createContext (fun current _ => current = power) template)).ends_sound
  | runTable table => exact (keeps_answering (working .request (table.run device.port))).ends_sound
  | _ =>
      exact (steady.perform_step (fun offset => working .request (device.port.read offset))
        (fun offset value => working .request (device.port.write offset value))
        (fun _ _ => trivial) trivial (fun _ => trivial) rfl).ends_sound

theorem sleepsInContext_sleepState : device.SleepsInContext device.sleepState := by
  intro asleep
  rw [sleepState] at asleep
  split at asleep
  next inContext => exact inContext
  next => split at asleep <;> cases asleep

theorem sleepsInContext_afterSuspend {before : PowerState}
    (inContext : device.SleepsInContext before) :
    device.SleepsInContext before.afterSuspend := by
  cases before with
  | active => exact nofun
  | _ => exact inContext

end Requests

namespace PowerAgrees

variable {device : Device σ} {before after : PowerState} {request : Request}

/-- A request that agrees with its result does not send a device to sleep that has no system
context. -/
theorem sleepsInContext {result : Except Error Answer}
    (agrees : device.PowerAgrees before after request result)
    (inContext : device.SleepsInContext before) : device.SleepsInContext after := by
  have awake {power : PowerState} (other : power ≠ .systemSuspended) :
      device.SleepsInContext power := fun asleep => absurd asleep other
  unfold PowerAgrees at agrees
  split at agrees
  · exact awake (by simp [agrees])
  · exact agrees.2 ▸ device.sleepsInContext_afterSuspend inContext
  · exact agrees.2 ▸ device.sleepsInContext_afterSuspend inContext
  · exact agrees ▸ device.sleepsInContext_sleepState
  · rcases agrees with active | ⟨suspended, -⟩
    · exact awake (by simp [active])
    · exact awake (by simp [suspended])
  · exact awake (by simp [agrees])
  · rcases agrees with active | same
    · exact awake (by simp [active])
    · exact same ▸ inContext
  · exact agrees ▸ inContext

/-- A request that fails leaves the device active or where it was. -/
theorem of_error {error : Error}
    (agrees : device.PowerAgrees before after request (.error error)) :
    after = .active ∨ after = before := by
  cases request with
  | suspend =>
      rcases agrees with active | ⟨suspended, stayed⟩
      · exact .inl active
      · exact .inr (suspended.trans stayed.symm)
  | resume => exact agrees
  | _ => exact .inr agrees

end PowerAgrees

/-- Every request agrees with its result, in whatever state it is asked for. -/
theorem powerAgrees_perform (device : Device σ) {machine : Machine σ}
    (inContext : device.SleepsInContext machine.power) (request : Request) :
    device.PowerAgrees machine.power (device.perform request machine).state.power request
      (device.perform request machine).result := by
  have ended := device.ends_perform_power inContext request [] machine rfl
  cases result : (device.perform request machine).result with
  | ok answer =>
      rw [result] at ended
      exact ended
  | error error =>
      rw [result] at ended
      exact ended

/-- In any state that a device can be in, it sleeps only if it has a system context. -/
theorem sleepsInContext_of_reachable (device : Device σ) {machine : Machine σ}
    (reachable : device.Reachable machine) : device.SleepsInContext machine.power := by
  obtain ⟨hardware, storage, happenings, rfl⟩ := reachable
  have asked (request : Request) :
      Keeps (fun _ machine => device.SleepsInContext machine.power) (fun _ => True)
        (device.perform request) :=
    fun _ machine inContext =>
      ⟨(device.powerAgrees_perform inContext request).sleepsInContext inContext,
        fun _ _ => trivial⟩
  exact (keeps_history asked (fun _ _ _ kept => kept) (fun _ _ _ kept => kept) happenings []
    (.initial hardware storage) nofun).1

/-- In every state that a device can be in, whatever its hardware does, the power state after a
request agrees with the result of the request. Only a device with a system context is ever
asleep, and a request that fails never moves a device to a suspended state that it was not in. -/
theorem power_agrees (device : Device σ) {machine : Machine σ}
    (reachable : device.Reachable machine) (request : Request) :
    let outcome := device.perform request machine
    device.PowerAgrees machine.power outcome.state.power request outcome.result ∧
      (machine.power = .systemSuspended → device.driver.flags.systemContext = true) ∧
      (∀ error, outcome.result = .error error → outcome.state.power ≠ .active →
        outcome.state.power = machine.power) := by
  intro outcome
  have inContext := device.sleepsInContext_of_reachable reachable
  have agrees := device.powerAgrees_perform inContext request
  refine ⟨agrees, inContext, ?_⟩
  intro error failed inactive
  rw [failed] at agrees
  exact agrees.of_error.resolve_left inactive

/-- The serial port with an interrupt pending refuses to go to sleep, and stays active. -/
theorem uart_power_agrees :
    (Bench.Uart.device.perform .suspend Bench.Uart.interrupted).result = .error .busy ∧
      Bench.Uart.interrupted.power = .active ∧
      (Bench.Uart.device.perform .suspend Bench.Uart.interrupted).state.power = .active := by
  have reachable : Bench.Uart.device.Reachable Bench.Uart.interrupted :=
    ⟨Bench.Uart.board, [0, 0, 0, 0],
      [.asked (.createContext Bench.Uart.template), .asked .runtimeResume,
        .changed Bench.Uart.interrupted.hardware], rfl⟩
  have failed : (Bench.Uart.device.perform .suspend Bench.Uart.interrupted).result =
      .error .busy := by decide +kernel
  have active : Bench.Uart.interrupted.power = .active := by decide +kernel
  refine ⟨failed, active, ?_⟩
  by_contra inactive
  have stayed := (Bench.Uart.device.power_agrees reachable .suspend).2.2 .busy failed inactive
  exact inactive (stayed.trans active)

end Device

end DevicePower
