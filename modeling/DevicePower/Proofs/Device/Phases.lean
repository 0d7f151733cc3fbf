import DevicePower.Proofs.Device.PowerCycle
import DevicePower.Proofs.Device.Resistance
import DevicePower.Proofs.Device.Transitions

/-!
# Phases of a device

Between two requests a device is new, or active, or suspended at run time or asleep. A
transition takes it from one phase to another, by one of a few sequences of steps, and these
sequences are put together in several ways: a system suspend may contain a resume and a runtime
suspend. `Phases` says of each sequence what it does to an invariant in the phase in which it
begins, and `Phases.ends_transition` follows for all transitions.

Only `wakeUp` calls the callback for a runtime resume. It is asked about for those power states
only from which the device is woken.
-/

namespace DevicePower

open DeviceM Traced

variable {σ : Type}

namespace Device

/-- Every sequence of steps of which transitions consist keeps the invariant in the phase in
which it begins, and what holds after a failure follows. A device is resumed at run time only
from the power states given. -/
structure Phases (device : Device σ) (wakes : PowerState → Prop)
    (invariant failed : List Event → Machine σ → Prop) : Prop where
  stopped : ∀ seen machine, invariant seen machine → failed seen machine
  told : ∀ news seen machine, invariant seen machine →
    invariant (seen ++ [.note (.device device.name news)]) machine
  toldFailed : ∀ news seen machine, failed seen machine →
    failed (seen ++ [.note (.device device.name news)]) machine
  -- A new device is brought up for the first time.
  begun : Ends
    (fun seen machine => invariant seen machine ∧ machine.firstResumeDone = false ∧
      machine.power = .runtimeSuspended)
    (fun _ seen machine =>
      invariant seen { machine with firstResumeDone := true, power := .active })
    (fun _ => failed) (device.callback .firstResume)
  -- An active device is suspended, or stays active.
  prepared : Keeps (fun seen machine => invariant seen machine ∧ Up machine) (fun _ => True)
    device.prepareSuspend
  quieted : ∀ action, Ends (fun seen machine => invariant seen machine ∧ Up machine)
    (fun _ seen machine => invariant seen { machine with power := .runtimeSuspended })
    (fun _ seen machine => invariant seen machine ∧ Up machine) (device.quiesce action)
  undone : ∀ paused, Keeps (fun seen machine => invariant seen machine ∧ Up machine)
    (fun _ => True) (device.abortSuspend paused)
  slept : Ends (fun seen machine => invariant seen machine ∧ Up machine)
    (fun _ seen machine => invariant seen { machine with power := .systemSuspended })
    (fun _ => failed) device.layDown
  called : ∀ stage, stage = .suspend ∨ stage = .resume →
    Keeps (fun seen machine => invariant seen machine ∧ Up machine) (fun _ => True)
      (device.callback stage)
  used : Keeps (fun seen machine => invariant seen machine ∧ Up machine) (fun _ => True)
    device.markBusy
  -- A device that is suspended or asleep is brought back.
  woken : Ends
    (fun seen machine => invariant seen machine ∧ machine.firstResumeDone = true ∧
      machine.power ≠ .active ∧ wakes machine.power)
    (fun _ seen machine => invariant seen { machine with power := .active })
    (fun _ => failed) device.wakeUp
  risen : Ends
    (fun seen machine => invariant seen machine ∧ machine.firstResumeDone = true ∧
      machine.power = .systemSuspended)
    (fun _ seen machine => invariant seen { machine with power := .active })
    (fun _ => failed) device.getUp
  looked : Keeps invariant (fun _ => True) device.usedRecently

/-- What is left of a system suspend once the device is active. -/
def fallAsleep (device : Device σ) : DeviceM σ Unit := do
  device.callback .suspend
  device.sleep
  let power ← Traced.query fun machine => machine.power
  device.tell (.suspended power)

variable {device : Device σ} {wakes : PowerState → Prop}
variable {invariant failed : List Event → Machine σ → Prop}

theorem steady_up (device : Device σ) :
    Steady device (fun _ => True) (fun _ => True) (fun _ => Up) (fun _ => True) :=
  device.steady_standing fun power done => power = .active ∧ done = true

theorem steady_done (device : Device σ) :
    Steady device (fun _ => True) (fun _ => True)
      (fun _ machine => machine.firstResumeDone = true) (fun _ => True) :=
  device.steady_standing fun _ done => done = true

namespace Phases

/-! ## Runtime power management -/

theorem ends_runtimeResume (phases : Phases device wakes invariant failed) :
    Ends
      (fun seen machine => invariant seen machine ∧ Begun machine ∧
        (machine.power ≠ .active → wakes machine.power))
      (fun _ seen machine => invariant seen machine ∧ Up machine)
      (fun _ => failed) device.runtimeResume := by
  apply Device.ends_runtimeResume
  · intro seen machine before _ active
    exact ⟨before.1, before.2.1.up active⟩
  · have remembered := (device.steady_done.wakeUp trivial trivial trivial trivial trivial
      trivial).ends
    apply (phases.woken.and remembered).weaken
    · intro seen machine before
      obtain ⟨⟨holds, -, allowed⟩, done, inactive⟩ := before
      exact ⟨⟨holds, done, inactive, allowed inactive⟩, done⟩
    · intro _ seen machine after
      exact ⟨phases.told _ _ _ after.1, rfl, after.2⟩
    · intro _ seen machine stopped
      exact phases.toldFailed _ _ _ stopped.1
  · apply phases.begun.weaken
    · intro seen machine before
      obtain ⟨⟨holds, begun, -⟩, fresh⟩ := before
      exact ⟨holds, fresh, begun.resolve_left (by simp [fresh])⟩
    · intro _ seen machine after
      exact ⟨after, rfl, rfl⟩
    · exact fun _ _ _ stopped => stopped

theorem ends_suspendActive (phases : Phases device wakes invariant failed) (action : Action) :
    Ends (fun seen machine => invariant seen machine ∧ Up machine) (fun _ => invariant)
      (fun _ => failed) (device.suspendActive action) := by
  have quieted (_ : UInt32) : Ends (fun seen machine => invariant seen machine ∧ Up machine)
      (fun _ seen machine => invariant (seen ++ [.note (.device device.name .runtimeSuspended)])
        { machine with power := .runtimeSuspended })
      (fun _ seen machine => invariant seen machine ∧ Up machine) (device.quiesce action) :=
    (phases.quieted action).weaken (fun _ _ before => before)
      (fun _ _ _ after => phases.told _ _ _ after) fun _ _ _ refused => refused
  apply Device.ends_suspendActive _ quieted
  · intro paused
    exact (phases.undone paused).ends.weaken (fun _ _ refused => refused)
      (fun _ _ _ undone => phases.stopped _ _ undone.1)
      fun _ _ _ undone => phases.stopped _ _ undone.1
  · exact fun _ _ _ _ _ refused => phases.stopped _ _ (phases.told _ _ _ refused.1)
  · exact phases.prepared.ends

theorem ends_runtimeSuspendFor (phases : Phases device wakes invariant failed) (action : Action) :
    Ends (fun seen machine => invariant seen machine ∧ Begun machine) (fun _ => invariant)
      (fun _ => failed) (device.runtimeSuspendFor action) := by
  apply Device.ends_runtimeSuspendFor
  · exact fun _ _ before _ => before.1
  · apply (phases.ends_suspendActive action).given
    intro seen machine before
    exact ⟨before.1.1, before.1.2.up before.2⟩

theorem ends_autosuspend (phases : Phases device wakes invariant failed) :
    Ends (fun seen machine => invariant seen machine ∧ Begun machine) (fun _ => invariant)
      (fun _ => failed) device.autosuspend := by
  have standing : Keeps (fun _ machine => Begun (σ := σ) machine) (fun _ => True)
      device.usedRecently :=
    (device.steady_standing fun power done => done = true ∨ power = .runtimeSuspended).usedRecently
  have looked := (phases.looked.and standing).ends
  apply (looked.failing fun _ _ _ stopped => phases.stopped _ _ stopped.1).bind
  intro recent
  split
  · exact ends_fail fun _ _ holds => phases.stopped _ _ holds.1
  · exact phases.ends_runtimeSuspendFor .autosuspend

/-! ## System sleep -/

theorem ends_wakeBeforeSleep (phases : Phases device wakes invariant failed) :
    Ends
      (fun seen machine => invariant seen machine ∧ Begun machine ∧
        machine.power ≠ .systemSuspended ∧
        (machine.power = .runtimeSuspended → wakes machine.power))
      (fun _ seen machine => invariant seen machine ∧ Up machine)
      (fun _ => failed) device.wakeBeforeSleep := by
  apply ends_query_bind
  intro power
  split
  next suspended =>
    apply phases.ends_runtimeResume.given
    intro seen machine before
    obtain ⟨⟨holds, begun, -, allowed⟩, same⟩ := before
    exact ⟨holds, begun, fun _ => allowed (same.trans suspended)⟩
  next other =>
    apply ends_pure
    intro seen machine before
    obtain ⟨⟨holds, begun, awake, -⟩, same⟩ := before
    refine ⟨holds, begun.up ?_⟩
    cases power with
    | active => exact same
    | runtimeSuspended => exact absurd rfl other
    | systemSuspended => exact absurd same awake

theorem ends_sleep (phases : Phases device wakes invariant failed) :
    Ends (fun seen machine => invariant seen machine ∧ Up machine) (fun _ => invariant)
      (fun _ => failed) device.sleep := by
  rw [sleep]
  split
  · rw [sleepWithContext_eq]
    exact phases.slept.bind fun _ => ends_update fun _ _ after => after
  · split
    · exact (phases.ends_runtimeSuspendFor .suspend).given fun _ _ before =>
        ⟨before.1, .inl before.2.2⟩
    · exact ends_pure fun _ _ before => before.1

theorem ends_fallAsleep (phases : Phases device wakes invariant failed) :
    Ends (fun seen machine => invariant seen machine ∧ Up machine) (fun _ => invariant)
      (fun _ => failed) device.fallAsleep := by
  have called := (phases.called .suspend (.inl rfl)).ends.failing fun _ _ _ stopped =>
    phases.stopped _ _ stopped.1
  refine called.bind fun _ => phases.ends_sleep.bind fun _ => ?_
  apply ends_query_bind
  exact fun _ _ _ before => phases.told _ _ _ before.1

theorem ends_suspend (phases : Phases device wakes invariant failed) :
    Ends
      (fun seen machine => invariant seen machine ∧ Begun machine ∧
        (machine.power = .runtimeSuspended → wakes machine.power))
      (fun _ => invariant) (fun _ => failed) device.suspend := by
  apply ends_query_bind
  intro power
  split
  next asleep => exact ends_pure fun _ _ before => before.1.1
  next awake =>
    have woken := phases.ends_wakeBeforeSleep.given fun seen machine
        (before : (invariant seen machine ∧ Begun machine ∧
          (machine.power = .runtimeSuspended → wakes machine.power)) ∧ machine.power = power) =>
      ⟨before.1.1, before.1.2.1, before.2 ▸ awake, before.1.2.2⟩
    exact woken.bind fun _ => phases.ends_fallAsleep

theorem ends_wakeFrom (phases : Phases device wakes invariant failed) (power : PowerState) :
    Ends
      (fun seen machine => (invariant seen machine ∧ Begun machine ∧
        (machine.power = .runtimeSuspended → wakes machine.power)) ∧ machine.power = power)
      (fun _ seen machine => invariant seen machine ∧ Up machine)
      (fun _ => failed) (device.wakeFrom power) := by
  cases power with
  | active =>
      apply ends_pure
      intro seen machine before
      exact ⟨before.1.1, before.1.2.1.up before.2⟩
  | runtimeSuspended =>
      apply phases.ends_runtimeResume.given
      intro seen machine before
      exact ⟨before.1.1, before.1.2.1, fun _ => before.1.2.2 before.2⟩
  | systemSuspended =>
      have remembered := (device.steady_done.getUp trivial trivial trivial trivial).ends
      have risen := (phases.risen.and remembered).failing fun _ _ _ stopped => stopped.1
      rw [wakeFrom, wakeWithContext_eq]
      apply (risen.bind fun _ => ends_update fun _ _ after => ⟨after.1, rfl, after.2⟩).given
      intro seen machine before
      obtain ⟨⟨holds, begun, -⟩, asleep⟩ := before
      have done := begun.resolve_right (by simp [asleep])
      exact ⟨⟨holds, done, asleep⟩, done⟩

theorem ends_resume (phases : Phases device wakes invariant failed) :
    Ends
      (fun seen machine => invariant seen machine ∧ Begun machine ∧
        (machine.power = .runtimeSuspended → wakes machine.power))
      (fun _ => invariant) (fun _ => failed) device.resume := by
  have called := (phases.called .resume (.inr rfl)).ends.failing fun _ _ _ stopped =>
    phases.stopped _ _ stopped.1
  have used := phases.used.ends.failing fun _ _ _ stopped => phases.stopped _ _ stopped.1
  apply ends_query_bind
  intro power
  refine (phases.ends_wakeFrom power).bind fun _ => called.bind fun _ => used.bind fun _ => ?_
  exact fun _ _ before => phases.told _ _ _ before.1

/-! ## Every transition -/

/-- A transition keeps the invariant if it succeeds, in whatever phase it begins. -/
theorem ends_transition (phases : Phases device wakes invariant failed) {request : Request}
    (transition : request.isTransition = true) :
    Ends
      (fun seen machine => invariant seen machine ∧ Begun machine ∧
        (request.ResumesFrom machine.power → wakes machine.power))
      (fun _ => invariant) (fun _ => failed) (device.perform request) := by
  cases request with
  | runtimeResume =>
      apply ends_answering
      exact phases.ends_runtimeResume.weaken (fun _ _ before => before)
        (fun _ _ _ after => after.1) fun _ _ _ stopped => stopped
  | runtimeSuspend =>
      exact ends_answering ((phases.ends_runtimeSuspendFor .suspend).given fun _ _ before =>
        ⟨before.1, before.2.1⟩)
  | autosuspend =>
      exact ends_answering (phases.ends_autosuspend.given fun _ _ before =>
        ⟨before.1, before.2.1⟩)
  | suspend => exact ends_answering phases.ends_suspend
  | resume => exact ends_answering phases.ends_resume
  | _ => cases transition

/-- A request keeps an invariant that also holds after failures, if it is a transition or is
known to keep it. -/
theorem after_perform (phases : Phases device wakes invariant invariant)
    (request : Request) (seen : List Event) {machine : Machine σ} (begun : Begun machine)
    (plain : request.isTransition = false →
      invariant (seen ++ (device.perform request machine).events)
        (device.perform request machine).state)
    (resumes : request.ResumesFrom machine.power → wakes machine.power)
    (holds : invariant seen machine) :
    invariant (seen ++ (device.perform request machine).events)
      (device.perform request machine).state := by
  cases transition : request.isTransition with
  | true =>
      have ended := phases.ends_transition transition seen machine ⟨holds, begun, resumes⟩
      split at ended <;> exact ended
  | false => exact plain transition

end Phases

end Device

end DevicePower
