import DevicePower.Device.Request
import DevicePower.Proofs.Device.Steady
import DevicePower.Proofs.Device.Steps
import DevicePower.Proofs.Ending

/-!
# How transitions end

A runtime resume and a runtime suspend attempt a sequence of steps and then conclude it, by
entering another power state or by telling what went wrong. The rules of this module reduce
what holds after a transition to what holds after the sequence, one case for each way in which
the sequence can end.
-/

namespace DevicePower

open DeviceM Traced

variable {σ : Type}

namespace Device

variable {device : Device σ}
variable {before after : List Event → Machine σ → Prop}
variable {failed : Error → List Event → Machine σ → Prop}

/-- What is done while the interrupt lock is held ends as it does when the lock was taken, and
the lock is released in either case. -/
theorem ends_withIrqLock {α : Type} {held : List Event → Machine σ → Prop}
    {after inside : α → List Event → Machine σ → Prop}
    {failedInside : Error → List Event → Machine σ → Prop} {computation : DeviceM σ α}
    (taken : ∀ seen machine, before seen machine →
      held (seen ++ device.lockTaken machine) (device.locked machine))
    (ends : Ends held inside failedInside computation)
    (released : ∀ value seen machine, inside value seen machine →
      after value (seen ++ device.lockReleased) (device.unlocked machine))
    (releasedFailed : ∀ error seen machine, failedInside error seen machine →
      failed error (seen ++ device.lockReleased) (device.unlocked machine)) :
    Ends before after failed (device.withIrqLock computation) := by
  intro seen machine holds
  have ended := ends _ _ (taken seen machine holds)
  rw [withIrqLock_apply, ← List.append_assoc, ← List.append_assoc]
  cases result : (computation (device.locked machine)).result with
  | ok value =>
      rw [result] at ended
      exact released value _ _ ended
  | error error =>
      rw [result] at ended
      exact releasedFailed error _ _ ended

/-- A device is active after its first resume and after the steps of every later one. It does
nothing if it is active already. -/
theorem ends_runtimeResume
    (idle : ∀ seen machine, before seen machine → machine.firstResumeDone = true →
      machine.power = .active → after seen machine)
    (woken : Ends
      (fun seen machine =>
        before seen machine ∧ machine.firstResumeDone = true ∧ machine.power ≠ .active)
      (fun _ seen machine => after (seen ++ [.note (.device device.name .runtimeResumed)])
        { machine with power := .active })
      (fun error seen machine =>
        failed error (seen ++ [.note (.device device.name (.resumeFailed error))]) machine)
      device.wakeUp)
    (first : Ends (fun seen machine => before seen machine ∧ machine.firstResumeDone = false)
      (fun _ seen machine =>
        after seen { machine with firstResumeDone := true, power := .active })
      failed (device.callback .firstResume)) :
    Ends before (fun _ => after) failed device.runtimeResume := by
  apply ends_query_bind
  intro machine
  split
  next done =>
    split
    next active =>
      apply ends_pure
      rintro seen _ ⟨holds, rfl⟩
      exact idle seen _ holds done active
    next inactive =>
      have wokenHere := woken.given fun seen state
          (here : before seen state ∧ state = machine) => by
        obtain ⟨holds, rfl⟩ := here
        exact ⟨holds, done, inactive⟩
      apply wokenHere.attempt_bind
      · intro _ seen state holds
        exact holds
      · intro error seen state holds
        exact holds
  next fresh =>
    have firstHere := first.given fun seen state
        (here : before seen state ∧ state = machine) => by
      obtain ⟨holds, rfl⟩ := here
      exact ⟨holds, by simpa using fresh⟩
    exact firstHere.bind fun _ => ends_update fun _ _ holds => holds

/-- An attempt to suspend ends in runtime suspend, or it is undone because the device is busy,
or its error is told. `ready` holds once the given channels are paused, and `refused` where the
attempt stopped. -/
theorem ends_suspendActive {action : Action} {ready : UInt32 → List Event → Machine σ → Prop}
    {refused : UInt32 → Error → List Event → Machine σ → Prop}
    (prepared : Ends before ready (refused 0) device.prepareSuspend)
    (quieted : ∀ paused, Ends (ready paused)
      (fun _ seen machine => after (seen ++ [.note (.device device.name .runtimeSuspended)])
        { machine with power := .runtimeSuspended })
      (refused paused) (device.quiesce action))
    (undone : ∀ paused, Ends (refused paused .busy) (fun _ => failed .busy) failed
      (device.abortSuspend paused))
    (told : ∀ paused error seen machine, error ≠ .busy → refused paused error seen machine →
      failed error (seen ++ [.note (.device device.name (.suspendFailed error))]) machine) :
    Ends before (fun _ => after) failed (device.suspendActive action) := by
  have concluded (paused : UInt32) (error : Error) :
      Ends (refused paused error) (fun _ => after) failed
        (device.concludeSuspend paused (.error error)) := by
    by_cases busy : error = .busy
    · subst busy
      exact (undone paused).bind fun _ => ends_fail fun _ _ holds => holds
    · have told_apply (machine : Machine σ) :
          device.concludeSuspend paused (.error error) machine =
            ⟨.error error, [.note (.device device.name (.suspendFailed error))], machine⟩ := by
        rw [concludeSuspend.eq_def]
        cases error with
        | busy => exact absurd rfl busy
        | _ => rfl
      intro seen machine holds
      rw [told_apply]
      exact told paused error seen machine busy holds
  apply prepared.attempt_bind
  · intro paused
    apply (quieted paused).attempt_bind
    · intro _ seen machine holds
      exact holds
    · exact concluded paused
  · exact concluded 0

/-- A device that is not active does nothing when it is asked to suspend. -/
theorem ends_runtimeSuspendFor {action : Action}
    (idle : ∀ seen machine, before seen machine → machine.power ≠ .active → after seen machine)
    (attempted : Ends (fun seen machine => before seen machine ∧ machine.power = .active)
      (fun _ => after) failed (device.suspendActive action)) :
    Ends before (fun _ => after) failed (device.runtimeSuspendFor action) := by
  apply ends_query_bind
  intro power
  split
  next active =>
    apply attempted.given
    rintro seen machine ⟨holds, rfl⟩
    exact ⟨holds, active⟩
  next inactive =>
    apply ends_pure
    rintro seen machine ⟨holds, rfl⟩
    exact idle seen machine holds inactive

/-- A request ends as what it asks for. -/
theorem ends_answering {computation : DeviceM σ Unit}
    (ends : Ends before (fun _ => after) failed computation) :
    Ends before (fun _ => after) failed (answering computation) :=
  ends.bind fun _ => ends_pure fun _ _ holds => holds

end Device

end DevicePower
