import DevicePower.Proofs.Device.History
import DevicePower.Proofs.Device.Upkeep

/-!
# The power cycle

Only the beginning and the end of a transition touch the power state and the record of the
first resume; no single step does. A device is therefore in its initial power state until
its first resume succeeds, and the first resume is never forgotten.
-/

namespace DevicePower

open DeviceM Traced

variable {σ : Type}

/-- The device was resumed for the first time, or has never left its initial power state. -/
def Begun (machine : Machine σ) : Prop :=
  machine.firstResumeDone = true ∨ machine.power = .runtimeSuspended

/-- The device is active, and not for want of its first resume. -/
def Up (machine : Machine σ) : Prop :=
  machine.power = .active ∧ machine.firstResumeDone = true

theorem Begun.up {machine : Machine σ} (begun : Begun machine) (active : machine.power = .active) :
    Up machine :=
  ⟨active, begun.resolve_right (by simp [active])⟩

namespace Device

/-- No single step touches the power state or the record of the first resume. -/
theorem steady_record (device : Device σ) (sound : PowerState → Bool → Prop) :
    Steady device (fun _ => True) (fun _ => True)
      (Throughout (fun _ => True) fun machine => sound machine.power machine.firstResumeDone)
      (fun _ => True) := by
  have upkeep : Upkeep device (fun _ => True) (fun _ => True) (fun _ => True)
      (fun machine => sound machine.power machine.firstResumeDone) (fun _ => True) := {
    run := fun _ _ _ _ _ _ _ holds => ⟨holds, fun _ _ => trivial⟩
    differs := fun _ _ _ _ _ holds => ⟨holds, fun _ _ => trivial⟩
    status := fun _ _ _ _ _ _ _ holds => ⟨holds, fun _ _ => trivial⟩
    program := fun _ _ _ _ _ _ _ _ _ holds => ⟨holds, fun _ _ => trivial⟩ }
  exact upkeep.steady

/-- The same of an invariant that speaks about nothing else. -/
theorem steady_standing (device : Device σ) (sound : PowerState → Bool → Prop) :
    Steady device (fun _ => True) (fun _ => True)
      (fun _ machine => sound machine.power machine.firstResumeDone) (fun _ => True) := by
  have steady := device.steady_record sound
  rwa [throughout_true] at steady

/-- What is kept throughout holds afterwards. -/
theorem state_of_keeps {α : Type} {sound : Machine σ → Prop} {allowed : Error → Prop}
    {computation : DeviceM σ α}
    (kept : Keeps (Throughout (fun _ => True) sound) allowed computation) {machine : Machine σ}
    (holds : sound machine) : sound (computation machine).state :=
  (kept [] machine ⟨by simp, holds⟩).1.2

section Requests

variable (device : Device σ) (sound : PowerState → Bool → Prop)

theorem record_createContext (template : List UInt32) :
    Keeps (Throughout (fun _ => True) fun machine => sound machine.power machine.firstResumeDone)
      (fun _ => True) (device.createContext template) := by
  apply (keeps_query _).bind
  intro context
  split
  · exact keeps_update fun _ _ holds => holds
  · exact keeps_fail trivial

theorem record_working {α : Type} (origin : Origin) (computation : TableM σ α) :
    Keeps (Throughout (fun _ => True) fun machine => sound machine.power machine.firstResumeDone)
      (fun _ => True) (working origin computation) :=
  Upkeep.keeps_working (fun _ => trivial) fun _ holds _ _ _ => ⟨holds, fun _ _ => trivial⟩

end Requests

/-- The first resume is never forgotten. -/
theorem lasting_firstResume (device : Device σ) :
    Lasting device (Throughout (fun _ => True) fun machine => machine.firstResumeDone = true)
      (fun _ => True) :=
  .of_enter (device.steady_record fun _ done => done = true)
    (fun _ => keeps_update fun _ _ holds => holds) (keeps_update fun _ _ holds => ⟨holds.1, rfl⟩)
    (device.record_createContext fun _ done => done = true)
    (fun _ => record_working (fun _ done => done = true) _ _)
    (fun _ => record_working (fun _ done => done = true) _ _)
    fun _ _ => record_working (fun _ done => done = true) _ _

theorem steady_begun (device : Device σ) :
    Steady device (fun _ => True) (fun _ => True) (Throughout (fun _ => True) Begun)
      (fun _ => True) :=
  device.steady_record fun power done => done = true ∨ power = .runtimeSuspended

theorem keeps_begun {α : Type} {computation : DeviceM σ α}
    (begun : ∀ machine, Begun machine → Begun (computation machine).state) :
    Keeps (Throughout (fun _ => True) Begun) (fun _ => True) computation :=
  fun _ machine holds => ⟨⟨fun _ _ => trivial, begun machine holds.2⟩, fun _ _ => trivial⟩

/-- A device that was resumed before stays one that was. -/
theorem begun_of_done {α : Type} {computation : DeviceM σ α}
    (kept : Keeps (Throughout (fun _ => True) fun machine => machine.firstResumeDone = true)
      (fun _ => True) computation) {machine : Machine σ} (done : machine.firstResumeDone = true) :
    Begun (computation machine).state :=
  .inl (state_of_keeps kept done)

/-- The very first resume either fails and leaves the power state, or is recorded. -/
theorem begun_runtimeResume (device : Device σ) {machine : Machine σ} (begun : Begun machine) :
    Begun (device.runtimeResume machine).state ∧
      ((device.runtimeResume machine).result = .ok () →
        (device.runtimeResume machine).state.firstResumeDone = true) := by
  cases done : machine.firstResumeDone with
  | true =>
      have kept := state_of_keeps device.lasting_firstResume.runtimeResume done
      exact ⟨.inl kept, fun _ => kept⟩
  | false =>
      have first : device.runtimeResume machine = device.firstResume machine := by
        rw [runtimeResume, query_bind_apply, if_neg (by simp [done])]
      rw [first, firstResume]
      constructor
      · exact bind_state (state_of_keeps (device.steady_begun.callback .firstResume trivial) begun)
          fun _ _ => .inl rfl
      · intro succeeded
        obtain ⟨⟨⟩, called, -⟩ := bind_succeeds_iff.mp succeeded
        rw [bind_of_ok called]
        rfl

theorem begun_suspend (device : Device σ) {machine : Machine σ} (begun : Begun machine) :
    Begun (device.suspend machine).state := by
  cases done : machine.firstResumeDone with
  | true => exact begun_of_done device.lasting_firstResume.suspend done
  | false =>
      have initial : machine.power = .runtimeSuspended := begun.resolve_left (by simp [done])
      have woken : device.wakeBeforeSleep machine = device.runtimeResume machine := by
        rw [wakeBeforeSleep, query_bind_apply, if_pos initial]
      have lasting := device.lasting_firstResume
      rw [suspend, query_bind_apply, if_neg (by simp [initial])]
      apply bind_state
      · rw [woken]
        exact (device.begun_runtimeResume begun).1
      · intro _ resumed
        rw [woken] at resumed ⊢
        apply begun_of_done _ ((device.begun_runtimeResume begun).2 resumed)
        exact (lasting.callback .suspend trivial).bind fun _ =>
          (lasting.sleep suspendUses_all fun _ => keeps_update fun _ _ holds => holds).bind fun _ =>
            (keeps_query _).bind fun _ => lasting.news _ (by simp)

theorem begun_resume (device : Device σ) {machine : Machine σ} (begun : Begun machine) :
    Begun (device.resume machine).state := by
  cases done : machine.firstResumeDone with
  | true => exact begun_of_done device.lasting_firstResume.resume done
  | false =>
      have initial : machine.power = .runtimeSuspended := begun.resolve_left (by simp [done])
      have steady := device.steady_begun
      rw [resume, query_bind_apply, initial]
      apply bind_state
      · exact (device.begun_runtimeResume begun).1
      · intro _ _
        exact state_of_keeps ((steady.callback .resume trivial).bind fun _ =>
          steady.markBusy.bind fun _ => steady.news _ (by simp))
          (device.begun_runtimeResume begun).1

/-- Every request leaves a device that is in its initial power state or was resumed. -/
theorem lasting_begun (device : Device σ) :
    Lasting device (Throughout (fun _ => True) Begun) (fun _ => True) where
  toSteady := device.steady_begun
  suspended := keeps_update fun _ _ holds => ⟨holds.1, .inr rfl⟩
  runtimeResume := keeps_begun fun _ begun => (device.begun_runtimeResume begun).1
  suspend := keeps_begun fun _ begun => device.begun_suspend begun
  resume := keeps_begun fun _ begun => device.begun_resume begun
  create := device.record_createContext fun power done => done = true ∨ power = .runtimeSuspended
  serve _ := record_working (fun power done => done = true ∨ power = .runtimeSuspended) _ _
  read _ := record_working (fun power done => done = true ∨ power = .runtimeSuspended) _ _
  write _ _ := record_working (fun power done => done = true ∨ power = .runtimeSuspended) _ _

/-- In any state that a device can be in, it was resumed before if it is not suspended. -/
theorem begun_of_reachable (device : Device σ) {machine : Machine σ}
    (reachable : device.Reachable machine) : Begun machine := by
  obtain ⟨hardware, storage, happenings, rfl⟩ := reachable
  have kept := device.lasting_begun.history (fun _ _ _ holds => holds) (fun _ _ _ holds => holds)
    happenings
  exact state_of_keeps kept (.inr rfl)

end Device

end DevicePower
