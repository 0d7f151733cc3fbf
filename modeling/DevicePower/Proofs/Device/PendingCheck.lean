import DevicePower.Bench.Uart
import DevicePower.Proofs.Device.Busy
import DevicePower.Proofs.Validation

/-!
# What masking interrupts answers

Masking takes two steps that can fail: the table, and the look at the status after it. The
usual order, in which the first error counts, is turned around for one case. A pending
interrupt counts before anything that happened to the table. Only if the look has nothing to
say does the table decide, and a look that fails speaks last.

A driver without a table for masking is never looked at, whatever check it configures. The
validation of drivers rules this out: a check asks for the capability, and the capability for
the table.
-/

namespace DevicePower

open DeviceM Traced

variable {σ : Type}

/-- The status tells of a pending interrupt: the bits that matter agree with the value they are
compared with, or they do not, as the polarity has it. -/
def PendingCheck.Shows (check : PendingCheck) (status : UInt32) : Prop :=
  status &&& check.mask = check.compare ↔ check.polarity = .pendingOnMatch

instance (check : PendingCheck) : DecidablePred check.Shows :=
  fun status => inferInstanceAs (Decidable
    (status &&& check.mask = check.compare ↔ check.polarity = .pendingOnMatch))

theorem PendingCheck.isPending_iff (check : PendingCheck) (status : UInt32) :
    check.isPending status = true ↔ check.Shows status := by
  rw [isPending, Shows]
  cases check.polarity with
  | pendingOnMatch => simp
  | pendingOnMismatch => simp

/-- A driver that configures a check has something to mask. -/
theorem Driver.irqDisable_of_validateCapabilities {driver : Driver} {check : PendingCheck}
    (passed : driver.validateCapabilities = .ok ())
    (configured : driver.pendingCheck = some check) : driver.tables .irqDisable ≠ [] := by
  intro empty
  rw [validateCapabilities] at passed
  split at passed
  · cases passed
  · split at passed
    · cases passed
    · split at passed
      · cases passed
      next provided =>
        have irq : driver.flags.irq = false := by simpa [empty] using provided
        simp [configured, irq] at passed

namespace Device

variable (device : Device σ)

/-- The look at the status is one access. -/
theorem lookAtStatus_asked (check : PendingCheck) (machine : Machine σ) :
    (working .pendingStatus (device.port.read check.offset) machine).events.filterMap Event.asked =
      [(.pendingStatus,
        .read check.offset (device.transport.read check.offset machine.hardware).result)] := by
  rw [working_apply, asked_activities, Port.read_asked]
  rfl

theorem lookAtStatus_result (check : PendingCheck) (machine : Machine σ) :
    (working .pendingStatus (device.port.read check.offset) machine).result =
      (device.transport.read check.offset machine.hardware).result.mapError
        fun _ => .registerAccess check.offset :=
  Port.read_result _ _ _

/-- A status that tells of no pending interrupt leaves the word to the table, and a look that
fails is only heard if the table succeeded. -/
theorem checkPending_spec (check : PendingCheck) (masked : Except Error Unit)
    (machine : Machine σ) :
    let answer := (device.transport.read check.offset machine.hardware).result
    let checking := device.checkPending check masked machine
    checking.events.filterMap Event.asked = [(.pendingStatus, .read check.offset answer)] ∧
      (∀ status, answer = .ok status → ¬check.Shows status → checking.result = masked) ∧
      ∀ cause, answer = .error cause →
        checking.result = masked >>= fun _ => .error (.registerAccess check.offset) := by
  have asked := device.lookAtStatus_asked check machine
  have result := device.lookAtStatus_result check machine
  rw [checkPending, attempt_bind_apply]
  cases answer : (device.transport.read check.offset machine.hardware).result with
  | error cause =>
      rw [answer, mapError_error] at result
      rw [answer] at asked
      rw [result]
      cases masked with
      | ok done => exact ⟨by simpa using asked, by simp, fun _ _ => rfl⟩
      | error first => exact ⟨by simpa using asked, by simp, fun _ _ => rfl⟩
  | ok status =>
      rw [answer, mapError_ok] at result
      rw [answer] at asked
      rw [result]
      by_cases pending : check.isPending status = true
      · simp only [if_pos pending, bind_apply, tell_apply, fail_apply]
        refine ⟨?_, ?_, by simp⟩
        · rw [List.filterMap_append, asked]
          rfl
        · rintro other ⟨⟩ quiet
          exact absurd ((check.isPending_iff status).mp pending) quiet
      · simp only [if_neg pending, ofExcept_apply, List.append_nil]
        exact ⟨asked, fun _ _ _ => trivial, by simp⟩

theorem maskInterrupts_unchecked (unchecked : device.driver.pendingCheck = none)
    (machine : Machine σ) :
    (device.maskInterrupts machine).result =
      (device.runDriverTable .irqDisable machine).result := by
  rw [maskInterrupts]
  split
  next empty =>
    rw [runDriverTable_apply, List.isEmpty_iff.mp empty]
    rfl
  next used =>
    rw [attempt_bind_apply, unchecked]
    rfl

/-- The look at the status comes after the table, however that ended. -/
theorem maskInterrupts_checked {check : PendingCheck}
    (provided : device.driver.tables .irqDisable ≠ [])
    (configured : device.driver.pendingCheck = some check) (machine : Machine σ) :
    device.maskInterrupts machine =
      let table := device.runDriverTable .irqDisable machine
      let checking := device.checkPending check table.result table.state
      ⟨checking.result, table.events ++ checking.events, checking.state⟩ := by
  have used : ¬(device.driver.tables .irqDisable).isEmpty = true :=
    mt List.isEmpty_iff.mp provided
  rw [maskInterrupts, if_neg used, attempt_bind_apply, configured]

/-- Masking the interrupts of a device whose driver passed its check answers busy if, and only
if, the one look at the status that is taken after the table shows a pending interrupt. Without
a check it answers what the table does, and with one it does so too if the look shows nothing.
If the look fails, it answers the error of the table, or that of the look if the table has
none. A check that is configured is never left out, however the table ends. -/
theorem maskInterrupts_exact {length : Nat} (accepted : device.driver.validate length = .ok ())
    (machine : Machine σ) :
    let table := device.runDriverTable .irqDisable machine
    let masking := device.maskInterrupts machine
    (device.driver.pendingCheck = none → masking.result = table.result) ∧
      ∀ check, device.driver.pendingCheck = some check →
        let answer := (device.transport.read check.offset table.state.hardware).result
        (∃ looking, masking.events = table.events ++ looking ∧
          looking.filterMap Event.asked = [(.pendingStatus, .read check.offset answer)]) ∧
        (masking.result = .error .busy ↔ ∃ status, answer = .ok status ∧ check.Shows status) ∧
        (∀ status, answer = .ok status → ¬check.Shows status → masking.result = table.result) ∧
        ∀ cause, answer = .error cause →
          (∀ error, table.result = .error error → masking.result = .error error) ∧
          (table.result = .ok () → masking.result = .error (.registerAccess check.offset)) := by
  intro table masking
  obtain ⟨⟨⟩, -, rest⟩ := passes_bind_iff.mp accepted
  obtain ⟨⟨⟩, capable, -⟩ := passes_bind_iff.mp rest
  refine ⟨fun unchecked => device.maskInterrupts_unchecked unchecked machine, ?_⟩
  intro check configured answer
  have provided := Driver.irqDisable_of_validateCapabilities capable configured
  have sound := device.runDriverTable_ne_busy .irqDisable machine
  obtain ⟨asked, quiet, failed⟩ := device.checkPending_spec check table.result table.state
  have masked : masking = ⟨_, _, _⟩ := device.maskInterrupts_checked provided configured machine
  rw [masked]
  refine ⟨⟨_, rfl, asked⟩, ?_, quiet, ?_⟩
  · simp only [device.checkPending_busy_iff sound, check.isPending_iff]
    rfl
  · intro cause unanswered
    constructor
    · intro error ended
      exact (failed cause unanswered).trans (by rw [ended]; rfl)
    · intro ended
      exact (failed cause unanswered).trans (by rw [ended]; rfl)

/-- The serial port is busy while its interrupt is pending, also if its interrupts could not be
masked. With no interrupt pending it answers what its table does. If the status cannot be read, the
table has the first word: the failed read is only told of if the table succeeded. -/
theorem uart_answers_pending :
    let port := Bench.Uart.device
    let pending := Bench.Uart.interrupted
    let idle := Bench.Uart.active
    let unmaskable := Bench.Uart.failing .write 8
    let unreadable := Bench.Uart.failing .read 12
    port.driver.validate 4 = .ok () ∧
      (port.maskInterrupts pending).result = .error .busy ∧
      (port.maskInterrupts (unmaskable pending)).result = .error .busy ∧
      (port.maskInterrupts idle).result = .ok () ∧
      (port.maskInterrupts (unmaskable idle)).result = .error (.registerAccess 8) ∧
      (port.maskInterrupts (unreadable idle)).result = .error (.registerAccess 12) ∧
      (port.maskInterrupts (unmaskable (unreadable idle))).result =
        .error (.registerAccess 8) := by
  intro port pending idle unmaskable unreadable
  have accepted : port.driver.validate 4 = .ok () := rfl
  have exact (machine : Machine Bench.Board) :=
    (port.maskInterrupts_exact accepted machine).2 ⟨12, 1, 1, .pendingOnMatch⟩ rfl
  obtain ⟨-, pendingBusy, -⟩ := exact pending
  obtain ⟨-, stoppedBusy, -⟩ := exact (unmaskable pending)
  obtain ⟨-, -, idleSame, -⟩ := exact idle
  obtain ⟨-, -, stoppedSame, -⟩ := exact (unmaskable idle)
  obtain ⟨-, -, -, unread⟩ := exact (unreadable idle)
  obtain ⟨-, -, -, neither⟩ := exact (unmaskable (unreadable idle))
  refine ⟨accepted, ?_, ?_, ?_, ?_, ?_, ?_⟩
  · exact pendingBusy.mpr ⟨1, rfl, by decide⟩
  · exact stoppedBusy.mpr ⟨1, rfl, by decide⟩
  · exact idleSame 0 rfl (by decide)
  · exact stoppedSame 0 rfl (by decide)
  · exact (unread .nack rfl).2 rfl
  · exact (neither .nack rfl).1 (.registerAccess 8) rfl

end Device

end DevicePower
