import DevicePower.Proofs.Device.Rollback

/-!
# Why a device is busy

A caller that is told that a device is busy may try again later, and a suspend that is told
so undoes what it did. It matters, therefore, that nothing else is ever mistaken for it. There
are two causes: the device was used too recently for an autosuspend, or an interrupt was found
pending after interrupts were masked. A callback that fails as if the device was busy is not
one of them, since a failed callback is a failure of its stage.

Both causes are stated in terms of the machine that a request meets, so that each of them is
not only necessary but also sufficient.
-/

namespace DevicePower

open DeviceM Traced

variable {σ : Type}

namespace Device

variable (device : Device σ)

/-! ## The causes -/

/-- Masking the interrupts of the device now finds one pending: there is something to mask, and
the status that is read after the table for it, however that ends, says so. -/
def FindsPending (machine : Machine σ) : Prop :=
  device.driver.tables .irqDisable ≠ [] ∧
    ∃ check status, device.driver.pendingCheck = some check ∧
      (device.transport.read check.offset
        (device.runDriverTable .irqDisable machine).state.hardware).result = .ok status ∧
      check.isPending status = true

/-- A runtime suspend that starts now finds an interrupt pending. -/
structure RefusesSuspend (machine : Machine σ) : Prop where
  active : machine.power = .active
  saves : (device.save machine).result = .ok ()
  pending : device.FindsPending (device.prepareSuspend machine).state

/-- The delay since the last use of the device has not passed yet. -/
def UsedLately (machine : Machine σ) : Prop :=
  ∃ delay timer last, device.driver.autosuspendMillis = some delay ∧
    device.timer = some timer ∧ machine.lastBusy = some last ∧
    elapsed last (timer.now machine.hardware).1 < millisToTicks timer.frequency delay

/-- What makes the device too busy for a request. -/
def BusyCause : Request → Machine σ → Prop
  | .runtimeSuspend, machine => device.RefusesSuspend machine
  | .autosuspend, machine =>
      device.UsedLately machine ∨ device.RefusesSuspend (device.usedRecently machine).state
  | .suspend, machine =>
      machine.power ≠ .systemSuspended ∧ (device.beforeSleep machine).result = .ok () ∧
        device.driver.flags.systemContext = false ∧ device.driver.flags.runtimePm = true ∧
        device.RefusesSuspend (device.beforeSleep machine).state
  | .maskInterrupts, machine => device.FindsPending machine
  | _, _ => False

/-! ## Masking interrupts -/

/-- Only the answer to the look at the status counts, unless masking said busy before. -/
theorem checkPending_busy_iff {check : PendingCheck} {masked : Except Error Unit}
    (sound : masked ≠ .error .busy) (machine : Machine σ) :
    (device.checkPending check masked machine).result = .error .busy ↔
      ∃ status, (device.transport.read check.offset machine.hardware).result = .ok status ∧
        check.isPending status = true := by
  rw [checkPending, attempt_bind_apply, working_apply, Port.read_result]
  cases answer : (device.transport.read check.offset machine.hardware).result with
  | ok status =>
      cases pending : check.isPending status with
      | true => simp [port, answer, pending, bind_apply]
      | false => simp [port, answer, pending, sound]
  | error reason =>
      cases masked with
      | ok done => simp [port, answer]
      | error first =>
          have other : first ≠ .busy := fun same => sound (same ▸ rfl)
          simp [port, answer, other]

theorem maskInterrupts_busy_iff (machine : Machine σ) :
    (device.maskInterrupts machine).result = .error .busy ↔ device.FindsPending machine := by
  rw [maskInterrupts, FindsPending]
  split
  next empty => simp [List.isEmpty_iff.mp empty]
  next used =>
    have sound := device.runDriverTable_ne_busy .irqDisable machine
    have nonempty : device.driver.tables .irqDisable ≠ [] := fun empty => used (by simp [empty])
    rw [attempt_bind_apply]
    cases configured : device.driver.pendingCheck with
    | none => simp [sound]
    | some check => simp [nonempty, device.checkPending_busy_iff sound]

/-- Holding the interrupt lock makes no difference to what is found. -/
theorem findsPending_locked (machine : Machine σ) :
    device.FindsPending (device.locked machine) ↔ device.FindsPending machine := by
  simp only [FindsPending, runDriverTable_apply, locked]

theorem quiesce_busy_iff (action : Action) (machine : Machine σ) :
    (device.quiesce action machine).result = .error .busy ↔ device.FindsPending machine := by
  have steady := device.steady_ne_busy
  have inside : ∀ machine, ((do
      device.selectPins action
      device.callbackInside .runtimeSuspend : DeviceM σ Unit) machine).result ≠ .error .busy :=
    ne_busy_of_keeps ((steady.pins action).bind fun _ => steady.callbackInside trivial)
  have outside : ∀ machine, ((do
      device.callbackOutside .runtimeSuspend
      device.runDriverTable .wakeup
      device.gateClocks : DeviceM σ Unit) machine).result ≠ .error .busy :=
    ne_busy_of_keeps ((steady.callbackOutside trivial).bind fun _ =>
      (steady.table .wakeup (by simp) (by simp)).bind fun _ => steady.gateClocks (by simp))
  rw [quiesce, bind_fails_iff, withIrqLock_apply]
  simp only [outside, and_false, exists_false, or_false]
  rw [bind_fails_iff]
  simp only [inside, and_false, exists_false, or_false]
  rw [maskInterrupts_busy_iff, findsPending_locked]

/-! ## Suspending at run time -/

/-- Nothing but the save can keep a device from getting prepared. -/
theorem prepareSuspend_succeeds_iff (machine : Machine σ) :
    (∃ bits, (device.prepareSuspend machine).result = .ok bits) ↔
      (device.save machine).result = .ok () := by
  constructor
  · rintro ⟨bits, prepared⟩
    obtain ⟨⟨⟩, saved, -⟩ := bind_succeeds_iff.mp prepared
    exact saved
  · intro saved
    obtain ⟨bits, hardware, events, paused, -⟩ :=
      device.pauseChannels_spec (device.save machine).state
    exact ⟨bits, bind_succeeds_iff.mpr ⟨(), saved, by rw [paused]⟩⟩

theorem concludeSuspend_busy_iff {paused : UInt32} {result : Except Error Unit}
    (machine : Machine σ) :
    (device.concludeSuspend paused result machine).result = .error .busy ↔
      result = .error .busy := by
  constructor
  · exact device.concludeSuspend_busy
  · rintro rfl
    rw [concludeSuspend_busy_apply]

theorem suspendActive_busy_iff (action : Action) (machine : Machine σ) :
    (device.suspendActive action machine).result = .error .busy ↔
      (device.save machine).result = .ok () ∧
        device.FindsPending (device.prepareSuspend machine).state := by
  rw [suspendActive, attempt_bind_apply, ← prepareSuspend_succeeds_iff]
  cases prepared : (device.prepareSuspend machine).result with
  | error error =>
      have other : error ≠ .busy := by
        rintro rfl
        exact ne_busy_of_keeps (device.steady_ne_busy.prepareSuspend (by simp)) machine prepared
      simp [concludeSuspend_busy_iff, other]
  | ok bits =>
      simp [attempt_bind_apply, concludeSuspend_busy_iff, quiesce_busy_iff]

theorem runtimeSuspendFor_busy_iff (action : Action) (machine : Machine σ) :
    (device.runtimeSuspendFor action machine).result = .error .busy ↔
      device.RefusesSuspend machine := by
  rw [runtimeSuspendFor, query_bind_apply]
  split
  next active =>
    rw [suspendActive_busy_iff]
    constructor
    · rintro ⟨saves, pending⟩
      exact ⟨active, saves, pending⟩
    · exact fun refused => ⟨refused.saves, refused.pending⟩
  next inactive =>
    constructor
    · intro failed
      cases failed
    · exact fun refused => absurd refused.active inactive

/-- Looking at the time never fails, and says what it is there for. -/
theorem usedRecently_result (machine : Machine σ) :
    ∃ recent, (device.usedRecently machine).result = .ok recent ∧
      (recent = true ↔ device.UsedLately machine) := by
  cases configured : device.driver.autosuspendMillis with
  | none => exact ⟨false, by simp [usedRecently, query_bind_apply, configured],
      by simp [UsedLately, configured]⟩
  | some delay =>
      cases present : device.timer with
      | none => exact ⟨false, by simp [usedRecently, query_bind_apply, present],
          by simp [UsedLately, present]⟩
      | some timer =>
          cases known : machine.lastBusy with
          | none => exact ⟨false, by simp [usedRecently, query_bind_apply, known],
              by simp [UsedLately, known]⟩
          | some last =>
              refine ⟨elapsed last (timer.now machine.hardware).1 <
                millisToTicks timer.frequency delay, ?_, ?_⟩
              · simp only [usedRecently, query_bind_apply, configured, present, known]
                rfl
              · simp [UsedLately, configured, present, known]

theorem autosuspend_busy_iff (machine : Machine σ) :
    (device.autosuspend machine).result = .error .busy ↔
      device.UsedLately machine ∨ device.RefusesSuspend (device.usedRecently machine).state := by
  obtain ⟨recent, looked, lately⟩ := device.usedRecently_result machine
  rw [autosuspend, bind_of_ok looked, ← lately]
  cases recent with
  | true => simp
  | false => simp [runtimeSuspendFor_busy_iff]

/-! ## System sleep -/

theorem sleep_busy_iff (machine : Machine σ) :
    (device.sleep machine).result = .error .busy ↔
      device.driver.flags.systemContext = false ∧ device.driver.flags.runtimePm = true ∧
        device.RefusesSuspend machine := by
  rw [sleep]
  split
  next inContext => simp [device.sleepWithContext_ne_busy, inContext]
  next withoutContext =>
    split
    next managed => simp [runtimeSuspend, runtimeSuspendFor_busy_iff, withoutContext, managed]
    next unmanaged => simp [unmanaged]

theorem suspend_busy_iff (machine : Machine σ) :
    (device.suspend machine).result = .error .busy ↔
      machine.power ≠ .systemSuspended ∧ (device.beforeSleep machine).result = .ok () ∧
        device.driver.flags.systemContext = false ∧ device.driver.flags.runtimePm = true ∧
        device.RefusesSuspend (device.beforeSleep machine).state := by
  by_cases asleep : machine.power = .systemSuspended
  · simp [device.suspend_of_asleep asleep, asleep]
  · have opens : (∃ done, (device.beforeSleep machine).result = .ok done) ↔
        (device.beforeSleep machine).result = .ok () :=
      ⟨fun ⟨_, opened⟩ => opened, fun opened => ⟨_, opened⟩⟩
    rw [device.suspend_of_awake asleep, bind_fails_iff]
    simp [bind_fails_iff, device.beforeSleep_ne_busy, device.tellAsleep_ne_busy, sleep_busy_iff,
      asleep, opens]

/-! ## Requests -/

theorem answering_busy_iff {computation : DeviceM σ Unit} (machine : Machine σ) :
    (answering computation machine).result = .error .busy ↔
      (computation machine).result = .error .busy := by
  rw [answering, bind_fails_iff]
  simp

theorem createContext_ne_busy (template : List UInt32) (machine : Machine σ) :
    (device.createContext template machine).result ≠ .error .busy := by
  rw [createContext, query_bind_apply]
  cases device.newContext template machine.context with
  | ok context => simp
  | error reason => simp

theorem readRegister_ne_busy (offset : UInt32) (machine : Machine σ) :
    (device.readRegister offset machine).result ≠ .error .busy := by
  rw [readRegister, working_apply, Port.read_result]
  cases (device.port.transport.read offset machine.hardware).result with
  | ok value => simp
  | error reason => simp

theorem writeRegister_ne_busy (offset value : UInt32) (machine : Machine σ) :
    (device.writeRegister offset value machine).result ≠ .error .busy := by
  rw [writeRegister, working_apply, Port.write_result]
  cases (device.port.transport.write offset value machine.hardware).result with
  | ok done => simp
  | error reason => simp

/-- A request is answered with busy if, and only if, one of the causes is there: whatever the
tables, the callbacks and the hardware do, and whatever errors they end in. -/
theorem busy_iff (request : Request) (machine : Machine σ) :
    (device.perform request machine).result = .error .busy ↔ device.BusyCause request machine := by
  have steady := device.steady_ne_busy
  have never {computation : DeviceM σ Unit}
      (sound : (computation machine).result ≠ .error .busy) :
      (answering computation machine).result = .error .busy ↔ False := by
    rw [answering_busy_iff]
    exact iff_false_intro sound
  cases request with
  | createContext template => exact never (device.createContext_ne_busy template machine)
  | runtimeSuspend =>
      exact (answering_busy_iff machine).trans (device.runtimeSuspendFor_busy_iff .suspend machine)
  | runtimeResume => exact never (ne_busy_of_keeps device.runtimeResume_keeps_ne_busy machine)
  | autosuspend => exact (answering_busy_iff machine).trans (device.autosuspend_busy_iff machine)
  | suspend => exact (answering_busy_iff machine).trans (device.suspend_busy_iff machine)
  | resume =>
      have woken := steady.wakeFrom resumeUses_of_unmasked (keeps_update fun _ _ holds => holds)
        device.runtimeResume_keeps_ne_busy
      exact never (ne_busy_of_keeps (steady.resume trivial woken) machine)
  | save => exact never (ne_busy_of_keeps (steady.save (by simp)) machine)
  | restore => exact never (ne_busy_of_keeps (steady.restore (by simp) (by simp) trivial) machine)
  | maskInterrupts =>
      exact (answering_busy_iff machine).trans (device.maskInterrupts_busy_iff machine)
  | unmaskInterrupts => exact never (device.runDriverTable_ne_busy .irqEnable machine)
  | gateClocks => exact never (ne_busy_of_keeps (steady.gateClocks (by simp)) machine)
  | ungateClocks => exact never (ne_busy_of_keeps (steady.ungateClocks (by simp)) machine)
  | readRegister offset =>
      rw [perform, bind_fails_iff]
      simp [device.readRegister_ne_busy, BusyCause]
  | writeRegister offset value => exact never (device.writeRegister_ne_busy offset value machine)
  | runTable table =>
      exact never fun busy =>
        (table.run_ne_busy device.port [] machine.toWorkspace trivial).2 _ busy rfl
  | markBusy => exact never (ne_busy_of_keeps steady.markBusy machine)
  | selectPins action => exact never (ne_busy_of_keeps (steady.pins action) machine)

end Device

end DevicePower
