import DevicePower.Bench.Uart
import DevicePower.Proofs.Device.Channels
import DevicePower.Proofs.Device.History
import DevicePower.Proofs.Device.Upkeep
import DevicePower.Proofs.Table.Accesses

/-!
# Undoing a suspend

A runtime suspend that meets a pending interrupt is undone. Only the look at the
interrupt status after masking can find one, so nothing beyond that point was reached:
no pin, no callback and no clock was dealt with. What was done before it is undone by
unmasking interrupts and resuming the channels that this attempt had paused.
-/

namespace DevicePower

open DeviceM Traced

variable {σ : Type}

/-! ## Where a pending interrupt can be met -/

theorem Table.run_ne_busy (table : Table) (port : Port σ) :
    Keeps (Workspace.Kept fun _ => True) (fun error => error ≠ .busy) (table.run port) :=
  Table.keeps_run fun entry _ =>
    entry.steps_of_indifferent port (fun _ _ _ => trivial) (fun _ _ _ _ _ _ => trivial)
      nofun nofun nofun

namespace Device

/-- Nothing but the look at the interrupt status finds the device busy. -/
theorem steady_ne_busy (device : Device σ) :
    Steady device (fun kind => kind ≠ .irqDisable) (fun _ => True)
      (Throughout (fun _ => True) fun _ => True) (fun error => error ≠ .busy) := by
  have upkeep : Upkeep device (fun kind => kind ≠ .irqDisable) (fun _ => True) (fun _ => True)
      (fun _ => True) (fun error => error ≠ .busy) := {
    run := fun kind _ _ _ _ => Table.run_ne_busy _ _
    differs := fun _ _ _ => Table.keeps_differs
      (fun _ _ => Port.keeps_read (fun _ _ => trivial) nofun)
      fun _ _ => Entry.keeps_fetch fun _ _ _ _ => nofun
    status := fun masking => absurd rfl masking
    program := fun _ _ _ _ _ _ _ _ _ _ => ⟨trivial, fun _ _ => trivial⟩
    busy := fun masking => absurd rfl masking
    failed := fun _ _ => nofun }
  exact upkeep.steady

theorem runDriverTable_ne_busy (device : Device σ) (kind : TableKind) (machine : Machine σ) :
    (device.runDriverTable kind machine).result ≠ .error .busy := by
  intro busy
  rw [runDriverTable_apply] at busy
  exact ((device.driver.tables kind).run_ne_busy device.port [] machine.toWorkspace trivial).2 _
    busy rfl

/-! ## The parts of an attempt -/

theorem accounts_runDriverTable (device : Device σ) (kind : TableKind) (machine : Machine σ) :
    ∃ count, Accounts (device.runDriverTable kind machine).events
      (List.replicate count (.table kind)) [] := by
  rw [runDriverTable_apply]
  have ended : Accounts [Event.tableEnded kind
      ((device.driver.tables kind).run device.port machine.toWorkspace).result] [] [] :=
    ⟨rfl, rfl, by simp [Event.interferes]⟩
  have accounts := (accounts_activities (.table kind)
    ((device.driver.tables kind).run device.port machine.toWorkspace).events).append ended
  rw [List.append_nil] at accounts
  exact ⟨_, accounts⟩

/-- A save that succeeds changes nothing but the workspace and the record of it. -/
theorem save_spec (device : Device σ) {machine : Machine σ}
    (saved : (device.save machine).result = .ok ()) :
    ∃ workspace contextSaved events count,
      device.save machine =
        ⟨.ok (), events, { machine with toWorkspace := workspace, contextSaved }⟩ ∧
      Accounts events (List.replicate count (.table .save)) [] := by
  rw [save, bind_apply] at saved ⊢
  simp only [query_apply, List.nil_append] at saved ⊢
  split
  · exact ⟨machine.toWorkspace, machine.contextSaved, [], 0, rfl, accounts_nil⟩
  next runs =>
    rw [if_neg runs] at saved
    obtain ⟨⟨⟩, ran, -⟩ := bind_succeeds_iff.mp saved
    obtain ⟨count, accounts⟩ := device.accounts_runDriverTable .save machine
    refine ⟨(device.runDriverTable .save machine).state.toWorkspace, true,
      (device.runDriverTable .save machine).events, count, ?_, accounts⟩
    rw [bind_of_ok ran]
    simp [runDriverTable_apply]

/-- Pausing changes nothing but the hardware and the record of paused channels. -/
theorem pauseChannels_spec (device : Device σ) (machine : Machine σ) :
    ∃ bits hardware events,
      device.pauseChannels machine =
        ⟨.ok bits, events,
          { machine with hardware, pausedChannels := machine.pausedChannels ||| bits }⟩ ∧
      Accounts events [] (switches .paused 0 device.trackedChannels.length bits) ∧
      ∀ other < maxChannels, hasChannel bits other = true →
        other < device.trackedChannels.length ∧
          hasChannel machine.pausedChannels other = false := by
  rw [pauseChannels]
  split
  · have tracked : 0 + device.trackedChannels.length ≤ maxChannels := by
      simpa using device.trackedChannels_length
    obtain ⟨bits, hardware, events, swept, accounts, fresh⟩ :=
      Channel.pauseAll_spec device.trackedChannels machine tracked
    refine ⟨bits, hardware, events, swept, accounts, ?_⟩
    intro other otherTracked member
    obtain ⟨-, high, absent⟩ := fresh other otherTracked member
    exact ⟨by omega, absent⟩
  · refine ⟨0, machine.hardware, [], by simp, ?_, by simp⟩
    have none : switches .paused 0 device.trackedChannels.length 0 = [] := by
      simp [switches]
    rw [none]
    exact accounts_nil

/-- Before anything is masked, only registers are saved and channels paused. -/
theorem prepareSuspend_spec (device : Device σ) {machine : Machine σ} {bits : UInt32}
    (prepared : (device.prepareSuspend machine).result = .ok bits) :
    ∃ workspace contextSaved events count,
      device.prepareSuspend machine =
        ⟨.ok bits, events,
          { machine with
            toWorkspace := workspace
            contextSaved
            pausedChannels := machine.pausedChannels ||| bits }⟩ ∧
      Accounts events (List.replicate count (.table .save))
        (switches .paused 0 device.trackedChannels.length bits) ∧
      ∀ other < maxChannels, hasChannel bits other = true →
        other < device.trackedChannels.length ∧
          hasChannel machine.pausedChannels other = false := by
  obtain ⟨⟨⟩, saved, rest⟩ := bind_succeeds_iff.mp prepared
  obtain ⟨workspace, contextSaved, events, count, outcome, accounts⟩ := device.save_spec saved
  obtain ⟨paused, hardware, eventsPause, outcomePause, accountsPause, fresh⟩ :=
    device.pauseChannels_spec (device.save machine).state
  rw [outcomePause] at rest
  cases rest
  rw [outcome] at outcomePause fresh
  refine ⟨{ workspace with hardware }, contextSaved, events ++ eventsPause, count, ?_, ?_, fresh⟩
  · rw [prepareSuspend, bind_apply, outcome]
    simp only [outcomePause]
  · have both := accounts.append accountsPause
    rwa [List.append_nil, List.nil_append] at both

/-- Interrupts were masked from the machine `start` on, and the look at the status that followed
found one pending. The events are those of the masking and of the look, and the look has left the
hardware and the context as they are. -/
def FoundPending (device : Device σ) (start : Machine σ) (events : List Event)
    (left : Workspace σ) : Prop :=
  ∃ check status,
    let table := device.runDriverTable .irqDisable start
    let look := device.port.read check.offset table.state.toWorkspace
    device.driver.pendingCheck = some check ∧ look.result = .ok status ∧
      check.isPending status = true ∧
      events = table.events ++ (look.events.map (.activity .pendingStatus) ++
        [.note (.device device.name (.interruptPending status))]) ∧
      left = look.state

/-- Registers were reached for the table first, and for the status after it. -/
theorem FoundPending.accounts {device : Device σ} {start : Machine σ} {events : List Event}
    {left : Workspace σ} (found : device.FoundPending start events left) :
    ∃ masks looks, Accounts events
      (List.replicate masks (.table .irqDisable) ++ List.replicate looks .pendingStatus) [] := by
  obtain ⟨check, status, -, -, -, rfl, -⟩ := found
  obtain ⟨masks, ran⟩ := device.accounts_runDriverTable .irqDisable start
  have told : Accounts [Event.note (.device device.name (.interruptPending status))] [] [] :=
    ⟨rfl, rfl, by simp [Event.interferes]⟩
  have whole := ran.append ((accounts_activities .pendingStatus
    (device.port.read check.offset
      (device.runDriverTable .irqDisable start).state.toWorkspace).events).append told)
  rw [List.append_nil] at whole
  exact ⟨masks, _, whole⟩

/-- A check that refuses has found an interrupt pending, and did nothing but look. -/
theorem checkPending_busy (device : Device σ) {check : PendingCheck} {masked : Except Error Unit}
    (sound : masked ≠ .error .busy) {machine : Machine σ}
    (refused : (device.checkPending check masked machine).result = .error .busy) :
    let look := device.port.read check.offset machine.toWorkspace
    ∃ status, look.result = .ok status ∧ check.isPending status = true ∧
      device.checkPending check masked machine =
        ⟨.error .busy, look.events.map (.activity .pendingStatus) ++
            [.note (.device device.name (.interruptPending status))],
          { machine with toWorkspace := look.state }⟩ := by
  intro look
  rw [checkPending, attempt_bind_apply, working_apply] at refused ⊢
  cases answer : look.result with
  | ok status =>
      simp only [look] at answer
      simp only [answer] at refused ⊢
      cases pending : check.isPending status with
      | false =>
          rw [pending] at refused
          exact absurd refused sound
      | true => exact ⟨status, rfl, pending, by simp [look, bind_apply]⟩
  | error error =>
      have failed : error ≠ .busy := by
        rintro rfl
        rw [Port.read_result] at answer
        cases found : (device.port.transport.read check.offset machine.hardware).result with
        | ok value => simp [found] at answer
        | error reason => simp [found] at answer
      simp only [look] at answer
      simp only [answer] at refused
      cases masked with
      | ok done =>
          cases refused
          exact absurd rfl failed
      | error first =>
          cases refused
          exact absurd rfl sound

/-- Masking that is refused has run its table and looked at the status. -/
theorem maskInterrupts_busy (device : Device σ) {machine : Machine σ}
    (refused : (device.maskInterrupts machine).result = .error .busy) :
    ∃ events left, device.FoundPending machine events left ∧
      device.maskInterrupts machine =
        ⟨.error .busy, events, { machine with toWorkspace := left }⟩ := by
  rw [maskInterrupts] at refused ⊢
  split
  next empty =>
    rw [if_pos empty] at refused
    cases refused
  next used =>
    rw [if_neg used] at refused
    let table := device.runDriverTable .irqDisable machine
    rw [attempt_bind_apply] at refused ⊢
    have sound : table.result ≠ .error .busy := device.runDriverTable_ne_busy .irqDisable machine
    cases configured : device.driver.pendingCheck with
    | none =>
        simp only [configured, ofExcept_apply] at refused
        exact absurd refused sound
    | some check =>
        simp only [configured] at refused ⊢
        obtain ⟨status, answered, pending, outcome⟩ := device.checkPending_busy sound refused
        refine ⟨_, _, ⟨check, status, configured, answered, pending, rfl, rfl⟩, ?_⟩
        rw [outcome]
        simp [runDriverTable_apply]

/-! ## The interrupt lock -/

theorem accounts_lockTaken (device : Device σ) (machine : Machine σ) :
    Accounts (device.lockTaken machine) [] [] := by
  rw [lockTaken]
  split
  · exact ⟨rfl, rfl, by simp [Event.interferes]⟩
  · exact accounts_nil

theorem accounts_lockReleased (device : Device σ) : Accounts device.lockReleased [] [] := by
  rw [lockReleased]
  split
  · exact ⟨rfl, rfl, by simp [Event.interferes]⟩
  · exact accounts_nil

/-! ## Meeting a pending interrupt -/

theorem ne_busy_of_keeps {α : Type} {computation : DeviceM σ α}
    (kept : Keeps (Throughout (fun _ => True) fun _ => True) (fun error => error ≠ .busy)
      computation) (machine : Machine σ) : (computation machine).result ≠ .error .busy :=
  fun busy => (kept [] machine ⟨by simp, trivial⟩).2 _ busy rfl

/-- A device that cannot be quieted because it is busy was only masked and looked at. -/
theorem quiesce_busy (device : Device σ) {action : Action} {machine : Machine σ}
    (refused : (device.quiesce action machine).result = .error .busy) :
    ∃ events left, device.FoundPending (device.locked machine) events left ∧
      device.quiesce action machine =
        ⟨.error .busy, device.lockTaken machine ++ events ++ device.lockReleased,
          { machine with
            toWorkspace := left
            irqHeld := machine.irqHeld && !device.driver.flags.irqSublock }⟩ := by
  have steady := device.steady_ne_busy
  obtain ⟨lockedBusy, outcome⟩ := bind_stops (fun _ => ne_busy_of_keeps
    ((steady.callbackOutside trivial).bind fun _ =>
      (steady.table .wakeup (by simp) (by simp)).bind fun _ => steady.gateClocks (by simp))) refused
  rw [withIrqLock_apply] at lockedBusy
  obtain ⟨maskBusy, lockedOutcome⟩ := bind_stops (fun _ => ne_busy_of_keeps
    ((steady.pins action).bind fun _ => steady.callbackInside trivial)) lockedBusy
  obtain ⟨events, left, found, masked⟩ := device.maskInterrupts_busy maskBusy
  refine ⟨events, left, found, ?_⟩
  rw [quiesce, outcome, withIrqLock_apply, lockedOutcome, masked]
  cases sublock : device.driver.flags.irqSublock with
  | true => simp [locked, unlocked, sublock]
  | false => simp [locked, unlocked, sublock]

/-! ## Undoing -/

/-- What follows the attempt to unmask interrupts: a failure is only told. -/
def unmaskNews (device : Device σ) : Except Error Unit → List Event
  | .ok () => []
  | .error error => [.note (.device device.name (.unmaskFailed error))]

theorem accounts_unmaskNews (device : Device σ) (result : Except Error Unit) :
    Accounts (device.unmaskNews result) [] [] := by
  cases result with
  | ok done => exact accounts_nil
  | error error => exact ⟨rfl, rfl, by simp [unmaskNews, Event.interferes]⟩

/-- Unmask interrupts; a failure is only told. -/
def tellUnmask (device : Device σ) : DeviceM σ Unit := do
  match ← device.unmaskInterrupts.attempt with
  | .ok () => pure ()
  | .error error => device.tell (.unmaskFailed error)

theorem abortSuspend_eq (device : Device σ) (paused : UInt32) :
    device.abortSuspend paused = (do
      device.tell .suspendDeferred
      device.withIrqLock device.tellUnmask
      device.resumeChannels paused
      device.markBusy) := rfl

theorem tellUnmask_apply (device : Device σ) (machine : Machine σ) :
    device.tellUnmask machine =
      ⟨.ok (),
        (device.runDriverTable .irqEnable machine).events ++
          device.unmaskNews (device.runDriverTable .irqEnable machine).result,
        (device.runDriverTable .irqEnable machine).state⟩ := by
  rw [tellUnmask, bind_apply, attempt_apply, unmaskInterrupts]
  cases (device.runDriverTable .irqEnable machine).result with
  | ok done => simp [unmaskNews]
  | error error => simp [unmaskNews]

/-- The device counts as in use since the present time, and the timer was read last. -/
def MarkedBusy (device : Device σ) (events : List Event) (machine : Machine σ) : Prop :=
  match device.timer with
  | none => machine.lastBusy = none
  | some timer => ∃ hardware now, timer.now hardware = (now, machine.hardware) ∧
      machine.lastBusy = some now ∧ events.getLast? = some (.reading now)

theorem markBusy_spec (device : Device σ) (machine : Machine σ) :
    ∃ hardware lastBusy events,
      device.markBusy machine = ⟨.ok (), events, { machine with hardware, lastBusy }⟩ ∧
      Accounts events [] [] ∧
      ∀ earlier, device.MarkedBusy (earlier ++ events) { machine with hardware, lastBusy } := by
  cases timed : device.timer with
  | none =>
      refine ⟨machine.hardware, none, [], ?_, accounts_nil, ?_⟩
      · simp [markBusy, now, timed, bind_apply]
      · intro earlier
        simp [MarkedBusy, timed]
  | some timer =>
      refine ⟨(timer.now machine.hardware).2, some (timer.now machine.hardware).1,
        [.reading (timer.now machine.hardware).1], ?_, ⟨rfl, rfl, by simp [Event.interferes]⟩, ?_⟩
      · simp only [markBusy, now, timed, bind_apply, onHardware_apply, emit_apply, pure_apply]
        rfl
      · intro earlier
        simp only [MarkedBusy, timed]
        exact ⟨machine.hardware, _, rfl, rfl, by simp⟩

/-- The state after the channels in `paused` were resumed and the device was marked as in
use: its lock is as free as it can be, and no other channel has changed. -/
structure Resumed (device : Device σ) (paused : UInt32) (before after : Machine σ) : Prop where
  power : after.power = before.power
  lock : after.irqHeld = (before.irqHeld && !device.driver.flags.irqSublock)
  channels : ∀ other < maxChannels, hasChannel after.pausedChannels other =
    (hasChannel before.pausedChannels other &&
      !(hasChannel paused other && decide (other < device.trackedChannels.length)))

/-- Undoing runs the table that unmasks interrupts, whether it succeeds or not, and resumes
the channels of the attempt. -/
theorem abortSuspend_spec (device : Device σ) (paused : UInt32) (machine : Machine σ) :
    ∃ before after state,
      device.abortSuspend paused machine =
        ⟨.ok (), before ++ (device.runDriverTable .irqEnable (device.locked machine)).events ++
          after, state⟩ ∧
      Accounts before [] [] ∧
      Accounts after [] (switches .resumed 0 device.trackedChannels.length
        (machine.pausedChannels &&& paused)) ∧
      device.Resumed paused machine state ∧
      ∀ earlier, device.MarkedBusy (earlier ++ after) state := by
  let masked := device.locked machine
  let table := device.runDriverTable .irqEnable masked
  -- Only the workspace has changed when the channels are resumed.
  let unmasked := device.unlocked table.state
  obtain ⟨mask, hardware, swept, resumed, accountsSwept, bits⟩ :=
    device.resumeChannels_spec paused unmasked
  obtain ⟨hardwareNow, lastBusy, read, marked, accountsRead, busy⟩ :=
    device.markBusy_spec { unmasked with hardware, pausedChannels := mask }
  have same : unmasked.pausedChannels = machine.pausedChannels := by
    simp [unmasked, table, masked, unlocked, locked, runDriverTable_apply]
  refine ⟨.note (.device device.name .suspendDeferred) :: device.lockTaken machine,
    device.unmaskNews table.result ++ device.lockReleased ++ swept ++ read,
    { unmasked with pausedChannels := mask, hardware := hardwareNow, lastBusy }, ?_, ?_, ?_, ?_, ?_⟩
  · have told : ((device.withIrqLock device.tellUnmask) machine) =
        ⟨.ok (), device.lockTaken machine ++ (table.events ++ device.unmaskNews table.result) ++
          device.lockReleased, unmasked⟩ := by
      rw [withIrqLock_apply, tellUnmask_apply]
    rw [abortSuspend_eq]
    simp only [bind_apply, tell_apply, told, resumed, marked]
    simp [table, masked]
  · have deferred : Accounts [Event.note (.device device.name .suspendDeferred)] [] [] :=
      ⟨rfl, rfl, by simp [Event.interferes]⟩
    exact deferred.append (device.accounts_lockTaken machine)
  · have whole := (((device.accounts_unmaskNews table.result).append
      device.accounts_lockReleased).append accountsSwept).append accountsRead
    simpa only [List.append_nil, List.nil_append, same] using whole
  · refine ⟨?_, ?_, ?_⟩
    · simp [unmasked, table, masked, unlocked, locked, runDriverTable_apply]
    · cases sublock : device.driver.flags.irqSublock with
      | true => simp [unmasked, table, masked, unlocked, locked, runDriverTable_apply, sublock]
      | false => simp [unmasked, table, masked, unlocked, locked, runDriverTable_apply, sublock]
    · rw [← same]
      exact bits
  · intro earlier
    rw [← List.append_assoc]
    exact busy _

/-! ## The whole attempt -/

/-- A failed attempt to suspend left nothing behind but saved registers. The channels that
it paused were resumed, each once. It reached registers only to save them, to mask, to look
at the status and to unmask, in this order, and dealt with no clock, no pin and no callback.
Interrupts were unmasked after the look at the status, the lock is not held on its behalf,
and the device counts as in use. -/
structure RolledBack (device : Device σ) (before : Machine σ)
    (attempt : Outcome Error Event (Machine σ) Unit) : Prop where
  started : before.power = .active
  power : attempt.state.power = .active
  channels : attempt.state.pausedChannels = before.pausedChannels
  accounts : ∃ (numbers : List Nat) (saves masks looks unmasks : Nat), numbers.Nodup ∧
    Accounts attempt.events
      (List.replicate saves (.table .save) ++ List.replicate masks (.table .irqDisable) ++
        List.replicate looks .pendingStatus ++ List.replicate unmasks (.table .irqEnable))
      (numbers.map (fun number => (number, .paused)) ++
        numbers.map fun number => (number, .resumed))
  /-- The table that unmasks interrupts finds the hardware and the context as the look at the
  status has left them. -/
  unmasked : ∃ earlier found between later left masked,
    device.FoundPending (device.locked (device.prepareSuspend before).state) found left ∧
      masked.toWorkspace = left ∧ Accounts between [] [] ∧
      attempt.events = earlier ++ found ++ between ++
        (device.runDriverTable .irqEnable masked).events ++ later
  lock : attempt.state.irqHeld = (before.irqHeld && !device.driver.flags.irqSublock)
  used : device.MarkedBusy attempt.events attempt.state

theorem concludeSuspend_busy (device : Device σ) {paused : UInt32} {result : Except Error Unit}
    {machine : Machine σ}
    (busy : (device.concludeSuspend paused result machine).result = .error .busy) :
    result = .error .busy := by
  rw [concludeSuspend.eq_def] at busy
  split at busy
  · cases busy
  · rfl
  next error _ =>
    cases busy
    rfl

theorem concludeSuspend_busy_apply (device : Device σ) (paused : UInt32) (machine : Machine σ) :
    device.concludeSuspend paused (.error .busy) machine =
      ⟨.error .busy, (device.abortSuspend paused machine).events,
        (device.abortSuspend paused machine).state⟩ := by
  obtain ⟨before, after, state, outcome, -⟩ := device.abortSuspend_spec paused machine
  rw [concludeSuspend, bind_apply, outcome]
  simp

/-- The channels that an attempt paused are gone from the record once it resumed them. -/
theorem Resumed.channels_eq {device : Device σ} {bits mask : UInt32} {before after : Machine σ}
    (resumed : device.Resumed bits before after) (added : before.pausedChannels = mask ||| bits)
    (fresh : ∀ other < maxChannels, hasChannel bits other = true →
      other < device.trackedChannels.length ∧ hasChannel mask other = false) :
    after.pausedChannels = mask := by
  apply eq_of_hasChannel
  intro other tracked
  rw [resumed.channels other tracked, added, hasChannel_or]
  cases member : hasChannel bits other with
  | false => simp
  | true =>
      obtain ⟨within, absent⟩ := fresh other tracked member
      simp [within, absent]

/-- A suspend that is refused is rolled back, part by part. -/
theorem rolledBack_of_parts (device : Device σ) {action : Action} {machine : Machine σ}
    {bits : UInt32} (active : machine.power = .active)
    (prepared : (device.prepareSuspend machine).result = .ok bits)
    (refused : (device.quiesce action (device.prepareSuspend machine).state).result =
      .error .busy) :
    let quieted := device.quiesce action (device.prepareSuspend machine).state
    let undone := device.abortSuspend bits quieted.state
    device.RolledBack machine
      ⟨.error .busy, (device.prepareSuspend machine).events ++ (quieted.events ++ undone.events),
        undone.state⟩ := by
  intro quieted undone
  obtain ⟨workspace, contextSaved, saved, saves, outcome, accountsSaved, fresh⟩ :=
    device.prepareSuspend_spec prepared
  obtain ⟨looked, left, found, outcomeMasked⟩ := device.quiesce_busy refused
  obtain ⟨masks, looks, accountsLooked⟩ := found.accounts
  obtain ⟨before, after, state, outcomeUndone, accountsBefore, accountsAfter, resumed, used⟩ :=
    device.abortSuspend_spec bits quieted.state
  let taken := device.lockTaken (device.prepareSuspend machine).state
  have accountsTaken : Accounts taken [] [] := device.accounts_lockTaken _
  have accountsBetween : Accounts (device.lockReleased ++ before) [] [] :=
    device.accounts_lockReleased.append accountsBefore
  let masked := device.locked quieted.state
  have quietedState : quieted.state =
      { machine with
        toWorkspace := left
        contextSaved
        pausedChannels := machine.pausedChannels ||| bits
        irqHeld := machine.irqHeld && !device.driver.flags.irqSublock } := by
    simp only [quieted, outcomeMasked]
    rw [outcome]
  have stateEq : undone.state = state := by simp [undone, outcomeUndone]
  have eventsEq : (device.prepareSuspend machine).events ++ (quieted.events ++ undone.events) =
      saved ++ taken ++ looked ++ (device.lockReleased ++ before) ++
        (device.runDriverTable .irqEnable masked).events ++ after := by
    simp [undone, outcomeUndone, quieted, outcomeMasked, outcome, taken, masked]
  rw [eventsEq, stateEq]
  have channels : state.pausedChannels = machine.pausedChannels :=
    resumed.channels_eq (by rw [quietedState]) fresh
  refine ⟨active, ?_, channels, ?_, ?_, ?_, used _⟩
  · rw [resumed.power, quietedState]
    exact active
  · obtain ⟨unmasks, accountsUnmasked⟩ := device.accounts_runDriverTable .irqEnable masked
    have swept : switches .resumed 0 device.trackedChannels.length
        (quieted.state.pausedChannels &&& bits) =
          switches .resumed 0 device.trackedChannels.length bits := by
      apply switches_congr
      intro other _ _
      rw [quietedState]
      cases member : hasChannel bits other <;> simp [member]
    rw [swept] at accountsAfter
    have whole := ((((accountsSaved.append accountsTaken).append accountsLooked).append
      accountsBetween).append accountsUnmasked).append accountsAfter
    have numbered : (List.range' 0 device.trackedChannels.length).Nodup := List.nodup_range'
    refine ⟨(List.range' 0 device.trackedChannels.length).filter (hasChannel bits), saves, masks,
      looks, unmasks, numbered.filter _, ?_⟩
    simpa only [List.append_nil, List.nil_append, List.append_assoc, switches] using whole
  · refine ⟨saved ++ taken, looked, device.lockReleased ++ before, after, left, masked, found, ?_,
      accountsBetween, rfl⟩
    simp [masked, locked, quietedState]
  · rw [resumed.lock, quietedState]
    cases device.driver.flags.irqSublock <;> simp

theorem suspendActive_busy (device : Device σ) {action : Action} {machine : Machine σ}
    (active : machine.power = .active)
    (refused : (device.suspendActive action machine).result = .error .busy) :
    device.RolledBack machine (device.suspendActive action machine) := by
  rw [suspendActive, attempt_bind_apply] at refused ⊢
  cases prepared : (device.prepareSuspend machine).result with
  | error error =>
      simp only [prepared] at refused
      have busy := device.concludeSuspend_busy refused
      cases busy
      exact absurd prepared
        (ne_busy_of_keeps (device.steady_ne_busy.prepareSuspend (by simp)) machine)
  | ok bits =>
      simp only [prepared, attempt_bind_apply] at refused ⊢
      have busy := device.concludeSuspend_busy refused
      rw [busy, concludeSuspend_busy_apply]
      exact device.rolledBack_of_parts active prepared busy

theorem runtimeSuspendFor_busy (device : Device σ) {action : Action} {machine : Machine σ}
    (refused : (device.runtimeSuspendFor action machine).result = .error .busy) :
    device.RolledBack machine (device.runtimeSuspendFor action machine) := by
  rw [runtimeSuspendFor, query_bind_apply] at refused ⊢
  split
  next active =>
    rw [if_pos active] at refused
    exact device.suspendActive_busy active refused
  next inactive =>
    rw [if_neg inactive] at refused
    cases refused

/-- What a system suspend does before it comes to the sleep itself. -/
def beforeSleep (device : Device σ) : DeviceM σ Unit := do
  device.wakeBeforeSleep
  device.callback .suspend

theorem resumeUses_of_unmasked :
    ResumeUses (fun kind => kind ≠ .irqDisable) (fun _ => True) := by
  constructor <;> simp

theorem runtimeResume_keeps_ne_busy (device : Device σ) :
    Keeps (Throughout (fun _ => True) fun _ => True) (fun error => error ≠ .busy)
      device.runtimeResume :=
  device.steady_ne_busy.runtimeResume resumeUses_of_unmasked
    (keeps_update fun _ _ holds => holds) (keeps_update fun _ _ holds => holds)

theorem beforeSleep_ne_busy (device : Device σ) (machine : Machine σ) :
    (device.beforeSleep machine).result ≠ .error .busy := by
  have steady := device.steady_ne_busy
  exact ne_busy_of_keeps ((steady.wakeBeforeSleep device.runtimeResume_keeps_ne_busy).bind
    fun _ => steady.callback .suspend trivial) machine

theorem sleepWithContext_ne_busy (device : Device σ) (machine : Machine σ) :
    (device.sleepWithContext machine).result ≠ .error .busy := by
  have entered : Keeps (Throughout (fun _ => True) fun _ => True) (fun error => error ≠ .busy)
      (enter .systemSuspended : DeviceM σ Unit) := keeps_update fun _ _ holds => holds
  rw [sleepWithContext_eq]
  exact ne_busy_of_keeps ((device.steady_ne_busy.layDown (by simp) (by simp)).bind fun _ =>
    entered) machine

/-- Only a device that goes to sleep by a runtime suspend can be found busy. -/
theorem sleep_busy (device : Device σ) {machine : Machine σ}
    (refused : (device.sleep machine).result = .error .busy) :
    device.sleep = device.runtimeSuspend := by
  rw [sleep] at refused ⊢
  split at refused
  · exact absurd refused (device.sleepWithContext_ne_busy machine)
  next withoutContext =>
    split at refused
    next managed => rw [if_neg withoutContext, if_pos managed]
    next => cases refused

/-- What a system suspend tells when the device is asleep. -/
def tellAsleep (device : Device σ) : DeviceM σ Unit := do
  let power ← query fun machine => machine.power
  device.tell (.suspended power)

theorem tellAsleep_ne_busy (device : Device σ) (machine : Machine σ) :
    (device.tellAsleep machine).result ≠ .error .busy :=
  ne_busy_of_keeps ((keeps_query _).bind fun _ => device.steady_ne_busy.news _ (by simp)) machine

theorem suspend_of_asleep (device : Device σ) {machine : Machine σ}
    (asleep : machine.power = .systemSuspended) :
    device.suspend machine = ⟨.ok (), [], machine⟩ := by
  rw [suspend, query_bind_apply, if_pos asleep, pure_apply]

/-- A device that is not asleep yet sleeps after what comes before, and tells. -/
theorem suspend_of_awake (device : Device σ) {machine : Machine σ}
    (awake : machine.power ≠ .systemSuspended) :
    device.suspend machine =
      (device.beforeSleep >>= fun _ => device.sleep >>= fun _ => device.tellAsleep) machine := by
  rw [suspend, query_bind_apply, if_neg awake]
  simp only [beforeSleep, tellAsleep, bind_assoc]

/-- A system suspend that finds the device busy was refused by the runtime suspend in it. -/
theorem suspend_busy (device : Device σ) {machine : Machine σ}
    (refused : (device.suspend machine).result = .error .busy) :
    let opened := device.beforeSleep machine
    let attempt := device.runtimeSuspend opened.state
    device.suspend machine =
      ⟨.error .busy, opened.events ++ attempt.events, attempt.state⟩ ∧
      attempt.result = .error .busy := by
  intro opened attempt
  by_cases asleep : machine.power = .systemSuspended
  · rw [device.suspend_of_asleep asleep] at refused
    cases refused
  rw [device.suspend_of_awake asleep] at refused ⊢
  cases ended : opened.result with
  | error error =>
      rw [bind_of_error ended] at refused
      cases refused
      exact absurd ended (device.beforeSleep_ne_busy machine)
  | ok done =>
      rw [bind_of_ok ended] at refused ⊢
      obtain ⟨sleepBusy, stopped⟩ := bind_stops (fun _ => device.tellAsleep_ne_busy) refused
      have slept : (device.sleep (device.beforeSleep machine).state) = attempt := by
        rw [device.sleep_busy sleepBusy]
      rw [slept] at sleepBusy stopped
      rw [stopped]
      exact ⟨rfl, sleepBusy⟩

/-- Busy means rolled back. A runtime suspend that is refused because an interrupt is pending
leaves the device as it was, in whatever state it was asked for, whatever the hardware did
meanwhile, and even if unmasking the interrupts failed as well. An autosuspend that was not
refused for a recent use, and a system suspend, consist of what they do first and of such an
attempt. -/
theorem busy_rolls_back (device : Device σ) (machine : Machine σ) :
    (∀ action, (device.runtimeSuspendFor action machine).result = .error .busy →
      device.RolledBack machine (device.runtimeSuspendFor action machine)) ∧
    ((device.usedRecently machine).result = .ok false →
      (device.autosuspend machine).result = .error .busy →
        let entered := device.usedRecently machine
        let attempt := device.runtimeSuspendFor .autosuspend entered.state
        device.autosuspend machine =
          ⟨.error .busy, entered.events ++ attempt.events, attempt.state⟩ ∧
          device.RolledBack entered.state attempt) ∧
    ((device.suspend machine).result = .error .busy →
      let entered := device.beforeSleep machine
      let attempt := device.runtimeSuspend entered.state
      device.suspend machine =
        ⟨.error .busy, entered.events ++ attempt.events, attempt.state⟩ ∧
        device.RolledBack entered.state attempt) := by
  refine ⟨fun action => device.runtimeSuspendFor_busy, ?_, ?_⟩
  · intro unused refused entered attempt
    rw [autosuspend, bind_of_ok unused] at refused ⊢
    have attempted : attempt.result = .error .busy := refused
    refine ⟨?_, device.runtimeSuspendFor_busy attempted⟩
    rw [← attempted]
    rfl
  · intro refused entered attempt
    obtain ⟨outcome, attempted⟩ := device.suspend_busy refused
    exact ⟨outcome, device.runtimeSuspendFor_busy attempted⟩

/-- The serial port with an interrupt pending refuses both ways to suspend. -/
theorem uart_rolls_back :
    let device := Bench.Uart.device
    let machine := Bench.Uart.interrupted
    (device.runtimeSuspend machine).result = .error .busy ∧
      device.RolledBack machine (device.runtimeSuspend machine) ∧
      (device.suspend machine).result = .error .busy ∧
      device.RolledBack (device.beforeSleep machine).state
        (device.runtimeSuspend (device.beforeSleep machine).state) := by
  intro device machine
  have busy : (device.runtimeSuspend machine).result = .error .busy := by decide +kernel
  have asleep : (device.suspend machine).result = .error .busy := by decide +kernel
  obtain ⟨rolled, -, slept⟩ := busy_rolls_back device machine
  exact ⟨busy, rolled .suspend busy, asleep, (slept asleep).2⟩

end Device

end DevicePower
