import DevicePower.Device.Request
import DevicePower.Proofs.Table.Keeping

/-!
# What the steps of a device keep

Every transition of a device is made of a few kinds of step: a table, a comparison,
a callback, a look at the interrupt status, a dealing with a clock, a channel, the
pins, the timer or the interrupt lock, and the records of the machine. `Steady` says
that all of these keep an invariant; the parts of transitions then keep it too. Only
the power state and the first resume are left out, since they mark the transitions
themselves.

A transition uses some tables and some callbacks only. `Steady` is about the tables
and the stages it is given, so that an invariant can be shown of a transition even if
another table of the driver breaks it.
-/

namespace DevicePower

open DeviceM Traced

variable {σ : Type}

namespace Device

/-- What a runtime suspend does between pausing the channels and gating the clocks. -/
def silence (device : Device σ) (action : Action) : DeviceM σ Unit := do
  device.withIrqLock do
    device.maskInterrupts
    device.selectPins action
    device.callbackInside .runtimeSuspend
  device.callbackOutside .runtimeSuspend
  device.runDriverTable .wakeup

theorem quiesce_eq (device : Device σ) (action : Action) :
    device.quiesce action = (do device.silence action; device.gateClocks) := by
  simp only [quiesce, silence, bind_assoc]

/-- What a resume does between ungating the clocks and resuming the channels. -/
def activate (device : Device σ) : DeviceM σ Unit := do
  device.selectPins .resume
  device.withIrqLock do
    device.unmaskInterrupts
    device.callbackInside .runtimeResume
  device.callbackOutside .runtimeResume

/-- What a resume does between restoring the context and resuming the channels. -/
def powerUp (device : Device σ) : DeviceM σ Unit := do
  device.ungateClocks
  device.activate

/-- What a resume does after the context was restored. -/
def bringUp (device : Device σ) : DeviceM σ Unit := do
  device.powerUp
  let paused ← Traced.query fun machine => machine.pausedChannels
  device.resumeChannels paused

theorem wakeUp_eq (device : Device σ) :
    device.wakeUp = (do device.restore; device.bringUp) := by
  simp only [wakeUp, bringUp, powerUp, activate, bind_assoc]

/-- What puts a device to sleep with its context, but for the new power state. -/
def layDown (device : Device σ) : DeviceM σ Unit := do
  device.save
  device.selectPins .suspend
  device.gateClocks

theorem sleepWithContext_eq (device : Device σ) :
    device.sleepWithContext = (do device.layDown; enter .systemSuspended) := by
  simp only [sleepWithContext, layDown, bind_assoc]

/-- What wakes a device up that sleeps with its context, but for the new power state. -/
def getUp (device : Device σ) : DeviceM σ Unit := do
  device.ungateClocks
  device.restore
  device.selectPins .resume

theorem wakeWithContext_eq (device : Device σ) :
    device.wakeWithContext = (do device.getUp; enter .active) := by
  simp only [wakeWithContext, getUp, bind_assoc]

/-- Looking at the time since the last use takes nothing but the timer. -/
theorem keeps_usedRecently (device : Device σ) {invariant : List Event → Machine σ → Prop}
    {allowed : Error → Prop}
    (tick : ∀ timer, device.timer = some timer → Keeps invariant allowed (onHardware timer.now))
    (reading : ∀ now, Keeps invariant allowed (emit (.reading now))) :
    Keeps invariant allowed device.usedRecently := by
  apply (keeps_query _).bind
  intro lastBusy
  split
  next delay timer last _ present =>
    exact (tick timer present).bind fun now => (reading now).bind fun _ => keeps_pure _
  next => exact keeps_pure false

/-- A sweep over clocks or channels goes from one to the next. It keeps what is kept by dealing
with each of them. -/
theorem keeps_sweep {α : Type} {invariant : List Event → Machine σ → Prop}
    {allowed : Error → Prop} {step : Nat → α → DeviceM σ Unit}
    {sweep : Nat → List α → DeviceM σ Unit} (sweep_nil : ∀ number, sweep number [] = pure ())
    (sweep_cons : ∀ number item rest,
      sweep number (item :: rest) = (do step number item; sweep (number + 1) rest))
    {items : List α} (number : Nat)
    (each : ∀ index item, items[index]? = some item →
      Keeps invariant allowed (step (number + index) item)) :
    Keeps invariant allowed (sweep number items) := by
  induction items generalizing number with
  | nil =>
      rw [sweep_nil]
      exact keeps_pure ()
  | cons item rest ih =>
      rw [sweep_cons]
      apply (each 0 item rfl).bind
      intro _
      apply ih
      intro index other found
      rw [Nat.add_assoc, Nat.add_comm 1 index]
      exact each (index + 1) other found

/-- Every step of a device with the given tables and stages keeps the invariant and
fails with allowed errors only. A context check is compared, but never run. -/
structure Steady (device : Device σ) (tables : TableKind → Prop) (stages : Stage → Prop)
    (invariant : List Event → Machine σ → Prop) (allowed : Error → Prop) : Prop where
  table : ∀ kind, tables kind → kind ≠ .contextCheck →
    Keeps invariant allowed (device.runDriverTable kind)
  comparison : tables .contextCheck → Keeps invariant allowed device.lostContext
  status : tables .irqDisable → ∀ check, device.driver.pendingCheck = some check →
    Keeps invariant allowed (working .pendingStatus (device.port.read check.offset))
  busy : tables .irqDisable → allowed .busy
  callback : ∀ stage, stages stage → Keeps invariant allowed (device.callback stage)
  news : ∀ news, (∀ action error, news ≠ .noPinState action error) →
    Keeps invariant allowed (device.tell news)
  pins : ∀ action, Keeps invariant allowed (device.selectPins action)
  tick : ∀ timer, device.timer = some timer → Keeps invariant allowed (onHardware timer.now)
  reading : ∀ now, Keeps invariant allowed (emit (.reading now))
  stopClock : tables .clockDisable → ∀ number (clock : Clock σ),
    device.clocks[number]? = some clock → Keeps invariant allowed (clock.stop number)
  startClock : ∀ number (clock : Clock σ), device.clocks[number]? = some clock →
    Keeps invariant allowed (clock.start number)
  pauseChannel : device.driver.flags.dma = true → ∀ number (channel : Channel σ),
    device.trackedChannels[number]? = some channel →
      Keeps invariant allowed (channel.pauseIfActive number)
  resumeChannel : ∀ selected number (channel : Channel σ),
    device.trackedChannels[number]? = some channel →
      Keeps invariant allowed (channel.resumeIfPaused selected number)
  takeLock : device.driver.flags.irqSublock = true →
    Keeps invariant allowed (takeIrqLock : DeviceM σ Unit)
  releaseLock : device.driver.flags.irqSublock = true →
    Keeps invariant allowed (releaseIrqLock : DeviceM σ Unit)
  saved : tables .save → Keeps invariant allowed
    (update fun machine => { machine with contextSaved := true })
  lost : Keeps invariant allowed
    (update fun machine =>
      { machine with contextLosses := countLoss machine.contextLosses })
  used : ∀ now, Keeps invariant allowed (update fun machine => { machine with lastBusy := now })

/-- The tables and the callback of a runtime suspend, its undoing included. -/
structure SuspendUses (tables : TableKind → Prop) (stages : Stage → Prop) : Prop where
  save : tables .save
  irqDisable : tables .irqDisable
  irqEnable : tables .irqEnable
  wakeup : tables .wakeup
  clockDisable : tables .clockDisable
  runtimeSuspend : stages .runtimeSuspend

/-- The tables and the callbacks of a runtime resume. -/
structure ResumeUses (tables : TableKind → Prop) (stages : Stage → Prop) : Prop where
  contextCheck : tables .contextCheck
  restore : tables .restore
  clockEnable : tables .clockEnable
  irqEnable : tables .irqEnable
  afterRestore : stages .restore
  runtimeResume : stages .runtimeResume
  firstResume : stages .firstResume

namespace Steady

variable {device : Device σ} {tables : TableKind → Prop} {stages : Stage → Prop}
variable {invariant : List Event → Machine σ → Prop} {allowed : Error → Prop}

/-! ## Clocks and channels

Clocks and channels are met with the numbers that they have in the lists of the device. -/

theorem numbered_rest {α : Type} {all rest : List α} {first : α} {number : Nat}
    (numbered : ∀ index item, (first :: rest)[index]? = some item →
      all[number + index]? = some item) :
    ∀ index item, rest[index]? = some item → all[number + 1 + index]? = some item := by
  intro index item found
  have shifted := numbered (index + 1) item found
  rwa [Nat.add_comm index 1, ← Nat.add_assoc] at shifted

theorem stopAll (steady : Steady device tables stages invariant allowed)
    (disabling : tables .clockDisable) (number : Nat) {clocks : List (Clock σ)}
    (numbered : ∀ index clock, clocks[index]? = some clock →
      device.clocks[number + index]? = some clock) :
    Keeps invariant allowed (Clock.stopAll number clocks) :=
  keeps_sweep (fun _ => rfl) (fun _ _ _ => rfl) number fun index clock found =>
    steady.stopClock disabling (number + index) clock (numbered index clock found)

theorem startAll (steady : Steady device tables stages invariant allowed) (number : Nat)
    {clocks : List (Clock σ)}
    (numbered : ∀ index clock, clocks[index]? = some clock →
      device.clocks[number + index]? = some clock) :
    Keeps invariant allowed (Clock.startAll number clocks) :=
  keeps_sweep (fun _ => rfl) (fun _ _ _ => rfl) number fun index clock found =>
    steady.startClock (number + index) clock (numbered index clock found)

theorem gateClocks (steady : Steady device tables stages invariant allowed)
    (disabling : tables .clockDisable) : Keeps invariant allowed device.gateClocks :=
  (steady.table .clockDisable disabling (by decide)).bind fun _ =>
    steady.stopAll disabling 0 fun index clock found => by rwa [Nat.zero_add]

theorem ungateClocks (steady : Steady device tables stages invariant allowed)
    (enabling : tables .clockEnable) : Keeps invariant allowed device.ungateClocks :=
  (steady.startAll 0 fun index clock found => by rwa [Nat.zero_add]).bind fun _ =>
    steady.table .clockEnable enabling (by decide)

theorem pauseAll (steady : Steady device tables stages invariant allowed)
    (dma : device.driver.flags.dma = true) (number : Nat) {channels : List (Channel σ)}
    (numbered : ∀ index channel, channels[index]? = some channel →
      device.trackedChannels[number + index]? = some channel) :
    Keeps invariant allowed (Channel.pauseAll number channels) := by
  induction channels generalizing number with
  | nil => exact keeps_pure 0
  | cons channel rest ih =>
      apply (steady.pauseChannel dma number channel (numbered 0 channel rfl)).bind
      intro first
      exact (ih (number + 1) (numbered_rest numbered)).bind fun others =>
        keeps_pure (first ||| others)

theorem resumeAll (steady : Steady device tables stages invariant allowed)
    (selected : UInt32) (number : Nat) {channels : List (Channel σ)}
    (numbered : ∀ index channel, channels[index]? = some channel →
      device.trackedChannels[number + index]? = some channel) :
    Keeps invariant allowed (Channel.resumeAll selected number channels) :=
  keeps_sweep (fun _ => rfl) (fun _ _ _ => rfl) number fun index channel found =>
    steady.resumeChannel selected (number + index) channel (numbered index channel found)

theorem pauseChannels (steady : Steady device tables stages invariant allowed) :
    Keeps invariant allowed device.pauseChannels := by
  rw [Device.pauseChannels]
  split
  next dma => exact steady.pauseAll dma 0 fun index channel found => by rwa [Nat.zero_add]
  next => exact keeps_pure 0

theorem resumeChannels (steady : Steady device tables stages invariant allowed)
    (selected : UInt32) : Keeps invariant allowed (device.resumeChannels selected) :=
  steady.resumeAll selected 0 fun index channel found => by rwa [Nat.zero_add]

/-! ## Context -/

theorem save (steady : Steady device tables stages invariant allowed)
    (saving : tables .save) : Keeps invariant allowed device.save := by
  apply (keeps_query _).bind
  intro saved
  split
  · exact keeps_pure ()
  · exact (steady.table .save saving (by decide)).bind fun _ => steady.saved saving

theorem recordLoss (steady : Steady device tables stages invariant allowed) :
    Keeps invariant allowed device.recordLoss :=
  steady.lost.bind fun _ => (keeps_query _).bind fun _ => steady.news _ (by simp)

theorem writeBack (steady : Steady device tables stages invariant allowed)
    (restoring : tables .restore) (passing : stages .restore) :
    Keeps invariant allowed device.writeBack :=
  (steady.table .restore restoring (by decide)).bind fun _ => steady.callback .restore passing

theorem restore (steady : Steady device tables stages invariant allowed)
    (checking : tables .contextCheck) (restoring : tables .restore)
    (passing : stages .restore) : Keeps invariant allowed device.restore := by
  rw [Device.restore]
  split
  · apply (steady.comparison checking).bind
    intro differs
    split
    · exact steady.recordLoss.bind fun _ => steady.writeBack restoring passing
    · exact keeps_pure ()
  · exact steady.writeBack restoring passing

/-! ## Interrupts -/

theorem checkPending (steady : Steady device tables stages invariant allowed)
    (masking : tables .irqDisable) {check : PendingCheck}
    (configured : device.driver.pendingCheck = some check) {masked : Except Error Unit}
    (permitted : ∀ error, masked = .error error → allowed error) :
    Keeps invariant allowed (device.checkPending check masked) := by
  apply (steady.status masking check configured).attempt_bind
  intro answer answerPermitted
  cases answer with
  | ok status =>
      simp only
      split
      · exact (steady.news _ (by simp)).bind fun _ => keeps_fail (steady.busy masking)
      · exact keeps_ofExcept permitted
  | error error =>
      cases masked with
      | ok done => exact keeps_fail (answerPermitted error rfl)
      | error first => exact keeps_fail (permitted first rfl)

theorem maskInterrupts (steady : Steady device tables stages invariant allowed)
    (masking : tables .irqDisable) : Keeps invariant allowed device.maskInterrupts := by
  rw [Device.maskInterrupts]
  split
  · exact keeps_pure ()
  · apply (steady.table .irqDisable masking (by decide)).attempt_bind
    intro masked permitted
    split
    next check configured => exact steady.checkPending masking configured permitted
    next => exact keeps_ofExcept permitted

theorem unmaskInterrupts (steady : Steady device tables stages invariant allowed)
    (unmasking : tables .irqEnable) : Keeps invariant allowed device.unmaskInterrupts :=
  steady.table .irqEnable unmasking (by decide)

/-- Holding the interrupt lock meanwhile makes no difference to what is kept. -/
theorem withIrqLock (steady : Steady device tables stages invariant allowed) {α : Type}
    {computation : DeviceM σ α} (kept : Keeps invariant allowed computation) :
    Keeps invariant allowed (device.withIrqLock computation) := by
  rw [Device.withIrqLock]
  split
  next locked =>
    apply (steady.takeLock locked).bind
    intro _
    apply kept.attempt_bind
    intro result permitted
    exact (steady.releaseLock locked).bind fun _ => keeps_ofExcept permitted
  next => exact kept

/-! ## Transitions -/

theorem now (steady : Steady device tables stages invariant allowed) :
    Keeps invariant allowed device.now := by
  rw [Device.now]
  split
  · exact keeps_pure none
  next timer present =>
    exact (steady.tick timer present).bind fun now =>
      (steady.reading now).bind fun _ => keeps_pure (some now)

theorem markBusy (steady : Steady device tables stages invariant allowed) :
    Keeps invariant allowed device.markBusy :=
  steady.now.bind fun now => steady.used now

theorem usedRecently (steady : Steady device tables stages invariant allowed) :
    Keeps invariant allowed device.usedRecently :=
  device.keeps_usedRecently steady.tick steady.reading

theorem callbackInside (steady : Steady device tables stages invariant allowed)
    {stage : Stage} (passing : stages stage) :
    Keeps invariant allowed (device.callbackInside stage) := by
  rw [Device.callbackInside]
  split
  · exact steady.callback stage passing
  · exact keeps_pure ()

theorem callbackOutside (steady : Steady device tables stages invariant allowed)
    {stage : Stage} (passing : stages stage) :
    Keeps invariant allowed (device.callbackOutside stage) := by
  rw [Device.callbackOutside]
  split
  · exact keeps_pure ()
  · exact steady.callback stage passing

theorem prepareSuspend (steady : Steady device tables stages invariant allowed)
    (saving : tables .save) : Keeps invariant allowed device.prepareSuspend :=
  (steady.save saving).bind fun _ => steady.pauseChannels

theorem silence (steady : Steady device tables stages invariant allowed) (action : Action)
    (masking : tables .irqDisable) (waking : tables .wakeup) (passing : stages .runtimeSuspend) :
    Keeps invariant allowed (device.silence action) := by
  have locked : Keeps invariant allowed (do
      device.maskInterrupts
      device.selectPins action
      device.callbackInside .runtimeSuspend) :=
    (steady.maskInterrupts masking).bind fun _ =>
      (steady.pins action).bind fun _ => steady.callbackInside passing
  exact (steady.withIrqLock locked).bind fun _ =>
    (steady.callbackOutside passing).bind fun _ => steady.table .wakeup waking (by decide)

theorem quiesce (steady : Steady device tables stages invariant allowed) (action : Action)
    (masking : tables .irqDisable) (waking : tables .wakeup) (disabling : tables .clockDisable)
    (passing : stages .runtimeSuspend) : Keeps invariant allowed (device.quiesce action) := by
  rw [quiesce_eq]
  exact (steady.silence action masking waking passing).bind fun _ => steady.gateClocks disabling

theorem abortSuspend (steady : Steady device tables stages invariant allowed)
    (unmasking : tables .irqEnable) (paused : UInt32) :
    Keeps invariant allowed (device.abortSuspend paused) := by
  apply (steady.news _ (by simp)).bind
  intro _
  refine (steady.withIrqLock ?_).bind fun _ =>
    (steady.resumeChannels paused).bind fun _ => steady.markBusy
  apply (steady.unmaskInterrupts unmasking).attempt_bind
  intro result _
  cases result with
  | ok done => exact keeps_pure ()
  | error error => exact steady.news _ (by simp)

theorem concludeSuspend (steady : Steady device tables stages invariant allowed)
    (unmasking : tables .irqEnable)
    (enter : Keeps invariant allowed (enter .runtimeSuspended : DeviceM σ Unit))
    (paused : UInt32) {result : Except Error Unit}
    (permitted : ∀ error, result = .error error → allowed error) :
    Keeps invariant allowed (device.concludeSuspend paused result) := by
  rw [Device.concludeSuspend.eq_def]
  split
  · exact enter.bind fun _ => steady.news _ (by simp)
  · exact (steady.abortSuspend unmasking paused).bind fun _ => keeps_fail (permitted _ rfl)
  next error _ =>
    exact (steady.news _ (by simp)).bind fun _ => keeps_fail (permitted error rfl)

theorem suspendActive (steady : Steady device tables stages invariant allowed)
    (uses : SuspendUses tables stages)
    (enter : Keeps invariant allowed (enter .runtimeSuspended : DeviceM σ Unit))
    (action : Action) : Keeps invariant allowed (device.suspendActive action) := by
  apply (steady.prepareSuspend uses.save).attempt_bind
  intro prepared permitted
  cases prepared with
  | ok paused =>
      apply (steady.quiesce action uses.irqDisable uses.wakeup uses.clockDisable
        uses.runtimeSuspend).attempt_bind
      intro result permittedLater
      exact steady.concludeSuspend uses.irqEnable enter paused permittedLater
  | error error =>
      apply steady.concludeSuspend uses.irqEnable enter 0
      intro other same
      cases same
      exact permitted error rfl

theorem runtimeSuspendFor (steady : Steady device tables stages invariant allowed)
    (uses : SuspendUses tables stages)
    (enter : Keeps invariant allowed (enter .runtimeSuspended : DeviceM σ Unit))
    (action : Action) : Keeps invariant allowed (device.runtimeSuspendFor action) := by
  apply (keeps_query _).bind
  intro power
  split
  · exact steady.suspendActive uses enter action
  · exact keeps_pure ()

theorem autosuspend (steady : Steady device tables stages invariant allowed)
    (uses : SuspendUses tables stages)
    (enter : Keeps invariant allowed (enter .runtimeSuspended : DeviceM σ Unit)) :
    Keeps invariant allowed device.autosuspend := by
  apply steady.usedRecently.bind
  intro recent
  split
  · exact keeps_fail (steady.busy uses.irqDisable)
  · exact steady.runtimeSuspendFor uses enter .autosuspend

theorem layDown (steady : Steady device tables stages invariant allowed)
    (saving : tables .save) (disabling : tables .clockDisable) :
    Keeps invariant allowed device.layDown :=
  (steady.save saving).bind fun _ =>
    (steady.pins .suspend).bind fun _ => steady.gateClocks disabling

theorem sleep (steady : Steady device tables stages invariant allowed)
    (uses : SuspendUses tables stages)
    (enter : ∀ power, Keeps invariant allowed (enter power : DeviceM σ Unit)) :
    Keeps invariant allowed device.sleep := by
  rw [Device.sleep]
  split
  · rw [sleepWithContext_eq]
    exact (steady.layDown uses.save uses.clockDisable).bind fun _ => enter .systemSuspended
  · split
    · exact steady.runtimeSuspendFor uses (enter .runtimeSuspended) .suspend
    · exact keeps_pure ()

theorem activate (steady : Steady device tables stages invariant allowed)
    (unmasking : tables .irqEnable) (resuming : stages .runtimeResume) :
    Keeps invariant allowed device.activate := by
  have locked : Keeps invariant allowed (do
      device.unmaskInterrupts
      device.callbackInside .runtimeResume) :=
    (steady.unmaskInterrupts unmasking).bind fun _ => steady.callbackInside resuming
  exact (steady.pins .resume).bind fun _ =>
    (steady.withIrqLock locked).bind fun _ => steady.callbackOutside resuming

theorem powerUp (steady : Steady device tables stages invariant allowed)
    (enabling : tables .clockEnable) (unmasking : tables .irqEnable)
    (resuming : stages .runtimeResume) : Keeps invariant allowed device.powerUp :=
  (steady.ungateClocks enabling).bind fun _ => steady.activate unmasking resuming

theorem bringUp (steady : Steady device tables stages invariant allowed)
    (enabling : tables .clockEnable) (unmasking : tables .irqEnable)
    (resuming : stages .runtimeResume) : Keeps invariant allowed device.bringUp :=
  (steady.powerUp enabling unmasking resuming).bind fun _ =>
    (keeps_query _).bind fun paused => steady.resumeChannels paused

theorem wakeUp (steady : Steady device tables stages invariant allowed)
    (checking : tables .contextCheck) (restoring : tables .restore)
    (enabling : tables .clockEnable) (unmasking : tables .irqEnable)
    (passing : stages .restore) (resuming : stages .runtimeResume) :
    Keeps invariant allowed device.wakeUp := by
  rw [wakeUp_eq]
  exact (steady.restore checking restoring passing).bind fun _ =>
    steady.bringUp enabling unmasking resuming

theorem getUp (steady : Steady device tables stages invariant allowed)
    (enabling : tables .clockEnable) (checking : tables .contextCheck)
    (restoring : tables .restore) (passing : stages .restore) :
    Keeps invariant allowed device.getUp :=
  (steady.ungateClocks enabling).bind fun _ =>
    (steady.restore checking restoring passing).bind fun _ => steady.pins .resume

theorem concludeResume (steady : Steady device tables stages invariant allowed)
    (enter : Keeps invariant allowed (enter .active : DeviceM σ Unit))
    {result : Except Error Unit} (permitted : ∀ error, result = .error error → allowed error) :
    Keeps invariant allowed (device.concludeResume result) := by
  cases result with
  | ok done => exact enter.bind fun _ => steady.news _ (by simp)
  | error error =>
      exact (steady.news _ (by simp)).bind fun _ => keeps_fail (permitted error rfl)

theorem runtimeResume (steady : Steady device tables stages invariant allowed)
    (uses : ResumeUses tables stages)
    (enter : Keeps invariant allowed (enter .active : DeviceM σ Unit))
    (started : Keeps invariant allowed
      (update fun machine : Machine σ =>
        { machine with firstResumeDone := true, power := .active })) :
    Keeps invariant allowed device.runtimeResume := by
  apply (keeps_query _).bind
  intro machine
  split
  · split
    · exact keeps_pure ()
    · apply (steady.wakeUp uses.contextCheck uses.restore uses.clockEnable uses.irqEnable
        uses.afterRestore uses.runtimeResume).attempt_bind
      intro result permitted
      exact steady.concludeResume enter permitted
  · exact (steady.callback .firstResume uses.firstResume).bind fun _ => started

theorem wakeBeforeSleep (_ : Steady device tables stages invariant allowed)
    (resumed : Keeps invariant allowed device.runtimeResume) :
    Keeps invariant allowed device.wakeBeforeSleep := by
  apply (keeps_query _).bind
  intro power
  split
  · exact resumed
  · exact keeps_pure ()

end Steady

end Device

end DevicePower
