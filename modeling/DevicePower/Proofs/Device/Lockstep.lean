import DevicePower.Proofs.Device.History
import DevicePower.Proofs.Table.Lockstep
import Mathlib.Data.List.Forall2

/-!
# Devices in lockstep

Two devices that are equal but for their pins are driven side by side, from machines that are equal
but for their workspaces. If the tables, the callbacks and whatever else reaches the hardware do the
same in workspaces that are related, and leave them related, then so does every request and every
history. How the workspaces are related, and what becomes of the pins, is up to the development
that uses this module.
-/

namespace DevicePower

open DeviceM Traced

variable {σ α : Type} {visible : Event → Bool} {related : Workspace σ → Workspace σ → Prop}

/-- The machines differ in nothing but their workspaces, which are related. -/
def Machine.Beside (related : Workspace σ → Workspace σ → Prop) (first second : Machine σ) : Prop :=
  ∃ workspace, related first.toWorkspace workspace ∧
    second = { first with toWorkspace := workspace }

/-- Both computations do the same to machines with related workspaces, but for what is hidden. -/
abbrev DeviceM.InStep (visible : Event → Bool) (related : Workspace σ → Workspace σ → Prop)
    (first second : DeviceM σ α) : Prop :=
  Matches visible (Machine.Beside related) first second

/-- The hardware of related workspaces looks the same. -/
def SeenAlike (related : Workspace σ → Workspace σ → Prop) (view : σ → α) : Prop :=
  ∀ workspace other, related workspace other → view other.hardware = view workspace.hardware

/-- The change of the hardware answers the same in related workspaces and leaves related ones. -/
def ChangedAlike (related : Workspace σ → Workspace σ → Prop) (change : σ → α × σ) : Prop :=
  ∀ workspace other, related workspace other →
    (change other.hardware).1 = (change workspace.hardware).1 ∧
      related { workspace with hardware := (change workspace.hardware).2 }
        { other with hardware := (change other.hardware).2 }

/-- What the clock does is the same in related workspaces. -/
def Clock.InStep (related : Workspace σ → Workspace σ → Prop) : Clock σ → Prop
  | .fixed => True
  | .gate isRunning enable disable => SeenAlike related isRunning ∧
      ChangedAlike related (fun hardware => ((), enable hardware)) ∧
      ChangedAlike related (fun hardware => ((), disable hardware))

/-- What the channel does is the same in related workspaces. -/
structure Channel.InStep (related : Workspace σ → Workspace σ → Prop) (channel : Channel σ) :
    Prop where
  active : SeenAlike related channel.isActive
  paused : ChangedAlike related fun hardware => ((), channel.pause hardware)
  resumed : ChangedAlike related fun hardware => ((), channel.resume hardware)

/-- What happens is the same, but for changes of the hardware that leave related workspaces. -/
inductive Happening.InStep (related : Workspace σ → Workspace σ → Prop) :
    Happening σ → Happening σ → Prop where
  | asked (request : Request) : InStep related (.asked request) (.asked request)
  | changed {hardware otherHardware : σ}
      (alike : ∀ workspace other, related workspace other →
        related { workspace with hardware } { other with hardware := otherHardware }) :
      InStep related (.changed hardware) (.changed otherHardware)
  | handler (holds : Bool) : InStep related (.handler holds) (.handler holds)

namespace Device

/-- The device with another pin controller, or none, and with another pin map. -/
def repinned (device : Device σ) (pins : Option (PinController σ)) (map : PinMap) : Device σ :=
  { device with
    pins
    driver := { device.driver with pins := map } }

/-- What a device is connected to does the same in related workspaces, and what is done to the pins
of the two devices cannot be told apart. -/
structure Lockstep (device : Device σ) (pins : Option (PinController σ)) (map : PinMap)
    (visible : Event → Bool) (related : Workspace σ → Workspace σ → Prop) : Prop where
  port : device.port.Lockstep related
  hooks : ∀ stage hook, device.hooks.hook stage = some hook → ChangedAlike related hook
  timer : ∀ timer, device.timer = some timer → ChangedAlike related timer.now
  clocks : ∀ clock ∈ device.clocks, clock.InStep related
  channels : ∀ channel ∈ device.channels, channel.InStep related
  selectPins : ∀ action, InStep visible related (device.selectPins action)
    ((device.repinned pins map).selectPins action)

section Primitives

theorem inStep_view {view : Machine σ → α}
    (blind : ∀ machine workspace, view { machine with toWorkspace := workspace } = view machine) :
    InStep visible related (query view) (query view) := by
  apply matches_query
  rintro machine _ ⟨workspace, _, rfl⟩
  exact blind machine workspace

theorem inStep_record {record : Machine σ → Machine σ}
    (apart : ∀ (machine : Machine σ) workspace,
      record { machine with toWorkspace := workspace } =
        { record machine with toWorkspace := workspace })
    (kept : ∀ machine : Machine σ, (record machine).toWorkspace = machine.toWorkspace) :
    InStep visible related (update record : DeviceM σ Unit) (update record : DeviceM σ Unit) := by
  apply matches_update
  rintro machine _ ⟨workspace, holds, rfl⟩
  exact ⟨workspace, by rwa [kept], apart machine workspace⟩

theorem inStep_onHardware {change : σ → α × σ} (alike : ChangedAlike related change) :
    InStep visible related (onHardware change) (onHardware change) := by
  apply matches_act
  · rintro machine _ ⟨workspace, holds, rfl⟩
    exact (alike _ _ holds).1
  · rintro machine _ ⟨workspace, holds, rfl⟩
    exact ⟨_, (alike _ _ holds).2, rfl⟩

theorem inStep_change {f : σ → σ}
    (alike : ChangedAlike related fun hardware => ((), f hardware)) :
    InStep visible related (change f) (change f) :=
  inStep_onHardware alike

theorem inStep_look {view : σ → α} (alike : SeenAlike related view) :
    InStep visible related (look view) (look view) := by
  apply matches_query
  rintro machine _ ⟨workspace, holds, rfl⟩
  exact alike _ _ holds

theorem inStep_working (origin : Origin) {computation : TableM σ α}
    (inStep : TableM.InStep related computation) :
    InStep visible related (working origin computation) (working origin computation) := by
  apply inStep.within
  · rintro machine _ ⟨workspace, holds, rfl⟩
    exact holds
  · rintro machine _ inner innerOther ⟨workspace, _, rfl⟩ holds
    exact ⟨innerOther, holds, rfl⟩

theorem inStep_enter (power : PowerState) :
    InStep visible related (enter power : DeviceM σ Unit) (enter power) :=
  inStep_record (fun _ _ => rfl) fun _ => rfl

theorem inStep_withIrqLock (device : Device σ) (pins : Option (PinController σ)) (map : PinMap)
    {first second : DeviceM σ α} (inStep : InStep visible related first second) :
    InStep visible related (device.withIrqLock first)
      ((device.repinned pins map).withIrqLock second) := by
  have taken : InStep visible related (takeIrqLock : DeviceM σ Unit) takeIrqLock :=
    (inStep_view fun _ _ => rfl).bind fun _ => (matches_emit _).bind fun _ =>
      inStep_record (fun _ _ => rfl) fun _ => rfl
  have released : InStep visible related (releaseIrqLock : DeviceM σ Unit) releaseIrqLock :=
    (matches_emit _).bind fun _ => inStep_record (fun _ _ => rfl) fun _ => rfl
  exact matches_ite
    (fun _ => taken.bind fun _ => inStep.attempt.bind fun _ => released.bind fun _ =>
      matches_ofExcept _)
    fun _ => inStep

/-- A sweep over clocks or channels does the same if dealing with each of them does. -/
theorem inStep_sweep {step : Nat → α → DeviceM σ Unit} {sweep : Nat → List α → DeviceM σ Unit}
    (sweep_nil : ∀ number, sweep number [] = pure ())
    (sweep_cons : ∀ number item rest,
      sweep number (item :: rest) = (do step number item; sweep (number + 1) rest))
    {items : List α}
    (each : ∀ item ∈ items, ∀ number,
      InStep visible related (step number item) (step number item))
    (number : Nat) : InStep visible related (sweep number items) (sweep number items) := by
  induction items generalizing number with
  | nil =>
      rw [sweep_nil]
      exact matches_pure ()
  | cons item rest ih =>
      rw [sweep_cons]
      obtain ⟨first, others⟩ := List.forall_mem_cons.mp each
      exact (first number).bind fun _ => ih others (number + 1)

end Primitives

namespace Lockstep

variable {device : Device σ} {pins : Option (PinController σ)} {map : PinMap}
variable (lockstep : device.Lockstep pins map visible related)

include lockstep

/-! ## Steps -/

theorem runDriverTable (kind : TableKind) :
    InStep visible related (device.runDriverTable kind)
      ((device.repinned pins map).runDriverTable kind) :=
  (inStep_working _ (lockstep.port.run _)).attempt.bind fun _ =>
    (matches_emit _).bind fun _ => matches_ofExcept _

theorem lostContext :
    InStep visible related device.lostContext (device.repinned pins map).lostContext :=
  (inStep_working _ (lockstep.port.differs _)).attempt.bind fun _ =>
    (matches_emit _).bind fun _ => matches_ofExcept _

theorem callback (stage : Stage) :
    InStep visible related (device.callback stage) ((device.repinned pins map).callback stage) := by
  simp only [Device.callback, repinned]
  cases present : device.hooks.hook stage with
  | none => exact matches_emit _
  | some hook =>
      apply matches_query_bind
      rintro machine _ ⟨hardware, _, rfl⟩
      refine (matches_emit _).bind fun _ =>
        (inStep_onHardware (lockstep.hooks stage hook present)).bind fun program =>
          (inStep_working _ (lockstep.port.program program)).attempt.bind fun result =>
            (matches_emit _).bind fun _ => ?_
      cases result with
      | ok done => exact matches_pure ()
      | error error => exact (matches_emit _).bind fun _ => matches_fail _

theorem now : InStep visible related device.now (device.repinned pins map).now := by
  simp only [Device.now, repinned]
  cases present : device.timer with
  | none => exact matches_pure none
  | some timer =>
      exact (inStep_onHardware (lockstep.timer timer present)).bind fun _ =>
        (matches_emit _).bind fun _ => matches_pure _

theorem markBusy : InStep visible related device.markBusy (device.repinned pins map).markBusy :=
  lockstep.now.bind fun _ => inStep_record (fun _ _ => rfl) fun _ => rfl

/-! ## Context -/

theorem save : InStep visible related device.save (device.repinned pins map).save := by
  apply (inStep_view fun _ _ => rfl).bind
  intro saved
  exact matches_ite (fun _ => matches_pure ()) fun _ =>
    (lockstep.runDriverTable .save).bind fun _ => inStep_record (fun _ _ => rfl) fun _ => rfl

theorem writeBack : InStep visible related device.writeBack (device.repinned pins map).writeBack :=
  (lockstep.runDriverTable .restore).bind fun _ => lockstep.callback .restore

theorem restore : InStep visible related device.restore (device.repinned pins map).restore := by
  have recorded :
      InStep visible related device.recordLoss (device.repinned pins map).recordLoss := by
    apply Matches.bind
    · exact inStep_record (fun _ _ => rfl) fun _ => rfl
    · exact fun _ => (inStep_view fun _ _ => rfl).bind fun _ => matches_emit _
  apply matches_ite
  · intro _
    apply lockstep.lostContext.bind
    intro lost
    exact matches_ite (fun _ => recorded.bind fun _ => lockstep.writeBack)
      fun _ => matches_pure ()
  · exact fun _ => lockstep.writeBack

/-! ## Clocks and channels -/

theorem stop {clock : Clock σ} (member : clock ∈ device.clocks) (number : Nat) :
    InStep visible related (clock.stop number) (clock.stop number) := by
  have inStep := lockstep.clocks clock member
  cases clock with
  | fixed => exact matches_pure ()
  | gate isRunning enable disable =>
      obtain ⟨seen, enabled, disabled⟩ := inStep
      apply (inStep_look seen).bind
      intro running
      exact (matches_emit _).bind fun _ => matches_ite
        (fun _ => (matches_emit _).bind fun _ => inStep_change disabled)
        fun _ => matches_pure ()

theorem start {clock : Clock σ} (member : clock ∈ device.clocks) (number : Nat) :
    InStep visible related (clock.start number) (clock.start number) := by
  have inStep := lockstep.clocks clock member
  cases clock with
  | fixed => exact matches_pure ()
  | gate isRunning enable disable =>
      obtain ⟨seen, enabled, disabled⟩ := inStep
      apply (inStep_look seen).bind
      intro running
      exact (matches_emit _).bind fun _ => matches_ite (fun _ => matches_pure ())
        fun _ => (matches_emit _).bind fun _ => inStep_change enabled

theorem gateClocks :
    InStep visible related device.gateClocks (device.repinned pins map).gateClocks :=
  (lockstep.runDriverTable .clockDisable).bind fun _ =>
    inStep_sweep (fun _ => rfl) (fun _ _ _ => rfl) (fun _ member => lockstep.stop member) 0

theorem ungateClocks :
    InStep visible related device.ungateClocks (device.repinned pins map).ungateClocks :=
  (inStep_sweep (fun _ => rfl) (fun _ _ _ => rfl) (fun _ member => lockstep.start member) 0).bind
    fun _ => lockstep.runDriverTable .clockEnable

theorem pauseIfActive {channel : Channel σ} (member : channel ∈ device.channels) (number : Nat) :
    InStep visible related (channel.pauseIfActive number) (channel.pauseIfActive number) := by
  have inStep := lockstep.channels channel member
  apply (inStep_view fun _ _ => rfl).bind
  intro paused
  refine matches_ite (fun _ => ?_) fun _ => matches_pure 0
  apply (inStep_look inStep.active).bind
  intro active
  refine (matches_emit _).bind fun _ => matches_ite (fun _ => ?_) fun _ => matches_pure 0
  refine (matches_emit _).bind fun _ => (inStep_change inStep.paused).bind fun _ => ?_
  apply Matches.bind
  · exact inStep_record (fun _ _ => rfl) fun _ => rfl
  · exact fun _ => matches_pure _

theorem resumeIfPaused {channel : Channel σ} (member : channel ∈ device.channels)
    (selected : UInt32) (number : Nat) :
    InStep visible related (channel.resumeIfPaused selected number)
      (channel.resumeIfPaused selected number) := by
  apply (inStep_view fun _ _ => rfl).bind
  intro paused
  exact matches_ite
    (fun _ => (matches_emit _).bind fun _ =>
      (inStep_change (lockstep.channels channel member).resumed).bind fun _ =>
        inStep_record (fun _ _ => rfl) fun _ => rfl)
    fun _ => matches_pure ()

theorem pauseAll (number : Nat) {channels : List (Channel σ)}
    (members : ∀ channel ∈ channels, channel ∈ device.channels) :
    InStep visible related (Channel.pauseAll number channels)
      (Channel.pauseAll number channels) := by
  induction channels generalizing number with
  | nil => exact matches_pure 0
  | cons channel rest ih =>
      exact (lockstep.pauseIfActive (members channel List.mem_cons_self) number).bind fun _ =>
        (ih (number + 1) fun other member =>
          members other (List.mem_cons_of_mem _ member)).bind fun _ => matches_pure _

theorem pauseChannels :
    InStep visible related device.pauseChannels (device.repinned pins map).pauseChannels :=
  matches_ite (fun _ => lockstep.pauseAll 0 fun _ => List.mem_of_mem_take) fun _ => matches_pure 0

theorem resumeChannels (selected : UInt32) :
    InStep visible related (device.resumeChannels selected)
      ((device.repinned pins map).resumeChannels selected) :=
  inStep_sweep (fun _ => rfl) (fun _ _ _ => rfl)
    (fun _ member => lockstep.resumeIfPaused (List.mem_of_mem_take member) selected) 0

/-! ## Interrupts -/

theorem checkPending (check : PendingCheck) (masked : Except Error Unit) :
    InStep visible related (device.checkPending check masked)
      ((device.repinned pins map).checkPending check masked) := by
  apply (inStep_working .pendingStatus (lockstep.port.read check.offset)).attempt.bind
  intro answer
  cases answer with
  | ok status =>
      exact matches_ite (fun _ => (matches_emit _).bind fun _ => matches_fail _)
        fun _ => matches_ofExcept masked
  | error error =>
      cases masked with
      | ok done => exact matches_fail error
      | error first => exact matches_fail first

theorem maskInterrupts :
    InStep visible related device.maskInterrupts (device.repinned pins map).maskInterrupts := by
  apply matches_ite
  · exact fun _ => matches_pure ()
  · intro _
    apply (lockstep.runDriverTable .irqDisable).attempt.bind
    intro masked
    have check : (device.repinned pins map).driver.pendingCheck = device.driver.pendingCheck := rfl
    rw [check]
    cases device.driver.pendingCheck with
    | none => exact matches_ofExcept masked
    | some check => exact lockstep.checkPending check masked

/-! ## Runtime power management -/

theorem callbackInside (stage : Stage) :
    InStep visible related (device.callbackInside stage)
      ((device.repinned pins map).callbackInside stage) :=
  matches_ite (fun _ => lockstep.callback stage) fun _ => matches_pure ()

theorem callbackOutside (stage : Stage) :
    InStep visible related (device.callbackOutside stage)
      ((device.repinned pins map).callbackOutside stage) :=
  matches_ite (fun _ => matches_pure ()) fun _ => lockstep.callback stage

theorem quiesce (action : Action) :
    InStep visible related (device.quiesce action) ((device.repinned pins map).quiesce action) :=
  (inStep_withIrqLock device pins map (lockstep.maskInterrupts.bind fun _ =>
    (lockstep.selectPins action).bind fun _ => lockstep.callbackInside _)).bind fun _ =>
      (lockstep.callbackOutside _).bind fun _ =>
        (lockstep.runDriverTable .wakeup).bind fun _ => lockstep.gateClocks

theorem abortSuspend (paused : UInt32) :
    InStep visible related (device.abortSuspend paused)
      ((device.repinned pins map).abortSuspend paused) := by
  apply (matches_emit _).bind
  intro _
  refine (inStep_withIrqLock device pins map ?_).bind fun _ =>
    (lockstep.resumeChannels paused).bind fun _ => lockstep.markBusy
  apply (lockstep.runDriverTable .irqEnable).attempt.bind
  intro result
  cases result with
  | ok done => exact matches_pure ()
  | error error => exact matches_emit _

theorem concludeSuspend (paused : UInt32) (result : Except Error Unit) :
    InStep visible related (device.concludeSuspend paused result)
      ((device.repinned pins map).concludeSuspend paused result) := by
  cases result with
  | ok done => exact (inStep_enter _).bind fun _ => matches_emit _
  | error error =>
      cases error with
      | busy => exact (lockstep.abortSuspend paused).bind fun _ => matches_fail _
      | _ => exact (matches_emit _).bind fun _ => matches_fail _

theorem prepareSuspend :
    InStep visible related device.prepareSuspend (device.repinned pins map).prepareSuspend :=
  lockstep.save.bind fun _ => lockstep.pauseChannels

theorem suspendActive (action : Action) :
    InStep visible related (device.suspendActive action)
      ((device.repinned pins map).suspendActive action) := by
  apply (lockstep.prepareSuspend).attempt.bind
  intro prepared
  cases prepared with
  | ok paused =>
      exact (lockstep.quiesce action).attempt.bind fun result =>
        lockstep.concludeSuspend paused result
  | error error => exact lockstep.concludeSuspend 0 (.error error)

theorem runtimeSuspendFor (action : Action) :
    InStep visible related (device.runtimeSuspendFor action)
      ((device.repinned pins map).runtimeSuspendFor action) :=
  (inStep_view fun _ _ => rfl).bind fun _ =>
    matches_ite (fun _ => lockstep.suspendActive action) fun _ => matches_pure ()

theorem usedRecently :
    InStep visible related device.usedRecently (device.repinned pins map).usedRecently := by
  apply (inStep_view fun _ _ => rfl).bind
  intro lastBusy
  simp only [repinned]
  split
  next delay timer last _ present =>
    exact (inStep_onHardware (lockstep.timer timer present)).bind fun _ =>
      (matches_emit _).bind fun _ => matches_pure _
  next => exact matches_pure false

theorem autosuspend :
    InStep visible related device.autosuspend (device.repinned pins map).autosuspend :=
  lockstep.usedRecently.bind fun _ =>
    matches_ite (fun _ => matches_fail _) fun _ => lockstep.runtimeSuspendFor .autosuspend

theorem wakeUp : InStep visible related device.wakeUp (device.repinned pins map).wakeUp :=
  lockstep.restore.bind fun _ => lockstep.ungateClocks.bind fun _ =>
    (lockstep.selectPins .resume).bind fun _ =>
      (inStep_withIrqLock device pins map ((lockstep.runDriverTable .irqEnable).bind fun _ =>
        lockstep.callbackInside _)).bind fun _ =>
          (lockstep.callbackOutside _).bind fun _ =>
            (inStep_view fun _ _ => rfl).bind fun paused => lockstep.resumeChannels paused

theorem runtimeResume :
    InStep visible related device.runtimeResume (device.repinned pins map).runtimeResume := by
  apply matches_query_bind
  rintro machine _ ⟨hardware, _, rfl⟩
  refine matches_ite (fun _ => matches_ite (fun _ => matches_pure ()) fun _ => ?_) fun _ => ?_
  · apply (lockstep.wakeUp).attempt.bind
    intro result
    cases result with
    | ok done => exact (inStep_enter _).bind fun _ => matches_emit _
    | error error => exact (matches_emit _).bind fun _ => matches_fail _
  · exact (lockstep.callback .firstResume).bind fun _ => inStep_record (fun _ _ => rfl) fun _ => rfl

/-! ## System sleep -/

theorem sleep : InStep visible related device.sleep (device.repinned pins map).sleep :=
  matches_ite
    (fun _ => lockstep.save.bind fun _ => (lockstep.selectPins .suspend).bind fun _ =>
      lockstep.gateClocks.bind fun _ => inStep_enter _)
    fun _ => matches_ite (fun _ => lockstep.runtimeSuspendFor .suspend) fun _ => matches_pure ()

theorem suspend : InStep visible related device.suspend (device.repinned pins map).suspend := by
  have woken :
      InStep visible related device.wakeBeforeSleep (device.repinned pins map).wakeBeforeSleep :=
    (inStep_view fun _ _ => rfl).bind fun _ =>
      matches_ite (fun _ => lockstep.runtimeResume) fun _ => matches_pure ()
  apply (inStep_view fun _ _ => rfl).bind
  intro power
  exact matches_ite (fun _ => matches_pure ()) fun _ =>
    woken.bind fun _ => (lockstep.callback .suspend).bind fun _ => lockstep.sleep.bind fun _ =>
      (inStep_view fun _ _ => rfl).bind fun _ => matches_emit _

theorem wakeFrom (power : PowerState) :
    InStep visible related (device.wakeFrom power) ((device.repinned pins map).wakeFrom power) := by
  cases power with
  | active => exact matches_pure ()
  | runtimeSuspended => exact lockstep.runtimeResume
  | systemSuspended =>
      exact lockstep.ungateClocks.bind fun _ => lockstep.restore.bind fun _ =>
        (lockstep.selectPins .resume).bind fun _ => inStep_enter _

theorem resume : InStep visible related device.resume (device.repinned pins map).resume :=
  (inStep_view fun _ _ => rfl).bind fun power => (lockstep.wakeFrom power).bind fun _ =>
    (lockstep.callback .resume).bind fun _ => lockstep.markBusy.bind fun _ => matches_emit _

/-! ## Requests and histories -/

/-- Every request is carried out in lockstep, provided that a new context is. -/
theorem perform {request : Request}
    (created : ∀ template, request = .createContext template →
      InStep visible related (device.createContext template)
        ((device.repinned pins map).createContext template)) :
    InStep visible related (device.perform request)
      ((device.repinned pins map).perform request) := by
  have answered {first second : DeviceM σ Unit} (inStep : InStep visible related first second) :
      InStep visible related (answering first) (answering second) :=
    inStep.bind fun _ => matches_pure _
  cases request with
  | createContext template => exact answered (created template rfl)
  | runtimeSuspend => exact answered (lockstep.runtimeSuspendFor .suspend)
  | runtimeResume => exact answered lockstep.runtimeResume
  | autosuspend => exact answered lockstep.autosuspend
  | suspend => exact answered lockstep.suspend
  | resume => exact answered lockstep.resume
  | save => exact answered lockstep.save
  | restore => exact answered lockstep.restore
  | maskInterrupts => exact answered lockstep.maskInterrupts
  | unmaskInterrupts => exact answered (lockstep.runDriverTable .irqEnable)
  | gateClocks => exact answered lockstep.gateClocks
  | ungateClocks => exact answered lockstep.ungateClocks
  | readRegister offset =>
      exact (inStep_working .request (lockstep.port.read offset)).bind fun _ => matches_pure _
  | writeRegister offset value =>
      exact answered (inStep_working .request (lockstep.port.write offset value))
  | runTable table => exact answered (inStep_working .request (lockstep.port.run table))
  | markBusy => exact answered lockstep.markBusy
  | selectPins action => exact answered (lockstep.selectPins action)

/-- What happens leaves the machines in step. -/
theorem undergo {happening other : Happening σ} (inStep : happening.InStep related other)
    (created : ∀ template, happening = .asked (.createContext template) →
      InStep visible related (device.createContext template)
        ((device.repinned pins map).createContext template)) :
    InStep visible related (device.undergo happening)
      ((device.repinned pins map).undergo other) := by
  cases inStep with
  | asked request =>
      have performed : InStep visible related (device.perform request)
          ((device.repinned pins map).perform request) :=
        lockstep.perform fun template same => created template (by rw [same])
      exact performed.attempt.bind fun _ => matches_pure ()
  | changed alike =>
      apply matches_update
      rintro machine _ ⟨workspace, holds, rfl⟩
      exact ⟨_, alike _ _ holds, rfl⟩
  | handler holds => exact inStep_record (fun _ _ => rfl) fun _ => rfl

/-- Two histories in which the same happens are in step. -/
theorem history {happenings others : List (Happening σ)}
    (inStep : List.Forall₂ (Happening.InStep related) happenings others)
    (created : ∀ template, .asked (.createContext template) ∈ happenings →
      InStep visible related (device.createContext template)
        ((device.repinned pins map).createContext template)) :
    InStep visible related (device.history happenings)
      ((device.repinned pins map).history others) := by
  induction inStep with
  | nil => exact matches_pure ()
  | cons first _ ih =>
      apply (lockstep.undergo first fun template same =>
        created template (same ▸ List.mem_cons_self)).bind
      intro _
      exact ih fun template member => created template (List.mem_cons_of_mem _ member)

end Lockstep

end Device

end DevicePower
