import DevicePower.Proofs.Device.Maintenance

/-!
# Showing that a device is steady

Most invariants of a device ask that no event of a certain kind is reported and that
the machine has a certain property. `Upkeep` lists what remains to be shown for such
an invariant: which events are harmless, what the tables and callbacks do to the
workspace, and that the property survives what the other collaborators do to the
hardware. `Upkeep.steady` derives from it that every step keeps the invariant.

A property that does not look at some part of the machine survives its changes by
definition; the fields for such changes are filled in by themselves.
-/

namespace DevicePower

open DeviceM Traced

variable {σ : Type}

namespace Device

/-- The invariant that no event is harmful and the machine is sound is kept by
everything that the steps of a device consist of. -/
structure Upkeep (device : Device σ) (tables : TableKind → Prop) (stages : Stage → Prop)
    (harmless : Event → Prop) (sound : Machine σ → Prop) (allowed : Error → Prop) :
    Prop where
  run : ∀ kind, tables kind → kind ≠ .contextCheck → ∀ machine, sound machine →
    Keeps (Workspace.Kept fun workspace => sound { machine with toWorkspace := workspace })
      allowed ((device.driver.tables kind).run device.port)
  differs : tables .contextCheck → ∀ machine, sound machine →
    Keeps (Workspace.Kept fun workspace => sound { machine with toWorkspace := workspace })
      allowed ((device.driver.tables .contextCheck).differs device.port)
  status : tables .irqDisable → ∀ check, device.driver.pendingCheck = some check →
    ∀ machine, sound machine →
      Keeps (Workspace.Kept fun workspace => sound { machine with toWorkspace := workspace })
        allowed (device.port.read check.offset)
  program : ∀ stage hook, stages stage → device.hooks.hook stage = some hook →
    ∀ machine hardware, sound machine →
      Keeps (Workspace.Kept fun workspace => sound { machine with toWorkspace := workspace })
        (fun _ => True) ((hook hardware).1.run device.transport)
  busy : tables .irqDisable → allowed .busy := by intros; trivial
  failed : ∀ stage, stages stage → allowed (.callback stage) := by intros; trivial
  -- What is done to the hardware without a register access.
  prepared : ∀ stage hook, stages stage → device.hooks.hook stage = some hook → ∀ machine,
    sound machine → sound { machine with hardware := (hook machine.hardware).2 } := by
      intros; assumption
  ticked : ∀ timer, device.timer = some timer → ∀ machine, sound machine →
    sound { machine with hardware := (timer.now machine.hardware).2 } := by
      intros; assumption
  enabled : ∀ isRunning enable disable, .gate isRunning enable disable ∈ device.clocks →
    ∀ machine, sound machine →
      sound { machine with hardware := enable machine.hardware } := by
        intros; assumption
  disabled : tables .clockDisable →
    ∀ isRunning enable disable, .gate isRunning enable disable ∈ device.clocks →
      ∀ machine, sound machine →
        sound { machine with hardware := disable machine.hardware } := by
          intros; assumption
  paused : ∀ channel ∈ device.channels, ∀ machine, sound machine →
    sound { machine with hardware := channel.pause machine.hardware } := by
      intros; assumption
  resumed : ∀ channel ∈ device.channels, ∀ machine, sound machine →
    sound { machine with hardware := channel.resume machine.hardware } := by
      intros; assumption
  selected : ∀ controller, device.pins = some controller → ∀ state machine, sound machine →
    sound { machine with hardware := (controller.select state machine.hardware).2 } := by
      intros; assumption
  -- What is recorded about the device.
  tracked : ∀ channels machine, sound machine →
    sound { machine with pausedChannels := channels } := by
      intros; assumption
  held : ∀ irqHeld machine, sound machine → sound { machine with irqHeld } := by
    intros; assumption
  saved : tables .save → ∀ machine, sound machine →
    sound { machine with contextSaved := true } := by
      intros; assumption
  lost : ∀ machine, sound machine →
    sound { machine with contextLosses := countLoss machine.contextLosses } := by
      intros; assumption
  used : ∀ now machine, sound machine → sound { machine with lastBusy := now } := by
    intros; assumption
  -- What is reported.
  activity : ∀ origin, origin.Within tables stages → ∀ activity,
    harmless (.activity origin activity) := by
      intros; trivial
  tableEnded : ∀ kind result, tables kind → harmless (.tableEnded kind result) := by
    intros; trivial
  compared : ∀ result, tables .contextCheck → harmless (.compared result) := by
    intros; trivial
  clock : ∀ number action, harmless (.clock number action) := by
    intros; trivial
  channel : ∀ number action, harmless (.channel number action) := by
    intros; trivial
  pins : ∀ state accepted, harmless (.pins state accepted) := by
    intros; trivial
  callbackCalled : ∀ stage irqHeld power, stages stage →
    harmless (.callbackCalled stage irqHeld power) := by
      intros; trivial
  stageEnded : ∀ stage result, stages stage → harmless (.stageEnded stage result) := by
    intros; trivial
  irqTaken : ∀ contended, harmless (.irqTaken contended) := by
    intros; trivial
  irqReleased : harmless .irqReleased := by
    intros; trivial
  reading : ∀ now, harmless (.reading now) := by
    intros; trivial
  news : ∀ news, (∀ action error, news ≠ .noPinState action error) →
    harmless (.note (.device device.name news)) := by
      intros; trivial
  unresolved : ∀ machine action reason, sound machine →
    (device.driver.pins.selection action).resolve machine.context = .error reason →
      harmless (.note (.device device.name (.noPinState action (.configuration reason)))) := by
        intros; trivial

namespace Upkeep

variable {device : Device σ} {tables : TableKind → Prop} {stages : Stage → Prop}
variable {harmless : Event → Prop} {sound : Machine σ → Prop} {allowed : Error → Prop}

theorem keeps_working {α : Type} {origin : Origin} {computation : TableM σ α}
    (activity : ∀ activity, harmless (.activity origin activity))
    (inner : ∀ machine, sound machine →
      Keeps (Workspace.Kept fun workspace => sound { machine with toWorkspace := workspace })
        allowed computation) :
    Keeps (Throughout harmless sound) allowed (working origin computation) := by
  rw [keeps_throughout_iff]
  intro machine holds
  obtain ⟨after, permitted⟩ := inner machine holds [] machine.toWorkspace holds
  refine ⟨?_, after, permitted⟩
  intro event member
  obtain ⟨inside, -, rfl⟩ := List.mem_map.mp member
  exact activity inside

/-- What a computation keeps of the workspace, it keeps beside the events of the past. -/
theorem keeps_workspace {α : Type} {computation : TableM σ α} {machine : Machine σ}
    (inner : sound machine →
      Keeps (Workspace.Kept fun workspace => sound { machine with toWorkspace := workspace })
        allowed computation)
    (seen : List Event) (holds : Throughout harmless sound seen machine) :
    Keeps
      (Workspace.Kept fun workspace =>
        Throughout harmless sound seen { machine with toWorkspace := workspace })
      allowed computation := by
  intro activities workspace before
  obtain ⟨after, permitted⟩ := inner holds.2 activities workspace before.2
  exact ⟨⟨before.1, after⟩, permitted⟩

theorem harmless_of_within (upkeep : Upkeep device tables stages harmless sound allowed)
    {event : Event} {machine : Machine σ} (within : event.Within device machine tables stages) :
    harmless event := by
  cases event with
  | activity origin activity => exact upkeep.activity origin within activity
  | tableEnded kind result => exact upkeep.tableEnded kind result within
  | compared result => exact upkeep.compared result within
  | clock number action => exact within.elim
  | channel number action => exact within.elim
  | pins state accepted => exact upkeep.pins state accepted
  | callbackCalled stage irqHeld power =>
      exact upkeep.callbackCalled stage irqHeld power within.1
  | stageEnded stage result => exact upkeep.stageEnded stage result within
  | irqTaken contended => exact upkeep.irqTaken contended
  | irqReleased => exact upkeep.irqReleased
  | reading now => exact upkeep.reading now
  | note note =>
      cases note with
      | device name news =>
          obtain ⟨rfl, plain⟩ := within
          exact upkeep.news news plain
      | _ => exact within.elim

/-- An invariant that is kept up is maintained. -/
theorem maintains (upkeep : Upkeep device tables stages harmless sound allowed) :
    Maintains device tables stages (Throughout harmless sound) allowed where
  run kind used runs seen machine holds :=
    keeps_workspace (upkeep.run kind used runs machine) seen holds
  differs checking seen machine holds :=
    keeps_workspace (upkeep.differs checking machine) seen holds
  status masking check configured seen machine holds :=
    keeps_workspace (upkeep.status masking check configured machine) seen holds
  program stage hook passing present seen machine hardware holds :=
    keeps_workspace (upkeep.program stage hook passing present machine hardware) seen holds
  busy := upkeep.busy
  failed := upkeep.failed
  prepared stage hook passing present _ machine holds :=
    ⟨holds.1, upkeep.prepared stage hook passing present machine holds.2⟩
  ticked timer present _ machine holds := ⟨holds.1, upkeep.ticked timer present machine holds.2⟩
  selected controller present state _ machine holds :=
    ⟨holds.1, upkeep.selected controller present state machine holds.2⟩
  held _ irqHeld _ machine holds := ⟨holds.1, upkeep.held irqHeld machine holds.2⟩
  saved saving _ machine holds := ⟨holds.1, upkeep.saved saving machine holds.2⟩
  lost _ machine holds := ⟨holds.1, upkeep.lost machine holds.2⟩
  used now _ machine holds := ⟨holds.1, upkeep.used now machine holds.2⟩
  reported _ seen machine within := throughout_emit (upkeep.harmless_of_within within) seen machine
  unresolved action reason _ machine holds failed :=
    throughout_emit (upkeep.unresolved machine action reason holds.2 failed) _ _ holds

/-- An invariant that is kept up is kept by every step. -/
theorem steady (upkeep : Upkeep device tables stages harmless sound allowed) :
    Steady device tables stages (Throughout harmless sound) allowed := by
  apply upkeep.maintains.steady
  · intro disabling number clock found
    apply keeps_stop fun action => throughout_emit (upkeep.clock number action)
    rintro isRunning enable disable rfl _ machine holds
    have owned := List.mem_of_getElem? found
    exact ⟨holds.1, upkeep.disabled disabling isRunning enable disable owned machine holds.2⟩
  · intro number clock found
    apply keeps_start fun action => throughout_emit (upkeep.clock number action)
    rintro isRunning enable disable rfl _ machine holds
    have owned := List.mem_of_getElem? found
    exact ⟨holds.1, upkeep.enabled isRunning enable disable owned machine holds.2⟩
  · intro _ number channel found
    exact keeps_pauseIfActive (fun action => throughout_emit (upkeep.channel number action))
      (fun _ machine holds =>
        ⟨holds.1, upkeep.paused channel (mem_channels_of_tracked found) machine holds.2⟩)
      fun channels _ machine holds => ⟨holds.1, upkeep.tracked channels machine holds.2⟩
  · intro selected number channel found
    exact keeps_resumeIfPaused selected
      (fun action => throughout_emit (upkeep.channel number action))
      (fun _ machine holds =>
        ⟨holds.1, upkeep.resumed channel (mem_channels_of_tracked found) machine holds.2⟩)
      fun channels _ machine holds => ⟨holds.1, upkeep.tracked channels machine holds.2⟩

end Upkeep

end Device

end DevicePower
