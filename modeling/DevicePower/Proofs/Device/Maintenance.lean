import DevicePower.Proofs.Device.Steady
import DevicePower.Proofs.Device.Steps

/-!
# Maintaining an invariant

`Steady` asks of every kind of step whether it keeps an invariant. A step is made of smaller
ones, and most of these look alike to most invariants: something happens to the workspace,
the machine makes a record, an event is reported. `Maintains` asks about these, and
`Maintains.steady` derives the steps from them.

Clocks and channels are the exception. Which of them is switched depends on the machine, so
that an invariant about them is shown of their steps as a whole. Whoever does not care about
them finds the steps further below.

A device without channels takes the same steps as before, other than those with channels.
Some transitions come to the channels last of all; what they keep until then is shown for the
device `unplugged`.
-/

namespace DevicePower

open DeviceM TableM Traced

variable {σ α : Type}

/-- An activity of this origin belongs to one of the given tables and stages. The look at
the interrupt status belongs to the table that masks interrupts. -/
def Origin.Within (tables : TableKind → Prop) (stages : Stage → Prop) : Origin → Prop
  | .table kind => tables kind
  | .pendingStatus => tables .irqDisable
  | .request => False
  | .callback stage => stages stage

/-- The event is reported in this state by a step of the device with one of the given tables or
stages, or by one that needs neither. Dealings with clocks and channels do not count, and
neither does the note that no pin state could be chosen. -/
def Event.Within (device : Device σ) (machine : Machine σ) (tables : TableKind → Prop)
    (stages : Stage → Prop) : Event → Prop
  | .activity origin _ => origin.Within tables stages
  | .tableEnded kind _ => tables kind
  | .compared _ => tables .contextCheck
  | .callbackCalled stage irqHeld power =>
      stages stage ∧ irqHeld = machine.irqHeld ∧ power = machine.power
  | .stageEnded stage _ => stages stage
  | .pins _ _ | .reading _ => True
  | .irqTaken contended =>
      device.driver.flags.irqSublock = true ∧ contended = machine.irqHeld
  | .irqReleased => device.driver.flags.irqSublock = true
  | .note (.device name news) =>
      name = device.name ∧ ∀ action error, news ≠ .noPinState action error
  | _ => False

namespace Event.Within

variable {device : Device σ} {machine : Machine σ} {tables : TableKind → Prop}
variable {stages : Stage → Prop} {event : Event}

theorem ne_channel (within : event.Within device machine tables stages) (number : Nat)
    (action : ChannelAction) : event ≠ .channel number action := by
  rintro rfl
  exact within

theorem ne_clock (within : event.Within device machine tables stages) (number : Nat)
    (action : ClockAction) : event ≠ .clock number action := by
  rintro rfl
  exact within

end Event.Within

namespace Device

/-- The device without its channels. -/
def unplugged (device : Device σ) : Device σ :=
  { device with channels := [] }

/-- What the steps of a device with the given tables and stages consist of keeps the
invariant, and they fail with allowed errors only. -/
structure Maintains (device : Device σ) (tables : TableKind → Prop) (stages : Stage → Prop)
    (invariant : List Event → Machine σ → Prop) (allowed : Error → Prop) : Prop where
  run : ∀ kind, tables kind → kind ≠ .contextCheck → ∀ seen machine, invariant seen machine →
    Keeps (Workspace.Kept fun workspace => invariant seen { machine with toWorkspace := workspace })
      allowed ((device.driver.tables kind).run device.port)
  differs : tables .contextCheck → ∀ seen machine, invariant seen machine →
    Keeps (Workspace.Kept fun workspace => invariant seen { machine with toWorkspace := workspace })
      allowed ((device.driver.tables .contextCheck).differs device.port)
  status : tables .irqDisable → ∀ check, device.driver.pendingCheck = some check →
    ∀ seen machine, invariant seen machine →
      Keeps
        (Workspace.Kept fun workspace => invariant seen { machine with toWorkspace := workspace })
        allowed (device.port.read check.offset)
  program : ∀ stage hook, stages stage → device.hooks.hook stage = some hook →
    ∀ seen machine hardware, invariant seen machine →
      Keeps
        (Workspace.Kept fun workspace => invariant seen { machine with toWorkspace := workspace })
        (fun _ => True) ((hook hardware).1.run device.transport)
  busy : tables .irqDisable → allowed .busy
  failed : ∀ stage, stages stage → allowed (.callback stage)
  -- What is done to the hardware without a register access.
  prepared : ∀ stage hook, stages stage → device.hooks.hook stage = some hook →
    ∀ seen machine, invariant seen machine →
      invariant seen { machine with hardware := (hook machine.hardware).2 }
  ticked : ∀ timer, device.timer = some timer → ∀ seen machine, invariant seen machine →
    invariant seen { machine with hardware := (timer.now machine.hardware).2 }
  selected : ∀ controller, device.pins = some controller → ∀ state seen machine,
    invariant seen machine →
      invariant seen { machine with hardware := (controller.select state machine.hardware).2 }
  -- What is recorded about the device, and what is reported.
  held : device.driver.flags.irqSublock = true → ∀ irqHeld seen machine,
    invariant seen machine → invariant seen { machine with irqHeld }
  saved : tables .save → ∀ seen machine, invariant seen machine →
    invariant seen { machine with contextSaved := true }
  lost : ∀ seen machine, invariant seen machine →
    invariant seen { machine with contextLosses := countLoss machine.contextLosses }
  used : ∀ now seen machine, invariant seen machine →
    invariant seen { machine with lastBusy := now }
  reported : ∀ event seen machine, event.Within device machine tables stages →
    invariant seen machine → invariant (seen ++ [event]) machine
  unresolved : ∀ action reason seen machine, invariant seen machine →
    (device.driver.pins.selection action).resolve machine.context = .error reason →
      invariant
        (seen ++ [.note (.device device.name (.noPinState action (.configuration reason)))]) machine

variable {device : Device σ} {tables : TableKind → Prop} {stages : Stage → Prop}
variable {invariant : List Event → Machine σ → Prop} {allowed : Error → Prop}

theorem mem_channels_of_tracked {number : Nat} {channel : Channel σ}
    (found : device.trackedChannels[number]? = some channel) : channel ∈ device.channels :=
  List.mem_of_mem_take (List.mem_of_getElem? found)

/-! ## Work on the workspace -/

/-- Reporting the activities of some work keeps what reporting each of them keeps. -/
theorem activities_reported {origin : Origin} {invariant : List Event → Machine σ → Prop}
    (reported : ∀ activity seen machine, invariant seen machine →
      invariant (seen ++ [.activity origin activity]) machine)
    (activities : List Activity) (seen : List Event) (machine : Machine σ)
    (holds : invariant seen machine) :
    invariant (seen ++ activities.map (Event.activity origin)) machine := by
  induction activities generalizing seen with
  | nil => simpa using holds
  | cons activity rest ih =>
      have first := ih _ (reported activity seen machine holds)
      simpa using first

/-- Work keeps what its effect on the workspace keeps and what each of its activities keeps
when it is reported. -/
theorem keeps_working {origin : Origin} {computation : TableM σ α}
    (reported : ∀ activity seen machine, invariant seen machine →
      invariant (seen ++ [.activity origin activity]) machine)
    (inner : ∀ seen machine, invariant seen machine →
      Keeps
        (Workspace.Kept fun workspace => invariant seen { machine with toWorkspace := workspace })
        allowed computation) :
    Keeps invariant allowed (working origin computation) := by
  intro seen machine holds
  obtain ⟨after, permitted⟩ := inner seen machine holds [] machine.toWorkspace holds
  exact ⟨activities_reported reported _ seen _ after, permitted⟩

theorem keeps_change {change : σ → σ}
    (changed : ∀ seen machine, invariant seen machine →
      invariant seen { machine with hardware := change machine.hardware }) :
    Keeps invariant allowed (DeviceM.change change) :=
  keeps_act fun seen machine holds => changed seen machine holds

/-! ## Steps with clocks and channels that do not matter -/

theorem keeps_stop {number : Nat} {clock : Clock σ}
    (reported : ∀ action seen machine, invariant seen machine →
      invariant (seen ++ [.clock number action]) machine)
    (disabled : ∀ isRunning enable disable, clock = .gate isRunning enable disable →
      ∀ seen machine, invariant seen machine →
        invariant seen { machine with hardware := disable machine.hardware }) :
    Keeps invariant allowed (clock.stop number) := by
  cases clock with
  | fixed => exact keeps_pure ()
  | gate isRunning enable disable =>
      apply (keeps_query _).bind
      intro running
      apply (keeps_emit (reported _)).bind
      intro _
      split
      · exact (keeps_emit (reported _)).bind fun _ =>
          keeps_change (disabled isRunning enable disable rfl)
      · exact keeps_pure ()

theorem keeps_start {number : Nat} {clock : Clock σ}
    (reported : ∀ action seen machine, invariant seen machine →
      invariant (seen ++ [.clock number action]) machine)
    (enabled : ∀ isRunning enable disable, clock = .gate isRunning enable disable →
      ∀ seen machine, invariant seen machine →
        invariant seen { machine with hardware := enable machine.hardware }) :
    Keeps invariant allowed (clock.start number) := by
  cases clock with
  | fixed => exact keeps_pure ()
  | gate isRunning enable disable =>
      apply (keeps_query _).bind
      intro running
      apply (keeps_emit (reported _)).bind
      intro _
      split
      · exact keeps_pure ()
      · exact (keeps_emit (reported _)).bind fun _ =>
          keeps_change (enabled isRunning enable disable rfl)

theorem keeps_pauseIfActive {number : Nat} {channel : Channel σ}
    (reported : ∀ action seen machine, invariant seen machine →
      invariant (seen ++ [.channel number action]) machine)
    (paused : ∀ seen machine, invariant seen machine →
      invariant seen { machine with hardware := channel.pause machine.hardware })
    (tracked : ∀ channels seen machine, invariant seen machine →
      invariant seen { machine with pausedChannels := channels }) :
    Keeps invariant allowed (channel.pauseIfActive number) := by
  apply (keeps_query _).bind
  intro before
  split
  · apply (keeps_query _).bind
    intro active
    apply (keeps_emit (reported _)).bind
    intro _
    split
    · exact (keeps_emit (reported _)).bind fun _ =>
        (keeps_change paused).bind fun _ =>
          (keeps_update fun seen machine holds => tracked _ seen machine holds).bind fun _ =>
            keeps_pure _
    · exact keeps_pure 0
  · exact keeps_pure 0

theorem keeps_resumeIfPaused {number : Nat} {channel : Channel σ} (selected : UInt32)
    (reported : ∀ action seen machine, invariant seen machine →
      invariant (seen ++ [.channel number action]) machine)
    (resumed : ∀ seen machine, invariant seen machine →
      invariant seen { machine with hardware := channel.resume machine.hardware })
    (tracked : ∀ channels seen machine, invariant seen machine →
      invariant seen { machine with pausedChannels := channels }) :
    Keeps invariant allowed (channel.resumeIfPaused selected number) := by
  apply (keeps_query _).bind
  intro before
  split
  · exact (keeps_emit (reported _)).bind fun _ =>
      (keeps_change resumed).bind fun _ =>
        keeps_update fun seen machine holds => tracked _ seen machine holds
  · exact keeps_pure ()

/-! ## All other steps -/

namespace Maintains

theorem keeps_tell (maintains : Maintains device tables stages invariant allowed) {news : News}
    (plain : ∀ action error, news ≠ .noPinState action error) :
    Keeps invariant allowed (device.tell news) :=
  keeps_emit fun seen machine => maintains.reported _ seen machine ⟨rfl, plain⟩

theorem keeps_runDriverTable (maintains : Maintains device tables stages invariant allowed)
    {kind : TableKind} (used : tables kind) (runs : kind ≠ .contextCheck) :
    Keeps invariant allowed (device.runDriverTable kind) := by
  have inner : Keeps invariant allowed
      (working (.table kind) ((device.driver.tables kind).run device.port)) :=
    keeps_working (fun _ seen machine => maintains.reported _ seen machine used)
      (maintains.run kind used runs)
  apply inner.attempt_bind
  intro result permitted
  exact (keeps_emit fun seen machine =>
    maintains.reported (.tableEnded kind result) seen machine used).bind fun _ =>
      keeps_ofExcept permitted

theorem keeps_lostContext (maintains : Maintains device tables stages invariant allowed)
    (checking : tables .contextCheck) : Keeps invariant allowed device.lostContext := by
  have inner : Keeps invariant allowed (working (.table .contextCheck)
      ((device.driver.tables .contextCheck).differs device.port)) :=
    keeps_working (fun _ seen machine => maintains.reported _ seen machine checking)
      (maintains.differs checking)
  apply inner.attempt_bind
  intro result permitted
  exact (keeps_emit fun seen machine =>
    maintains.reported (.compared result) seen machine checking).bind fun _ =>
      keeps_ofExcept permitted

theorem keeps_callback (maintains : Maintains device tables stages invariant allowed)
    {stage : Stage} (passing : stages stage) :
    Keeps invariant allowed (device.callback stage) := by
  rw [callback]
  split
  · exact keeps_emit fun seen machine => maintains.reported _ seen machine passing
  next hook present =>
    apply keeps_report_bind
    · exact fun seen machine => maintains.reported _ seen machine ⟨passing, rfl, rfl⟩
    have prepared : Keeps invariant allowed (onHardware hook) :=
      keeps_act (maintains.prepared stage hook passing present)
    apply prepared.bind_knowing fun program => ∃ hardware, (hook hardware).1 = program
    · intro before program chosen
      exact ⟨before.hardware, Except.ok.inj chosen⟩
    rintro program ⟨hardware, rfl⟩
    -- The callback may fail in any way; only the stage is blamed for it.
    have inner : Keeps invariant (fun _ => True)
        (working (.callback stage) ((hook hardware).1.run device.transport)) :=
      keeps_working (fun _ seen machine => maintains.reported _ seen machine passing)
        fun seen machine holds =>
          maintains.program stage hook passing present seen machine hardware holds
    apply inner.attempt_bind
    intro result _
    apply (keeps_emit fun seen machine =>
      maintains.reported (.stageEnded stage result) seen machine passing).bind
    intro _
    cases result with
    | ok done => exact keeps_pure ()
    | error error =>
        exact (maintains.keeps_tell (by simp)).bind fun _ =>
          keeps_fail (maintains.failed stage passing)

theorem keeps_selectPins (maintains : Maintains device tables stages invariant allowed)
    (action : Action) : Keeps invariant allowed (device.selectPins action) := by
  rw [selectPins]
  split
  · exact keeps_pure ()
  next controller present =>
    intro seen machine holds
    rw [query_bind_apply]
    cases resolved : (device.driver.pins.selection action).resolve machine.context with
    | error reason =>
        have told := maintains.unresolved action reason seen machine holds resolved
        exact ⟨told, fun _ failed => by cases failed⟩
    | ok choice =>
        cases choice with
        | none => exact keeps_pure () seen machine holds
        | some state =>
            have applied : Keeps invariant allowed (device.applyPins controller state) := by
              apply (keeps_act (maintains.selected controller present state)).bind
              intro accepted
              apply (keeps_emit fun seen machine =>
                maintains.reported (.pins state accepted) seen machine trivial).bind
              intro _
              split
              · exact keeps_pure ()
              · exact maintains.keeps_tell (by simp)
            exact applied seen machine holds

/-- An invariant that is maintained is kept by every step, if it is kept by those with clocks
and channels. -/
theorem steady (maintains : Maintains device tables stages invariant allowed)
    (stopClock : tables .clockDisable → ∀ number (clock : Clock σ),
      device.clocks[number]? = some clock → Keeps invariant allowed (clock.stop number))
    (startClock : ∀ number (clock : Clock σ), device.clocks[number]? = some clock →
      Keeps invariant allowed (clock.start number))
    (pauseChannel : device.driver.flags.dma = true → ∀ number (channel : Channel σ),
      device.trackedChannels[number]? = some channel →
        Keeps invariant allowed (channel.pauseIfActive number))
    (resumeChannel : ∀ selected number (channel : Channel σ),
      device.trackedChannels[number]? = some channel →
        Keeps invariant allowed (channel.resumeIfPaused selected number)) :
    Steady device tables stages invariant allowed where
  table _ := maintains.keeps_runDriverTable
  comparison := maintains.keeps_lostContext
  status masking check configured :=
    keeps_working (fun _ seen machine => maintains.reported _ seen machine masking)
      (maintains.status masking check configured)
  busy := maintains.busy
  callback _ := maintains.keeps_callback
  news _ := maintains.keeps_tell
  pins := maintains.keeps_selectPins
  tick timer present := keeps_act (maintains.ticked timer present)
  reading now := keeps_emit fun seen machine =>
    maintains.reported (.reading now) seen machine trivial
  stopClock
  startClock
  pauseChannel
  resumeChannel
  takeLock locked :=
    keeps_report_bind (fun seen machine => maintains.reported _ seen machine ⟨locked, rfl⟩)
      (keeps_update (maintains.held locked true))
  releaseLock locked :=
    (keeps_emit fun seen machine => maintains.reported .irqReleased seen machine locked).bind
      fun _ => keeps_update (maintains.held locked false)
  saved saving := keeps_update (maintains.saved saving)
  lost := keeps_update maintains.lost
  used now := keeps_update (maintains.used now)

/-- A device without channels is steady whatever pausing and resuming would do. -/
theorem steady_unplugged (maintains : Maintains device tables stages invariant allowed)
    (stopClock : tables .clockDisable → ∀ number (clock : Clock σ),
      device.clocks[number]? = some clock → Keeps invariant allowed (clock.stop number))
    (startClock : ∀ number (clock : Clock σ), device.clocks[number]? = some clock →
      Keeps invariant allowed (clock.start number)) :
    Steady device.unplugged tables stages invariant allowed := by
  have unplugged : Maintains device.unplugged tables stages invariant allowed := {
    run := maintains.run
    differs := maintains.differs
    status := maintains.status
    program := maintains.program
    busy := maintains.busy
    failed := maintains.failed
    prepared := maintains.prepared
    ticked := maintains.ticked
    selected := maintains.selected
    held := maintains.held
    saved := maintains.saved
    lost := maintains.lost
    used := maintains.used
    reported := maintains.reported
    unresolved := maintains.unresolved }
  have untracked (number : Nat) : device.unplugged.trackedChannels[number]? = none := rfl
  apply unplugged.steady stopClock startClock
  · intro _ number channel found
    simp [untracked] at found
  · intro _ number channel found
    simp [untracked] at found

end Maintains

end Device

end DevicePower
