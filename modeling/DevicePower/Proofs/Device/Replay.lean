import DevicePower.Proofs.Device.Channels
import DevicePower.Proofs.Device.ClockSafety
import DevicePower.Proofs.Device.RoundTrip
import DevicePower.Proofs.Table.Replay

/-!
# Resuming again after a failure

A resume that fails midway leaves some registers restored and others not, some clocks running
and others not, and the next attempt starts all over. A device that does not look for lost
registers writes everything again then: whatever an attempt left behind is written over, and
nobody can tell afterwards how often the resume was tried.

What a resume writes depends on the context and nothing else. `Device.ascend` is the part of it
that can fail; it carries out the plans of the three tables that it runs, one after the other.
-/

namespace DevicePower

open DeviceM Traced

variable {σ : Type}

/-- An access failed, or a callback did. -/
def Event.faulty : Event → Bool
  | .activity _ dealing => dealing.faulty
  | .stageEnded _ (.error _) => true
  | _ => false

/-- No access failed and no callback did. -/
def FaultFree (events : List Event) : Prop :=
  ∀ event ∈ events, event.faulty = false

instance (events : List Event) : Decidable (FaultFree events) :=
  inferInstanceAs (Decidable (∀ event ∈ events, event.faulty = false))

/-- What a machine keeps in mind, apart from its hardware and from the interrupt lock. -/
def Machine.record (machine : Machine σ) : Machine Unit where
  hardware := ()
  context := machine.context
  contextSaved := machine.contextSaved
  contextLosses := machine.contextLosses
  firstResumeDone := machine.firstResumeDone
  pausedChannels := machine.pausedChannels
  power := machine.power
  lastBusy := machine.lastBusy

theorem Machine.record_inj {first second : Machine σ} :
    second.record = first.record ↔
      second.context = first.context ∧ second.contextSaved = first.contextSaved ∧
        second.contextLosses = first.contextLosses ∧
        second.firstResumeDone = first.firstResumeDone ∧
        second.pausedChannels = first.pausedChannels ∧ second.power = first.power ∧
        second.lastBusy = first.lastBusy := by
  simp [record]

/-- How devices see registers that hold words. -/
abbrev Machine.setting (words : σ → UInt32 → UInt32) (readOnly : UInt32 → UInt32) :
    Setting Event (Machine σ) where
  words machine := words machine.hardware
  readOnly := readOnly
  faulty := Event.faulty

namespace Device

/-- The registers hold the same words, and the same clocks run. -/
structure Unmoved (device : Device σ) (words : σ → UInt32 → UInt32) (before after : σ) :
    Prop where
  registers : words after = words before
  clocks : device.SameClocks before after

/-- The device never looks for lost registers, and the tables of a resume do nothing but write
from the context and read for nothing. The registers hold words that nothing but a write
changes, and no access has to do with the clocks. Callbacks may fail, but they leave the
registers and the context alone. -/
structure ResumesAnew (device : Device σ) (words : σ → UInt32 → UInt32)
    (readOnly : UInt32 → UInt32) : Prop where
  unchecked : device.driver.flags.checkContextLoss = false
  commands : ∀ kind, kind = .restore ∨ kind = .clockEnable ∨ kind = .irqEnable →
    ∀ entry ∈ device.driver.tables kind, entry.Commands
  clocks : device.ClocksObey
  stores : device.transport.StoresWords words readOnly
  read : ∀ offset hardware,
    device.SameClocks hardware (device.transport.read offset hardware).state
  write : ∀ offset value hardware,
    device.SameClocks hardware (device.transport.write offset value hardware).state
  callback : ∀ stage hook, stage = .restore ∨ stage = .runtimeResume →
    device.hooks.hook stage = some hook → ∀ hardware context,
      let after := ((hook hardware).1.run device.transport ⟨(hook hardware).2, context⟩).state
      after.context = context ∧ words after.hardware = words hardware
  enable : ∀ isRunning enable disable, .gate isRunning enable disable ∈ device.clocks →
    ∀ hardware, words (enable hardware) = words hardware
  select : ∀ controller, device.pins = some controller → ∀ state hardware,
    words (controller.select state hardware).2 = words hardware
  resume : ∀ channel ∈ device.channels, ∀ hardware,
    words (channel.resume hardware) = words hardware

/-- What a resume does before it resumes the channels, if it does not look for lost registers. -/
def ascend (device : Device σ) : DeviceM σ Unit := do
  device.writeBack
  device.powerUp

/-- What the restore table is to write. -/
def restorePlan (device : Device σ) (context : Context) : Plan :=
  Table.plan context (device.driver.tables .restore)

/-- What a resume is to write. -/
def resumePlan (device : Device σ) (context : Context) : Plan :=
  (device.restorePlan context).followedBy
    ((Table.plan context (device.driver.tables .clockEnable)).followedBy
      (Table.plan context (device.driver.tables .irqEnable)))

/-! ## The steps of a resume -/

/-- The computation carries out a plan that was made for this record, and keeps the record. -/
abbrev Carries (words : σ → UInt32 → UInt32) (readOnly : UInt32 → UInt32)
    (record : Machine Unit) : Plan → DeviceM σ Unit → Prop :=
  Traced.Carries (Machine.setting words readOnly) fun machine => machine.record = record

section Steps

variable {words : σ → UInt32 → UInt32} {readOnly : UInt32 → UInt32} {record : Machine Unit}

/-- The interrupt lock makes no difference to a plan. -/
theorem carries_withIrqLock (device : Device σ) {plan : Plan} {computation : DeviceM σ Unit}
    (carried : Carries words readOnly record plan computation) :
    Carries words readOnly record plan (device.withIrqLock computation) := by
  intro machine same
  obtain ⟨after, done, part, written, whole⟩ := carried (device.locked machine) same
  rw [withIrqLock_apply]
  refine ⟨after, done, part, written, ?_⟩
  exact fun passedOrFaultless => whole <| passedOrFaultless.imp_right fun faultless =>
    (List.forall_mem_append.mp (List.forall_mem_append.mp faultless).1).2

variable {device : Device σ} (anew : device.ResumesAnew words readOnly)

include anew

/-- A table of the resume carries out its plan. -/
theorem carries_runDriverTable (kind : TableKind)
    (used : kind = .restore ∨ kind = .clockEnable ∨ kind = .irqEnable) :
    Carries words readOnly record (Table.plan record.context (device.driver.tables kind))
      (device.runDriverTable kind) := by
  have carried : TableM.Carries words readOnly record.context
      (Table.plan record.context (device.driver.tables kind))
      ((device.driver.tables kind).run device.port) :=
    Table.carries_run anew.stores (anew.commands kind used)
  rintro machine rfl
  obtain ⟨context, done, part, written, whole⟩ := carried machine.toWorkspace rfl
  rw [runDriverTable_apply]
  refine ⟨?_, done, part, written, ?_⟩
  · simp only [Machine.record, context]
  · exact fun passedOrFaultless => whole <| passedOrFaultless.imp_right
      fun faultless event member =>
        (List.forall_mem_append.mp faultless).1 (.activity (.table kind) event)
          (List.mem_map_of_mem member)

/-- A callback of the resume may fail, and does nothing else. -/
theorem carries_callback (stage : Stage) (used : stage = .restore ∨ stage = .runtimeResume) :
    Carries words readOnly record .nothing (device.callback stage) := by
  cases present : device.hooks.hook stage with
  | none =>
      rw [callback, present]
      exact carries_emit _
  | some hook =>
      apply carries_nothing
      · rintro machine rfl
        obtain ⟨context, registers⟩ :=
          anew.callback stage hook used present machine.hardware machine.context
        rw [device.callback_apply machine present]
        exact ⟨by simp only [Machine.record, context], registers⟩
      · intro machine
        rw [device.callback_apply machine present]
        simp only
        cases ended : ((hook machine.hardware).1.run device.transport
            { machine.toWorkspace with hardware := (hook machine.hardware).2 }).result with
        | ok done => exact fun _ => rfl
        | error error =>
            intro faultless
            have innocent := faultless (.stageEnded stage (.error error)) (by simp)
            cases innocent

theorem carries_callbackInside :
    Carries words readOnly record .nothing (device.callbackInside .runtimeResume) := by
  rw [callbackInside]
  split
  · exact carries_callback anew .runtimeResume (.inr rfl)
  · exact carries_pure

theorem carries_callbackOutside :
    Carries words readOnly record .nothing (device.callbackOutside .runtimeResume) := by
  rw [callbackOutside]
  split
  · exact carries_pure
  · exact carries_callback anew .runtimeResume (.inr rfl)

theorem carries_selectPins (action : Action) :
    Carries words readOnly record .nothing (device.selectPins action) := by
  have select := device.selectPins_spec (fun before after => words after = words before)
    (fun _ => rfl) anew.select action
  apply carries_nothing
  · intro machine same
    obtain ⟨events, hardware, ran, registers, -⟩ := select machine
    rw [ran]
    exact ⟨same, registers⟩
  · intro machine _
    obtain ⟨events, hardware, ran, -⟩ := select machine
    rw [ran]

theorem carries_startAll : Carries words readOnly record .nothing
    (Clock.startAll 0 device.clocks) := by
  have started (before : Machine σ) : Keeps
      (fun _ machine => machine.record = before.record ∧
        words machine.hardware = words before.hardware)
      (fun _ => False) (Clock.startAll 0 device.clocks) := by
    apply keeps_sweep (fun _ => rfl) fun _ _ _ => rfl
    intro index clock found
    apply keeps_start fun _ _ _ holds => holds
    rintro isRunning enable disable rfl _ machine ⟨same, registers⟩
    have owned := List.mem_of_getElem? found
    exact ⟨same, (anew.enable isRunning enable disable owned machine.hardware).trans registers⟩
  apply carries_nothing
  · intro machine same
    obtain ⟨⟨record, registers⟩, -⟩ := started machine [] machine ⟨rfl, rfl⟩
    exact ⟨record.trans same, registers⟩
  · intro machine _
    cases result : (Clock.startAll 0 device.clocks machine).result with
    | ok done => rfl
    | error error => exact ((started machine [] machine ⟨rfl, rfl⟩).2 error result).elim

/-- Writing back carries out the restore table. -/
theorem carries_writeBack :
    Carries words readOnly record (device.restorePlan record.context) device.writeBack := by
  have restored : Carries words readOnly record (device.restorePlan record.context)
      (device.runDriverTable .restore) :=
    carries_runDriverTable anew .restore (.inl rfl)
  have whole := restored.bind (carries_callback anew .restore (.inl rfl))
  rwa [Plan.followedBy_nothing] at whole

theorem carries_activate :
    Carries words readOnly record (Table.plan record.context (device.driver.tables .irqEnable))
      device.activate := by
  have unmasked : Carries words readOnly record
      (Table.plan record.context (device.driver.tables .irqEnable)) device.unmaskInterrupts :=
    carries_runDriverTable anew .irqEnable (.inr (.inr rfl))
  have locked := carries_withIrqLock device (unmasked.bind (carries_callbackInside anew))
  have whole := (carries_selectPins anew .resume).bind <|
    locked.bind (carries_callbackOutside anew)
  rwa [Plan.followedBy_nothing, Plan.followedBy_nothing, Plan.nothing_followedBy] at whole

/-- A resume carries out the plans of its three tables. -/
theorem carries_ascend :
    Carries words readOnly record (device.resumePlan record.context) device.ascend := by
  apply (carries_writeBack anew).bind
  have started : Carries words readOnly record .nothing (Clock.startAll 0 device.clocks) :=
    carries_startAll anew
  have ungated := started.bind (carries_runDriverTable anew .clockEnable (.inr (.inl rfl)))
  exact ungated.bind (carries_activate anew)

/-! ## The resume as a whole -/

theorem wakeUp_eq_writeBack : device.wakeUp = (do device.writeBack; device.bringUp) := by
  rw [wakeUp_eq, restore, anew.unchecked, if_neg Bool.false_ne_true]

/-- If the restore table cannot be written, the resume does not get to the clocks. -/
theorem wakeUp_still {machine : Machine σ} {error : Error}
    (refused : (device.restorePlan machine.context).verdict = .error error) :
    device.SameClocks machine.hardware (device.wakeUp machine).state.hardware := by
  have steady : Keeps (Workspace.Kept fun workspace =>
      device.SameClocks machine.hardware workspace.hardware) (fun _ => True)
      ((device.driver.tables .restore).run device.port) := by
    apply Table.keeps_run
    intro entry member
    obtain ⟨operation, unpolled⟩ := anew.commands .restore (.inl rfl) entry member
    exact {
      read := Port.keeps_read (fun _ same => same.trans (anew.read _ _)) trivial
      write := fun _ value =>
        Port.keeps_write (fun _ same => same.trans (anew.write _ value _)) trivial
      fetch := fun _ _ => Entry.keeps_fetch fun _ _ _ _ => trivial
      store := fun reads _ => by simp [reads] at operation
      settle := fun poll polled => by simp [unpolled] at polled }
  obtain ⟨-, _, -, -, whole⟩ := carries_runDriverTable anew .restore (.inl rfl) machine rfl
  cases written : (device.runDriverTable .restore machine).result with
  | ok done =>
      have planned := (whole (.inl written)).2
      rw [written] at planned
      cases planned.trans refused
  | error error =>
      -- The callback is not reached, so that the accesses of the table are all that happens.
      have stopped : (device.writeBack machine).result = .error error := by
        rw [writeBack, bind_of_error written]
      rw [wakeUp_eq_writeBack anew, bind_of_error stopped, writeBack, bind_of_error written,
        runDriverTable_apply]
      exact (steady [] machine.toWorkspace (.refl machine.hardware)).1

/-- Once the restore step is over, the resume starts all clocks, whatever happens then. -/
theorem wakeUp_running {machine : Machine σ}
    (written : (device.writeBack machine).result = .ok ()) :
    device.AllRun (device.wakeUp machine).state.hardware := by
  rw [wakeUp_eq_writeBack anew, bind_of_ok written]
  let before := (device.writeBack machine).state
  have ticking : TickingAt device before.hardware True (fun _ => True) before.power
      before.firstResumeDone 0 [] before :=
    ⟨.initial nofun, trivial, rfl, rfl⟩
  have woken := ends_bringUp_clocks anew.clocks device.intactWhileRunning_true [] before ticking
  split at woken
  · exact woken.1.allRun
  · exact woken.1.allRun

theorem resumeChannels_registers (selected : UInt32) (machine : Machine σ) :
    words (device.resumeChannels selected machine).state.hardware = words machine.hardware := by
  have kept : Keeps (fun _ after => words after.hardware = words machine.hardware)
      (fun _ => True) (device.resumeChannels selected) := by
    apply keeps_sweep (fun _ => rfl) fun _ _ _ => rfl
    intro index channel found
    exact keeps_resumeIfPaused selected (fun _ _ _ holds => holds)
      (fun _ after holds => (anew.resume channel (mem_channels_of_tracked found) _).trans holds)
      fun _ _ _ holds => holds
  exact (kept [] machine rfl).1

theorem wakeUp_eq_ascend : device.wakeUp = (do
    device.ascend
    let paused ← query fun machine => machine.pausedChannels
    device.resumeChannels paused) := by
  simp only [wakeUp_eq_writeBack anew, bringUp, ascend, bind_assoc]

/-- A resume that stops before the channels leaves what it has done so far. -/
theorem runtimeResume_of_error {machine : Machine σ} (begun : machine.firstResumeDone = true)
    (asleep : machine.power = .runtimeSuspended) {error : Error}
    (stopped : (device.ascend machine).result = .error error) :
    device.runtimeResume machine =
      ⟨.error error,
        (device.ascend machine).events ++ [.note (.device device.name (.resumeFailed error))],
        (device.ascend machine).state⟩ := by
  rw [runtimeResume_of_asleep begun asleep, wakeUp_eq_ascend anew, attempt_bind_apply,
    bind_of_error stopped]
  rfl

/-- A resume that gets to the channels succeeds. -/
theorem runtimeResume_of_ok {machine : Machine σ} (begun : machine.firstResumeDone = true)
    (asleep : machine.power = .runtimeSuspended)
    (passed : (device.ascend machine).result = .ok ()) :
    let landed := (device.ascend machine).state
    let channels := device.resumeChannels landed.pausedChannels landed
    device.runtimeResume machine =
      ⟨.ok (),
        (device.ascend machine).events ++
          (channels.events ++ [.note (.device device.name .runtimeResumed)]),
        { channels.state with power := .active }⟩ := by
  intro landed channels
  have resumed : channels.result = .ok () := by
    obtain ⟨mask, hardware, events, ran, -⟩ :=
      device.resumeChannels_spec landed.pausedChannels landed
    exact congrArg Outcome.result ran
  have woken : device.wakeUp machine =
      ⟨.ok (), (device.ascend machine).events ++ channels.events, channels.state⟩ := by
    rw [wakeUp_eq_ascend anew, bind_of_ok passed, query_bind_apply, ← resumed]
  rw [runtimeResume_of_asleep begun asleep, attempt_bind_apply, woken, List.append_assoc]
  rfl

end Steps

theorem runtimeResume_hardware {device : Device σ} {machine : Machine σ}
    (begun : machine.firstResumeDone = true) (asleep : machine.power = .runtimeSuspended) :
    (device.runtimeResume machine).state.hardware = (device.wakeUp machine).state.hardware := by
  rw [runtimeResume_of_asleep begun asleep, attempt_bind_apply]
  cases (device.wakeUp machine).result with
  | ok done => rfl
  | error error => rfl

/-- Which channels stay paused does not depend on the hardware. -/
theorem resumeChannels_paused (device : Device σ) {first second : Machine σ}
    (same : second.pausedChannels = first.pausedChannels) :
    (device.resumeChannels second.pausedChannels second).state.pausedChannels =
      (device.resumeChannels first.pausedChannels first).state.pausedChannels := by
  obtain ⟨mask, hardware, events, ran, -, bits⟩ :=
    device.resumeChannels_spec first.pausedChannels first
  obtain ⟨maskAgain, hardwareAgain, eventsAgain, ranAgain, -, bitsAgain⟩ :=
    device.resumeChannels_spec second.pausedChannels second
  rw [ran, ranAgain]
  apply eq_of_hasChannel
  intro number tracked
  rw [bits number tracked, bitsAgain number tracked, same]

theorem resumeChannels_record (device : Device σ) (selected : UInt32) (machine : Machine σ) :
    (device.resumeChannels selected machine).state.record =
      { machine.record with
        pausedChannels := (device.resumeChannels selected machine).state.pausedChannels } := by
  obtain ⟨mask, hardware, events, ran, -⟩ := device.resumeChannels_spec selected machine
  rw [ran]
  rfl

/-! ## Once more -/

/-- The machines differ in nothing that a resume without faults does not put right: they agree
on what they keep in mind, and on the registers once those are written that a resume writes. If
it does not get to the clocks, they agree on these too. -/
structure Recoverable (device : Device σ) (words : σ → UInt32 → UInt32)
    (readOnly : UInt32 → UInt32) (first second : Machine σ) : Prop where
  record : second.record = first.record
  registers :
    imprintAll readOnly (device.resumePlan first.context).orders (words second.hardware) =
      imprintAll readOnly (device.resumePlan first.context).orders (words first.hardware)
  clocks : ∀ error, (device.restorePlan first.context).verdict = .error error →
    device.SameClocks first.hardware second.hardware

/-- Both calls ended in the same way, and left the same registers, context, clocks and records
behind. -/
structure SameEnd (device : Device σ) (words : σ → UInt32 → UInt32)
    (first second : Outcome Error Event (Machine σ) Unit) : Prop where
  result : second.result = first.result
  registers : words second.state.hardware = words first.state.hardware
  context : second.state.context = first.state.context
  clocks : ∀ clock ∈ device.clocks,
    clock.runs second.state.hardware = clock.runs first.state.hardware
  pausedChannels : second.state.pausedChannels = first.state.pausedChannels
  power : second.state.power = first.state.power
  lastBusy : second.state.lastBusy = first.state.lastBusy

section Again

variable {device : Device σ} {words : σ → UInt32 → UInt32} {readOnly : UInt32 → UInt32}

theorem Unmoved.symm {before after : σ} (unmoved : device.Unmoved words before after) :
    device.Unmoved words after before :=
  ⟨unmoved.registers.symm, unmoved.clocks.symm⟩

theorem SameEnd.of_record {first second : Outcome Error Event (Machine σ) Unit}
    (result : second.result = first.result)
    (registers : words second.state.hardware = words first.state.hardware)
    (clocks : device.SameClocks first.state.hardware second.state.hardware)
    (record : second.state.record = first.state.record) : device.SameEnd words first second := by
  obtain ⟨context, -, -, -, paused, power, lastBusy⟩ := Machine.record_inj.mp record
  exact ⟨result, registers, context, clocks, paused, power, lastBusy⟩

theorem Recoverable.context {first second : Machine σ}
    (recoverable : device.Recoverable words readOnly first second) :
    second.context = first.context :=
  (Machine.record_inj.mp recoverable.record).1

theorem Recoverable.trans {first second third : Machine σ}
    (recoverable : device.Recoverable words readOnly first second)
    (again : device.Recoverable words readOnly second third) :
    device.Recoverable words readOnly first third := by
  obtain ⟨record, registers, clocks⟩ := again
  rw [recoverable.context] at registers clocks
  refine ⟨record.trans recoverable.record, registers.trans recoverable.registers, ?_⟩
  exact fun error refused => (recoverable.clocks error refused).trans (clocks error refused)

theorem recoverable_of_unmoved {machine : Machine σ} {hardware : σ}
    (unmoved : device.Unmoved words machine.hardware hardware) :
    device.Recoverable words readOnly machine { machine with hardware } :=
  ⟨rfl, congrArg _ unmoved.registers, fun _ _ => unmoved.clocks⟩

variable (anew : device.ResumesAnew words readOnly)

include anew

/-- What a resume leaves that stops before the channels can be put right. -/
theorem recoverable_of_error {machine : Machine σ} {error : Error}
    (stopped : (device.ascend machine).result = .error error) :
    device.Recoverable words readOnly machine (device.ascend machine).state := by
  obtain ⟨record, done, part, written, -⟩ := carries_ascend anew machine rfl
  refine ⟨record, (congrArg _ written).trans (imprintAll_absorbs part _), ?_⟩
  intro cause refused
  have still := wakeUp_still anew refused
  rwa [wakeUp_eq_ascend anew, bind_of_error stopped] at still

/-- A device that is recoverable is so after a failed resume. -/
theorem recoverable_of_fails {first last : Machine σ} (begun : first.firstResumeDone = true)
    (asleep : first.power = .runtimeSuspended)
    (tried : Fails device.runtimeResume
      (fun machine hardware => device.Unmoved words machine.hardware hardware) first last) :
    device.Recoverable words readOnly first last := by
  induction tried with
  | start => exact ⟨rfl, rfl, fun _ _ => .refl first.hardware⟩
  | changed machine hardware _ unmoved ih => exact ih.trans (recoverable_of_unmoved unmoved)
  | failed machine _ failed ih =>
      obtain ⟨-, -, -, sameFirst, -, samePower, -⟩ := Machine.record_inj.mp ih.record
      have begunStill := sameFirst.trans begun
      have asleepStill := samePower.trans asleep
      cases ascended : (device.ascend machine).result with
      | ok done =>
          rw [runtimeResume_of_ok anew begunStill asleepStill ascended] at failed
          exact absurd rfl failed
      | error error =>
          rw [runtimeResume_of_error anew begunStill asleepStill ascended]
          exact ih.trans (recoverable_of_error anew ascended)

/-- A resume without a fault has met none before the channels either. -/
theorem faultFree_ascend {machine : Machine σ} (begun : machine.firstResumeDone = true)
    (asleep : machine.power = .runtimeSuspended)
    (faultFree : FaultFree (device.runtimeResume machine).events) :
    FaultFree (device.ascend machine).events := by
  intro event member
  apply faultFree event
  rw [runtimeResume_of_asleep begun asleep, attempt_bind_apply, wakeUp_eq_ascend anew]
  exact List.mem_append_left _ (mem_events_bind member)

/-- Without a fault, all clocks run after a resume whose restore table is not refused. -/
theorem allRun_of_faultFree {machine : Machine σ}
    (faultFree : FaultFree (device.ascend machine).events)
    (passes : (device.restorePlan machine.context).verdict = .ok ()) :
    device.AllRun (device.wakeUp machine).state.hardware := by
  obtain ⟨-, _, -, -, whole⟩ := carries_writeBack anew machine rfl
  have writtenBack : FaultFree (device.writeBack machine).events := by
    intro event member
    apply faultFree event
    exact mem_events_bind member
  exact wakeUp_running anew ((whole (.inr writtenBack)).2.trans passes)

/-- A resume without faults that puts two machines right leaves the same clocks running. -/
theorem Recoverable.sameClocks {first second : Machine σ}
    (recoverable : device.Recoverable words readOnly first second)
    (faultFree : FaultFree (device.ascend first).events)
    (faultFreeAgain : FaultFree (device.ascend second).events) :
    device.SameClocks (device.wakeUp first).state.hardware
      (device.wakeUp second).state.hardware := by
  have verdictAgain : (device.restorePlan second.context).verdict =
      (device.restorePlan first.context).verdict := by rw [recoverable.context]
  cases verdict : (device.restorePlan first.context).verdict with
  | ok done =>
      exact (allRun_of_faultFree anew faultFree verdict).sameClocks
        (allRun_of_faultFree anew faultFreeAgain (verdictAgain.trans verdict))
  | error error =>
      have still := wakeUp_still anew verdict
      have stillAgain := wakeUp_still anew (verdictAgain.trans verdict)
      exact (still.symm.trans (recoverable.clocks error verdict)).trans stillAgain

/-- A resume without faults that puts two machines right has done the same to both before the
channels are resumed. -/
theorem Recoverable.ascend_same {first second : Machine σ}
    (recoverable : device.Recoverable words readOnly first second)
    (faultFree : FaultFree (device.ascend first).events)
    (faultFreeAgain : FaultFree (device.ascend second).events) :
    (device.ascend second).result = (device.ascend first).result ∧
      (device.ascend second).state.record = (device.ascend first).state.record ∧
      words (device.ascend second).state.hardware =
        words (device.ascend first).state.hardware := by
  obtain ⟨record, _, -, written, whole⟩ := carries_ascend anew first rfl
  obtain ⟨recordAgain, _, -, writtenAgain, wholeAgain⟩ := carries_ascend anew second rfl
  obtain ⟨rfl, verdict⟩ := whole (.inr faultFree)
  obtain ⟨rfl, verdictAgain⟩ := wholeAgain (.inr faultFreeAgain)
  rw [recoverable.record] at recordAgain writtenAgain verdictAgain
  refine ⟨verdictAgain.trans verdict.symm, recordAgain.trans record.symm, ?_⟩
  exact (writtenAgain.trans recoverable.registers).trans written.symm

/-- A resume without faults that puts two machines right leaves them the same. -/
theorem Recoverable.sameEnd {first second : Machine σ}
    (recoverable : device.Recoverable words readOnly first second)
    (begun : first.firstResumeDone = true) (asleep : first.power = .runtimeSuspended)
    (faultFree : FaultFree (device.runtimeResume first).events)
    (faultFreeAgain : FaultFree (device.runtimeResume second).events) :
    device.SameEnd words (device.runtimeResume first) (device.runtimeResume second) := by
  obtain ⟨-, -, -, sameFirst, -, samePower, -⟩ := Machine.record_inj.mp recoverable.record
  have begunAgain := sameFirst.trans begun
  have asleepAgain := samePower.trans asleep
  have before := faultFree_ascend anew begun asleep faultFree
  have beforeAgain := faultFree_ascend anew begunAgain asleepAgain faultFreeAgain
  obtain ⟨result, record, registers⟩ := recoverable.ascend_same anew before beforeAgain
  have clocks : device.SameClocks (device.runtimeResume first).state.hardware
      (device.runtimeResume second).state.hardware := by
    rw [runtimeResume_hardware begun asleep, runtimeResume_hardware begunAgain asleepAgain]
    exact recoverable.sameClocks anew before beforeAgain
  cases ascended : (device.ascend first).result with
  | error error =>
      rw [runtimeResume_of_error anew begun asleep ascended,
        runtimeResume_of_error anew begunAgain asleepAgain (result.trans ascended)] at clocks ⊢
      exact .of_record rfl registers clocks record
  | ok done =>
      rw [runtimeResume_of_ok anew begun asleep ascended,
        runtimeResume_of_ok anew begunAgain asleepAgain (result.trans ascended)] at clocks ⊢
      obtain ⟨-, -, -, -, paused, -⟩ := Machine.record_inj.mp record
      refine .of_record rfl ?_ clocks ?_
      · exact (resumeChannels_registers anew _ _).trans <|
          registers.trans (resumeChannels_registers anew _ _).symm
      · have channels := device.resumeChannels_paused paused
        change { (device.resumeChannels _ _).state.record with power := .active } =
          { (device.resumeChannels _ _).state.record with power := .active }
        rw [resumeChannels_record, resumeChannels_record, channels, record]

/-- A resume that failed is forgotten once one succeeds. Whatever the faults were that stopped
any number of resumes, and wherever they struck, one resume without a fault then ends as it
would have ended in the first place. -/
theorem failed_resumes_leave_no_trace {machine last : Machine σ} {alone again : σ}
    (begun : machine.firstResumeDone = true) (asleep : machine.power = .runtimeSuspended)
    (tried : Fails device.runtimeResume
      (fun machine hardware => device.Unmoved words machine.hardware hardware) machine last)
    (unmoved : device.Unmoved words machine.hardware alone)
    (unmovedAgain : device.Unmoved words last.hardware again)
    (faultFree : FaultFree (device.runtimeResume { machine with hardware := alone }).events)
    (faultFreeAgain : FaultFree (device.runtimeResume { last with hardware := again }).events) :
    device.SameEnd words (device.runtimeResume { machine with hardware := alone })
      (device.runtimeResume { last with hardware := again }) := by
  have before : device.Recoverable words readOnly { machine with hardware := alone } machine :=
    recoverable_of_unmoved unmoved.symm
  have recoverable := (before.trans (recoverable_of_fails anew begun asleep tried)).trans
    (recoverable_of_unmoved unmovedAgain)
  exact recoverable.sameEnd anew begun asleep faultFree faultFreeAgain

end Again

/-! ## A port with a clock -/

open Bench

/-- The clock of the port is the only one. -/
theorem gated_sameClocks {before after : GatedCells} (same : after.ticking = before.ticking) :
    GatedCells.port.SameClocks before after := by
  intro clock owned
  cases List.mem_singleton.mp owned
  exact same

theorem gated_noneStops {before after : GatedCells}
    (keeps : before.ticking = true → after.ticking = true) :
    GatedCells.port.NoneStops before after := by
  intro clock owned
  cases List.mem_singleton.mp owned
  exact keeps

/-- The words of the port are memory, but for the bit that no write changes. -/
theorem gated_storesWords : GatedCells.port.transport.StoresWords (fun gated => gated.values)
    GatedCells.readOnly where
  read _ _ := rfl
  written offset value gated done := by
    simp only [GatedCells.port, Bank.transport, GatedCells.bank, Cells.bank] at done ⊢
    split at done
    · cases done
    · next kept =>
        rw [if_neg kept]
        funext other
        simp [imprint, Function.update, Cells.next, Cells.put, Cells.word]
  refused offset value gated error done := by
    simp only [GatedCells.port, Bank.transport, GatedCells.bank, Cells.bank] at done ⊢
    split at done
    · next dropped =>
        rw [if_pos dropped]
        rfl
    · cases done

theorem gated_resumesAnew :
    GatedCells.port.ResumesAnew (fun gated => gated.values) GatedCells.readOnly where
  unchecked := rfl
  commands := by
    rintro kind (rfl | rfl | rfl) <;> simp [GatedCells.port, Uart.driver, Entry.Commands]
  clocks := {
    enabled := fun isRunning enable disable owned _ => by
      cases List.mem_singleton.mp owned
      rfl
    enable := fun isRunning enable disable owned _ => by
      cases List.mem_singleton.mp owned
      exact gated_noneStops fun _ => rfl
    read := fun _ _ => gated_noneStops fun runs => runs
    write := fun _ _ _ => gated_noneStops fun runs => runs
    prepare := fun stage hook present _ => by
      cases stage <;> cases present <;> exact gated_noneStops fun runs => runs
    tick := nofun
    select := nofun
    pause := nofun
    resume := nofun }
  stores := gated_storesWords
  read _ _ := gated_sameClocks rfl
  write _ _ _ := gated_sameClocks rfl
  callback stage hook used present hardware context := by
    rcases used with rfl | rfl
    · cases present
    · cases present
      exact ⟨rfl, rfl⟩
  enable isRunning enable disable owned _ := by
    cases List.mem_singleton.mp owned
    rfl
  select := nofun
  resume := nofun

/-- The port is resumed in vain twice: the control register is not written the first time, and
the port does not answer the second time, with its clock already running. The next resume ends
as the first would have. -/
theorem gated_resumes :
    let port := GatedCells.port
    let first := GatedCells.asleep
    let struck := port.runtimeResume
      { first with hardware := first.hardware.dropping [false, false, true] }
    let stuck := port.runtimeResume { struck.state with
      hardware := struck.state.hardware.dropping [false, false, false, false, true] }
    let once := port.runtimeResume { first with hardware := first.hardware.dropping [] }
    let last := port.runtimeResume
      { stuck.state with hardware := stuck.state.hardware.dropping [] }
    struck.result ≠ .ok () ∧ struck.state.hardware.ticking = false ∧
      stuck.result ≠ .ok () ∧ stuck.state.hardware.ticking = true ∧
      once.result = .ok () ∧ port.SameEnd (fun gated => gated.values) once last := by
  intro port first struck stuck once last
  have strikes : struck.result ≠ .ok () := by decide +kernel
  have sticks : stuck.result ≠ .ok () := by decide +kernel
  have dropping (gated : GatedCells) (dropped : List Bool) :
      port.Unmoved (fun gated => gated.values) gated (gated.dropping dropped) :=
    ⟨rfl, gated_sameClocks rfl⟩
  have tried : Fails port.runtimeResume (fun machine hardware =>
      port.Unmoved (fun gated => gated.values) machine.hardware hardware) first stuck.state :=
    .failed _ (.changed _ _ (.failed _ (.changed _ _ .start (dropping _ _)) strikes)
      (dropping _ _)) sticks
  have same := failed_resumes_leave_no_trace gated_resumesAnew rfl rfl tried (dropping _ [])
    (dropping _ []) (by decide +kernel) (by decide +kernel)
  exact ⟨strikes, by decide +kernel, sticks, by decide +kernel, by decide +kernel, same⟩

end Device

end DevicePower
