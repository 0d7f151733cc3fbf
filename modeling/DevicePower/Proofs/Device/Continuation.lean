import DevicePower.Proofs.Device.PowerStates
import DevicePower.Proofs.Device.Rollback
import DevicePower.Proofs.Device.Transfers

/-!
# Transfers that go on

A paused transfer goes on once the steps of a runtime resume have run to their end. A device
that is active has none to wait for, except after a suspend that failed: its channels stay
paused unless it failed because an interrupt was pending, and no request to an active device
resumes them. `Settled` says so of the record of paused channels, and holds over any history.
-/

namespace DevicePower

open DeviceM Traced

variable {σ : Type}

/-- The request brings a device up from this power state by a runtime resume. -/
def Request.Wakes : Request → PowerState → Prop
  | .runtimeResume, power => power ≠ .active
  | .resume, power => power = .runtimeSuspended
  | _, _ => False

namespace Device

/-- No attempt to suspend failed for another reason than a pending interrupt. -/
def NoneFailed (device : Device σ) (events : List Event) : Prop :=
  ∀ error, .note (.device device.name (.suspendFailed error)) ∉ events

/-- Before the first resume, no channel was ever paused. After it, channels are paused only on a
device in runtime suspend, if no attempt to suspend failed. -/
structure Settled (device : Device σ) (events : List Event) (power : PowerState) (done : Bool)
    (paused : UInt32) : Prop where
  fresh : done = false → power = .runtimeSuspended ∧ paused = 0
  settled : device.NoneFailed events → power ≠ .runtimeSuspended → paused = 0

/-- The same, as an invariant. -/
def Settles (device : Device σ) (seen : List Event) (machine : Machine σ) : Prop :=
  device.Settled seen machine.power machine.firstResumeDone machine.pausedChannels

namespace Settled

variable {device : Device σ} {events : List Event} {power : PowerState} {done : Bool}
variable {paused : UInt32}

theorem append (settled : device.Settled events power done paused) (later : List Event) :
    device.Settled (events ++ later) power done paused where
  fresh := settled.fresh
  settled := fun none awake =>
    settled.settled (fun error member => none error (List.mem_append_left _ member)) awake

theorem done_of_awake (settled : device.Settled events power done paused)
    (awake : power ≠ .runtimeSuspended) : done = true := by
  cases recorded : done with
  | true => rfl
  | false => exact absurd (settled.fresh recorded).1 awake

/-- A device may move between two states in which it is not in runtime suspend. -/
theorem move (settled : device.Settled events power done paused)
    (awake : power ≠ .runtimeSuspended) (other : PowerState) :
    device.Settled events other done paused where
  fresh := fun fresh => absurd (settled.done_of_awake awake) (by simp [fresh])
  settled := fun none _ => settled.settled none awake

/-- Nothing is expected of the channels of a device that goes to runtime suspend. -/
theorem suspend (settled : device.Settled events power done paused)
    (awake : power ≠ .runtimeSuspended) (others : UInt32) :
    device.Settled events .runtimeSuspended done others where
  fresh := fun fresh => absurd (settled.done_of_awake awake) (by simp [fresh])
  settled := fun _ asleep => absurd rfl asleep

/-- Nothing is left to show once no channel is paused. -/
theorem clear (device : Device σ) (events : List Event) (power : PowerState) :
    device.Settled events power true 0 where
  fresh := nofun
  settled := fun _ _ => rfl

end Settled

/-! ## Transitions -/

section Transitions

variable (device : Device σ)

/-- Steps away from the channels keep a settled device as it is. -/
theorem settles_steady (sound : PowerState → Bool → UInt32 → Prop) :
    Steady device.unplugged (fun _ => True) (fun _ => True)
      (fun seen machine => device.Settles seen machine ∧
        sound machine.power machine.firstResumeDone machine.pausedChannels)
      (fun _ => True) :=
  device.steady_apart (fun seen power done paused =>
    device.Settled seen power done paused ∧ sound power done paused)
    fun _ _ _ _ _ _ holds => ⟨holds.1.append _, holds.2⟩

theorem ends_bringUp_clear :
    Ends
      (fun seen machine => device.Settles seen machine ∧
        machine.firstResumeDone = true ∧ device.Connected machine.pausedChannels)
      (fun _ _ machine => machine.firstResumeDone = true ∧ machine.pausedChannels = 0)
      (fun _ seen machine => device.Settles seen machine) device.bringUp := by
  have steady := device.settles_steady fun _ done paused => done = true ∧ device.Connected paused
  have powered : Keeps (fun seen machine => device.Settles seen machine ∧
      machine.firstResumeDone = true ∧ device.Connected machine.pausedChannels)
      (fun _ => True) device.powerUp := steady.powerUp trivial trivial trivial
  refine (powered.ends.failing fun _ _ _ kept => kept.1).bind fun _ => ?_
  apply ends_query_bind
  rintro paused seen machine ⟨⟨-, done, connected⟩, rfl⟩
  obtain ⟨hardware, events, swept⟩ := device.resumeChannels_clears connected
  rw [swept]
  exact ⟨done, rfl⟩

theorem ends_runtimeResume_settles :
    Ends (fun seen machine => device.Settles seen machine ∧ device.Connected machine.pausedChannels)
      (fun _ seen machine => device.Settles seen machine ∧ machine.power = .active)
      (fun _ seen machine => device.Settles seen machine) device.runtimeResume := by
  apply ends_runtimeResume
  · rintro seen machine ⟨settles, -⟩ - active
    exact ⟨settles, active⟩
  · have steady := device.settles_steady fun _ done paused => done = true ∧ device.Connected paused
    have restored : Keeps (fun seen machine => device.Settles seen machine ∧
        machine.firstResumeDone = true ∧ device.Connected machine.pausedChannels)
        (fun _ => True) device.restore := steady.restore trivial trivial trivial
    have woken := (restored.ends.failing fun _ _ _ kept => kept.1).bind fun _ =>
      device.ends_bringUp_clear
    rw [wakeUp_eq]
    apply woken.weaken
    · rintro seen machine ⟨⟨settles, connected⟩, done, -⟩
      exact ⟨settles, done, connected⟩
    · rintro _ seen machine ⟨done, empty⟩
      refine ⟨?_, rfl⟩
      rw [Settles, done, empty]
      exact .clear device _ _
    · exact fun _ _ _ settles => settles.append _
  · have steady := device.settles_steady fun _ done _ => done = false
    have called : Keeps (fun seen machine => device.Settles seen machine ∧
        machine.firstResumeDone = false) (fun _ => True) (device.callback .firstResume) :=
      steady.callback .firstResume trivial
    apply called.ends.weaken
    · exact fun _ _ before => ⟨before.1.1, before.2⟩
    · rintro _ seen machine ⟨settles, fresh⟩
      refine ⟨?_, rfl⟩
      rw [Settles, (settles.fresh fresh).2]
      exact .clear device _ _
    · exact fun _ _ _ kept => kept.1

/-- An attempt to suspend that fails says so, unless an interrupt was pending. -/
theorem ends_runtimeSuspendFor_told (action : Action) :
    Ends (fun _ _ => True) (fun _ _ _ => True)
      (fun error seen _ => error ≠ .busy →
        .note (.device device.name (.suspendFailed error)) ∈ seen)
      (device.runtimeSuspendFor action) := by
  have anything {α : Type} {computation : DeviceM σ α} :
      Ends (fun _ _ => True) (fun _ _ _ => True) (fun _ _ _ => True) computation := by
    intro seen machine _
    split <;> trivial
  apply ends_runtimeSuspendFor
  · exact fun _ _ _ _ => trivial
  · apply Ends.given _ fun _ _ _ => trivial
    apply ends_suspendActive anything fun _ => anything
    · intro paused seen machine _
      obtain ⟨before, after, state, outcome, -⟩ := device.abortSuspend_spec paused machine
      simp [outcome]
    · intro _ error seen machine _ _ _
      simp

/-- An attempt to suspend leaves a settled device settled, however it ends. -/
theorem settles_runtimeSuspendFor (action : Action) :
    Keeps device.Settles (fun _ => True) (device.runtimeSuspendFor action) := by
  intro seen machine settles
  refine ⟨?_, fun _ _ => trivial⟩
  by_cases active : machine.power = .active
  · have done := settles.done_of_awake (by simp [active])
    have lasting := device.lasting_firstResume
    have still := state_of_keeps
      (lasting.runtimeSuspendFor suspendUses_all lasting.suspended action) done
    have power := device.ends_runtimeSuspendFor_power .active action seen machine active
    have told := device.ends_runtimeSuspendFor_told action seen machine trivial
    cases result : (device.runtimeSuspendFor action machine).result with
    | ok answer =>
        rw [result] at power
        rw [Settles, power, still]
        exact ⟨nofun, fun _ asleep => absurd rfl asleep⟩
    | error error =>
        rw [result] at power told
        rw [Settles, power, still]
        by_cases busy : error = .busy
        · subst busy
          have before := settles.append (device.runtimeSuspendFor action machine).events
          rw [active, done] at before
          rw [(device.runtimeSuspendFor_busy result).channels]
          exact before
        · exact ⟨nofun, fun none _ => absurd (told busy) (none error)⟩
  · have nothing : device.runtimeSuspendFor action machine = ⟨.ok (), [], machine⟩ := by
      rw [runtimeSuspendFor, query_bind_apply, if_neg active]
      rfl
    rw [nothing]
    simpa using settles

/-- Steps away from the channels keep a settled device settled. -/
theorem settles_plain :
    Steady device.unplugged (fun _ => True) (fun _ => True) device.Settles (fun _ => True) :=
  device.steady_apart (fun seen power done paused => device.Settled seen power done paused)
    fun _ _ _ _ _ _ settled => settled.append _

theorem settles_autosuspend : Keeps device.Settles (fun _ => True) device.autosuspend := by
  have looked : Keeps device.Settles (fun _ => True) device.usedRecently :=
    device.settles_plain.usedRecently
  apply looked.bind
  intro recent
  split
  · exact keeps_fail trivial
  · exact device.settles_runtimeSuspendFor .autosuspend

theorem ends_wakeBeforeSleep_settles :
    Ends
      (fun seen machine => (device.Settles seen machine ∧
        device.Connected machine.pausedChannels) ∧ machine.power ≠ .systemSuspended)
      (fun _ seen machine => device.Settles seen machine ∧ machine.power = .active)
      (fun _ seen machine => device.Settles seen machine) device.wakeBeforeSleep := by
  apply ends_query_bind
  intro power
  split
  · exact device.ends_runtimeResume_settles.given fun _ _ before => before.1.1
  next other =>
    apply ends_pure
    rintro seen machine ⟨⟨⟨settles, -⟩, awake⟩, rfl⟩
    refine ⟨settles, ?_⟩
    cases power : machine.power with
    | active => rfl
    | runtimeSuspended => exact absurd power other
    | systemSuspended => exact absurd power awake

theorem ends_sleep_settles :
    Ends (fun seen machine => device.Settles seen machine ∧ machine.power = .active)
      (fun _ seen machine => device.Settles seen machine)
      (fun _ seen machine => device.Settles seen machine) device.sleep := by
  rw [sleep]
  split
  · have steady := device.settles_steady fun power _ _ => power = .active
    have quieted : Keeps (fun seen machine => device.Settles seen machine ∧
        machine.power = .active) (fun _ => True) (do
          device.save
          device.selectPins .suspend
          device.gateClocks) :=
      (steady.save trivial).bind fun _ =>
        (steady.pins .suspend).bind fun _ => steady.gateClocks trivial
    have entered : Ends (fun seen machine => device.Settles seen machine ∧
        machine.power = .active) (fun _ seen machine => device.Settles seen machine)
        (fun _ seen machine => device.Settles seen machine)
        (enter .systemSuspended : DeviceM σ Unit) :=
      ends_update fun _ machine before => before.1.move (by simp [before.2]) _
    have slept := (quieted.ends.failing fun _ _ _ kept => kept.1).bind fun _ => entered
    simp only [bind_assoc] at slept
    exact slept
  · split
    · exact (device.settles_runtimeSuspendFor .suspend).ends.given fun _ _ before => before.1
    · exact ends_pure fun _ _ before => before.1

theorem ends_suspend_settles :
    Ends (fun seen machine => device.Settles seen machine ∧ device.Connected machine.pausedChannels)
      (fun _ seen machine => device.Settles seen machine)
      (fun _ seen machine => device.Settles seen machine) device.suspend := by
  apply ends_query_bind
  intro power
  split
  · exact ends_pure fun _ _ before => before.1.1
  next awake =>
    have woken := device.ends_wakeBeforeSleep_settles.given fun seen machine
        (before : (device.Settles seen machine ∧ device.Connected machine.pausedChannels) ∧
          machine.power = power) => ⟨before.1, before.2 ▸ awake⟩
    have steady := device.settles_steady fun power _ _ => power = .active
    have called : Keeps (fun seen machine => device.Settles seen machine ∧
        machine.power = .active) (fun _ => True) (device.callback .suspend) :=
      steady.callback .suspend trivial
    have told : Keeps device.Settles (fun _ => True) (do
        let power ← query fun machine => machine.power
        device.tell (.suspended power)) :=
      (keeps_query _).bind fun _ => device.settles_plain.news _ (by simp)
    exact woken.bind fun _ => (called.ends.failing fun _ _ _ kept => kept.1).bind fun _ =>
      device.ends_sleep_settles.bind fun _ => told.ends

theorem ends_wakeFrom_settles (power : PowerState) :
    Ends
      (fun seen machine => (device.Settles seen machine ∧
        device.Connected machine.pausedChannels) ∧ machine.power = power)
      (fun _ seen machine => device.Settles seen machine)
      (fun _ seen machine => device.Settles seen machine) (device.wakeFrom power) := by
  cases power with
  | active => exact ends_pure fun _ _ before => before.1.1
  | runtimeSuspended =>
      exact device.ends_runtimeResume_settles.weaken (fun _ _ before => before.1)
        (fun _ _ _ woken => woken.1) fun _ _ _ settles => settles
  | systemSuspended =>
      have steady := device.settles_steady fun power _ _ => power = .systemSuspended
      have restored : Keeps (fun seen machine => device.Settles seen machine ∧
          machine.power = .systemSuspended) (fun _ => True) (do
            device.ungateClocks
            device.restore
            device.selectPins .resume) :=
        (steady.ungateClocks trivial).bind fun _ =>
          (steady.restore trivial trivial trivial).bind fun _ => steady.pins .resume
      have entered : Ends (fun seen machine => device.Settles seen machine ∧
          machine.power = .systemSuspended) (fun _ seen machine => device.Settles seen machine)
          (fun _ seen machine => device.Settles seen machine)
          (enter .active : DeviceM σ Unit) :=
        ends_update fun _ machine before => before.1.move (by simp [before.2]) _
      have woken := (restored.ends.failing fun _ _ _ kept => kept.1).bind fun _ => entered
      have opened := woken.given fun seen machine
          (before : (device.Settles seen machine ∧ device.Connected machine.pausedChannels) ∧
            machine.power = .systemSuspended) => ⟨before.1.1, before.2⟩
      simp only [bind_assoc] at opened
      exact opened

theorem ends_resume_settles :
    Ends (fun seen machine => device.Settles seen machine ∧ device.Connected machine.pausedChannels)
      (fun _ seen machine => device.Settles seen machine)
      (fun _ seen machine => device.Settles seen machine) device.resume := by
  have ready : Keeps device.Settles (fun _ => True) (do
      device.callback .resume
      device.markBusy
      device.tell .resumed) :=
    (device.settles_plain.callback .resume trivial).bind fun _ =>
      device.settles_plain.markBusy.bind fun _ => device.settles_plain.news _ (by simp)
  apply ends_query_bind
  intro power
  exact (device.ends_wakeFrom_settles power).bind fun _ => ready.ends

/-- Every request leaves a settled device settled. -/
theorem ends_perform_settles (request : Request) :
    Ends (fun seen machine => device.Settles seen machine ∧ device.Connected machine.pausedChannels)
      (fun _ seen machine => device.Settles seen machine)
      (fun _ seen machine => device.Settles seen machine) (device.perform request) := by
  have kept {computation : DeviceM σ Answer}
      (keeps : Keeps device.Settles (fun _ => True) computation) :
      Ends (fun seen machine => device.Settles seen machine ∧
        device.Connected machine.pausedChannels)
        (fun _ seen machine => device.Settles seen machine)
        (fun _ seen machine => device.Settles seen machine) computation :=
    keeps.ends.given fun _ _ before => before.1
  cases request with
  | runtimeSuspend => exact kept (keeps_answering (device.settles_runtimeSuspendFor .suspend))
  | autosuspend => exact kept (keeps_answering device.settles_autosuspend)
  | runtimeResume =>
      exact device.ends_runtimeResume_settles.bind fun _ => ends_pure fun _ _ woken => woken.1
  | suspend => exact ends_answering device.ends_suspend_settles
  | resume => exact ends_answering device.ends_resume_settles
  | _ =>
      exact kept (device.perform_apart
        (fun seen power done paused => device.Settled seen power done paused)
        (fun _ _ _ _ _ _ settled => settled.append _) rfl)

end Transitions

/-! ## Every history -/

theorem connected_of_reachable (device : Device σ) {machine : Machine σ}
    (reachable : device.Reachable machine) : device.Connected machine.pausedChannels := by
  obtain ⟨hardware, storage, happenings, rfl⟩ := reachable
  exact fun _ recorded => (device.tracked_history happenings hardware storage).lt_length recorded

/-- A device that is settled stays settled, whatever happens to it. -/
theorem settles_history (device : Device σ) (happenings : List (Happening σ)) :
    Keeps (fun seen machine => device.Settles seen machine ∧ device.Reachable machine)
      (fun _ => False) (device.history happenings) := by
  apply Reachable.keeps_history
  · intro request seen machine reachable settles
    have ended := device.ends_perform_settles request seen machine
      ⟨settles, device.connected_of_reachable reachable⟩
    split at ended <;> exact ended
  · exact fun _ _ _ settles => settles
  · exact fun _ _ _ settles => settles

/-- No channel was ever paused before the first resume. -/
theorem fresh_of_reachable (device : Device σ) {machine : Machine σ}
    (reachable : device.Reachable machine) (fresh : machine.firstResumeDone = false) :
    machine.power = .runtimeSuspended ∧ machine.pausedChannels = 0 := by
  obtain ⟨hardware, storage, happenings, rfl⟩ := reachable
  have start : device.Settles [] (.initial hardware storage) :=
    ⟨fun _ => ⟨rfl, rfl⟩, fun _ _ => rfl⟩
  have settles := (device.settles_history happenings [] _ ⟨start, hardware, storage, [], rfl⟩).1.1
  exact settles.fresh fresh

/-! ## Resuming -/

section Resuming

variable (device : Device σ)

/-- A system resume of a device in runtime suspend leaves no channel paused. -/
theorem ends_resume_cleared :
    Ends
      (fun _ machine => device.Connected machine.pausedChannels ∧
        (machine.firstResumeDone = false → machine.pausedChannels = 0) ∧
        machine.power = .runtimeSuspended)
      (fun _ _ machine => machine.pausedChannels = 0) (fun _ _ _ => True) device.resume := by
  have steady := device.steady_apart (fun _ _ _ paused => paused = 0) fun _ _ _ _ _ _ empty => empty
  have ready : Keeps (fun _ machine => machine.pausedChannels = 0) (fun _ => True) (do
      device.callback .resume
      device.markBusy
      device.tell .resumed) :=
    (steady.callback .resume trivial).bind fun _ =>
      steady.markBusy.bind fun _ => steady.news _ (by simp)
  apply ends_query_bind_of (fun _ _ before => before.2.2)
  have woken := device.ends_runtimeResume_cleared.given fun seen machine
      (before : device.Connected machine.pausedChannels ∧
        (machine.firstResumeDone = false → machine.pausedChannels = 0) ∧
        machine.power = .runtimeSuspended) =>
    ⟨before.1, before.2.1, by simp [before.2.2]⟩
  exact woken.bind fun _ => ready.ends.failing fun _ _ _ _ => trivial

/-- A system resume of a device that is not in runtime suspend does not come to the channels. -/
theorem ends_resume_silent {power : PowerState} (paused : UInt32)
    (awake : power ≠ .runtimeSuspended) :
    Ends
      (fun seen machine => (Silent seen ∧ machine.pausedChannels = paused) ∧ machine.power = power)
      (fun _ seen machine => Silent seen ∧ machine.pausedChannels = paused)
      (fun _ seen machine => Silent seen ∧ machine.pausedChannels = paused) device.resume := by
  have steady := device.steady_apart (fun seen _ _ mask => Silent seen ∧ mask = paused)
    fun _ _ _ _ _ unrelated silent => ⟨silent.1.concat unrelated, silent.2⟩
  have woken : Keeps (fun seen machine => Silent seen ∧ machine.pausedChannels = paused)
      (fun _ => True) (device.wakeFrom power) := by
    cases power with
    | active => exact keeps_pure ()
    | runtimeSuspended => exact absurd rfl awake
    | systemSuspended =>
        exact (steady.ungateClocks trivial).bind fun _ =>
          (steady.restore trivial trivial trivial).bind fun _ =>
            (steady.pins .resume).bind fun _ => keeps_update fun _ _ silent => silent
  have ready : Keeps (fun seen machine => Silent seen ∧ machine.pausedChannels = paused)
      (fun _ => True) (do
        device.callback .resume
        device.markBusy
        device.tell .resumed) :=
    (steady.callback .resume trivial).bind fun _ =>
      steady.markBusy.bind fun _ => steady.news _ (by simp)
  apply ends_query_bind_of (fun _ _ before => before.2)
  exact (woken.bind fun _ => ready).ends.given fun _ _ before => before.1

/-- A resume that is not needed comes to no channel, and one that is needed leaves none paused. -/
theorem resuming_channels {machine : Machine σ} (reachable : device.Reachable machine)
    {request : Request} (resuming : request = .runtimeResume ∨ request = .resume)
    (succeeded : (device.perform request machine).result = .ok .done) :
    (request.Wakes machine.power → (device.perform request machine).state.pausedChannels = 0) ∧
      (¬request.Wakes machine.power →
        (device.perform request machine).state.pausedChannels = machine.pausedChannels ∧
          Silent (device.perform request machine).events) := by
  have connected := device.connected_of_reachable reachable
  have fresh : machine.firstResumeDone = false → machine.pausedChannels = 0 :=
    fun fresh => (device.fresh_of_reachable reachable fresh).2
  rcases resuming with rfl | rfl
  · constructor
    · intro wakes
      have cleared := ends_answering device.ends_runtimeResume_cleared
      exact cleared.of_ok [] ⟨connected, fresh, wakes⟩ succeeded
    · intro idle
      have active : machine.power = .active := by simpa [Request.Wakes] using idle
      have done : machine.firstResumeDone = true := by
        cases recorded : machine.firstResumeDone with
        | true => rfl
        | false =>
            have initial := (device.fresh_of_reachable reachable recorded).1
            rw [active] at initial
            cases initial
      have nothing : device.runtimeResume machine = ⟨.ok (), [], machine⟩ := by
        rw [runtimeResume, query_bind_apply, if_pos done, if_pos active]
        rfl
      have outcome : device.perform .runtimeResume machine = ⟨.ok .done, [], machine⟩ := by
        rw [perform, answering, bind_apply, nothing]
        rfl
      rw [outcome]
      exact ⟨rfl, by simp [Silent]⟩
  · constructor
    · intro wakes
      have cleared := ends_answering device.ends_resume_cleared
      exact cleared.of_ok [] ⟨connected, fresh, wakes⟩ succeeded
    · intro awake
      have untouched := ends_answering (device.ends_resume_silent machine.pausedChannels awake)
      have silent := untouched.of_ok [] ⟨⟨by simp [Silent], rfl⟩, rfl⟩ succeeded
      exact ⟨silent.2, silent.1⟩

/-- A runtime resume of a device that is not active, and a system resume of one in runtime
suspend, leave no channel paused, whatever suspends failed before. Any other resume comes to no
channel at all. It finds none paused if none was at some time before and no attempt to suspend
has failed since then for another reason than a pending interrupt. -/
theorem transfers_continue {origin : Machine σ} (reachable : device.Reachable origin)
    (happenings : List (Happening σ)) {request : Request}
    (resuming : request = .runtimeResume ∨ request = .resume) :
    let past := device.history happenings origin
    let outcome := device.perform request past.state
    outcome.result = .ok .done →
      (request.Wakes past.state.power → outcome.state.pausedChannels = 0) ∧
      (¬request.Wakes past.state.power →
        outcome.state.pausedChannels = past.state.pausedChannels ∧ Silent outcome.events) ∧
      (origin.pausedChannels = 0 → device.NoneFailed past.events →
        outcome.state.pausedChannels = 0) := by
  intro past outcome succeeded
  have start (unpaused : origin.pausedChannels = 0) : device.Settles [] origin :=
    ⟨device.fresh_of_reachable reachable, fun _ _ => unpaused⟩
  have kept (unpaused : origin.pausedChannels = 0) :=
    (device.settles_history happenings [] origin ⟨start unpaused, reachable⟩).1
  have arrived : device.Reachable past.state := reachable.history happenings
  obtain ⟨woken, idle⟩ := device.resuming_channels arrived resuming succeeded
  refine ⟨woken, idle, ?_⟩
  intro unpaused none
  by_cases wakes : request.Wakes past.state.power
  · exact woken wakes
  · rw [(idle wakes).1]
    have awake : past.state.power ≠ .runtimeSuspended := by
      intro suspended
      rcases resuming with rfl | rfl
      · exact wakes (by simp [Request.Wakes, suspended])
      · exact wakes suspended
    exact (kept unpaused).1.settled none awake

end Resuming

/-- The serial port fails to suspend with its transfer paused, suspends on a better board, and
lets the transfer go on when it resumes. -/
theorem uart_transfers_continue :
    let happenings : List (Happening Bench.Board) :=
      [.asked (.createContext Bench.Uart.template), .asked .runtimeResume, .asked .runtimeSuspend,
        .changed Bench.Uart.board, .asked .runtimeSuspend]
    let past := Bench.Uart.device.history happenings (.initial Bench.Uart.reluctant [0, 0, 0, 0])
    past.state.pausedChannels = channelBit 0 ∧
      (Bench.Uart.device.perform .resume past.state).result = .ok .done ∧
      (Bench.Uart.device.perform .resume past.state).state.pausedChannels = 0 := by
  intro happenings
  have reachable : Bench.Uart.device.Reachable (.initial Bench.Uart.reluctant [0, 0, 0, 0]) :=
    ⟨_, _, [], rfl⟩
  refine ⟨by decide +kernel, by decide +kernel, ?_⟩
  have continued := Bench.Uart.device.transfers_continue reachable happenings (.inr rfl)
  exact (continued (by decide +kernel)).1 (show _ = PowerState.runtimeSuspended by decide +kernel)

/-- The serial port finds its transfer paused after a suspend that failed, and a runtime resume
and a system resume both succeed without resuming it. It goes to system sleep and wakes up
again, and the transfer is still paused. -/
theorem reluctant_transfer_stays_paused :
    let failed : List (Happening Bench.Board) :=
      [.asked (.createContext Bench.Uart.template), .asked .runtimeResume, .asked .runtimeSuspend]
    let awake := Bench.Uart.device.history failed (.initial Bench.Uart.reluctant [0, 0, 0, 0])
    let asleep := Bench.Uart.sleeper.history (failed ++ [.asked .suspend])
      (.initial Bench.Uart.reluctant [0, 0, 0, 0])
    ((Bench.Uart.device.perform .runtimeResume awake.state).result = .ok .done ∧
      (Bench.Uart.device.perform .runtimeResume awake.state).state.pausedChannels ≠ 0) ∧
    ((Bench.Uart.device.perform .resume awake.state).result = .ok .done ∧
      (Bench.Uart.device.perform .resume awake.state).state.pausedChannels ≠ 0) ∧
    asleep.state.power = .systemSuspended ∧
    (Bench.Uart.sleeper.perform .resume asleep.state).result = .ok .done ∧
    (Bench.Uart.sleeper.perform .resume asleep.state).state.pausedChannels ≠ 0 := by
  decide +kernel

end Device

end DevicePower
