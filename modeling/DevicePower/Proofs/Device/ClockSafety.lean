import DevicePower.Bench.Uart
import DevicePower.Proofs.Device.Clocking
import DevicePower.Proofs.Device.PowerCycle
import DevicePower.Proofs.Device.Transitions

/-!
# Clock safety

Suspending gates the clocks after everything else that can fail, and resuming ungates them
before it touches the device. The exception is the restore step of a runtime resume, which
comes first of all. A transition that fails midway may leave a device suspended with its clocks
running, but never active with a clock stopped. So the next transition may rely on the clocks
of a device that is active or was never resumed, and it leaves such a device behind.
-/

namespace DevicePower

open DeviceM Traced

variable {σ : Type}

namespace Device

/-- All clocks run while a device is active, and until its first resume. -/
def ClocksReady (device : Device σ) (machine : Machine σ) : Prop :=
  machine.power = .active ∨ machine.firstResumeDone = false → device.AllRun machine.hardware

/-- How many clocks are known to run in a power state. -/
def clocksKnown (device : Device σ) (power : PowerState) (done : Bool) : Nat :=
  if power = .active ∨ done = false then device.clocks.length else 0

section Conditions

variable (device : Device σ) (start : σ) (excused : Prop) (intact : σ → Prop)

/-- The clocks run that are known to, and the device is where it was in its power cycle. -/
abbrev Ready (power : PowerState) (done : Bool) : List Event → Machine σ → Prop :=
  TickingAt device start excused intact power done (device.clocksKnown power done)

/-- A transition was guarded by the clocks, and the next may begin. -/
def LeavesReady (seen : List Event) (machine : Machine σ) : Prop :=
  Accounted device start excused seen machine.hardware ∧ intact machine.hardware ∧
    device.ClocksReady machine

/-- The same of a transition that has failed, and has not stopped any clock. -/
def FailsReady (seen : List Event) (machine : Machine σ) : Prop :=
  LeavesReady device start excused intact seen machine ∧
    ∀ number, .clock number .disabled ∉ seen

end Conditions

variable {device : Device σ} {start : σ} {excused : Prop} {intact : σ → Prop}
variable {power : PowerState} {done : Bool}

theorem clocksKnown_le (device : Device σ) (power : PowerState) (done : Bool) :
    device.clocksKnown power done ≤ device.clocks.length := by
  rw [clocksKnown]
  split
  · exact Nat.le_refl _
  · exact Nat.zero_le _

theorem ready_active :
    Ready device start excused intact .active done =
      Awake device start excused intact .active done := by
  rw [Ready, Awake, clocksKnown, if_pos (.inl rfl)]

theorem ready_fresh :
    Ready device start excused intact power false =
      Awake device start excused intact power false := by
  rw [Ready, Awake, clocksKnown, if_pos (.inr rfl)]

theorem ready_asleep (asleep : power ≠ .active) :
    Ready device start excused intact power true =
      TickingAt device start excused intact power true 0 := by
  rw [Ready, clocksKnown, if_neg (by simp [asleep])]

/-- A device is ready for a transition if nothing has happened yet. -/
theorem ClocksReady.ready {machine : Machine σ} (ready : device.ClocksReady machine)
    (holds : intact machine.hardware) :
    Ready device machine.hardware excused intact machine.power machine.firstResumeDone []
      machine := by
  refine ⟨.initial ?_, holds, rfl, rfl⟩
  intro number below clock found
  rw [clocksKnown] at below
  split at below
  next known => exact ready known clock (List.mem_of_getElem? found)
  next => exact absurd below (Nat.not_lt_zero number)

namespace TickingAt

variable {count : Nat} {seen : List Event} {machine : Machine σ}

theorem ready (ticking : Awake device start excused intact power done seen machine) :
    Ready device start excused intact power done seen machine :=
  ticking.mono (device.clocksKnown_le power done)

theorem failsReady (ticking : Ready device start excused intact power done seen machine) :
    FailsReady device start excused intact seen machine := by
  obtain ⟨ticking, holds, rfl, rfl⟩ := ticking
  refine ⟨⟨ticking.toAccounted, holds, ?_⟩, ticking.unstopped⟩
  intro known
  rw [clocksKnown, if_pos known] at ticking
  exact ticking.allRun

end TickingAt

/-- A device that is suspended after its first resume may have its clocks stopped. -/
theorem leavesReady_of_accounted {seen : List Event} {machine : Machine σ}
    (accounted : Accounted device start excused seen machine.hardware)
    (holds : intact machine.hardware) (asleep : machine.power ≠ .active)
    (resumed : machine.firstResumeDone = true) :
    LeavesReady device start excused intact seen machine := by
  refine ⟨accounted, holds, ?_⟩
  rintro (active | fresh)
  · exact absurd active asleep
  · exact absurd (resumed.symm.trans fresh) (by simp)

section Transitions

variable (obey : device.ClocksObey) (spares : device.IntactWhileRunning intact)

include obey spares

/-! ## Runtime power management -/

/-- All clocks run once the restore step is over, and even if what follows it fails. -/
theorem ends_bringUp_clocks :
    Ends (TickingAt device start excused intact power done 0)
      (fun _ => Awake device start excused intact power done)
      (fun _ => Awake device start excused intact power done) device.bringUp := by
  have steady : Steady device (fun kind => kind ≠ .clockDisable) (fun _ => True)
      (Awake device start excused intact power done) (fun _ => True) :=
    steady_awake obey spares
  have ungated : Ends (TickingAt device start excused intact power done 0)
      (fun _ => Awake device start excused intact power done)
      (fun _ => Awake device start excused intact power done) device.ungateClocks :=
    ends_ungateClocks obey spares
  have activated : Keeps (Awake device start excused intact power done) (fun _ => True) (do
      device.activate
      let paused ← Traced.query fun machine => machine.pausedChannels
      device.resumeChannels paused) :=
    (steady.activate (by decide) trivial).bind fun _ =>
      (keeps_query _).bind fun paused => steady.resumeChannels paused
  rw [bringUp, powerUp, bind_assoc]
  exact ungated.bind fun _ => activated.ends

/-- A resume that succeeds leaves the device active with all clocks running. -/
theorem ends_runtimeResume_clocks
    (anyway : power ≠ .active → device.RestoresAnyway excused intact) :
    Ends (Ready device start excused intact power done)
      (fun _ => Awake device start excused intact .active true)
      (fun _ => Ready device start excused intact power done) device.runtimeResume := by
  apply ends_runtimeResume
  · rintro seen machine ⟨ticking, holds, rfl, rfl⟩ resumed active
    rw [clocksKnown, if_pos (.inl active)] at ticking
    exact ⟨ticking, holds, active, resumed⟩
  · apply ends_knowing (power ≠ .active ∧ done = true)
    · rintro seen machine ⟨⟨-, -, rfl, rfl⟩, resumed, asleep⟩
      exact ⟨asleep, resumed⟩
    rintro ⟨asleep, rfl⟩
    rw [ready_asleep asleep, wakeUp_eq]
    have restored : Keeps (TickingAt device start excused intact power true 0) (fun _ => True)
        device.restore :=
      keeps_restore_ticking obey (anyway asleep) power true 0
    have woken := restored.ends.bind fun _ =>
      (ends_bringUp_clocks obey spares).failing fun _ _ _ ticking => ticking.mono (Nat.zero_le _)
    apply woken.weaken
    · exact fun _ _ before => before.1
    · rintro _ seen machine ⟨ticking, holds, -, resumed⟩
      exact ⟨ticking.other nofun nofun, holds, rfl, resumed⟩
    · exact fun _ _ _ ticking => ticking.other nofun nofun
  · apply ends_knowing (done = false)
    · rintro seen machine ⟨⟨-, -, -, rfl⟩, fresh⟩
      exact fresh
    rintro rfl
    rw [ready_fresh]
    have called : Keeps (Awake device start excused intact power false) (fun _ => True)
        (device.callback .firstResume) :=
      (steady_awake obey spares).callback .firstResume trivial
    apply called.ends.weaken
    · exact fun _ _ before => before.1
    · exact fun _ _ _ ticking => ⟨ticking.1, ticking.2.1, rfl, rfl⟩
    · exact fun _ _ _ ticking => ticking

/-- A device is suspended with its clocks stopped, or stays active with all of them running. -/
theorem ends_suspendActive_clocks (action : Action) :
    Ends (Awake device start excused intact .active true)
      (fun _ => LeavesReady device start excused intact)
      (fun _ => Awake device start excused intact .active true)
      (device.suspendActive action) := by
  have steady : Steady device (fun kind => kind ≠ .clockDisable) (fun _ => True)
      (Awake device start excused intact .active true) (fun _ => True) :=
    steady_awake obey spares
  have quieted (_ : UInt32) : Ends (Awake device start excused intact .active true)
      (fun _ seen machine => LeavesReady device start excused intact
        (seen ++ [.note (.device device.name .runtimeSuspended)])
        { machine with power := .runtimeSuspended })
      (fun _ => Awake device start excused intact .active true) (device.quiesce action) := by
    have silenced := (steady.silence action (by decide) (by decide) trivial).ends
    have gated := silenced.bind fun _ => ends_gateClocks obey spares
    rw [quiesce_eq]
    apply gated.weaken (fun _ _ ticking => ticking) _ fun _ _ _ ticking => ticking
    rintro _ seen machine ⟨accounted, holds, -, resumed⟩
    exact leavesReady_of_accounted (accounted.other nofun nofun) holds nofun resumed
  apply ends_suspendActive _ quieted
  · exact fun paused => (steady.abortSuspend (by decide) paused).ends
  · exact fun _ _ _ _ _ ticking => ticking.other nofun nofun
  · exact (steady.prepareSuspend (by decide)).ends

theorem ends_runtimeSuspendFor_clocks (begun : power = .active → done = true) (action : Action) :
    Ends (Ready device start excused intact power done)
      (fun _ => LeavesReady device start excused intact)
      (fun _ => Ready device start excused intact power done)
      (device.runtimeSuspendFor action) := by
  apply ends_runtimeSuspendFor
  · exact fun _ _ ticking _ => ticking.failsReady.1
  · apply ends_knowing (power = .active)
    · rintro seen machine ⟨⟨-, -, rfl, -⟩, active⟩
      exact active
    rintro rfl
    cases begun rfl
    rw [ready_active]
    exact (ends_suspendActive_clocks obey spares action).given fun _ _ before => before.1

theorem ends_autosuspend_clocks (begun : power = .active → done = true) :
    Ends (Ready device start excused intact power done)
      (fun _ => LeavesReady device start excused intact)
      (fun _ => Ready device start excused intact power done) device.autosuspend := by
  have looked : Keeps (Ready device start excused intact power done) (fun _ => True)
      device.usedRecently := by
    apply device.keeps_usedRecently
    · intro timer present
      exact keeps_act fun _ _ ticking => ⟨ticking.1.changed (obey.tick timer present _),
        spares.tick timer present _ ticking.2.1, ticking.2.2⟩
    · exact fun _ => keeps_emit fun _ _ ticking => ticking.other nofun nofun
  apply looked.ends.bind
  intro recent
  split
  · exact ends_fail fun _ _ ticking => ticking
  · exact ends_runtimeSuspendFor_clocks obey spares begun .autosuspend

/-! ## System sleep -/

theorem ends_wakeBeforeSleep_clocks (begun : power = .active → done = true)
    (awake : power ≠ .systemSuspended)
    (anyway : power = .runtimeSuspended → device.RestoresAnyway excused intact) :
    Ends (Ready device start excused intact power done)
      (fun _ => Awake device start excused intact .active true)
      (fun _ => Ready device start excused intact power done) device.wakeBeforeSleep := by
  apply ends_query_bind_of fun _ _ ticking => ticking.2.2.1
  split
  next suspended => exact ends_runtimeResume_clocks obey spares fun _ => anyway suspended
  next other =>
    have active : power = .active := by
      cases power with
      | active => rfl
      | runtimeSuspended => exact absurd rfl other
      | systemSuspended => exact absurd rfl awake
    subst active
    cases begun rfl
    rw [ready_active]
    exact ends_pure fun _ _ ticking => ticking

theorem ends_sleep_clocks :
    Ends (Awake device start excused intact .active true)
      (fun _ => LeavesReady device start excused intact)
      (fun _ => Awake device start excused intact .active true) device.sleep := by
  have steady : Steady device (fun kind => kind ≠ .clockDisable) (fun _ => True)
      (Awake device start excused intact .active true) (fun _ => True) :=
    steady_awake obey spares
  rw [sleep]
  split
  · have saved := (steady.save (by decide)).ends
    have selected := (steady.pins .suspend).ends
    refine saved.bind fun _ => selected.bind fun _ => (ends_gateClocks obey spares).bind fun _ => ?_
    apply ends_update
    rintro seen machine ⟨accounted, holds, -, resumed⟩
    exact leavesReady_of_accounted accounted holds (by simp) resumed
  · split
    · rw [← ready_active]
      exact ends_runtimeSuspendFor_clocks obey spares (fun _ => rfl) .suspend
    · exact ends_pure fun _ _ ticking => ticking.ready.failsReady.1

/-- Going to sleep needs no excuse, but waking up before it does. -/
theorem ends_suspend_clocks (begun : power = .active → done = true)
    (anyway : power = .runtimeSuspended → device.RestoresAnyway excused intact) :
    Ends (Ready device start excused intact power done)
      (fun _ => LeavesReady device start excused intact)
      (fun _ => FailsReady device start excused intact) device.suspend := by
  have called : Keeps (Awake device start excused intact .active true) (fun _ => True)
      (device.callback .suspend) :=
    (steady_awake obey spares).callback .suspend trivial
  apply ends_query_bind_of fun _ _ ticking => ticking.2.2.1
  split
  next asleep => exact ends_pure fun _ _ ticking => ticking.failsReady.1
  next awake =>
    refine ((ends_wakeBeforeSleep_clocks obey spares begun awake anyway).failing
      fun _ _ _ ticking => ticking.failsReady).bind fun _ => ?_
    refine (called.ends.failing fun _ _ _ ticking => ticking.ready.failsReady).bind fun _ => ?_
    refine ((ends_sleep_clocks obey spares).failing
      fun _ _ _ ticking => ticking.ready.failsReady).bind fun _ => ?_
    apply ends_query_bind
    rintro power seen machine ⟨⟨accounted, holds, ready⟩, -⟩
    exact ⟨accounted.other nofun nofun, holds, ready⟩

/-- A device in system sleep has its clocks back before anything is restored. -/
theorem ends_wakeFrom_clocks (begun : power ≠ .runtimeSuspended → done = true)
    (anyway : power = .runtimeSuspended → device.RestoresAnyway excused intact) :
    Ends (Ready device start excused intact power done)
      (fun _ => Awake device start excused intact .active true)
      (fun _ => Ready device start excused intact power done) (device.wakeFrom power) := by
  have steady : Steady device (fun kind => kind ≠ .clockDisable) (fun _ => True)
      (Awake device start excused intact power done) (fun _ => True) :=
    steady_awake obey spares
  cases power with
  | active =>
      cases begun nofun
      rw [ready_active]
      exact ends_pure fun _ _ ticking => ticking
  | runtimeSuspended => exact ends_runtimeResume_clocks obey spares fun _ => anyway rfl
  | systemSuspended =>
      cases begun nofun
      have restored := (steady.restore (by decide) (by decide) trivial).ends
      have selected := (steady.pins .resume).ends
      refine ((ends_ungateClocks obey spares).failing
        fun _ _ _ ticking => ticking.ready).bind fun _ => ?_
      refine (restored.failing fun _ _ _ ticking => ticking.ready).bind fun _ => ?_
      refine (selected.failing fun _ _ _ ticking => ticking.ready).bind fun _ => ?_
      exact ends_update fun _ _ ticking => ⟨ticking.1, ticking.2.1, rfl, ticking.2.2.2⟩

theorem ends_resume_clocks (begun : power ≠ .runtimeSuspended → done = true)
    (anyway : power = .runtimeSuspended → device.RestoresAnyway excused intact) :
    Ends (Ready device start excused intact power done)
      (fun _ => LeavesReady device start excused intact)
      (fun _ => FailsReady device start excused intact) device.resume := by
  have steady : Steady device (fun kind => kind ≠ .clockDisable) (fun _ => True)
      (Awake device start excused intact .active true) (fun _ => True) :=
    steady_awake obey spares
  have welcomed : Keeps (Awake device start excused intact .active true) (fun _ => True) (do
      device.callback .resume
      device.markBusy
      device.tell .resumed) :=
    (steady.callback .resume trivial).bind fun _ =>
      steady.markBusy.bind fun _ => steady.news _ (by simp)
  apply ends_query_bind_of fun _ _ ticking => ticking.2.2.1
  refine ((ends_wakeFrom_clocks obey spares begun anyway).failing
    fun _ _ _ ticking => ticking.failsReady).bind fun _ => ?_
  apply welcomed.ends.weaken (fun _ _ ticking => ticking)
  · exact fun _ _ _ ticking => ticking.ready.failsReady.1
  · exact fun _ _ _ ticking => ticking.ready.failsReady

/-! ## Every transition in every run -/

/-- A transition is guarded by the clocks of the device, and leaves it ready for the next. -/
theorem ends_transition_clocks (begun : power ≠ .runtimeSuspended → done = true)
    {request : Request} (transition : request.isTransition = true)
    (anyway : request.ResumesFrom power → device.RestoresAnyway excused intact) :
    Ends (Ready device start excused intact power done)
      (fun _ => LeavesReady device start excused intact)
      (fun _ => FailsReady device start excused intact) (device.perform request) := by
  have begunActive : power = .active → done = true := by
    rintro rfl
    exact begun nofun
  cases request with
  | runtimeResume =>
      apply ends_answering
      apply (ends_runtimeResume_clocks obey spares anyway).weaken (fun _ _ ticking => ticking)
      · exact fun _ _ _ ticking => ticking.ready.failsReady.1
      · exact fun _ _ _ ticking => ticking.failsReady
  | runtimeSuspend =>
      exact ends_answering ((ends_runtimeSuspendFor_clocks obey spares begunActive .suspend).failing
        fun _ _ _ ticking => ticking.failsReady)
  | autosuspend =>
      exact ends_answering ((ends_autosuspend_clocks obey spares begunActive).failing
        fun _ _ _ ticking => ticking.failsReady)
  | suspend => exact ends_answering (ends_suspend_clocks obey spares begunActive anyway)
  | resume => exact ends_answering (ends_resume_clocks obey spares begun anyway)
  | _ => cases transition

end Transitions

/-- The machine is reached in a run that began with all clocks running, and in which only the
device stops clocks. A caller may ask for anything but to gate the clocks by itself. -/
inductive Clocked (device : Device σ) : Machine σ → Prop where
  | initial (hardware : σ) (storage : List UInt32) (running : device.AllRun hardware) :
      Clocked device (.initial hardware storage)
  | asked (request : Request) {machine : Machine σ} (earlier : Clocked device machine)
      (other : request ≠ .gateClocks) : Clocked device (device.perform request machine).state
  | changed (hardware : σ) {machine : Machine σ} (earlier : Clocked device machine)
      (unstopped : device.NoneStops machine.hardware hardware) :
      Clocked device { machine with hardware }
  | handler (irqHeld : Bool) {machine : Machine σ} (earlier : Clocked device machine) :
      Clocked device { machine with irqHeld }

theorem Clocked.reachable {machine : Machine σ} (clocked : device.Clocked machine) :
    device.Reachable machine := by
  induction clocked with
  | initial hardware storage _ => exact ⟨hardware, storage, [], rfl⟩
  | asked request _ _ ih => exact ih.undergo (.asked request)
  | changed hardware _ _ ih => exact ih.undergo (.changed hardware)
  | handler irqHeld _ ih => exact ih.undergo (.handler irqHeld)

theorem AllRun.kept {before after : σ} (running : device.AllRun before)
    (unstopped : device.NoneStops before after) : device.AllRun after :=
  fun clock member => unstopped clock member (running clock member)

section Runs

variable (obey : device.ClocksObey)

include obey

theorem resists_clocksReady {tables : TableKind → Prop} {stages : Stage → Prop} :
    Resists device tables stages fun _ machine => device.ClocksReady machine where
  read offset _ _ ready known := (ready known).kept (obey.read offset _)
  write offset value _ _ ready known := (ready known).kept (obey.write offset value _)
  prepared stage hook _ present _ _ ready known :=
    (ready known).kept (obey.prepare stage hook present _)
  ticked timer present _ _ ready known := (ready known).kept (obey.tick timer present _)
  selected controller present state _ _ ready known :=
    (ready known).kept (obey.select controller present state _)
  reported _ _ _ _ ready := ready
  unresolved _ _ _ _ ready := ready

/-- Other requests than transitions stop no clock, unless that is what they ask for. -/
theorem keeps_clocksReady {request : Request} (plain : request.isTransition = false)
    (other : request ≠ .gateClocks) :
    Keeps (fun _ machine => device.ClocksReady machine) (fun _ => True)
      (device.perform request) := by
  have steady : Steady device.unplugged (fun kind => kind ≠ .clockDisable) (fun _ => True)
      (fun _ machine => device.ClocksReady machine) (fun _ => True) := by
    apply (resists_clocksReady obey).maintains.steady_unplugged
    · exact fun disabling => absurd rfl disabling
    · intro number clock found
      apply keeps_start fun _ _ _ ready => ready
      rintro isRunning enable disable rfl _ machine ready known
      have owned := List.mem_of_getElem? found
      exact (ready known).kept (obey.enable isRunning enable disable owned _)
  exact (resists_clocksReady obey).keeps_plain (fun _ _ _ ready => ready) steady
    (fun _ others => others) (fun gating => absurd gating other) plain

/-- A transition of a device that is ready. -/
theorem transition_clocks (spares : device.IntactWhileRunning intact) {machine : Machine σ}
    (begun : Begun machine) (ready : device.ClocksReady machine) (holds : intact machine.hardware)
    {request : Request} (transition : request.isTransition = true)
    (anyway : request.ResumesFrom machine.power → device.RestoresAnyway excused intact) :
    LeavesReady device machine.hardware excused intact (device.perform request machine).events
        (device.perform request machine).state ∧
      ∀ error, (device.perform request machine).result = .error error →
        ∀ number, .clock number .disabled ∉ (device.perform request machine).events := by
  have resumed : machine.power ≠ .runtimeSuspended → machine.firstResumeDone = true :=
    begun.resolve_right
  have ended := ends_transition_clocks obey spares resumed transition anyway [] machine
    (ready.ready holds)
  cases result : (device.perform request machine).result with
  | ok answer =>
      rw [result] at ended
      exact ⟨ended, nofun⟩
  | error error =>
      rw [result] at ended
      exact ⟨ended.1, fun _ _ => ended.2⟩

theorem Clocked.clocksReady {machine : Machine σ} (clocked : device.Clocked machine) :
    device.ClocksReady machine := by
  induction clocked with
  | initial hardware storage running => exact fun _ => running
  | changed hardware _ unstopped ih => exact fun known => (ih known).kept unstopped
  | handler irqHeld _ ih => exact ih
  | asked request earlier other ih =>
      cases transition : request.isTransition with
      | true =>
          have begun := device.begun_of_reachable earlier.reachable
          have harmless : device.RestoresAnyway True fun _ => True :=
            ⟨trivial, fun _ _ _ => ⟨trivial, fun _ _ => trivial⟩⟩
          exact (transition_clocks obey device.intactWhileRunning_true begun ih trivial transition
            fun _ => harmless).1.2.2
      | false => exact (keeps_clocksReady obey transition other [] _ ih).1

end Runs

/-- The clocks of a device run whenever they have to, before a request, meanwhile and after it.
Only the restore step of a resume at run time does not wait for them. -/
structure ClockSafe (device : Device σ) (machine : Machine σ) (request : Request)
    (outcome : Outcome Error Event (Machine σ) Answer) : Prop where
  before : machine.power = .active → device.AllRun machine.hardware
  after : outcome.state.power = .active → device.AllRun outcome.state.hardware
  /-- A request that fails has stopped no clock. -/
  failed : ∀ error, outcome.result = .error error →
    ∀ number, .clock number .disabled ∉ outcome.events
  guarded : ∀ before event after, outcome.events = before ++ event :: after →
    event.touches = true → device.AllRunAfter machine.hardware before ∨
      request.ResumesFrom machine.power ∧ event.ofRestore = true
  /-- A clock runs in the end if the journal says so. -/
  sound : ∀ number clock, device.clocks[number]? = some clock →
    runsAfter number (clock.runs machine.hardware) outcome.events = true →
      clock.runs outcome.state.hardware = true
  /-- What an access without clocks does to the hardware is not done to it. -/
  spared : ∀ intact : σ → Prop, device.IntactWhileRunning intact →
    (request.ResumesFrom machine.power →
      Keeps (fun _ machine => intact machine.hardware) (fun _ => True) device.restore) →
    intact machine.hardware → intact outcome.state.hardware

/-- Transitions are safe in every run, whatever fails in it, and whatever the hardware does as
long as its clocks obey. -/
theorem clocks_guarded (device : Device σ) (obey : device.ClocksObey) {machine : Machine σ}
    (clocked : device.Clocked machine) {request : Request}
    (transition : request.isTransition = true) :
    device.ClockSafe machine request (device.perform request machine) := by
  have begun := device.begun_of_reachable clocked.reachable
  have ready := clocked.clocksReady obey
  obtain ⟨⟨accounted, -, readyAfter⟩, failed⟩ :=
    transition_clocks obey device.intactWhileRunning_true begun ready trivial transition
      fun resumes => ⟨resumes, fun _ _ _ => ⟨trivial, fun _ _ => trivial⟩⟩
  exact {
    before := fun active => ready (.inl active)
    after := fun active => readyAfter (.inl active)
    failed
    guarded := accounted.guarded
    sound := accounted.sound
    spared := fun intact spares restored holds =>
      (transition_clocks obey spares begun ready holds transition
        fun resumes => ⟨resumes, restored resumes⟩).1.2.1 }

theorem selfClocked_noneStops {before after : Bench.Board}
    (same : after.clocks = before.clocks) : Bench.Uart.selfClocked.NoneStops before after := by
  intro clock member runs
  cases List.mem_singleton.mp member
  have runs : (before.clocks == [true]) = true := runs
  change (after.clocks == [true]) = true
  rwa [same]

/-- The serial port switches its own clock, and nothing else on the board touches it. -/
theorem selfClocked_clocksObey : Bench.Uart.selfClocked.ClocksObey where
  enabled isRunning enable disable member hardware := by
    cases List.mem_singleton.mp member
    rfl
  enable isRunning enable disable member hardware clock other _ := by
    cases List.mem_singleton.mp member
    cases List.mem_singleton.mp other
    rfl
  read offset hardware := selfClocked_noneStops rfl
  write offset value hardware := selfClocked_noneStops rfl
  prepare stage hook present hardware := by
    cases stage <;> cases present <;> exact selfClocked_noneStops rfl
  tick timer present hardware := by
    cases present
    exact selfClocked_noneStops rfl
  select controller present state hardware := by
    cases present
    exact selfClocked_noneStops rfl
  pause channel member hardware := by
    cases List.mem_singleton.mp member
    exact selfClocked_noneStops rfl
  resume channel member hardware := by
    cases List.mem_singleton.mp member
    exact selfClocked_noneStops rfl

/-- The serial port is active with its clock running. A suspend stops the clock, after every
access that it makes. An interrupt that is pending keeps it from doing so. -/
theorem uart_clocks_guarded :
    let port := Bench.Uart.selfClocked
    let active := Bench.Uart.selfClockedActive
    let pending := { active with hardware := active.hardware.onRegisters (.poke 12 1) }
    port.Clocked active ∧ port.Clocked pending ∧
      port.ClockSafe active .runtimeSuspend (port.perform .runtimeSuspend active) ∧
      .clock 0 .disabled ∈ (port.perform .runtimeSuspend active).events ∧
      (port.perform .runtimeSuspend pending).result = .error .busy ∧
      .clock 0 .disabled ∉ (port.perform .runtimeSuspend pending).events := by
  intro port active pending
  have running : port.AllRun Bench.Uart.board := by
    intro clock member
    cases List.mem_singleton.mp member
    rfl
  have begun : port.Clocked active :=
    .asked .runtimeResume (.asked (.createContext Bench.Uart.template)
      (.initial Bench.Uart.board [0, 0, 0, 0] running) nofun) nofun
  have disturbed : port.Clocked pending := .changed _ begun (selfClocked_noneStops rfl)
  have refused : (port.perform .runtimeSuspend pending).result = .error .busy := by decide +kernel
  have safe : port.ClockSafe active .runtimeSuspend (port.perform .runtimeSuspend active) :=
    port.clocks_guarded selfClocked_clocksObey begun rfl
  have safePending : port.ClockSafe pending .runtimeSuspend
      (port.perform .runtimeSuspend pending) :=
    port.clocks_guarded selfClocked_clocksObey disturbed rfl
  exact ⟨begun, disturbed, safe, by decide +kernel, refused, safePending.failed .busy refused 0⟩

end Device

end DevicePower
