import DevicePower.Proofs.Device.ClockSafety
import DevicePower.Proofs.Device.Phases
import DevicePower.Proofs.Device.PowerStates

/-!
# What a successful suspend does to the clocks

Gating the clocks is the last step of every suspend, so a device that a suspend has taken out of
the active state has its clocks stopped. But a suspend goes by the power state, and a resume that
fails leaves the power state as it was, whatever it has done to the clocks before. A device that
counts as suspended may thus be left with its clocks running, and asking it to suspend again is
answered with success without changing that. Clocks that were stranded in this way stop with the
next suspend of a device that was active in between.
-/

namespace DevicePower

open DeviceM Traced

variable {σ : Type}

/-- The event says that a clock was enabled. -/
def Event.enables : Event → Bool
  | .clock _ .enabled => true
  | _ => false

/-- A request to suspend a device in this power state has something to do. -/
def Request.findsAwake : Request → PowerState → Bool
  | .suspend, power => power != .systemSuspended
  | _, power => power == .active

namespace Device

/-- No clock of the device runs. -/
def AllStopped (device : Device σ) (hardware : σ) : Prop :=
  ∀ clock ∈ device.clocks, clock.runs hardware = false

/-- All clocks of the device can be stopped, and do stop when they are disabled. Nothing but
enabling and disabling them makes a difference to them. -/
structure ClocksAnswer (device : Device σ) : Prop where
  gates : .fixed ∉ device.clocks
  disabled : ∀ isRunning enable disable, .gate isRunning enable disable ∈ device.clocks →
    ∀ hardware, isRunning (disable hardware) = false
  disable : ∀ isRunning enable disable, .gate isRunning enable disable ∈ device.clocks →
    ∀ hardware, ∀ clock ∈ device.clocks, clock.runs hardware = false →
      clock.runs (disable hardware) = false
  read : ∀ offset hardware,
    device.SameClocks hardware (device.transport.read offset hardware).state
  write : ∀ offset value hardware,
    device.SameClocks hardware (device.transport.write offset value hardware).state
  prepare : ∀ stage hook, device.hooks.hook stage = some hook → ∀ hardware,
    device.SameClocks hardware (hook hardware).2
  tick : ∀ timer, device.timer = some timer → ∀ hardware,
    device.SameClocks hardware (timer.now hardware).2
  select : ∀ controller, device.pins = some controller → ∀ state hardware,
    device.SameClocks hardware (controller.select state hardware).2
  pause : ∀ channel ∈ device.channels, ∀ hardware,
    device.SameClocks hardware (channel.pause hardware)
  resume : ∀ channel ∈ device.channels, ∀ hardware,
    device.SameClocks hardware (channel.resume hardware)

/-- The request is one to suspend, which the driver does not answer with callbacks only. -/
def suspends (device : Device σ) : Request → Bool
  | .runtimeSuspend | .autosuspend => true
  | .suspend => device.driver.flags.systemContext || device.driver.flags.runtimePm
  | _ => false

/-- The request has enabled a clock and then failed, or has done nothing else. -/
def strands (device : Device σ) (machine : Machine σ) (request : Request) : Bool :=
  let outcome := device.perform request machine
  outcome.events.any Event.enables && !(request.isTransition && outcome.result.isOk)

/-- The request has left the device active, or has taken it from there to sleep. -/
def settles (device : Device σ) (machine : Machine σ) (request : Request) : Bool :=
  let outcome := device.perform request machine
  outcome.state.power == .active ||
    device.suspends request && request.findsAwake machine.power && outcome.result.isOk

/-- The machine is reached in a run in which only the device switches its clocks. Running clocks
may be stranded in it by a request that strands them, until a later one settles them. -/
inductive Course (device : Device σ) : Bool → Machine σ → Prop where
  | initial (hardware : σ) (storage : List UInt32) : Course device false (.initial hardware storage)
  | asked (request : Request) {stranded : Bool} {machine : Machine σ}
      (earlier : Course device stranded machine) :
      Course device
        (!device.settles machine request && (stranded || device.strands machine request))
        (device.perform request machine).state
  | changed (hardware : σ) {stranded : Bool} {machine : Machine σ}
      (earlier : Course device stranded machine)
      (same : device.SameClocks machine.hardware hardware) :
      Course device stranded { machine with hardware }
  | handler (irqHeld : Bool) {stranded : Bool} {machine : Machine σ}
      (earlier : Course device stranded machine) : Course device stranded { machine with irqHeld }

/-- A device that is suspended or asleep, and was resumed before, has its clocks stopped. -/
def Stilled (device : Device σ) (machine : Machine σ) : Prop :=
  machine.firstResumeDone = true → machine.power ≠ .active → device.AllStopped machine.hardware

/-- The same unless a clock was enabled meanwhile. -/
def StilledUnless (device : Device σ) (seen : List Event) (machine : Machine σ) : Prop :=
  device.Stilled machine ∨ seen.any Event.enables = true

/-- The clocks before this number are stopped. -/
def StoppedBelow (device : Device σ) (count : Nat) (hardware : σ) : Prop :=
  ∀ number < count, ∀ clock, device.clocks[number]? = some clock → clock.runs hardware = false

variable {device : Device σ}

theorem Course.reachable {stranded : Bool} {machine : Machine σ}
    (course : Course device stranded machine) : device.Reachable machine := by
  induction course with
  | initial hardware storage => exact ⟨hardware, storage, [], rfl⟩
  | asked request _ ih => exact ih.undergo (.asked request)
  | changed hardware _ _ ih => exact ih.undergo (.changed hardware)
  | handler irqHeld _ ih => exact ih.undergo (.handler irqHeld)

theorem AllStopped.kept {before after : σ} (stopped : device.AllStopped before)
    (same : device.SameClocks before after) : device.AllStopped after := by
  intro clock member
  rw [same clock member]
  exact stopped clock member

theorem StoppedBelow.allStopped {hardware : σ}
    (stopped : device.StoppedBelow device.clocks.length hardware) :
    device.AllStopped hardware := by
  intro clock member
  obtain ⟨number, found⟩ := List.getElem?_of_mem member
  exact stopped number (List.getElem?_eq_some_iff.mp found).1 clock found

theorem stilled_of_up {machine : Machine σ} (up : Up machine) : device.Stilled machine :=
  fun _ inactive => absurd up.1 inactive

theorem keeps_stilled_up {α : Type} {computation : DeviceM σ α}
    (kept : Keeps (fun _ => Up) (fun _ => True) computation) :
    Keeps (fun _ machine => device.Stilled machine ∧ Up machine) (fun _ => True) computation := by
  intro seen machine before
  obtain ⟨up, permitted⟩ := kept seen machine before.2
  exact ⟨⟨stilled_of_up up, up⟩, permitted⟩

theorem Stilled.kept {machine : Machine σ} (stilled : device.Stilled machine) {hardware : σ}
    (same : device.SameClocks machine.hardware hardware) :
    device.Stilled { machine with hardware } :=
  fun done inactive => (stilled done inactive).kept same

namespace StilledUnless

variable {seen : List Event} {machine : Machine σ}

theorem kept (stilled : device.StilledUnless seen machine) {hardware : σ}
    (same : device.SameClocks machine.hardware hardware) :
    device.StilledUnless seen { machine with hardware } :=
  stilled.imp_left fun stilled => stilled.kept same

theorem reported (stilled : device.StilledUnless seen machine) (event : Event) :
    device.StilledUnless (seen ++ [event]) machine :=
  stilled.imp_right fun started => by simp [started]

end StilledUnless

/-! ## Single steps -/

/-- A clock that is started is accounted for by the event that says so. -/
theorem keeps_start_stilled {number : Nat} (clock : Clock σ) :
    Keeps device.StilledUnless (fun _ => True) (clock.start number) := by
  cases clock with
  | fixed => exact keeps_pure ()
  | gate isRunning enable disable =>
      intro seen machine stilled
      refine ⟨?_, fun _ _ => trivial⟩
      cases running : isRunning machine.hardware with
      | true =>
          have outcome : (Clock.gate isRunning enable disable).start number machine =
              ⟨.ok (), [.clock number (.found true)], machine⟩ := by
            simp [Clock.start, look, bind_apply, running]
          rw [outcome]
          exact stilled.reported _
      | false =>
          have outcome : (Clock.gate isRunning enable disable).start number machine =
              ⟨.ok (), [.clock number (.found false), .clock number .enabled],
                { machine with hardware := enable machine.hardware }⟩ := by
            simp [Clock.start, look, DeviceM.change, onHardware, bind_apply, running]
          rw [outcome]
          exact .inr (by simp [Event.enables])

section Steps

variable (answer : device.ClocksAnswer)

include answer

theorem resists_stilled {tables : TableKind → Prop} {stages : Stage → Prop} :
    Resists device tables stages device.StilledUnless where
  read offset _ _ stilled := stilled.kept (answer.read offset _)
  write offset value _ _ stilled := stilled.kept (answer.write offset value _)
  prepared stage hook _ present _ _ stilled := stilled.kept (answer.prepare stage hook present _)
  ticked timer present _ _ stilled := stilled.kept (answer.tick timer present _)
  selected controller present state _ _ stilled :=
    stilled.kept (answer.select controller present state _)
  reported event _ _ _ stilled := stilled.reported event
  unresolved _ _ _ _ stilled := stilled.reported _

/-- No step but enabling a clock lets one run. -/
theorem steady_stilled :
    Steady device (fun _ => True) (fun _ => True) device.StilledUnless (fun _ => True) := by
  apply (resists_stilled answer).maintains.steady
  · intro _ number clock found
    apply keeps_stop fun action _ _ stilled => stilled.reported _
    intro isRunning enable disable same seen machine stilled
    subst same
    have owned := List.mem_of_getElem? found
    exact stilled.imp_left fun stilled done inactive clock member =>
      answer.disable isRunning enable disable owned _ clock member
        (stilled done inactive clock member)
  · exact fun number clock _ => keeps_start_stilled clock
  · intro _ number channel found
    exact keeps_pauseIfActive (fun _ _ _ stilled => stilled.reported _)
      (fun _ _ stilled => stilled.kept (answer.pause channel (mem_channels_of_tracked found) _))
      fun _ _ _ stilled => stilled
  · intro selected number channel found
    exact keeps_resumeIfPaused selected (fun _ _ _ stilled => stilled.reported _)
      (fun _ _ stilled => stilled.kept (answer.resume channel (mem_channels_of_tracked found) _))
      fun _ _ _ stilled => stilled

/-! ## Gating -/

/-- A clock that is stopped does not run, and neither do those before it. -/
theorem ends_stop {failed : Error → List Event → Machine σ → Prop} {number : Nat}
    {clock : Clock σ} (found : device.clocks[number]? = some clock) :
    Ends (fun _ machine => Up machine ∧ device.StoppedBelow number machine.hardware)
      (fun _ _ machine => Up machine ∧ device.StoppedBelow (number + 1) machine.hardware)
      failed (clock.stop number) := by
  have owned := List.mem_of_getElem? found
  have next {hardware : σ} (below : device.StoppedBelow number hardware)
      (off : clock.runs hardware = false) : device.StoppedBelow (number + 1) hardware := by
    intro other earlier otherClock otherFound
    rcases Nat.lt_succ_iff_lt_or_eq.mp earlier with before | same
    · exact below other before otherClock otherFound
    · subst same
      cases found.symm.trans otherFound
      exact off
  cases clock with
  | fixed => exact absurd owned answer.gates
  | gate isRunning enable disable =>
      intro seen machine before
      obtain ⟨up, below⟩ := before
      cases running : isRunning machine.hardware with
      | true =>
          have outcome : (Clock.gate isRunning enable disable).stop number machine =
              ⟨.ok (), [.clock number (.found true), .clock number .disabled],
                { machine with hardware := disable machine.hardware }⟩ := by
            simp [Clock.stop, look, DeviceM.change, onHardware, bind_apply, running]
          rw [outcome]
          refine ⟨up, next ?_ (answer.disabled isRunning enable disable owned _)⟩
          -- The clocks before it were stopped, and disabling this one lets none of them run.
          intro other earlier otherClock otherFound
          exact answer.disable isRunning enable disable owned _ otherClock
            (List.mem_of_getElem? otherFound) (below other earlier otherClock otherFound)
      | false =>
          have outcome : (Clock.gate isRunning enable disable).stop number machine =
              ⟨.ok (), [.clock number (.found false)], machine⟩ := by
            simp [Clock.stop, look, bind_apply, running]
          rw [outcome]
          exact ⟨up, next below running⟩

/-- Gating the clocks of an active device stops them all, unless the table for it fails. -/
theorem ends_gateClocks_stopped :
    Ends (fun _ => Up) (fun _ _ machine => Up machine ∧ device.AllStopped machine.hardware)
      (fun _ _ => Up) device.gateClocks := by
  have quieted := (device.steady_up.table .clockDisable trivial nofun).ends
  have stopped : Ends
      (fun _ machine => Up machine ∧ device.StoppedBelow 0 machine.hardware)
      (fun _ _ machine => Up machine ∧ device.StoppedBelow device.clocks.length machine.hardware)
      (fun _ _ => Up) (Clock.stopAll 0 device.clocks) :=
    ends_stopAll (fun count _ machine => Up machine ∧ device.StoppedBelow count machine.hardware)
      fun _ _ found => ends_stop answer found
  apply quieted.bind
  intro _
  apply stopped.weaken
  · exact fun _ _ up => ⟨up, nofun⟩
  · exact fun _ _ _ after => ⟨after.1, after.2.allStopped⟩
  · exact fun _ _ _ up => up

/-! ## Every transition -/

/-- A suspend that succeeds leaves the clocks stopped, and a request that fails does so unless it
has enabled one. -/
theorem phases_stilled :
    Phases device (fun _ => True) (fun _ => device.Stilled) device.StilledUnless := by
  have up := device.steady_up
  have steady := steady_stilled answer
  have fresh := device.steady_standing fun _ done => done = false
  have gated := ends_gateClocks_stopped answer
  have silenced (action : Action) :=
    (up.silence action trivial trivial trivial).ends.bind fun _ => gated
  have laidDown := (up.save trivial).ends.bind fun _ => (up.pins .suspend).ends.bind fun _ => gated
  have woken := (steady.wakeUp trivial trivial trivial trivial trivial trivial).ends
  have risen := (steady.getUp trivial trivial trivial trivial).ends
  exact {
    stopped := fun _ _ stilled => .inl stilled
    told := fun _ _ _ stilled => stilled
    toldFailed := fun _ _ _ stilled => stilled.reported _
    begun := (fresh.callback .firstResume trivial).ends.weaken (fun _ _ before => before.2.1)
      (fun _ _ _ _ => fun _ inactive => absurd rfl inactive)
      fun _ _ _ stopped => .inl fun done => by simp [stopped] at done
    prepared := keeps_stilled_up (up.prepareSuspend trivial)
    quieted := fun action => by
      rw [quiesce_eq]
      exact (silenced action).weaken (fun _ _ before => before.2) (fun _ _ _ after _ _ => after.2)
        fun _ _ _ stopped => ⟨stilled_of_up stopped, stopped⟩
    undone := fun paused => keeps_stilled_up (up.abortSuspend trivial paused)
    slept := laidDown.weaken (fun _ _ before => before.2) (fun _ _ _ after _ _ => after.2)
      fun _ _ _ stopped => .inl (stilled_of_up stopped)
    called := fun stage _ => keeps_stilled_up (up.callback stage trivial)
    used := keeps_stilled_up up.markBusy
    woken := woken.weaken (fun _ _ before => .inl before.1)
      (fun _ _ _ _ => fun _ inactive => absurd rfl inactive) fun _ _ _ stopped => stopped
    risen := risen.weaken (fun _ _ before => .inl before.1)
      (fun _ _ _ _ => fun _ inactive => absurd rfl inactive) fun _ _ _ stopped => stopped
    looked := device.keeps_usedRecently
      (fun timer present => keeps_act fun _ _ stilled =>
        stilled.kept (answer.tick timer present _))
      fun _ => keeps_emit fun _ _ stilled => stilled }

/-- Other requests let no clock run unless they enable it. -/
theorem keeps_plain_stilled {request : Request} (plain : request.isTransition = false) :
    Keeps device.StilledUnless (fun _ => True) (device.perform request) := by
  have resists : Resists device (fun _ => True) (fun _ => True) device.StilledUnless :=
    resists_stilled answer
  have steady : Steady device.unplugged (fun _ => True) (fun _ => True) device.StilledUnless
      (fun _ => True) :=
    resists.maintains.steady_unplugged (steady_stilled answer).stopClock
      (steady_stilled answer).startClock
  exact resists.keeps_plain (fun _ _ _ stilled => stilled.reported _) steady (fun _ _ => trivial)
    (fun _ => trivial) plain

/-- A device that is not asleep may have its clocks in any state before it is put to sleep. -/
theorem ends_suspend_awake {power : PowerState} (awake : power ≠ .systemSuspended) :
    Ends (fun _ machine => Begun machine ∧ machine.power = power)
      (fun _ _ machine => device.Stilled machine ∧ machine.firstResumeDone = true)
      (fun _ _ _ => True) device.suspend := by
  have remembered : Keeps (Throughout (fun _ => True) Begun) (fun _ => True)
      device.wakeBeforeSleep :=
    device.steady_begun.wakeBeforeSleep device.lasting_begun.runtimeResume
  have woken : Ends (fun _ machine => Begun machine ∧ machine.power = power)
      (fun _ _ machine => device.Stilled machine ∧ Up machine) (fun _ _ _ => True)
      device.wakeBeforeSleep := by
    apply (remembered.ends_sound.and (device.ends_wakeBeforeSleep_power awake)).weaken
    · exact fun _ _ before => before
    · intro _ _ machine after
      have up := after.1.up after.2
      exact ⟨stilled_of_up up, up⟩
    · exact fun _ _ _ _ => trivial
  have kept : Keeps (fun _ machine => machine.firstResumeDone = true) (fun _ => True)
      device.fallAsleep :=
    (device.steady_done.callback .suspend trivial).bind fun _ =>
      (device.steady_done.sleep suspendUses_all fun _ => keeps_update fun _ _ done => done).bind
        fun _ => (keeps_query _).bind fun _ => device.steady_done.news _ (by simp)
  have asleep := ((phases_stilled answer).ends_fallAsleep.and kept.ends).weaken
    (fun _ machine (before : device.Stilled machine ∧ Up machine) => ⟨before, before.2.2⟩)
    (fun _ _ _ after => after) fun _ _ _ _ => trivial
  apply ends_query_bind_of fun _ _ before => before.2
  rw [if_neg awake]
  exact woken.bind fun _ => asleep

end Steps

/-! ## One request to suspend -/

/-- The clocks run as they did, and none was switched or even looked at. -/
structure Untouched (device : Device σ) (before : Machine σ) (seen : List Event)
    (after : Machine σ) : Prop where
  power : after.power = before.power
  same : device.SameClocks before.hardware after.hardware
  unseen : ∀ number action, .clock number action ∉ seen

/-- A device that is suspended already is not suspended again. -/
theorem keeps_untouched
    (tick : ∀ timer, device.timer = some timer → ∀ hardware,
      device.SameClocks hardware (timer.now hardware).2)
    {request : Request} (suspends : device.suspends request = true) {machine : Machine σ}
    (asleep : request.findsAwake machine.power = false) :
    Keeps (device.Untouched machine) (fun _ => True) (device.perform request) := by
  -- The invariant carries the power state, which is all that a suspend goes by.
  have idle (inactive : machine.power ≠ .active) (action : Action) :
      Keeps (device.Untouched machine) (fun _ => True) (device.runtimeSuspendFor action) := by
    apply keeps_query_bind
    intro seen now untouched
    rw [untouched.power, if_neg inactive]
    exact keeps_pure ()
  cases request with
  | runtimeSuspend => exact keeps_answering (idle (by simpa [Request.findsAwake] using asleep) _)
  | autosuspend =>
      have looked : Keeps (device.Untouched machine) (fun _ => True) device.usedRecently := by
        apply device.keeps_usedRecently
        · intro timer present
          apply keeps_act
          intro seen now untouched
          refine ⟨untouched.power, fun clock member => ?_, untouched.unseen⟩
          exact (tick timer present now.hardware clock member).trans (untouched.same clock member)
        · intro reading
          apply keeps_emit
          intro seen now untouched
          exact ⟨untouched.power, untouched.same, by simpa using untouched.unseen⟩
      apply keeps_answering
      apply looked.bind
      intro recent
      split
      · exact keeps_fail trivial
      · exact idle (by simpa [Request.findsAwake] using asleep) .autosuspend
  | suspend =>
      have sleeping : machine.power = .systemSuspended := by
        simpa [Request.findsAwake] using asleep
      apply keeps_answering
      apply keeps_query_bind
      intro seen now untouched
      rw [untouched.power, if_pos sleeping]
      exact keeps_pure ()
  | _ => cases suspends

/-- A device is not active after a request to suspend that succeeds. -/
theorem inactive_of_suspends {request : Request} (suspends : device.suspends request = true)
    {machine : Machine σ} (inContext : device.SleepsInContext machine.power) {answer : Answer}
    (succeeded : (device.perform request machine).result = .ok answer) :
    (device.perform request machine).state.power ≠ .active := by
  have agrees := device.powerAgrees_perform inContext request
  rw [succeeded] at agrees
  cases request with
  | runtimeSuspend => exact agrees.1
  | autosuspend => exact agrees.1
  | suspend =>
      have asleep : (device.perform .suspend machine).state.power = device.sleepState := agrees
      rw [asleep, sleepState]
      simp only [Device.suspends, Bool.or_eq_true] at suspends
      grind
  | _ => cases suspends

section Suspends

variable (answer : device.ClocksAnswer)

include answer

/-- A request to suspend that has something to do and succeeds stops the clocks, whatever was
left running before. -/
theorem stilled_of_awake {request : Request} (suspends : device.suspends request = true)
    {machine : Machine σ} (begun : Begun machine)
    (awake : request.findsAwake machine.power = true) {value : Answer}
    (succeeded : (device.perform request machine).result = .ok value) :
    device.Stilled (device.perform request machine).state ∧
      (device.perform request machine).state.firstResumeDone = true := by
  have fromActive (active : machine.power = .active)
      (transition : request.isTransition = true) :
      device.Stilled (device.perform request machine).state ∧
        (device.perform request machine).state.firstResumeDone = true := by
    have up := begun.up active
    have ended := (phases_stilled answer).ends_transition transition
    have kept := device.lasting_firstResume.perform_any request
    exact ⟨ended.of_ok [] ⟨stilled_of_up up, begun, fun _ => trivial⟩ succeeded,
      state_of_keeps kept up.2⟩
  cases request with
  | runtimeSuspend => exact fromActive (by simpa [Request.findsAwake] using awake) rfl
  | autosuspend => exact fromActive (by simpa [Request.findsAwake] using awake) rfl
  | suspend =>
      -- The device may be suspended at run time here, with its clocks in any state.
      have notAsleep : machine.power ≠ .systemSuspended := by
        simpa [Request.findsAwake] using awake
      exact (ends_answering (ends_suspend_awake answer notAsleep)).of_ok [] ⟨begun, rfl⟩ succeeded
  | _ => cases suspends

/-! ## Every run -/

/-- Clocks that are stopped stay so, unless the request strands them. -/
theorem stilled_of_spared {machine : Machine σ} (begun : Begun machine)
    (stilled : device.Stilled machine) {request : Request}
    (spared : device.strands machine request = false) :
    device.Stilled (device.perform request machine).state := by
  cases transition : request.isTransition with
  | true =>
      have ended := (phases_stilled answer).ends_transition transition [] machine
        ⟨stilled, begun, fun _ => trivial⟩
      cases result : (device.perform request machine).result with
      | ok value =>
          rw [result] at ended
          exact ended
      | error error =>
          rw [result] at ended
          apply ended.resolve_right
          simpa [strands, result, transition, Except.isOk, Except.toBool] using spared
  | false =>
      apply (keeps_plain_stilled answer transition [] machine (.inl stilled)).1.resolve_right
      simpa [strands, transition] using spared

/-- A request that settles the clocks needs to know nothing about them. -/
theorem stilled_of_settles {machine : Machine σ} (begun : Begun machine) {request : Request}
    (settles : device.settles machine request = true) :
    device.Stilled (device.perform request machine).state := by
  simp only [Device.settles, Bool.or_eq_true, Bool.and_eq_true, beq_iff_eq] at settles
  rcases settles with active | ⟨⟨suspends, awake⟩, succeeded⟩
  · exact fun _ inactive => absurd active inactive
  · cases result : (device.perform request machine).result with
    | ok value => exact (stilled_of_awake answer suspends begun awake result).1
    | error error => simp [result, Except.isOk, Except.toBool] at succeeded

/-- No clock runs while the device is suspended or asleep, unless a request has stranded it. -/
theorem Course.stilled {stranded : Bool} {machine : Machine σ}
    (course : Course device stranded machine) (unstranded : stranded = false) :
    device.Stilled machine := by
  induction course with
  | initial hardware storage => exact nofun
  | changed hardware _ same ih => exact (ih unstranded).kept same
  | handler irqHeld _ ih => exact ih unstranded
  | asked request earlier ih =>
      have begun := device.begun_of_reachable earlier.reachable
      simp only [Bool.and_eq_false_iff, Bool.not_eq_false', Bool.or_eq_false_iff] at unstranded
      -- Either the request makes up for what came before, or there was nothing to make up for.
      rcases unstranded with settles | ⟨before, spared⟩
      · exact stilled_of_settles answer begun settles
      · exact stilled_of_spared answer begun (ih before) spared

end Suspends

/-- What a request to suspend that succeeds says about the clocks. It stops them if there is
something to do, and leaves them alone otherwise. In a run in which no clock is stranded, it
finds them stopped then. -/
structure Gated (device : Device σ) (stranded : Bool) (machine : Machine σ) (request : Request)
    (outcome : Outcome Error Event (Machine σ) Answer) : Prop where
  awake : request.findsAwake machine.power = true → device.AllStopped outcome.state.hardware
  asleep : request.findsAwake machine.power = false →
    device.Untouched machine outcome.events outcome.state
  unstranded : stranded = false → outcome.state.firstResumeDone = true →
    device.AllStopped outcome.state.hardware

/-- In every run, whatever fails in it, a suspend that succeeds stops all clocks of a device that
was active or, for system sleep, not asleep. Clocks that it finds suspended with the device run
only if a request has enabled them and failed since the device was last active. -/
theorem suspend_gates (device : Device σ) (answer : device.ClocksAnswer) {stranded : Bool}
    {machine : Machine σ} (course : device.Course stranded machine) {request : Request}
    (suspends : device.suspends request = true) {value : Answer}
    (succeeded : (device.perform request machine).result = .ok value) :
    device.Gated stranded machine request (device.perform request machine) := by
  have begun := device.begun_of_reachable course.reachable
  have inactive := inactive_of_suspends suspends
    (device.sleepsInContext_of_reachable course.reachable) succeeded
  exact {
    awake := fun awake => by
      obtain ⟨stilled, done⟩ := stilled_of_awake answer suspends begun awake succeeded
      exact stilled done inactive
    asleep := fun asleep =>
      (keeps_untouched answer.tick suspends asleep [] machine
        ⟨rfl, fun _ _ => rfl, by simp⟩).1
    unstranded := fun unstranded done => by
      have transition : request.isTransition = true := by
        cases request with
        | runtimeSuspend | autosuspend | suspend => rfl
        | _ => cases suspends
      have stilled := ((phases_stilled answer).ends_transition transition).of_ok []
        ⟨course.stilled answer unstranded, begun, fun _ => trivial⟩ succeeded
      exact stilled done inactive }

theorem selfClocked_sameClocks {before after : Bench.Board}
    (same : after.clocks = before.clocks) : Bench.Uart.selfClocked.SameClocks before after := by
  intro clock member
  cases List.mem_singleton.mp member
  change (after.clocks == [true]) = (before.clocks == [true])
  rw [same]

/-- The clock of the serial port answers to the port, and to nothing else on the board. -/
theorem selfClocked_clocksAnswer : Bench.Uart.selfClocked.ClocksAnswer where
  gates := by
    intro member
    cases List.mem_singleton.mp member
  disabled isRunning enable disable member hardware := by
    cases List.mem_singleton.mp member
    rfl
  disable isRunning enable disable member hardware clock other _ := by
    cases List.mem_singleton.mp member
    cases List.mem_singleton.mp other
    rfl
  read offset hardware := selfClocked_sameClocks rfl
  write offset value hardware := selfClocked_sameClocks rfl
  prepare stage hook present hardware := by
    cases stage <;> cases present <;> exact selfClocked_sameClocks rfl
  tick timer present hardware := by
    cases present
    exact selfClocked_sameClocks rfl
  select controller present state hardware := by
    cases present
    exact selfClocked_sameClocks rfl
  pause channel member hardware := by
    cases List.mem_singleton.mp member
    exact selfClocked_sameClocks rfl
  resume channel member hardware := by
    cases List.mem_singleton.mp member
    exact selfClocked_sameClocks rfl

/-- The serial port is active with its clock running, and suspends. Suspending it once more
finds the clock stopped. -/
theorem uart_suspend_gates :
    let port := Bench.Uart.selfClocked
    let active := Bench.Uart.selfClockedActive
    let first := port.perform .runtimeSuspend active
    let second := port.perform .runtimeSuspend first.state
    Bench.Uart.clock.runs active.hardware = true ∧
      first.result = .ok .done ∧ port.AllStopped first.state.hardware ∧
      second.result = .ok .done ∧ port.AllStopped second.state.hardware := by
  intro port active first second
  have resumed : port.Course _ active :=
    .asked .runtimeResume (.asked (.createContext Bench.Uart.template)
      (.initial Bench.Uart.board [0, 0, 0, 0]))
  have asleep : port.Course _ first.state := .asked .runtimeSuspend resumed
  have running : Bench.Uart.clock.runs active.hardware = true := by decide +kernel
  have succeeded : first.result = .ok .done := by decide +kernel
  have succeededAgain : second.result = .ok .done := by decide +kernel
  have awake : Request.runtimeSuspend.findsAwake active.power = true := by decide +kernel
  have done : second.state.firstResumeDone = true := by decide +kernel
  have gated : port.Gated _ active .runtimeSuspend first :=
    port.suspend_gates selfClocked_clocksAnswer resumed rfl succeeded
  have gatedAgain : port.Gated _ first.state .runtimeSuspend second :=
    port.suspend_gates selfClocked_clocksAnswer asleep rfl succeededAgain
  exact ⟨running, succeeded, gated.awake awake, succeededAgain,
    gatedAgain.unstranded (by decide +kernel) done⟩

/-- The callback of the serial port refuses to resume, which leaves the clock running that was
enabled for it. Suspending the port then succeeds and does nothing, as it counts as suspended. -/
theorem grudging_clock_left_running :
    let port := Bench.Uart.selfClocked
    let past := port.history
      [.asked (.createContext Bench.Uart.template), .asked .runtimeResume, .asked .runtimeSuspend,
        .asked .runtimeResume]
      (.initial Bench.Uart.grudging [0, 0, 0, 0])
    let outcome := port.perform .runtimeSuspend past.state
    port.ClocksAnswer ∧ past.state.firstResumeDone = true ∧ outcome.result = .ok .done ∧
      ∃ clock ∈ port.clocks, clock.runs outcome.state.hardware = true := by
  intro port past outcome
  have done : past.state.firstResumeDone = true := by decide +kernel
  have succeeded : outcome.result = .ok .done := by decide +kernel
  have running : Bench.Uart.clock.runs outcome.state.hardware = true := by decide +kernel
  exact ⟨selfClocked_clocksAnswer, done, succeeded, Bench.Uart.clock, List.mem_singleton.mpr rfl,
    running⟩

end Device

end DevicePower
