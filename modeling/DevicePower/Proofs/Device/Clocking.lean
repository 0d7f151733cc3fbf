import DevicePower.Proofs.Device.Resistance
import DevicePower.Proofs.Ending

/-!
# Clocks and accesses

A device whose clock has stopped does not answer, and an access to it may hang the bus. The
journal tells which clocks run: a clock is looked at before it is switched, and switching it is
reported. What the last such event tells is compared here with the clocks themselves, and with
the accesses that were made meanwhile.

A sweep over the clocks goes from one to the next. `Ticking` says how far it has come, so that
what holds at its end is what holds after each of its steps.
-/

namespace DevicePower

open DeviceM Traced

variable {σ : Type}

/-! ## Clocks and the journal -/

/-- Whether a clock runs. -/
def Clock.runs : Clock σ → σ → Bool
  | .gate isRunning _ _ => isRunning
  | .fixed => fun _ => true

/-- A clock runs after it was found running or was enabled. -/
def ClockAction.leavesRunning : ClockAction → Bool
  | .found running => running
  | .enabled => true
  | .disabled => false

/-- What the event tells about the clock with this number. -/
def Event.clockNews (number : Nat) : Event → Option Bool
  | .clock other action => if other = number then some action.leavesRunning else none
  | _ => none

/-- Whether the clock with this number runs after the events, by the last that tells of it. -/
def runsAfter (number : Nat) (atFirst : Bool) (events : List Event) : Bool :=
  (events.filterMap (Event.clockNews number)).getLast?.getD atFirst

theorem runsAfter_concat (number : Nat) (atFirst : Bool) (events : List Event) (event : Event) :
    runsAfter number atFirst (events ++ [event]) =
      (event.clockNews number).getD (runsAfter number atFirst events) := by
  cases news : event.clockNews number with
  | none => simp [runsAfter, List.filterMap_append, news]
  | some running => simp [runsAfter, List.filterMap_append, news]

theorem runsAfter_clock (number : Nat) (atFirst : Bool) (events : List Event)
    (action : ClockAction) :
    runsAfter number atFirst (events ++ [.clock number action]) = action.leavesRunning := by
  simp [runsAfter_concat, Event.clockNews]

/-- The event belongs to a table, to an access to a register, or to a callback. -/
def Event.touches : Event → Bool
  | .activity _ _ | .callbackCalled _ _ _ => true
  | _ => false

/-- The event belongs to the restore step: to the comparison of the registers with the context,
to the restore table or to the callback after it. -/
def Event.ofRestore : Event → Bool
  | .activity (.table kind) _ => kind == .contextCheck || kind == .restore
  | .activity (.callback stage) _ | .callbackCalled stage _ _ => stage == .restore
  | _ => false

namespace Device

/-- Every clock of the device runs. -/
def AllRun (device : Device σ) (hardware : σ) : Prop :=
  ∀ clock ∈ device.clocks, clock.runs hardware = true

/-- Every clock of the device runs after the events, by what they tell. -/
def AllRunAfter (device : Device σ) (start : σ) (events : List Event) : Prop :=
  ∀ number clock, device.clocks[number]? = some clock →
    runsAfter number (clock.runs start) events = true

/-- No clock has stopped in between. -/
def NoneStops (device : Device σ) (before after : σ) : Prop :=
  ∀ clock ∈ device.clocks, clock.runs before = true → clock.runs after = true

/-- The clocks that run are the same. -/
def SameClocks (device : Device σ) (before after : σ) : Prop :=
  ∀ clock ∈ device.clocks, clock.runs after = clock.runs before

/-- A clock runs once it was enabled, and no clock stops unless one is disabled. -/
structure ClocksObey (device : Device σ) : Prop where
  enabled : ∀ isRunning enable disable, .gate isRunning enable disable ∈ device.clocks →
    ∀ hardware, isRunning (enable hardware) = true
  enable : ∀ isRunning enable disable, .gate isRunning enable disable ∈ device.clocks →
    ∀ hardware, device.NoneStops hardware (enable hardware)
  read : ∀ offset hardware,
    device.NoneStops hardware (device.transport.read offset hardware).state
  write : ∀ offset value hardware,
    device.NoneStops hardware (device.transport.write offset value hardware).state
  prepare : ∀ stage hook, device.hooks.hook stage = some hook → ∀ hardware,
    device.NoneStops hardware (hook hardware).2
  tick : ∀ timer, device.timer = some timer → ∀ hardware,
    device.NoneStops hardware (timer.now hardware).2
  select : ∀ controller, device.pins = some controller → ∀ state hardware,
    device.NoneStops hardware (controller.select state hardware).2
  pause : ∀ channel ∈ device.channels, ∀ hardware,
    device.NoneStops hardware (channel.pause hardware)
  resume : ∀ channel ∈ device.channels, ∀ hardware,
    device.NoneStops hardware (channel.resume hardware)

/-- The hardware stays intact if it is touched only while all its clocks run. -/
structure IntactWhileRunning (device : Device σ) (intact : σ → Prop) : Prop where
  read : ∀ offset hardware, device.AllRun hardware → intact hardware →
    intact (device.transport.read offset hardware).state
  write : ∀ offset value hardware, device.AllRun hardware → intact hardware →
    intact (device.transport.write offset value hardware).state
  prepare : ∀ stage hook, device.hooks.hook stage = some hook → ∀ hardware,
    device.AllRun hardware → intact hardware → intact (hook hardware).2
  -- What does not touch the registers may be done at any time.
  enable : ∀ isRunning enable disable, .gate isRunning enable disable ∈ device.clocks →
    ∀ hardware, intact hardware → intact (enable hardware)
  disable : ∀ isRunning enable disable, .gate isRunning enable disable ∈ device.clocks →
    ∀ hardware, intact hardware → intact (disable hardware)
  tick : ∀ timer, device.timer = some timer → ∀ hardware, intact hardware →
    intact (timer.now hardware).2
  select : ∀ controller, device.pins = some controller → ∀ state hardware, intact hardware →
    intact (controller.select state hardware).2
  pause : ∀ channel ∈ device.channels, ∀ hardware, intact hardware →
    intact (channel.pause hardware)
  resume : ∀ channel ∈ device.channels, ∀ hardware, intact hardware →
    intact (channel.resume hardware)

/-- What touches the device is guarded by its clocks: all of them run, or restoring is
excused. -/
def ClocksGuard (device : Device σ) (start : σ) (excused : Prop) (before : List Event)
    (event : Event) : Prop :=
  event.touches = true → device.AllRunAfter start before ∨ excused ∧ event.ofRestore = true

/-- Every access was guarded by the clocks, and the clocks run that do so by the journal. -/
structure Accounted (device : Device σ) (start : σ) (excused : Prop) (seen : List Event)
    (hardware : σ) : Prop where
  guarded : Guarded (device.ClocksGuard start excused) seen
  sound : ∀ number clock, device.clocks[number]? = some clock →
    runsAfter number (clock.runs start) seen = true → clock.runs hardware = true

/-- No clock was stopped so far, and the first `count` clocks run. -/
structure Ticking (device : Device σ) (start : σ) (excused : Prop) (count : Nat)
    (seen : List Event) (hardware : σ) : Prop
    extends Accounted device start excused seen hardware where
  unstopped : ∀ number, .clock number .disabled ∉ seen
  fixed : ∀ number, device.clocks[number]? = some .fixed → runsAfter number true seen = true
  running : ∀ number < count, ∀ clock, device.clocks[number]? = some clock →
    runsAfter number (clock.runs start) seen = true

variable {device : Device σ} {start : σ} {excused : Prop} {intact : σ → Prop}

theorem SameClocks.refl (hardware : σ) : device.SameClocks hardware hardware :=
  fun _ _ => rfl

theorem SameClocks.symm {before after : σ} (same : device.SameClocks before after) :
    device.SameClocks after before :=
  fun clock owned => (same clock owned).symm

theorem SameClocks.trans {first second third : σ} (same : device.SameClocks first second)
    (again : device.SameClocks second third) : device.SameClocks first third :=
  fun clock owned => (again clock owned).trans (same clock owned)

/-- All clocks run in both states. -/
theorem AllRun.sameClocks {before after : σ} (first : device.AllRun before)
    (second : device.AllRun after) : device.SameClocks before after :=
  fun clock owned => (second clock owned).trans (first clock owned).symm

/-- What is no dealing with a clock tells nothing about one. -/
theorem runsAfter_other {event : Event} (unrelated : ∀ number action, event ≠ .clock number action)
    (number : Nat) (atFirst : Bool) (seen : List Event) :
    runsAfter number atFirst (seen ++ [event]) = runsAfter number atFirst seen := by
  rw [runsAfter_concat]
  cases event with
  | clock other action => exact absurd rfl (unrelated other action)
  | _ => rfl

namespace Accounted

variable {seen : List Event} {hardware : σ}

theorem other (accounted : Accounted device start excused seen hardware) {event : Event}
    (unrelated : ∀ number action, event ≠ .clock number action)
    (guard : device.ClocksGuard start excused seen event) :
    Accounted device start excused (seen ++ [event]) hardware where
  guarded := guarded_concat_iff.mpr ⟨accounted.guarded, guard⟩
  sound number clock found := by
    rw [runsAfter_other unrelated]
    exact accounted.sound number clock found

end Accounted

namespace Ticking

variable {count : Nat} {seen : List Event} {hardware : σ}

/-- A device is ready before anything has happened if enough of its clocks run. -/
theorem initial (running : ∀ number < count, ∀ clock, device.clocks[number]? = some clock →
    clock.runs start = true) : Ticking device start excused count [] start where
  guarded := guarded_nil
  sound _ _ _ runs := runs
  unstopped := nofun
  fixed _ _ := rfl
  running := running

theorem mono (ticking : Ticking device start excused count seen hardware) {fewer : Nat}
    (less : fewer ≤ count) : Ticking device start excused fewer seen hardware :=
  { ticking with
    running := fun number below => ticking.running number (Nat.lt_of_lt_of_le below less) }

theorem allRunAfter (ticking : Ticking device start excused device.clocks.length seen hardware) :
    device.AllRunAfter start seen := fun number clock found =>
  ticking.running number (List.getElem?_eq_some_iff.mp found).1 clock found

theorem allRun (ticking : Ticking device start excused device.clocks.length seen hardware) :
    device.AllRun hardware := by
  intro clock member
  obtain ⟨number, found⟩ := List.getElem?_of_mem member
  exact ticking.sound number clock found (ticking.allRunAfter number clock found)

theorem other (ticking : Ticking device start excused count seen hardware) {event : Event}
    (unrelated : ∀ number action, event ≠ .clock number action)
    (guard : device.ClocksGuard start excused seen event) :
    Ticking device start excused count (seen ++ [event]) hardware where
  toAccounted := ticking.toAccounted.other unrelated guard
  unstopped number member := by
    rcases List.mem_append.mp member with old | new
    · exact ticking.unstopped number old
    · exact unrelated number .disabled (List.mem_singleton.mp new).symm
  fixed number found := by
    rw [runsAfter_other unrelated]
    exact ticking.fixed number found
  running number below clock found := by
    rw [runsAfter_other unrelated]
    exact ticking.running number below clock found

theorem changed (ticking : Ticking device start excused count seen hardware) {after : σ}
    (noneStops : device.NoneStops hardware after) :
    Ticking device start excused count seen after :=
  { ticking with
    sound := fun number clock found runs =>
      noneStops clock (List.mem_of_getElem? found) (ticking.sound number clock found runs) }

/-- A clock that runs still does after it was dealt with in a way that leaves it running. -/
theorem runsAfter_dealt {number other : Nat} {action : ClockAction} {atFirst : Bool}
    (before : runsAfter other atFirst seen = true)
    (kept : other = number → action.leavesRunning = true) :
    runsAfter other atFirst (seen ++ [.clock number action]) = true := by
  rw [runsAfter_concat, Event.clockNews]
  split
  next same => exact kept same.symm
  next => exact before

/-- One more dealing with a clock, which is as the event tells afterwards. -/
theorem dealt (ticking : Ticking device start excused count seen hardware) {number : Nat}
    {clock : Clock σ} (found : device.clocks[number]? = some clock) {action : ClockAction}
    {after : σ} (noneStops : device.NoneStops hardware after)
    (right : clock.runs after = action.leavesRunning) (unstopped : action ≠ .disabled) :
    Ticking device start excused count (seen ++ [.clock number action]) after where
  guarded := guarded_concat_iff.mpr ⟨ticking.guarded, nofun⟩
  sound other otherClock otherFound := by
    rw [runsAfter_concat, Event.clockNews]
    split
    next same =>
      subst same
      cases found.symm.trans otherFound
      exact fun told => right.trans told
    next => exact (ticking.changed noneStops).sound other otherClock otherFound
  unstopped other member := by
    rcases List.mem_append.mp member with old | new
    · exact ticking.unstopped other old
    · cases List.mem_singleton.mp new
      exact unstopped rfl
  fixed other otherFound := by
    apply runsAfter_dealt (ticking.fixed other otherFound)
    rintro rfl
    cases found.symm.trans otherFound
    exact right.symm
  running other below otherClock otherFound := by
    have before := ticking.running other below otherClock otherFound
    apply runsAfter_dealt before
    rintro rfl
    cases found.symm.trans otherFound
    rw [← right]
    exact (ticking.changed noneStops).sound other clock found before

/-- One more clock runs. -/
theorem succ (ticking : Ticking device start excused count seen hardware) {clock : Clock σ}
    (found : device.clocks[count]? = some clock)
    (runs : runsAfter count (clock.runs start) seen = true) :
    Ticking device start excused (count + 1) seen hardware :=
  { ticking with
    running := fun number below other otherFound => by
      rcases Nat.lt_succ_iff_lt_or_eq.mp below with earlier | rfl
      · exact ticking.running number earlier other otherFound
      · cases found.symm.trans otherFound
        exact runs }

end Ticking

/-! ## Starting and stopping clocks -/

/-- A clock that is started runs, and so do all others that ran before. -/
theorem Ticking.started (obey : device.ClocksObey) (spares : device.IntactWhileRunning intact)
    {count number : Nat} {clock : Clock σ} (found : device.clocks[number]? = some clock)
    {seen : List Event} {machine : Machine σ}
    (ticking : Ticking device start excused count seen machine.hardware)
    (holds : intact machine.hardware) :
    ∃ events hardware,
      clock.start number machine = ⟨.ok (), events, { machine with hardware }⟩ ∧
        Ticking device start excused count (seen ++ events) hardware ∧ intact hardware ∧
        runsAfter number (clock.runs start) (seen ++ events) = true := by
  cases clock with
  | fixed =>
      refine ⟨[], machine.hardware, rfl, ?_⟩
      rw [List.append_nil]
      exact ⟨ticking, holds, ticking.fixed number found⟩
  | gate isRunning enable disable =>
      have owned := List.mem_of_getElem? found
      cases running : isRunning machine.hardware with
      | true =>
          refine ⟨[.clock number (.found true)], machine.hardware, ?_, ?_, holds, ?_⟩
          · simp [Clock.start, look, bind_apply, running]
          · exact ticking.dealt found (fun _ _ runs => runs) running nofun
          · exact runsAfter_clock number _ seen (.found true)
      | false =>
          refine ⟨[.clock number (.found false), .clock number .enabled],
            enable machine.hardware, ?_, ?_, ?_, ?_⟩
          · simp [Clock.start, look, DeviceM.change, onHardware, bind_apply, running]
          · have looked : Ticking device start excused count
                (seen ++ [.clock number (.found false)]) machine.hardware :=
              ticking.dealt found (fun _ _ runs => runs) running nofun
            have enabled : Ticking device start excused count
                (seen ++ [.clock number (.found false)] ++ [.clock number .enabled])
                (enable machine.hardware) :=
              looked.dealt found (obey.enable isRunning enable disable owned _)
                (obey.enabled isRunning enable disable owned _) nofun
            rwa [List.append_assoc] at enabled
          · exact spares.enable isRunning enable disable owned _ holds
          · rw [List.append_cons]
            exact runsAfter_clock number _ _ .enabled

/-- Every access was guarded by the clocks, and the first `count` clocks were stopped if they
can be. -/
structure Stopping (device : Device σ) (start : σ) (excused : Prop) (count : Nat)
    (seen : List Event) : Prop where
  guarded : Guarded (device.ClocksGuard start excused) seen
  stopped : ∀ number < count, ∀ isRunning enable disable,
    device.clocks[number]? = some (.gate isRunning enable disable) →
      runsAfter number (isRunning start) seen = false

namespace Stopping

variable {count : Nat} {seen : List Event}

/-- A clock that is dealt with makes no difference to those before it. -/
theorem dealt (stopping : Stopping device start excused count seen) (action : ClockAction) :
    Stopping device start excused count (seen ++ [.clock count action]) where
  guarded := guarded_concat_iff.mpr ⟨stopping.guarded, nofun⟩
  stopped number below isRunning enable disable found := by
    rw [runsAfter_concat, Event.clockNews, if_neg (Nat.ne_of_gt below)]
    exact stopping.stopped number below isRunning enable disable found

/-- One more clock does not run. -/
theorem succ (stopping : Stopping device start excused count seen)
    (off : ∀ isRunning enable disable,
      device.clocks[count]? = some (.gate isRunning enable disable) →
        runsAfter count (isRunning start) seen = false) :
    Stopping device start excused (count + 1) seen :=
  { stopping with
    stopped := fun number below isRunning enable disable found => by
      rcases Nat.lt_succ_iff_lt_or_eq.mp below with earlier | rfl
      · exact stopping.stopped number earlier isRunning enable disable found
      · exact off isRunning enable disable found }

theorem stopped_next (spares : device.IntactWhileRunning intact)
    (stopping : Stopping device start excused count seen) {clock : Clock σ}
    (found : device.clocks[count]? = some clock) {machine : Machine σ}
    (holds : intact machine.hardware) :
    ∃ events hardware,
      clock.stop count machine = ⟨.ok (), events, { machine with hardware }⟩ ∧
        Stopping device start excused (count + 1) (seen ++ events) ∧ intact hardware := by
  cases clock with
  | fixed =>
      refine ⟨[], machine.hardware, rfl, ?_, holds⟩
      rw [List.append_nil]
      exact stopping.succ fun _ _ _ other => nomatch found.symm.trans other
  | gate isRunning enable disable =>
      have looked (running : Bool) := stopping.dealt (.found running)
      cases running : isRunning machine.hardware with
      | true =>
          refine ⟨[.clock count (.found true), .clock count .disabled],
            disable machine.hardware, ?_, ?_, ?_⟩
          · simp [Clock.stop, look, DeviceM.change, onHardware, bind_apply, running]
          · rw [List.append_cons]
            apply ((looked true).dealt .disabled).succ
            exact fun _ _ _ _ => runsAfter_clock count _ _ .disabled
          · have owned := List.mem_of_getElem? found
            exact spares.disable isRunning enable disable owned _ holds
      | false =>
          refine ⟨[.clock count (.found false)], machine.hardware, ?_, ?_, holds⟩
          · simp [Clock.stop, look, bind_apply, running]
          · apply (looked false).succ
            exact fun _ _ _ _ => runsAfter_clock count _ _ (.found false)

/-- A journal that tells of no clock that runs but of those that always do is right. -/
theorem accounted (stopping : Stopping device start excused device.clocks.length seen)
    (hardware : σ) : Accounted device start excused seen hardware where
  guarded := stopping.guarded
  sound number clock found runs := by
    cases clock with
    | fixed => rfl
    | gate isRunning enable disable =>
        have known : number < device.clocks.length := (List.getElem?_eq_some_iff.mp found).1
        have off := stopping.stopped number known isRunning enable disable found
        exact absurd runs (by simp [Clock.runs, off])

end Stopping

/-- A sweep over the clocks goes from one to the next. -/
theorem ends_sweep {step : Nat → Clock σ → DeviceM σ Unit}
    {sweep : Nat → List (Clock σ) → DeviceM σ Unit}
    (sweep_nil : ∀ number, sweep number [] = pure ())
    (sweep_cons : ∀ number clock rest,
      sweep number (clock :: rest) = (do step number clock; sweep (number + 1) rest))
    {reached : Nat → List Event → Machine σ → Prop}
    {failed : Error → List Event → Machine σ → Prop}
    (next : ∀ number clock, device.clocks[number]? = some clock →
      Ends (reached number) (fun _ => reached (number + 1)) failed (step number clock)) :
    Ends (reached 0) (fun _ => reached device.clocks.length) failed (sweep 0 device.clocks) := by
  suffices swept : ∀ (clocks : List (Clock σ)) (number : Nat),
      (∀ index clock, clocks[index]? = some clock →
        device.clocks[number + index]? = some clock) →
      Ends (reached number) (fun _ => reached (number + clocks.length)) failed
        (sweep number clocks) by
    have whole := swept device.clocks 0 fun index clock found => by rwa [Nat.zero_add]
    rwa [Nat.zero_add] at whole
  intro clocks
  induction clocks with
  | nil =>
      intro number _
      rw [sweep_nil]
      exact ends_pure fun _ _ holds => holds
  | cons clock rest ih =>
      intro number numbered
      rw [sweep_cons, List.length_cons, Nat.add_comm rest.length 1, ← Nat.add_assoc]
      exact (next number clock (numbered 0 clock rfl)).bind fun _ =>
        ih (number + 1) (Steady.numbered_rest numbered)

theorem ends_startAll (reached : Nat → List Event → Machine σ → Prop)
    {failed : Error → List Event → Machine σ → Prop}
    (next : ∀ number clock, device.clocks[number]? = some clock →
      Ends (reached number) (fun _ => reached (number + 1)) failed (clock.start number)) :
    Ends (reached 0) (fun _ => reached device.clocks.length) failed
      (Clock.startAll 0 device.clocks) :=
  ends_sweep (fun _ => rfl) (fun _ _ _ => rfl) next

theorem ends_stopAll (reached : Nat → List Event → Machine σ → Prop)
    {failed : Error → List Event → Machine σ → Prop}
    (next : ∀ number clock, device.clocks[number]? = some clock →
      Ends (reached number) (fun _ => reached (number + 1)) failed (clock.stop number)) :
    Ends (reached 0) (fun _ => reached device.clocks.length) failed
      (Clock.stopAll 0 device.clocks) :=
  ends_sweep (fun _ => rfl) (fun _ _ _ => rfl) next

/-! ## The steps of a device -/

/-- The first `count` clocks run, the hardware is intact, and the device is where it was in its
power cycle. -/
def TickingAt (device : Device σ) (start : σ) (excused : Prop) (intact : σ → Prop)
    (power : PowerState) (done : Bool) (count : Nat) (seen : List Event) (machine : Machine σ) :
    Prop :=
  Ticking device start excused count seen machine.hardware ∧ intact machine.hardware ∧
    machine.power = power ∧ machine.firstResumeDone = done

/-- All clocks run, and the device is where it was in its power cycle. -/
abbrev Awake (device : Device σ) (start : σ) (excused : Prop) (intact : σ → Prop)
    (power : PowerState) (done : Bool) : List Event → Machine σ → Prop :=
  TickingAt device start excused intact power done device.clocks.length

section Steps

variable {power : PowerState} {done : Bool} {count : Nat}

theorem TickingAt.mono {seen : List Event} {machine : Machine σ}
    (ticking : TickingAt device start excused intact power done count seen machine) {fewer : Nat}
    (less : fewer ≤ count) :
    TickingAt device start excused intact power done fewer seen machine :=
  ⟨ticking.1.mono less, ticking.2⟩

/-- An event that does not touch the device makes no difference. -/
theorem TickingAt.other {seen : List Event} {machine : Machine σ}
    (ticking : TickingAt device start excused intact power done count seen machine)
    {event : Event} (unrelated : ∀ number action, event ≠ .clock number action)
    (guard : device.ClocksGuard start excused seen event) :
    TickingAt device start excused intact power done count (seen ++ [event]) machine :=
  ⟨ticking.1.other unrelated guard, ticking.2⟩

variable (obey : device.ClocksObey) (spares : device.IntactWhileRunning intact)

include obey spares

section Covered

variable {tables : TableKind → Prop} {stages : Stage → Prop}
variable (covered : ∀ (event : Event) (machine : Machine σ),
  event.Within device machine tables stages → event.touches = true →
    device.clocks.length ≤ count ∨ excused ∧ event.ofRestore = true)
variable (known : device.clocks.length ≤ count ∨ ∀ hardware, intact hardware)

include covered known

/-- No access stops a clock, or does harm while all clocks run. It is guarded if all clocks run,
or if it is excused. -/
theorem resists_ticking :
    Resists device tables stages (TickingAt device start excused intact power done count) := by
  have endures {seen : List Event} {machine : Machine σ} {after : σ}
      (ticking : TickingAt device start excused intact power done count seen machine)
      (spared : device.AllRun machine.hardware → intact machine.hardware → intact after) :
      intact after := by
    rcases known with all | harmless
    · exact spared (ticking.1.mono all).allRun ticking.2.1
    · exact harmless after
  exact {
    read := fun offset _ _ ticking =>
      ⟨ticking.1.changed (obey.read offset _), endures ticking (spares.read offset _), ticking.2.2⟩
    write := fun offset value _ _ ticking =>
      ⟨ticking.1.changed (obey.write offset value _),
        endures ticking (spares.write offset value _), ticking.2.2⟩
    prepared := fun stage hook _ present _ _ ticking =>
      ⟨ticking.1.changed (obey.prepare stage hook present _),
        endures ticking (spares.prepare stage hook present _), ticking.2.2⟩
    ticked := fun timer present _ _ ticking =>
      ⟨ticking.1.changed (obey.tick timer present _),
        spares.tick timer present _ ticking.2.1, ticking.2.2⟩
    selected := fun controller present state _ _ ticking =>
      ⟨ticking.1.changed (obey.select controller present state _),
        spares.select controller present state _ ticking.2.1, ticking.2.2⟩
    reported := fun event _ machine within ticking => by
      apply ticking.other within.ne_clock
      intro touching
      rcases covered event machine within touching with all | restoring
      · exact .inl (ticking.1.mono all).allRunAfter
      · exact .inr restoring
    unresolved := fun _ _ _ _ ticking => ticking.other nofun nofun }

/-- No step but stopping a clock stops one. -/
theorem steady_ticking (unstopping : ¬tables .clockDisable) :
    Steady device tables stages (TickingAt device start excused intact power done count)
      (fun _ => True) := by
  apply (resists_ticking obey spares covered known).maintains.steady
  · exact fun disabling => absurd disabling unstopping
  · rintro number clock found seen machine ⟨ticking, holds, here⟩
    obtain ⟨events, hardware, outcome, after, held, -⟩ := ticking.started obey spares found holds
    rw [outcome]
    exact ⟨⟨after, held, here⟩, fun _ _ => trivial⟩
  · intro _ number channel found
    have owned := mem_channels_of_tracked found
    apply keeps_pauseIfActive
    · exact fun _ _ _ ticking => ticking.other nofun nofun
    · exact fun _ _ ticking => ⟨ticking.1.changed (obey.pause channel owned _),
        spares.pause channel owned _ ticking.2.1, ticking.2.2⟩
    · exact fun _ _ _ ticking => ticking
  · intro selected number channel found
    have owned := mem_channels_of_tracked found
    apply keeps_resumeIfPaused
    · exact fun _ _ _ ticking => ticking.other nofun nofun
    · exact fun _ _ ticking => ⟨ticking.1.changed (obey.resume channel owned _),
        spares.resume channel owned _ ticking.2.1, ticking.2.2⟩
    · exact fun _ _ _ ticking => ticking

end Covered

/-- While all clocks run, any table and any callback may be run, but clocks may not be gated. -/
theorem steady_awake :
    Steady device (fun kind => kind ≠ .clockDisable) (fun _ => True)
      (Awake device start excused intact power done) (fun _ => True) :=
  steady_ticking obey spares (fun _ _ _ _ => .inl (Nat.le_refl _)) (.inl (Nat.le_refl _))
    (by simp)

/-- All clocks run before the table for starting does, and even if it fails. -/
theorem ends_ungateClocks :
    Ends (TickingAt device start excused intact power done count)
      (fun _ => Awake device start excused intact power done)
      (fun _ => Awake device start excused intact power done) device.ungateClocks := by
  have swept : Ends (TickingAt device start excused intact power done 0)
      (fun _ => Awake device start excused intact power done)
      (fun _ => Awake device start excused intact power done)
      (Clock.startAll 0 device.clocks) := by
    apply ends_startAll (TickingAt device start excused intact power done)
    rintro number clock found seen machine ⟨ticking, holds, here⟩
    obtain ⟨events, hardware, outcome, after, held, runs⟩ :=
      ticking.started obey spares found holds
    rw [outcome]
    exact ⟨after.succ found runs, held, here⟩
  have started := swept.given fun seen machine
      (ticking : TickingAt device start excused intact power done count seen machine) =>
    ticking.mono (Nat.zero_le _)
  exact started.bind fun _ =>
    ((steady_awake obey spares).table .clockEnable (by decide) (by decide)).ends

/-- The table for stopping runs while all clocks do, and nothing is stopped if it fails. -/
theorem ends_gateClocks :
    Ends (Awake device start excused intact power done)
      (fun _ seen machine => Accounted device start excused seen machine.hardware ∧
        intact machine.hardware ∧ machine.power = power ∧ machine.firstResumeDone = done)
      (fun _ => Awake device start excused intact power done) device.gateClocks := by
  have resists : Resists device (fun _ => True) (fun _ => True)
      (Awake device start excused intact power done) :=
    resists_ticking obey spares (fun _ _ _ _ => .inl (Nat.le_refl _)) (.inl (Nat.le_refl _))
  have disabled : Keeps (Awake device start excused intact power done) (fun _ => True)
      (device.runDriverTable .clockDisable) :=
    resists.maintains.keeps_runDriverTable trivial (by decide)
  have swept : Ends
      (fun seen machine => Stopping device start excused 0 seen ∧ intact machine.hardware ∧
        machine.power = power ∧ machine.firstResumeDone = done)
      (fun _ seen machine => Stopping device start excused device.clocks.length seen ∧
        intact machine.hardware ∧ machine.power = power ∧ machine.firstResumeDone = done)
      (fun _ => Awake device start excused intact power done)
      (Clock.stopAll 0 device.clocks) := by
    apply ends_stopAll fun count seen machine => Stopping device start excused count seen ∧
      intact machine.hardware ∧ machine.power = power ∧ machine.firstResumeDone = done
    rintro number clock found seen machine ⟨stopping, holds, here⟩
    obtain ⟨events, hardware, outcome, after, held⟩ := stopping.stopped_next spares found holds
    rw [outcome]
    exact ⟨after, held, here⟩
  refine disabled.ends.bind fun _ => swept.weaken ?_ ?_ fun _ _ _ holds => holds
  · exact fun seen machine ticking => ⟨⟨ticking.1.guarded, nofun⟩, ticking.2⟩
  · exact fun _ seen machine holds => ⟨holds.1.accounted machine.hardware, holds.2⟩

end Steps

theorem intactWhileRunning_true (device : Device σ) :
    device.IntactWhileRunning fun _ => True := by
  constructor <;> intros <;> trivial

/-- Restoring need not wait for the clocks, and does no harm. -/
def RestoresAnyway (device : Device σ) (excused : Prop) (intact : σ → Prop) : Prop :=
  excused ∧ Keeps (fun _ machine => intact machine.hardware) (fun _ => True) device.restore

theorem keeps_restore_ticking (obey : device.ClocksObey)
    (anyway : device.RestoresAnyway excused intact) (power : PowerState) (done : Bool)
    (count : Nat) :
    Keeps (TickingAt device start excused intact power done count) (fun _ => True)
      device.restore := by
  have steady : Steady device (fun kind => kind = .contextCheck ∨ kind = .restore)
      (fun stage => stage = .restore)
      (TickingAt device start excused (fun _ => True) power done count) (fun _ => True) := by
    apply steady_ticking obey device.intactWhileRunning_true _ (.inr fun _ => trivial) (by simp)
    intro event machine within touching
    refine .inr ⟨anyway.1, ?_⟩
    cases event with
    | activity origin _ =>
        cases origin with
        | table kind => rcases within with rfl | rfl <;> rfl
        | pendingStatus => rcases within with same | same <;> cases same
        | request => exact within.elim
        | callback stage =>
            cases within
            rfl
    | callbackCalled stage _ _ =>
        cases within.1
        rfl
    | _ => cases touching
  have both := (steady.restore (.inl rfl) (.inr rfl) rfl).and anyway.2
  rintro seen machine ⟨ticking, holds, here⟩
  obtain ⟨⟨⟨after, -, there⟩, held⟩, permitted⟩ :=
    both seen machine ⟨⟨ticking, trivial, here⟩, holds⟩
  exact ⟨⟨after, held, there⟩, permitted⟩

end Device

end DevicePower
