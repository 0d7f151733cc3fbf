import DevicePower.Bench.Cells
import DevicePower.Proofs.Device.Lockstep
import DevicePower.Proofs.Device.Marks
import DevicePower.Proofs.Timer

/-!
# The delay of an autosuspend

An autosuspend is refused until the delay of the driver has passed since the device was last in use.
Both moments are readings of a counter that wraps around. This module counts the time without
wrapping, and shows that an autosuspend decides as if it could see that number, as long as the
counter has not come round since the last mark: it is refused while the delay lasts, with nothing
done but the reading, and is a runtime suspend from then on, and always for a device that was never
marked.

It differs from a runtime suspend in the pins alone. So the two are compared on two devices, of
which one maps a suspend to the pins that the other has for an autosuspend; what is left is the
name of the action in what is told about pins.
-/

namespace DevicePower

open DeviceM Traced

/-! ## Renaming what is reported -/

namespace Traced

variable {ε ε' η θ σ α β : Type} (rename : η → θ)

theorem relabel_bind (first : Traced ε η σ α) (next : α → Traced ε η σ β) :
    (first >>= next).relabel rename =
      (first.relabel rename >>= fun value => (next value).relabel rename) := by
  funext state
  cases ended : (first state).result with
  | error error =>
      rw [relabel_apply, bind_of_error ended, bind_of_error (by rw [relabel_apply, ended])]
      rfl
  | ok value =>
      rw [relabel_apply, bind_of_ok ended, bind_of_ok (by rw [relabel_apply, ended])]
      simp

theorem relabel_attempt (computation : Traced ε η σ α) :
    (computation.attempt : Traced ε' η σ _).relabel rename =
      (computation.relabel rename).attempt := rfl

/-- Nothing changes if no event that is reported has another name. -/
theorem relabel_eq_self {rename : η → η} {computation : Traced ε η σ α}
    (same : ∀ state, ∀ event ∈ (computation state).events, rename event = event) :
    computation.relabel rename = computation := by
  funext state
  have kept : (computation state).events.map rename = (computation state).events :=
    (List.map_congr_left (same state)).trans (List.map_id _)
  rw [relabel_apply, kept]

end Traced

variable {σ α : Type}

/-- The event as it is reported for an autosuspend: the action is named in what is told about pins
for which there is no state. -/
def Event.forAutosuspend : Event → Event
  | .note (.device name (.noPinState .suspend error)) =>
      .note (.device name (.noPinState .autosuspend error))
  | event => event

namespace Device

variable (device : Device σ)

/-- The device with the pins for an autosuspend taken for those of a suspend. -/
def autosuspendPinned : Device σ :=
  device.repinned device.pins
    { device.driver.pins with suspend := device.driver.pins.autosuspend }

/-- Nothing but a selection of pins tells of an action, so a device without pins tells of none. -/
theorem steady_unnamed :
    Steady (device.repinned none .unchanged) (fun _ => True) (fun _ => True)
      (Throughout (fun event => event.forAutosuspend = event) fun _ => True) (fun _ => True) := by
  have upkeep : Upkeep (device.repinned none .unchanged) (fun _ => True) (fun _ => True)
      (fun event => event.forAutosuspend = event) (fun _ => True) (fun _ => True) := {
    run := fun _ _ _ _ _ _ _ _ => ⟨trivial, fun _ _ => trivial⟩
    differs := fun _ _ _ _ _ _ => ⟨trivial, fun _ _ => trivial⟩
    status := fun _ _ _ _ _ _ _ _ => ⟨trivial, fun _ _ => trivial⟩
    program := fun _ _ _ _ _ _ _ _ _ _ => ⟨trivial, fun _ _ => trivial⟩
    news := by
      intro news plain
      cases news with
      | noPinState action error => exact absurd rfl (plain action error)
      | _ => rfl
    unresolved := by
      intro machine action reason _ failed
      cases action <;> cases failed }
  exact upkeep.steady

theorem unnamed {computation : DeviceM σ α}
    (kept : Keeps (Throughout (fun event => event.forAutosuspend = event) fun _ => True)
      (fun _ => True) computation) :
    computation.relabel Event.forAutosuspend = computation :=
  relabel_eq_self fun machine => (keeps_throughout_iff.mp kept machine trivial).1

theorem withIrqLock_relabel (computation : DeviceM σ α) :
    (device.withIrqLock computation).relabel Event.forAutosuspend =
      device.withIrqLock (computation.relabel Event.forAutosuspend) := by
  funext machine
  have taken : (device.lockTaken machine).map Event.forAutosuspend = device.lockTaken machine := by
    rw [lockTaken]
    split <;> rfl
  have released : device.lockReleased.map Event.forAutosuspend = device.lockReleased := by
    rw [lockReleased]
    split <;> rfl
  rw [relabel_apply, withIrqLock_apply, withIrqLock_apply]
  simp only [List.map_append, taken, released, relabel_apply]

/-- The pins of one device for a suspend are those of the other for an autosuspend. -/
theorem selectPins_autosuspend :
    (device.autosuspendPinned.selectPins .suspend).relabel Event.forAutosuspend =
      device.selectPins .autosuspend := by
  funext machine
  rw [relabel_apply, selectPins, selectPins]
  simp only [autosuspendPinned, repinned]
  cases device.pins with
  | none => rfl
  | some controller =>
      simp only [query_bind_apply, PinMap.selection]
      cases device.driver.pins.autosuspend.resolve machine.context with
      | error reason => rfl
      | ok choice =>
          cases choice with
          | none => rfl
          | some state =>
              simp only [applyPins, bind_apply, onHardware_apply, emit_apply]
              split <;> rfl

theorem quiesce_autosuspend :
    (device.autosuspendPinned.quiesce .suspend).relabel Event.forAutosuspend =
      device.quiesce .autosuspend := by
  have steady := device.steady_unnamed
  have masks : device.autosuspendPinned.maskInterrupts.relabel Event.forAutosuspend =
      device.maskInterrupts := unnamed (steady.maskInterrupts trivial)
  have inside : (device.autosuspendPinned.callbackInside .runtimeSuspend).relabel
      Event.forAutosuspend = device.callbackInside .runtimeSuspend :=
    unnamed (steady.callbackInside trivial)
  have outside : (device.autosuspendPinned.callbackOutside .runtimeSuspend).relabel
      Event.forAutosuspend = device.callbackOutside .runtimeSuspend :=
    unnamed (steady.callbackOutside trivial)
  have arms : (device.autosuspendPinned.runDriverTable .wakeup).relabel Event.forAutosuspend =
      device.runDriverTable .wakeup := unnamed (steady.table .wakeup trivial (by decide))
  have gates : device.autosuspendPinned.gateClocks.relabel Event.forAutosuspend =
      device.gateClocks := unnamed (steady.gateClocks trivial)
  simp only [quiesce, relabel_bind, withIrqLock_relabel, masks, selectPins_autosuspend, inside,
    outside, arms, gates]
  rfl

/-- An autosuspend whose delay has passed does what a runtime suspend does on a device with other
pins. -/
theorem runtimeSuspendFor_autosuspend :
    device.runtimeSuspendFor .autosuspend =
      device.autosuspendPinned.runtimeSuspend.relabel Event.forAutosuspend := by
  have steady := device.steady_unnamed
  have prepares : device.autosuspendPinned.prepareSuspend.relabel Event.forAutosuspend =
      device.prepareSuspend := unnamed (steady.prepareSuspend trivial)
  have concludes (paused : UInt32) (result : Except Error Unit) :
      (device.autosuspendPinned.concludeSuspend paused result).relabel Event.forAutosuspend =
        device.concludeSuspend paused result :=
    unnamed (steady.concludeSuspend trivial (keeps_update fun _ _ holds => holds) paused
      fun _ _ => trivial)
  have active : (device.autosuspendPinned.suspendActive .suspend).relabel Event.forAutosuspend =
      device.suspendActive .autosuspend := by
    rw [suspendActive, suspendActive, relabel_bind, relabel_attempt, prepares]
    apply bind_congr
    intro prepared
    cases prepared with
    | ok paused => simp only [relabel_bind, relabel_attempt, quiesce_autosuspend, concludes]
    | error error => exact concludes 0 (.error error)
  rw [runtimeSuspend, runtimeSuspendFor, runtimeSuspendFor, relabel_bind]
  apply bind_congr
  intro power
  split
  · exact active.symm
  · rfl

end Device

/-! ## The time since the last mark -/

/-- The ticks that a delay lasts, rounded down. -/
def delayTicks (delay : UInt32) (timer : Timer σ) : Nat :=
  delay.toNat * timer.frequency.toNat / 1000

/-- As long as the counter has not come round, it shows whether the delay lasts. -/
theorem elapsed_lt_millisToTicks_iff {start now : Nat} {delay : UInt32} {timer : Timer σ}
    (fits : delayTicks delay timer < 2 ^ 32) (later : start ≤ now) (near : now < start + 2 ^ 32) :
    elapsed (UInt32.ofNat start) (UInt32.ofNat now) < millisToTicks timer.frequency delay ↔
      now - start < delayTicks delay timer := by
  have passed : (elapsed (UInt32.ofNat start) (UInt32.ofNat now)).toNat = now - start := by
    rw [elapsed, UInt32.toNat_sub, UInt32.toNat_ofNat', UInt32.toNat_ofNat']
    omega
  have lasts : (millisToTicks timer.frequency delay).toNat = delayTicks delay timer := by
    rw [toNat_millisToTicks, ← delayTicks]
    have largest : maxTicks.toNat = 2 ^ 32 - 1 := rfl
    omega
  rw [UInt32.lt_iff_toNat_lt, passed, lasts]

namespace Device

variable {device : Device σ} {delay : UInt32} {timer : Timer σ}

theorem markBusy_state (timed : device.timer = some timer) (machine : Machine σ) :
    (device.markBusy machine).state =
      { machine with
        hardware := (timer.now machine.hardware).2
        lastBusy := some (timer.now machine.hardware).1 } := by
  simp only [markBusy, now, timed, bind_apply, onHardware_apply, emit_apply, pure_apply]
  rfl

/-- A device that was marked takes a reading to compare with. -/
theorem usedRecently_of_marked (delayed : device.driver.autosuspendMillis = some delay)
    (timed : device.timer = some timer) {machine : Machine σ} {last : UInt32}
    (marked : machine.lastBusy = some last) :
    device.usedRecently machine =
      ⟨.ok (elapsed last (timer.now machine.hardware).1 < millisToTicks timer.frequency delay),
        [.reading (timer.now machine.hardware).1],
        { machine with hardware := (timer.now machine.hardware).2 }⟩ := by
  have looks : device.usedRecently machine =
      (do let now ← onHardware timer.now
          emit (.reading now)
          return elapsed last now < millisToTicks timer.frequency delay : DeviceM σ Bool)
        machine := by
    rw [usedRecently, query_bind_apply, delayed, timed, marked]
  exact looks

/-- A device that was never marked takes none. -/
theorem usedRecently_of_unmarked {machine : Machine σ} (unmarked : machine.lastBusy = none) :
    device.usedRecently machine = ⟨.ok false, [], machine⟩ := by
  rw [usedRecently, query_bind_apply, unmarked]
  cases device.driver.autosuspendMillis <;> cases device.timer <;> rfl

/-- The request marks the device in the given machine: it takes a reading there, and leaves the
device as this reading does. -/
def MarksAt (device : Device σ) (timer : Timer σ) (request : Request)
    (machine mark : Machine σ) : Prop :=
  device.markStart request machine = some mark ∧
    (device.perform request machine).state =
      { mark with
        hardware := (timer.now mark.hardware).2
        lastBusy := some (timer.now mark.hardware).1 }

theorem marks_iff_marksAt (timed : device.timer = some timer) (request : Request)
    (machine : Machine σ) :
    device.Marks request machine ↔ ∃ mark, device.MarksAt timer request machine mark := by
  rw [← markStart_isSome_iff, Option.isSome_iff_exists]
  apply exists_congr
  intro mark
  refine ⟨fun marked => ⟨marked, ?_⟩, And.left⟩
  have ends := device.endsMarked_perform request machine
  rw [marked] at ends
  exact ends.trans (markBusy_state timed mark)

/-- An autosuspend of a device that was used recently does nothing more. -/
theorem autosuspend_of_recent {machine after : Machine σ} {events : List Event}
    (looked : device.usedRecently machine = ⟨.ok true, events, after⟩) :
    device.autosuspend machine = ⟨.error .busy, events, after⟩ := by
  have busy : (device.usedRecently machine).result = .ok true := by rw [looked]
  rw [autosuspend, bind_of_ok busy, looked]
  simp

/-- Any other autosuspend is a runtime suspend with other pins. -/
theorem autosuspend_of_idle {machine after : Machine σ} {events : List Event}
    (looked : device.usedRecently machine = ⟨.ok false, events, after⟩) :
    let attempt := device.autosuspendPinned.runtimeSuspend after
    device.autosuspend machine =
      ⟨attempt.result, events ++ attempt.events.map Event.forAutosuspend, attempt.state⟩ := by
  have idle : (device.usedRecently machine).result = .ok false := by rw [looked]
  rw [autosuspend, bind_of_ok idle, looked, runtimeSuspendFor_autosuspend]
  rfl

/-- A device counts as in use from the last time that it was marked: by a caller, by a system resume
that succeeded, or by an attempt to suspend that was refused for a pending interrupt. An autosuspend
that comes while the delay of the driver lasts is refused and does nothing but look at the time. One
that comes later does what a runtime suspend does from there, with the pins for an autosuspend; and
so does one of a device that was never marked. The times are those of a clock that is not bounded,
of which the counter shows the lower bits; it may have wrapped around since the last mark, but must
not have come round. -/
theorem autosuspend_exact (device : Device σ) {delay : UInt32} {timer : Timer σ} {time : σ → Nat}
    (delayed : device.driver.autosuspendMillis = some delay) (timed : device.timer = some timer)
    (shown : ∀ hardware, (timer.now hardware).1 = UInt32.ofNat (time hardware))
    (fits : delayTicks delay timer < 2 ^ 32) :
    (∀ request machine, device.Marks request machine ↔
      ∃ mark, device.MarksAt timer request machine mark) ∧
    ∀ hardware storage happenings,
      let fresh := Machine.initial hardware storage
      let machine := (device.history happenings fresh).state
      let reading := timer.now machine.hardware
      let read := { machine with hardware := reading.2 }
      (∀ mark, (device.marks happenings fresh).getLast? = some mark →
        let start := time mark.hardware
        let now := time machine.hardware
        start ≤ now → now < start + 2 ^ 32 →
          (now - start < delayTicks delay timer →
            device.autosuspend machine = ⟨.error .busy, [.reading reading.1], read⟩) ∧
          (delayTicks delay timer ≤ now - start →
            let attempt := device.autosuspendPinned.runtimeSuspend read
            device.autosuspend machine =
              ⟨attempt.result, .reading reading.1 :: attempt.events.map Event.forAutosuspend,
                attempt.state⟩)) ∧
      (device.marks happenings fresh = [] →
        let attempt := device.autosuspendPinned.runtimeSuspend machine
        device.autosuspend machine =
          ⟨attempt.result, attempt.events.map Event.forAutosuspend, attempt.state⟩) := by
  refine ⟨marks_iff_marksAt timed, ?_⟩
  intro hardware storage happenings fresh machine reading read
  have record := device.lastBusy_history happenings fresh
  constructor
  · intro mark last start now later near
    have marked : machine.lastBusy = some (UInt32.ofNat start) := by
      rw [last] at record
      exact record.trans (by rw [lastBusyAfter, markBusy_state timed, shown])
    have looked := usedRecently_of_marked delayed timed marked
    have lasts := elapsed_lt_millisToTicks_iff fits later near
    rw [← shown machine.hardware] at lasts
    constructor
    · intro early
      rw [decide_eq_true (lasts.mpr early)] at looked
      exact autosuspend_of_recent looked
    · intro passed
      rw [decide_eq_false (mt lasts.mp (Nat.not_lt.mpr passed))] at looked
      exact autosuspend_of_idle looked
  · intro never
    rw [never] at record
    exact autosuspend_of_idle (usedRecently_of_unmarked record)

end Device

namespace Bench.TimedCells

/-- The port switched on, shortly before its counter comes round. -/
def late : TimedCells :=
  { Cells.filled with time := 2 ^ 32 - 4 }

/-- The port is started and marked as in use. Then some time passes, and it is switched off. -/
def waiting (passed : Nat) : List (Happening TimedCells) :=
  [.asked (.createContext Uart.template), .asked .runtimeResume, .asked .markBusy,
    .changed { time := late.time + passed }]

/-- The port in the end. -/
def waited (passed : Nat) : Machine TimedCells :=
  (port.history (waiting passed) (.initial late [0, 0, 0, 0])).state

/-- The counter comes round while the delay of ten ticks lasts. After eight ticks the port is not
suspended, and after twelve it is; with the pins asleep, where a runtime suspend leaves them
idle. -/
theorem waits_across_the_wrap :
    (waited 8).lastBusy = some 4294967292 ∧ (timer.now (waited 8).hardware).1 = 4 ∧
      port.autosuspend (waited 8) =
        ⟨.error .busy, [.reading 4],
          { waited 8 with hardware := (timer.now (waited 8).hardware).2 }⟩ ∧
      (port.autosuspend (waited 12)).result = .ok () ∧
      (port.autosuspend (waited 12)).state.hardware.pins = .sleep ∧
      (port.runtimeSuspend (waited 12)).state.hardware.pins = .idle := by
  obtain ⟨-, delays⟩ := @Device.autosuspend_exact TimedCells port 10 timer TimedCells.time rfl rfl
    (fun _ => rfl) (by decide)
  obtain ⟨marked, -⟩ := delays late [0, 0, 0, 0] (waiting 8)
  obtain ⟨early, -⟩ := marked _ rfl (by decide) (by decide)
  obtain ⟨marked, -⟩ := delays late [0, 0, 0, 0] (waiting 12)
  obtain ⟨-, passed⟩ := marked _ rfl (by decide) (by decide)
  have suspends : port.autosuspend (waited 12) = _ := passed (by decide)
  have succeeded := congrArg Outcome.result suspends
  have selected := congrArg (fun outcome => outcome.state.hardware.pins) suspends
  exact ⟨rfl, rfl, early (by decide), succeeded.trans rfl, selected.trans rfl, rfl⟩

end Bench.TimedCells

end DevicePower
