import DevicePower.Bench.Uart
import DevicePower.Proofs.Device.Locking

/-!
# The discipline of the interrupt lock

The lock is never taken by the one who holds it, a request that finds it free leaves it free,
and a callback knows from the flags of its driver whether it runs under the lock.
-/

namespace DevicePower

open DeviceM Traced

variable {σ : Type}

namespace Device

/-- The callback of the stage is called while the lock is held. -/
def callsLocked (device : Device σ) (stage : Stage) : Bool :=
  device.driver.flags.irqSublock && device.driver.flags.callbackInIrqLock &&
    (stage == .runtimeSuspend || stage == .runtimeResume)

/-- The lock is taken only when it is free and given back only when it is held, and callbacks are
called with and without it as the driver has asked for. -/
structure Disciplined (device : Device σ) (before : List Event) (event : Event) : Prop where
  taken : ∀ contended, event = .irqTaken contended →
    contended = false ∧ heldAfter before = false
  released : event = .irqReleased → heldAfter before = true
  callback : ∀ stage, event.stage = some stage → heldAfter before = device.callsLocked stage
  called : ∀ stage irqHeld power, event = .callbackCalled stage irqHeld power →
    irqHeld = device.callsLocked stage

/-- The lock was used as it should be, and the device holds it or does not. -/
structure Holding (device : Device σ) (held : Bool) (seen : List Event) (machine : Machine σ) :
    Prop where
  guarded : Guarded device.Disciplined seen
  journal : heldAfter seen = held
  machine : machine.irqHeld = held

variable {device : Device σ}

/-- Steps that do not deal with the lock go well while it is held and while it is free, if their
callbacks belong there. -/
theorem follows_holding (device : Device σ) (held : Bool) :
    Follows device.lockless (fun stage => device.callsLocked stage = held)
      (fun stage => device.callsLocked stage = held) (device.Holding held) where
  reported event seen machine occurs holding := by
    have called {stage : Stage} (belongs : event.stage = some stage) :
        device.callsLocked stage = held :=
      occurs.calls (fun _ passed => passed) belongs
    have untouched : event.holds held = held := by
      cases event with
      | irqTaken contended => cases occurs.1
      | irqReleased => cases occurs
      | _ => rfl
    have disciplined : device.Disciplined seen event := {
      taken := fun contended same => by
        subst same
        cases occurs.1
      released := fun same => by
        subst same
        cases occurs
      callback := fun stage belongs => holding.journal.trans (called belongs).symm
      called := fun stage irqHeld power same => by
        subst same
        exact (occurs.2.1.trans holding.machine).trans (called rfl).symm }
    exact ⟨guarded_concat_iff.mpr ⟨holding.guarded, disciplined⟩,
      by rw [heldAfter_concat, holding.journal, untouched], holding.machine⟩
  alike seen machine other same holding :=
    ⟨holding.guarded, holding.journal, same.irqHeld.trans holding.machine⟩
  held sublock := by cases sublock

namespace Holding

variable {held : Bool} {seen : List Event} {machine : Machine σ}

/-- The power state has nothing to do with the lock. -/
theorem moved (holding : device.Holding held seen machine) (power : PowerState) (done : Bool) :
    device.Holding held seen { machine with power, firstResumeDone := done } :=
  ⟨holding.guarded, holding.journal, holding.machine⟩

theorem taken (free : device.Holding false seen machine) :
    device.Holding device.driver.flags.irqSublock (seen ++ device.lockTaken machine)
      (device.locked machine) := by
  cases sublock : device.driver.flags.irqSublock with
  | true =>
      have disciplined : device.Disciplined seen (.irqTaken machine.irqHeld) := {
        taken := fun contended same => by
          cases same
          exact ⟨free.machine, free.journal⟩
        released := nofun
        callback := nofun
        called := nofun }
      rw [lockTaken, if_pos sublock]
      exact ⟨guarded_concat_iff.mpr ⟨free.guarded, disciplined⟩,
        by simp [heldAfter_concat, Event.holds], by simp [locked, sublock]⟩
  | false =>
      rw [lockTaken, if_neg (by simp [sublock]), List.append_nil]
      exact ⟨free.guarded, free.journal, by simp [locked, sublock, free.machine]⟩

theorem released (holding : device.Holding device.driver.flags.irqSublock seen machine) :
    device.Holding false (seen ++ device.lockReleased) (device.unlocked machine) := by
  cases sublock : device.driver.flags.irqSublock with
  | true =>
      have disciplined : device.Disciplined seen .irqReleased := {
        taken := nofun
        released := fun _ => holding.journal.trans sublock
        callback := nofun
        called := nofun }
      rw [lockReleased, if_pos sublock]
      exact ⟨guarded_concat_iff.mpr ⟨holding.guarded, disciplined⟩,
        by simp [heldAfter_concat, Event.holds], by simp [unlocked, sublock]⟩
  | false =>
      rw [lockReleased, if_neg (by simp [sublock]), List.append_nil]
      exact ⟨holding.guarded, holding.journal.trans sublock,
        by simp [unlocked, sublock, holding.machine]⟩

end Holding

section Requests

variable (device : Device σ)

/-- The discipline is kept while the lock is free, and while it is held if the driver asks for
it. -/
theorem locking_holding :
    Locking device (fun stage => device.callsLocked stage = false)
      (fun stage => device.callsLocked stage = device.driver.flags.irqSublock)
      (device.Holding false) (device.Holding device.driver.flags.irqSublock) where
  outside := (device.follows_holding false).steady fun _ called => ⟨called, called⟩
  inside := (device.follows_holding device.driver.flags.irqSublock).steady
    fun _ called => ⟨called, called⟩
  taken _ _ free := free.taken
  released _ _ holding := holding.released
  told _ seen machine := (device.follows_holding false).reported _ seen machine trivial
  moved power done _ _ free := free.moved power done
  calledFree stage other := by
    cases other with
    | inl neither => simp [callsLocked, neither.1, neither.2]
    | inr unasked => simp [callsLocked, unasked]
  calledHeld asked := by simp [callsLocked, asked]

theorem phases_holding :
    Phases device (fun _ => True) (device.Holding false) (device.Holding false) :=
  device.locking_holding.phases

/-- A request that is no transition has nothing to do with the lock. -/
theorem keeps_plain_holding {request : Request} (plain : request.isTransition = false) :
    Keeps (device.Holding false) (fun _ => True) (device.perform request) := by
  have restores : device.callsLocked .restore = false := by simp [callsLocked]
  rw [← device.perform_lockless plain]
  exact (device.follows_holding false).keeps_plain ⟨restores, restores⟩ plain

/-- In every state that a device can be in, a request that begins while nobody holds the lock
never takes it twice, gives it back in the end, and calls every callback with or without it as
the driver has asked for, whatever fails on the way. -/
theorem lock_disciplined {machine : Machine σ} (reachable : device.Reachable machine)
    (free : machine.irqHeld = false) (request : Request) :
    let outcome := device.perform request machine
    Guarded device.Disciplined outcome.events ∧ heldAfter outcome.events = false ∧
      outcome.state.irqHeld = false := by
  intro outcome
  have begins : device.Holding false [] machine := ⟨guarded_nil, rfl, free⟩
  have holding := device.phases_holding.after_perform request []
    (device.begun_of_reachable reachable)
    (fun plain => (device.keeps_plain_holding plain [] machine begins).1) (fun _ => trivial) begins
  exact ⟨holding.guarded, holding.journal, holding.machine⟩

end Requests

/-- An interrupt that is pending makes the serial port refuse its suspend. The port takes the
lock to mask its interrupts, and again to unmask them. -/
theorem uart_lock_disciplined :
    let port := Bench.Uart.device
    let outcome := port.perform .runtimeSuspend Bench.Uart.interrupted
    outcome.result = .error .busy ∧
      outcome.events.countP (fun event => event == .irqTaken false) = 2 ∧
      Guarded port.Disciplined outcome.events ∧ outcome.state.irqHeld = false := by
  have reachable : Bench.Uart.device.Reachable Bench.Uart.interrupted :=
    ⟨Bench.Uart.board, [0, 0, 0, 0],
      [.asked (.createContext Bench.Uart.template), .asked .runtimeResume,
        .changed Bench.Uart.interrupted.hardware], rfl⟩
  intro port outcome
  have free : Bench.Uart.interrupted.irqHeld = false := by decide +kernel
  have refused : outcome.result = .error .busy := by decide +kernel
  have twice : outcome.events.countP (fun event => event == .irqTaken false) = 2 := by
    decide +kernel
  have disciplined : Guarded port.Disciplined outcome.events ∧ heldAfter outcome.events = false ∧
      outcome.state.irqHeld = false :=
    port.lock_disciplined reachable free .runtimeSuspend
  exact ⟨refused, twice, disciplined.1, disciplined.2.2⟩

end Device

end DevicePower
