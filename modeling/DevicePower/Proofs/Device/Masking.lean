import DevicePower.Bench.Uart
import DevicePower.Proofs.Device.Locking

/-!
# Masking under the interrupt lock

A driver can ask for the interrupt lock, so that the interrupt handler never meets a device whose
interrupts are just being masked or unmasked. Every transition grants that: whatever is done to
mask or to unmask interrupts, and the look at the pending ones, happens between taking the lock
and giving it back.

The requests that mask or unmask interrupts outside of a transition do not take the lock. A
handler that holds it is not kept from meeting such a device.
-/

namespace DevicePower

open DeviceM Traced

variable {σ : Type}

/-- The activity serves to mask or to unmask interrupts, or to find the pending ones. -/
def Origin.masks : Origin → Bool
  | .table kind => kind.masks
  | .pendingStatus => true
  | .request | .callback _ => false

/-- The event is an activity that serves to mask or to unmask interrupts. -/
def Event.masks : Event → Bool
  | .activity origin _ => origin.masks
  | _ => false

/-- Interrupts are masked and unmasked with the lock held, or without. -/
def Sheltered (locked : Bool) (before : List Event) (event : Event) : Prop :=
  event.masks = true → heldAfter before = locked

/-- Interrupts were masked and unmasked with the lock held, or without, and the lock is held now
or is not. -/
structure Sheltering (locked held : Bool) (seen : List Event) : Prop where
  guarded : Guarded (Sheltered locked) seen
  journal : heldAfter seen = held

namespace Sheltering

variable {locked held : Bool} {seen : List Event} {event : Event}

/-- One more event that is no masking, or is one where it belongs. -/
theorem concat {after : Bool} (sheltering : Sheltering locked held seen)
    (holds : event.holds held = after) (belongs : event.masks = true → held = locked) :
    Sheltering locked after (seen ++ [event]) where
  guarded := guarded_concat_iff.mpr
    ⟨sheltering.guarded, fun masks => sheltering.journal.trans (belongs masks)⟩
  journal := by rw [heldAfter_concat, sheltering.journal, holds]

/-- One more event that has nothing to do with masking and with the lock. -/
theorem other (sheltering : Sheltering locked held seen) (masks : event.masks = false)
    (untouched : event.holds held = held) : Sheltering locked held (seen ++ [event]) :=
  sheltering.concat untouched fun masking => by simp [masks] at masking

end Sheltering

namespace Device

variable {device : Device σ} {locked held : Bool} {tables : TableKind → Prop}

/-- A step that does not deal with the lock masks nothing, unless its table is where it belongs. -/
theorem resists_sheltering (belongs : ∀ kind, tables kind → kind.masks = true → held = locked) :
    Resists device.lockless tables (fun _ => True) fun seen _ => Sheltering locked held seen where
  held sublock := by cases sublock
  reported event seen machine within sheltering := by
    cases event with
    | activity origin activity =>
        refine sheltering.concat rfl fun masks => ?_
        cases origin with
        | table kind => exact belongs kind within masks
        | pendingStatus => exact belongs .irqDisable within rfl
        | request | callback stage => cases masks
    | irqTaken contended => cases within.1
    | irqReleased => cases within
    | _ => exact sheltering.other rfl rfl
  unresolved _ _ _ _ sheltering := sheltering.other rfl rfl

theorem steady_sheltering (belongs : ∀ kind, tables kind → kind.masks = true → held = locked) :
    Steady device.lockless tables (fun _ => True) (fun seen _ => Sheltering locked held seen)
      (fun _ => True) := by
  apply (resists_sheltering belongs).maintains.steady
  · exact fun _ _ _ _ => keeps_stop (fun _ _ _ sheltering => sheltering.other rfl rfl)
      fun _ _ _ _ _ _ sheltering => sheltering
  · exact fun _ _ _ => keeps_start (fun _ _ _ sheltering => sheltering.other rfl rfl)
      fun _ _ _ _ _ _ sheltering => sheltering
  · exact fun _ _ _ _ => keeps_pauseIfActive (fun _ _ _ sheltering => sheltering.other rfl rfl)
      (fun _ _ sheltering => sheltering) fun _ _ _ sheltering => sheltering
  · exact fun selected _ _ _ => keeps_resumeIfPaused selected
      (fun _ _ _ sheltering => sheltering.other rfl rfl) (fun _ _ sheltering => sheltering)
      fun _ _ _ sheltering => sheltering

/-- Where the driver asks for the lock, it is held while interrupts are masked and unmasked. -/
theorem locking_sheltering (sublock : device.driver.flags.irqSublock = true) :
    Locking device (fun _ => True) (fun _ => True) (fun seen _ => Sheltering true false seen)
      (fun seen _ => Sheltering true true seen) where
  outside := steady_sheltering fun kind plain masks => by simp [plain] at masks
  inside := steady_sheltering fun _ _ _ => rfl
  taken seen machine free := by
    rw [lockTaken, if_pos sublock]
    exact free.concat rfl fun masks => by cases masks
  released seen machine holding := by
    rw [lockReleased, if_pos sublock]
    exact holding.concat rfl fun masks => by cases masks
  told _ _ _ free := free.other rfl rfl
  moved _ _ _ _ free := free
  calledFree _ _ := trivial
  calledHeld _ := ⟨trivial, trivial⟩

/-- A request that is no transition does not deal with the lock at all. -/
theorem keeps_plain_sheltering {request : Request} (plain : request.isTransition = false) :
    Keeps (fun seen _ => Sheltering false false seen) (fun _ => True)
      (device.perform request) := by
  have steady : Steady device.lockless (fun _ => True) (fun _ => True)
      (fun seen _ => Sheltering false false seen) (fun _ => True) :=
    steady_sheltering fun _ _ _ => rfl
  have resists : Resists device.lockless (fun _ => True) (fun _ => True)
      fun seen _ => Sheltering false false seen :=
    resists_sheltering fun _ _ _ => rfl
  rw [← device.perform_lockless plain]
  exact (resists.lasting (fun _ _ _ sheltering => sheltering.other rfl rfl) steady
    (fun _ => keeps_update fun _ _ sheltering => sheltering)
    (keeps_update fun _ _ sheltering => sheltering)).perform_any request

/-- In every state that a device can be in, and whatever fails on the way: if its driver asks for
the interrupt lock, a transition masks and unmasks interrupts, and looks for pending ones, only
while it holds the lock. Any other request that does so does it without the lock. -/
theorem masking_sheltered (sublock : device.driver.flags.irqSublock = true) {machine : Machine σ}
    (reachable : device.Reachable machine) (request : Request) :
    Guarded (Sheltered request.isTransition) (device.perform request machine).events := by
  cases transition : request.isTransition with
  | true =>
      have begins : Sheltering true false [] := ⟨guarded_nil, rfl⟩
      have sheltering := (locking_sheltering sublock).phases.after_perform request []
        (device.begun_of_reachable reachable) (fun plain => by simp [transition] at plain)
        (fun _ => trivial) begins
      exact sheltering.guarded
  | false =>
      have begins : Sheltering false false [] := ⟨guarded_nil, rfl⟩
      exact (keeps_plain_sheltering transition [] machine begins).1.guarded

/-- The serial port masks its interrupts and finds one pending, all under the lock, when it is
suspended. -/
theorem uart_masking_sheltered :
    let port := Bench.Uart.device
    let outcome := port.perform .runtimeSuspend Bench.Uart.interrupted
    port.driver.flags.irqSublock = true ∧ outcome.events.any Event.masks = true ∧
      Guarded (Sheltered true) outcome.events := by
  have reachable : Bench.Uart.device.Reachable Bench.Uart.interrupted :=
    ⟨Bench.Uart.board, [0, 0, 0, 0],
      [.asked (.createContext Bench.Uart.template), .asked .runtimeResume,
        .changed Bench.Uart.interrupted.hardware], rfl⟩
  intro port outcome
  have masks : outcome.events.any Event.masks = true := by decide +kernel
  exact ⟨rfl, masks, port.masking_sheltered rfl reachable .runtimeSuspend⟩

/-- Asked to mask its interrupts or to unmask them, the serial port does so at once, although the
interrupt handler holds the lock that the port is asked to take. -/
theorem uart_masks_without_lock :
    let port := Bench.Uart.device
    let machine := { Bench.Uart.active with irqHeld := true }
    port.driver.flags.irqSublock = true ∧ port.Reachable machine ∧
      ¬Guarded (Sheltered true) (port.perform .maskInterrupts machine).events ∧
      ¬Guarded (Sheltered true) (port.perform .unmaskInterrupts machine).events := by
  intro port machine
  have reachable : port.Reachable machine :=
    ⟨Bench.Uart.board, [0, 0, 0, 0],
      [.asked (.createContext Bench.Uart.template), .asked .runtimeResume, .handler true], rfl⟩
  -- Nothing has taken the lock before the first event of all.
  have exposed (events : List Event) (masks : events.head?.any Event.masks = true) :
      ¬Guarded (Sheltered true) events := by
    cases events with
    | nil => cases masks
    | cons first rest => exact fun guarded => nomatch guarded [] first rest rfl masks
  exact ⟨rfl, reachable, exposed _ (by decide +kernel), exposed _ (by decide +kernel)⟩

end Device

end DevicePower
