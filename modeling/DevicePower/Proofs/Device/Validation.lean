import DevicePower.Bench.Uart
import DevicePower.Proofs.Device.Keeping
import DevicePower.Proofs.Validation

/-!
# Devices whose context was created

A device is checked once, when its context is created. This module shows that the check
is enough: whatever the registers, the callbacks and the callers do afterwards, nothing
that a caller asks for fails because the description of the device is wrong, and a pin
state can always be chosen.

As long as no callback replaces the context, the number of slots never changes after the
creation, so what was checked against the template holds of the context from then on.
-/

namespace DevicePower

open DeviceM TableM Traced

variable {σ : Type}

theorem TableKind.mem_all (kind : TableKind) : kind ∈ TableKind.all := by
  cases kind <;> decide

namespace Driver

/-- Every table of a kind that is checked passed its check. -/
theorem table_of_validateTables {driver : Driver} {length : Nat} {kinds : List TableKind}
    (passed : driver.validateTables length kinds = .ok ()) :
    ∀ kind ∈ kinds, (driver.tables kind).validate kind length = .ok () := by
  induction kinds with
  | nil => simp
  | cons first rest ih =>
      obtain ⟨⟨⟩, firstPassed, restPassed⟩ := passes_bind_iff.mp passed
      intro kind member
      rcases List.mem_cons.mp member with rfl | member
      · exact firstPassed
      · exact ih restPassed kind member

/-- A context check that passes consists of reads. -/
theorem reads_of_validateCapabilities {driver : Driver}
    (passed : driver.validateCapabilities = .ok ()) :
    ∀ entry ∈ driver.tables .contextCheck, entry.operation = .read := by
  rw [validateCapabilities] at passed
  split at passed
  · cases passed
  next reads =>
    intro entry member
    by_cases read : entry.operation = .read
    · exact read
    · exact absurd (List.any_eq_true.mpr ⟨entry, member, by simpa using read⟩) reads

variable {driver : Driver} {length : Nat}

/-- Every entry of a driver that passes its check fits. -/
theorem fits_of_validate (passed : driver.validate length = .ok ()) (kind : TableKind) :
    ∀ entry ∈ driver.tables kind, entry.Fits length := by
  obtain ⟨⟨⟩, tablesPassed, -⟩ := passes_bind_iff.mp passed
  exact Table.fits_of_validate (table_of_validateTables tablesPassed kind kind.mem_all)

/-- Every entry of a context check that passes is compared with a slot that exists. -/
theorem compares_of_validate (passed : driver.validate length = .ok ()) :
    ∀ entry ∈ driver.tables .contextCheck, entry.slot < length := by
  obtain ⟨⟨⟩, -, rest⟩ := passes_bind_iff.mp passed
  obtain ⟨⟨⟩, capable, -⟩ := passes_bind_iff.mp rest
  intro entry member
  apply (fits_of_validate passed .contextCheck entry member).slot
  rw [reads_of_validateCapabilities capable entry member]
  decide

end Driver

theorem PinMap.selection_of_validate {map : PinMap} {length : Nat}
    (passed : map.validate length = .ok ()) (action : Action) :
    (map.selection action).validate length = .ok () := by
  obtain ⟨⟨⟩, suspendPassed, rest⟩ := passes_bind_iff.mp passed
  obtain ⟨⟨⟩, resumePassed, rest⟩ := passes_bind_iff.mp rest
  obtain ⟨⟨⟩, idlePassed, autosuspendPassed⟩ := passes_bind_iff.mp rest
  cases action with
  | suspend => exact suspendPassed
  | resume => exact resumePassed
  | idle => exact idlePassed
  | autosuspend => exact autosuspendPassed

namespace Device

/-- What the check of a device against `length` slots established. A context check is
special in that every entry of it is compared with its slot. -/
structure Checked (device : Device σ) (length : Nat) : Prop where
  fits : ∀ kind, ∀ entry ∈ device.driver.tables kind, entry.Fits length
  compares : ∀ entry ∈ device.driver.tables .contextCheck, entry.slot < length
  timed : ∀ kind, ∀ entry ∈ device.driver.tables kind,
    entry.poll.isSome = true → device.timer.isSome = true
  selection : ∀ action, (device.driver.pins.selection action).validate length = .ok ()

theorem checked_of_validate {device : Device σ} {length : Nat}
    (passed : device.validate length = .ok ()) : device.Checked length := by
  obtain ⟨⟨⟩, driverPassed, rest⟩ := passes_bind_iff.mp passed
  obtain ⟨⟨⟩, -, driverRest⟩ := passes_bind_iff.mp driverPassed
  obtain ⟨⟨⟩, -, pinsPassed⟩ := passes_bind_iff.mp driverRest
  refine ⟨Driver.fits_of_validate driverPassed, Driver.compares_of_validate driverPassed, ?_,
    PinMap.selection_of_validate pinsPassed⟩
  intro kind entry member polls
  have needsTimer : device.driver.needsTimer = true := by
    apply List.any_eq_true.mpr
    refine ⟨kind, kind.mem_all, ?_⟩
    exact List.any_eq_true.mpr ⟨entry, member, polls⟩
  cases timer : device.timer with
  | some timer => rfl
  | none => cases (passes_bind_iff.mp (by simpa [timer, needsTimer] using rest)).choose_spec.1

/-- A new context has a slot for every word of the template it was checked against. -/
theorem newContext_eq_ok {device : Device σ} {template : List UInt32}
    {context after : Context} (done : device.newContext template context = .ok after) :
    device.Checked template.length ∧ after.HasSlots template.length := by
  rw [newContext] at done
  split at done
  · cases done
  · obtain ⟨⟨⟩, passed, populated⟩ := passes_bind_iff.mp done
    exact ⟨checked_of_validate passed, Context.hasSlots_of_populate populated⟩

theorem createContext_eq_ok {device : Device σ} {template : List UInt32} {machine : Machine σ}
    (created : (device.createContext template machine).result = .ok ()) :
    device.Checked template.length ∧
      (device.createContext template machine).state.context.HasSlots template.length := by
  rw [createContext, query_bind_apply] at created ⊢
  cases done : device.newContext template machine.context with
  | error reason => simp [done] at created
  | ok context => simpa [done] using newContext_eq_ok done

/-! ## What can happen to a checked device -/

/-- No pin state had to be left out for want of a choice. -/
def ChoosesPins : Event → Prop
  | .note (.device _ (.noPinState _ _)) => False
  | _ => True

namespace Checked

variable {device : Device σ} {length : Nat}

/-- Every step of a checked device with a context leaves it with as many slots, and
fails for operational reasons only. -/
theorem upkeep (checked : device.Checked length) (callbacks : device.hooks.KeepContext) :
    Upkeep device (fun _ => True) (fun _ => True) ChoosesPins
      (fun machine => machine.context.HasSlots length) Error.Operational where
  run kind _ _ _ _ := Table.keeps_run fun entry member =>
    (checked.fits kind entry member).steps (checked.timed kind entry member)
  differs _ _ _ := Table.keeps_differs
    (fun entry member =>
      ((checked.fits .contextCheck entry member).steps
        (checked.timed .contextCheck entry member)).read)
    (fun entry member => Entry.keeps_fetch fun workspace reason slots failed => by
      obtain ⟨value, found⟩ := slots.get_succeeds (checked.compares entry member)
      rw [found] at failed
      cases failed)
  status _ _ _ _ _ := Port.keeps_read (fun _ slots => slots) (Error.operational_registerAccess _)
  program stage hook _ present _ hardware _ :=
    Callback.keeps_run (callbacks stage hook present hardware)
      (fun _ => keeps_readAccess fun _ slots => slots)
      (fun _ _ _ => keeps_writeAccess fun _ slots => slots)
      (fun _ _ _ => keeps_store fun _ _ slots done => slots.of_set done)
      (fun _ _ => keeps_populate fun _ _ slots done => slots.of_populate done)
      (fun _ replaced => replaced.elim)
  busy _ := Error.operational_busy
  failed stage _ := Error.operational_callback stage
  news news plain := by
    cases news with
    | noPinState action error => exact absurd rfl (plain action error)
    | _ => trivial
  unresolved machine action reason slots failed := by
    obtain ⟨choice, found⟩ := PinSelection.resolve_of_validate slots (checked.selection action)
    rw [found] at failed
    cases failed

/-- The same holds of everything that callers ask for. The context cannot be created
again, and a table of the caller can be wrong by itself, but neither changes the number of
slots. -/
theorem lasting (checked : device.Checked length) (callbacks : device.hooks.KeepContext) :
    Lasting device (Throughout ChoosesPins fun machine => machine.context.HasSlots length)
      Error.Operational := by
  have create : ∀ template,
      Keeps (Throughout ChoosesPins fun machine => machine.context.HasSlots length)
        (fun _ => True) (device.createContext template) := by
    intro template
    apply keeps_query_bind
    intro _ machine holds
    have refused : device.newContext template machine.context = .error .contextExists := by
      rw [newContext, if_pos holds.2.populated]
    rw [refused]
    exact keeps_fail trivial
  apply Lasting.of_enter (checked.upkeep callbacks).steady
  case enter => exact fun _ => keeps_update fun _ _ holds => holds
  case started => exact keeps_update fun _ _ holds => holds
  case create => exact create
  case serve =>
    exact fun table => Upkeep.keeps_working (fun _ => trivial) fun _ _ =>
      Table.keeps_run fun entry _ => entry.steps_hasSlots device.port
  case read =>
    exact fun offset => Upkeep.keeps_working (fun _ => trivial) fun _ _ =>
      Port.keeps_read (fun _ slots => slots) (Error.operational_registerAccess offset)
  case write =>
    exact fun offset _ => Upkeep.keeps_working (fun _ => trivial) fun _ _ =>
      Port.keeps_write (fun _ slots => slots) (Error.operational_registerAccess offset)

end Checked

/-- A device whose context was created is described well enough, if its callbacks do not put
another context in the place of the one that was checked. After anything that callers,
registers, callbacks and interrupt handlers may have done to it since, a request never fails
for a wrong description, except for a second creation of the context and for a table that the
caller brings along; and a pin state is always found. -/
theorem created_never_misconfigured (device : Device σ)
    (callbacks : device.hooks.KeepContext) (machine : Machine σ) (template : List UInt32)
    (created : (device.createContext template machine).result = .ok ())
    (happenings : List (Happening σ)) (request : Request) :
    let reached :=
      (device.history happenings (device.createContext template machine).state).state
    let outcome := device.perform request reached
    ((∀ template, request ≠ .createContext template) → (∀ table, request ≠ .runTable table) →
      ∀ reason, outcome.result ≠ .error (.configuration reason)) ∧
      ∀ name action error, .note (.device name (.noPinState action error)) ∉ outcome.events := by
  intro reached outcome
  obtain ⟨checked, slots⟩ := createContext_eq_ok created
  have lasting := checked.lasting callbacks
  have reachedSlots : reached.context.HasSlots template.length := by
    have kept := lasting.history (fun _ _ _ holds => holds) (fun _ _ _ holds => holds) happenings
    obtain ⟨⟨-, slots⟩, -⟩ := kept [] _ ⟨by simp, slots⟩
    exact slots
  constructor
  · intro no_template no_table reason failed
    obtain ⟨-, permitted⟩ :=
      lasting.perform no_template no_table [] reached ⟨by simp, reachedSlots⟩
    exact permitted _ failed reason rfl
  · intro name action error member
    obtain ⟨⟨chosen, -⟩, -⟩ := lasting.perform_any request [] reached ⟨by simp, reachedSlots⟩
    exact chosen _ member

/-- The serial port can be resumed, whatever table was run before. -/
theorem uart_never_misconfigured :
    let machine := Machine.initial Bench.Uart.board [0, 0, 0, 0]
    (Bench.Uart.device.createContext Bench.Uart.template machine).result = .ok () ∧
      ∀ reason,
        (Bench.Uart.device.perform .runtimeResume
          (Bench.Uart.device.history [.asked (.runTable [⟨.write, 0, 9, .none, none⟩])]
            (Bench.Uart.device.createContext Bench.Uart.template machine).state).state).result ≠
          .error (.configuration reason) := by
  intro machine
  have created : (Bench.Uart.device.createContext Bench.Uart.template machine).result = .ok () :=
    rfl
  refine ⟨created, ?_⟩
  exact (created_never_misconfigured Bench.Uart.device
    (Bench.makeNoContext_device _).keepContext machine Bench.Uart.template created
    [.asked (.runTable [⟨.write, 0, 9, .none, none⟩])] .runtimeResume).1 nofun nofun

end Device

end DevicePower
