import DevicePower.Device.SystemSleep
import DevicePower.Proofs.Table.Accesses

/-!
# What single steps of a device do

A table of a driver, a comparison and a callback are each run on the workspace of the
machine and reported with the result that they had. The lemmas of this module say so
without the operations that the steps are composed of. They do the same for what is done while
the interrupt lock is held.
-/

namespace DevicePower

open DeviceM Traced

variable {σ α : Type}

@[simp] theorem DeviceM.working_apply (origin : Origin) (computation : TableM σ α)
    (machine : Machine σ) :
    working origin computation machine =
      ⟨(computation machine.toWorkspace).result,
        (computation machine.toWorkspace).events.map (Event.activity origin),
        { machine with toWorkspace := (computation machine.toWorkspace).state }⟩ := rfl

@[simp] theorem DeviceM.onHardware_apply (change : σ → α × σ) (machine : Machine σ) :
    onHardware change machine =
      ⟨.ok (change machine.hardware).1, [],
        { machine with hardware := (change machine.hardware).2 }⟩ := rfl

@[simp] theorem DeviceM.change_apply (change : σ → σ) (machine : Machine σ) :
    DeviceM.change change machine =
      ⟨.ok (), [], { machine with hardware := change machine.hardware }⟩ := rfl

@[simp] theorem DeviceM.look_apply (view : σ → α) (machine : Machine σ) :
    look view machine = ⟨.ok (view machine.hardware), [], machine⟩ := rfl

/-! ## Accounts -/

/-- What an activity that is reported was made for. -/
def Event.origin : Event → Option Origin
  | .activity origin _ => some origin
  | _ => none

/-- The access that an event is, and what it was made for. -/
def Event.asked : Event → Option (Origin × Access)
  | .activity origin done => done.asked.map fun dealing => (origin, dealing)
  | _ => none

theorem asked_activities (origin : Origin) (activities : List Activity) :
    (activities.map (Event.activity origin)).filterMap Event.asked =
      (activities.filterMap Activity.asked).map fun dealing => (origin, dealing) := by
  rw [List.filterMap_map, List.map_filterMap]
  rfl

/-- The channel that was switched, and how. -/
def Event.switch : Event → Option (Nat × ChannelAction)
  | .channel _ (.found _) => none
  | .channel number action => some (number, action)
  | _ => none

/-- The event is about a clock, the pins, or a callback. -/
def Event.interferes : Event → Bool
  | .clock _ _ | .pins _ _ | .callbackCalled _ _ _ | .stageEnded _ _ => true
  | _ => false

/-- The events account for activities of these origins and for these channels being
switched, in this order. No clock, no pin and no callback is involved. -/
structure Accounts (events : List Event) (origins : List Origin)
    (switches : List (Nat × ChannelAction)) : Prop where
  origins_eq : events.filterMap Event.origin = origins
  switches_eq : events.filterMap Event.switch = switches
  discreet : ∀ event ∈ events, event.interferes = false

theorem accounts_nil : Accounts [] [] [] :=
  ⟨rfl, rfl, by simp⟩

theorem Accounts.append {first second : List Event} {origins origins' : List Origin}
    {switches switches' : List (Nat × ChannelAction)} (before : Accounts first origins switches)
    (after : Accounts second origins' switches') :
    Accounts (first ++ second) (origins ++ origins') (switches ++ switches') := by
  refine ⟨?_, ?_, ?_⟩
  · rw [List.filterMap_append, before.origins_eq, after.origins_eq]
  · rw [List.filterMap_append, before.switches_eq, after.switches_eq]
  · intro event member
    rcases List.mem_append.mp member with member | member
    · exact before.discreet event member
    · exact after.discreet event member

theorem accounts_activities (origin : Origin) (activities : List Activity) :
    Accounts (activities.map (Event.activity origin))
      (List.replicate activities.length origin) [] := by
  refine ⟨?_, ?_, ?_⟩
  · induction activities with
    | nil => rfl
    | cons activity rest ih => simpa [Event.origin, List.replicate_succ] using ih
  · simp [Event.switch]
  · simp [Event.interferes]

/-- The news tell that pins could not be selected. -/
def News.aboutPins : News → Bool
  | .pinsRefused _ | .noPinState _ _ => true
  | _ => false

/-- The event is a pin selection, or tells that there was none. -/
def Event.aboutPins : Event → Bool
  | .pins _ _ => true
  | .note (.device _ news) => news.aboutPins
  | _ => false

namespace Device

variable (device : Device σ)

@[simp] theorem tell_apply (news : News) (machine : Machine σ) :
    device.tell news machine =
      ⟨.ok (), [.note (.device device.name news)], machine⟩ := rfl

/-- A table does to the workspace what its entries do. -/
theorem runDriverTable_apply (kind : TableKind) (machine : Machine σ) :
    device.runDriverTable kind machine =
      let run := (device.driver.tables kind).run device.port machine.toWorkspace
      ⟨run.result, run.events.map (.activity (.table kind)) ++ [.tableEnded kind run.result],
        { machine with toWorkspace := run.state }⟩ := by
  simp only [runDriverTable, bind_apply, attempt_apply, working_apply, emit_apply,
    ofExcept_apply, List.append_nil]

/-- A table says how it ended. -/
theorem tableEnded_mem (kind : TableKind) (machine : Machine σ) :
    .tableEnded kind (device.runDriverTable kind machine).result ∈
      (device.runDriverTable kind machine).events := by
  simp [runDriverTable_apply]

/-- A comparison reports what it found. -/
theorem lostContext_apply (machine : Machine σ) :
    device.lostContext machine =
      let run := (device.driver.tables .contextCheck).differs device.port machine.toWorkspace
      ⟨run.result,
        run.events.map (.activity (.table .contextCheck)) ++ [.compared run.result],
        { machine with toWorkspace := run.state }⟩ := by
  simp only [lostContext, bind_apply, attempt_apply, working_apply, emit_apply,
    ofExcept_apply, List.append_nil]

/-- What is told about a callback that failed. -/
def callbackNews (stage : Stage) : Except Error Unit → List Event
  | .ok () => []
  | .error error => [.note (.device device.name (.callbackFailed stage error))]

/-- A callback does to the workspace what its program does. Its failure is blamed on the
stage. -/
theorem callback_apply {stage : Stage} {hook : Hook σ} (machine : Machine σ)
    (present : device.hooks.hook stage = some hook) :
    device.callback stage machine =
      let run := (hook machine.hardware).1.run device.transport
        { machine.toWorkspace with hardware := (hook machine.hardware).2 }
      ⟨run.result.mapError fun _ => .callback stage,
        .callbackCalled stage machine.irqHeld machine.power ::
          (run.events.map (.activity (.callback stage)) ++
            .stageEnded stage run.result :: device.callbackNews stage run.result),
        { machine with toWorkspace := run.state }⟩ := by
  simp only [callback, present, bind_apply, query_apply, emit_apply, onHardware_apply,
    attempt_apply, working_apply, List.nil_append, List.cons_append]
  cases ((hook machine.hardware).1.run device.transport
      { machine.toWorkspace with hardware := (hook machine.hardware).2 }).result with
  | ok done => rfl
  | error error => rfl

/-- A callback that succeeds says so. -/
theorem stageEnded_of_callback {stage : Stage} {machine : Machine σ}
    (passed : (device.callback stage machine).result = .ok ()) :
    .stageEnded stage (.ok ()) ∈ (device.callback stage machine).events := by
  cases present : device.hooks.hook stage with
  | none => simp [callback, present]
  | some hook =>
      rw [device.callback_apply machine present] at passed ⊢
      simp only at passed ⊢
      cases ended : ((hook machine.hardware).1.run device.transport
          { machine.toWorkspace with hardware := (hook machine.hardware).2 }).result with
      | ok done => simp
      | error error => simp [ended] at passed

/-! ## Pins -/

/-- Selecting pins never fails, and does nothing but to the pins. -/
theorem selectPins_spec (same : σ → σ → Prop) (reflexive : ∀ hardware, same hardware hardware)
    (selected : ∀ controller, device.pins = some controller →
      ∀ state hardware, same hardware (controller.select state hardware).2)
    (action : Action) (machine : Machine σ) :
    ∃ events hardware,
      device.selectPins action machine = ⟨.ok (), events, { machine with hardware }⟩ ∧
      same machine.hardware hardware ∧ events.filter (fun event => !event.aboutPins) = [] := by
  simp only [selectPins]
  cases present : device.pins with
  | none => exact ⟨[], machine.hardware, rfl, reflexive _, rfl⟩
  | some controller =>
      simp only [query_bind_apply]
      cases (device.driver.pins.selection action).resolve machine.context with
      | error reason =>
          exact ⟨[.note (.device device.name (.noPinState action (.configuration reason)))],
            machine.hardware, rfl, reflexive _, rfl⟩
      | ok choice =>
          cases choice with
          | none => exact ⟨[], machine.hardware, rfl, reflexive _, rfl⟩
          | some state =>
              have kept := selected controller present state machine.hardware
              cases accepted : (controller.select state machine.hardware).1 with
              | true =>
                  exact ⟨[.pins state true], _, by simp [applyPins, bind_apply, accepted], kept,
                    rfl⟩
              | false =>
                  exact ⟨[.pins state false, .note (.device device.name (.pinsRefused state))], _,
                    by simp [applyPins, bind_apply, accepted], kept, rfl⟩

/-! ## The interrupt lock -/

/-- The device while it holds the interrupt lock, if its driver asks for it. -/
def locked (machine : Machine σ) : Machine σ :=
  { machine with irqHeld := machine.irqHeld || device.driver.flags.irqSublock }

/-- The device after it released the interrupt lock again. -/
def unlocked (machine : Machine σ) : Machine σ :=
  { machine with irqHeld := machine.irqHeld && !device.driver.flags.irqSublock }

/-- What is reported when the lock is taken. -/
def lockTaken (machine : Machine σ) : List Event :=
  if device.driver.flags.irqSublock then [.irqTaken machine.irqHeld] else []

/-- What is reported when the lock is released. -/
def lockReleased : List Event :=
  if device.driver.flags.irqSublock then [.irqReleased] else []

/-- Holding the interrupt lock adds to a computation that the lock is taken before it and
released after it. -/
theorem withIrqLock_apply (computation : DeviceM σ α) (machine : Machine σ) :
    device.withIrqLock computation machine =
      ⟨(computation (device.locked machine)).result,
        device.lockTaken machine ++ (computation (device.locked machine)).events ++
          device.lockReleased,
        device.unlocked (computation (device.locked machine)).state⟩ := by
  rw [withIrqLock]
  cases sublock : device.driver.flags.irqSublock with
  | true =>
      simp [bind_apply, takeIrqLock, releaseIrqLock, locked, unlocked, lockTaken, lockReleased,
        sublock]
  | false => simp [locked, unlocked, lockTaken, lockReleased, sublock]

end Device

end DevicePower
