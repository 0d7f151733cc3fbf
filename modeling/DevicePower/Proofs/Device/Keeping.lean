import DevicePower.Bench.Board
import DevicePower.Proofs.Device.History
import DevicePower.Proofs.Device.Upkeep
import DevicePower.Proofs.Slots

/-!
# What every request keeps of the context

Tables reach the context slot by slot. A callback may do anything to it, and nothing else of a
device changes it but its creation. So a property of the context that survives the overwriting of a
slot and the steps that the callbacks of the device take is kept by every request, whatever the
description of the device is like, and if it also survives a creation, by every history.
-/

namespace DevicePower

open DeviceM TableM Traced

variable {σ : Type}

namespace Device

variable {device : Device σ} {sound : Context → Prop}

/-- Overwriting a slot does not matter to the property. -/
def SlotProof (sound : Context → Prop) : Prop :=
  ∀ context slot value after, sound context → context.set slot value = .ok after → sound after

/-- A table keeps what survives the overwriting of a slot, whatever its entries are like. -/
theorem keeps_table (proof : SlotProof sound) (port : Port σ) (table : Table) :
    Keeps (Workspace.Kept fun workspace => sound workspace.context) (fun _ => True)
      (table.run port) :=
  Table.keeps_run fun entry _ => entry.steps_of_indifferent port (fun _ _ holds => holds)
    (fun workspace after slot value => proof workspace.context slot value after)
    (fun _ => trivial) (fun _ => trivial) fun _ => trivial

/-- A context has the property after every permitted step if it had it before. -/
structure ContextProof (permitted : Callback.Step → Prop) (sound : Context → Prop) : Prop where
  set : SlotProof sound
  populate : ∀ template, permitted (.populate template) → ∀ context after,
    sound context → context.populate template = .ok after → sound after
  replace : ∀ storage, permitted (.replace storage) → sound (.new storage)

variable {permitted : Callback.Step → Prop}

/-- Every step of the device keeps what the steps of its callbacks keep. -/
theorem upkeep_of_contextProof (callbacks : device.hooks.Only permitted)
    (proof : ContextProof permitted sound) :
    Upkeep device (fun _ => True) (fun _ => True) (fun _ => True)
      (fun machine => sound machine.context) (fun _ => True) where
  run kind _ _ _ _ := keeps_table proof.set device.port (device.driver.tables kind)
  differs _ _ _ := Table.keeps_differs (fun _ _ => Port.keeps_read (fun _ holds => holds) trivial)
    fun _ _ => Entry.keeps_fetch fun _ _ _ _ => trivial
  status _ _ _ _ _ := Port.keeps_read (fun _ holds => holds) trivial
  program stage hook _ present _ hardware _ :=
    Callback.keeps_run (callbacks stage hook present hardware)
      (fun _ => keeps_readAccess fun _ holds => holds)
      (fun _ _ _ => keeps_writeAccess fun _ holds => holds)
      (fun slot value _ => keeps_store fun workspace after =>
        proof.set workspace.context slot value after)
      (fun template allowed => keeps_populate fun workspace after =>
        proof.populate template allowed workspace.context after)
      (fun storage allowed => keeps_replace fun _ _ => proof.replace storage allowed)

/-- Every request but for a new context keeps what the steps of the callbacks keep. -/
theorem keeps_perform (callbacks : device.hooks.Only permitted)
    (proof : ContextProof permitted sound) {request : Request}
    (no_template : ∀ template, request ≠ .createContext template) :
    Keeps (fun _ machine => sound machine.context) (fun _ => True) (device.perform request) := by
  have steady := (upkeep_of_contextProof callbacks proof).steady
  have entered (power : PowerState) :
      Keeps (Throughout (fun _ => True) fun machine : Machine σ => sound machine.context)
        (fun _ => True) (enter power) := keeps_update fun _ _ holds => holds
  have resumed := steady.runtimeResume resumeUses_all (entered .active)
    (keeps_update fun _ _ holds => holds)
  have performed := steady.perform (entered .runtimeSuspended) resumed
    (steady.suspend entered resumed)
    (steady.resume trivial (steady.wakeFrom resumeUses_all (entered .active) resumed))
    (fun _ => Upkeep.keeps_working (fun _ => trivial) fun _ _ =>
      Port.keeps_read (fun _ holds => holds) trivial)
    (fun _ _ => Upkeep.keeps_working (fun _ => trivial) fun _ _ =>
      Port.keeps_write (fun _ holds => holds) trivial)
    (fun table _ => Upkeep.keeps_working (fun _ => trivial) fun _ _ =>
      keeps_table proof.set device.port table)
    no_template
  rwa [throughout_true] at performed

/-- A history keeps what the steps of the callbacks and the creation of a context keep. -/
theorem keeps_history_of_contextProof (callbacks : device.hooks.Only permitted)
    (proof : ContextProof permitted sound)
    (created : ∀ template context after, sound context →
      device.newContext template context = .ok after → sound after)
    (happenings : List (Happening σ)) :
    Keeps (fun _ machine => sound machine.context) (fun _ => False)
      (device.history happenings) := by
  apply keeps_history
  · intro request
    by_cases creating : ∃ template, request = .createContext template
    · obtain ⟨template, rfl⟩ := creating
      apply keeps_answering
      apply keeps_query_bind
      intro _ machine holds
      cases done : device.newContext template machine.context with
      | error reason => exact keeps_fail trivial
      | ok after =>
          exact keeps_update fun _ _ _ => created template machine.context after holds done
    · exact keeps_perform callbacks proof fun template same => creating ⟨template, same⟩
  · exact fun _ _ _ holds => holds
  · exact fun _ _ _ holds => holds

/-! ## Contexts that exist -/

/-- A context that exists and is not replaced cannot be populated again. -/
theorem contextProof_of_populated
    (populated : ∀ context, sound context → context.populated = true) (proof : SlotProof sound) :
    ContextProof Callback.Step.KeepsContext sound where
  set := proof
  populate template _ context after holds done := by
    obtain ⟨absent, -⟩ := Context.populate_eq_ok_iff.mp done
    rw [populated context holds] at absent
    cases absent
  replace _ kept := kept.elim

/-- A property of contexts that exist is kept by every history, if it survives the overwriting of
a slot and no callback replaces the context. -/
theorem keeps_history_of_populated (sound : Context → Prop)
    (callbacks : device.hooks.KeepContext)
    (populated : ∀ context, sound context → context.populated = true) (proof : SlotProof sound)
    (happenings : List (Happening σ)) :
    Keeps (fun _ machine => sound machine.context) (fun _ => False)
      (device.history happenings) := by
  apply keeps_history_of_contextProof callbacks (contextProof_of_populated populated proof)
  intro template context after holds done
  rw [newContext, if_pos (populated context holds)] at done
  cases done

/-- A context that exists goes on to exist. -/
theorem populated_history (callbacks : device.hooks.KeepContext)
    (happenings : List (Happening σ)) {machine : Machine σ}
    (created : machine.context.populated = true) :
    (device.history happenings machine).state.context.populated = true := by
  have kept := keeps_history_of_populated (fun context => context.populated = true) callbacks
    (fun _ populated => populated)
    (fun context slot value after populated done => by
      obtain ⟨-, rfl⟩ := Context.set_eq_ok_iff.mp done
      exact populated) happenings
  exact (kept [] machine created).1

theorem populated_undergo (callbacks : device.hooks.KeepContext)
    (happening : Happening σ) {machine : Machine σ}
    (created : machine.context.populated = true) :
    (device.undergo happening machine).state.context.populated = true := by
  rw [← history_singleton]
  exact populated_history callbacks [happening] created

end Device

/-! ## Simulated boards -/

namespace Bench

variable {α : Type} {permitted : Callback.Step → Prop}

theorem only_afterAccess {offset : UInt32} {next : α → Callback}
    (goesOn : ∀ value, (next value).Only permitted) (answer : Except BusError α) :
    (afterAccess offset next answer).Only permitted := by
  cases answer with
  | ok value => exact goesOn value
  | error error => trivial

theorem only_afterSlot {next : α → Callback} (goesOn : ∀ value, (next value).Only permitted)
    (answer : Except ConfigError α) : (afterSlot next answer).Only permitted := by
  cases answer with
  | ok value => exact goesOn value
  | error reason => trivial

/-- A script makes no context. -/
theorem makesNoContext_callback (script : Script) :
    script.callback.Only Callback.Step.MakesNoContext := by
  induction script with
  | nil => trivial
  | cons action rest ih =>
      cases action with
      | read offset slot =>
          exact ⟨trivial, only_afterAccess fun _ => ⟨trivial, only_afterSlot fun _ => ih⟩⟩
      | write offset value => exact ⟨trivial, only_afterAccess fun _ => ih⟩
      | writeSlot offset slot =>
          exact ⟨trivial, only_afterSlot fun _ => ⟨trivial, only_afterAccess fun _ => ih⟩⟩
      | update offset mask value =>
          exact ⟨trivial, only_afterAccess fun _ => ⟨trivial, only_afterAccess fun _ => ih⟩⟩
      | set slot value => exact ⟨trivial, only_afterSlot fun _ => ih⟩
      | fail error => trivial

/-- The callbacks of a simulated device are scripts. -/
theorem makeNoContext_device (wiring : Wiring) : wiring.device.hooks.MakeNoContext := by
  intro stage hook present board
  rw [Wiring.device] at present
  split at present <;> cases stage <;> cases present <;> exact makesNoContext_callback _

end Bench

end DevicePower
