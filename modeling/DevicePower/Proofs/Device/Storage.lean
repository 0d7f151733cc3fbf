import DevicePower.Proofs.Device.Lockstep
import DevicePower.Proofs.Slots

/-!
# Storage behind the slots

Two contexts may have the same slots in different storage. Whatever a device does, it cannot tell
them apart: the words of the storage behind the slots are never read. This is shown by driving the
device on both in lockstep.
-/

namespace DevicePower

open DeviceM TableM Traced

variable {σ α : Type}

/-! ## Contexts with the same slots -/

/-- The contexts have the same slots, in storage of the same length. The words behind the slots
may differ. -/
structure Context.SameSlots (first second : Context) : Prop where
  populated : second.populated = first.populated
  length : second.length = first.length
  values : second.values = first.values
  stored : second.storage.length = first.storage.length

namespace Context.SameSlots

variable {first second : Context} (same : first.SameSlots second)

include same

theorem get (index : Nat) : second.get index = first.get index := by
  rw [Context.get, Context.get, same.values]

/-- A slot is overwritten in both contexts or in none. -/
theorem set (index : Nat) (value : UInt32) :
    (∃ after other, first.set index value = .ok after ∧ second.set index value = .ok other ∧
      after.SameSlots other) ∨
    ∃ reason, first.set index value = .error reason ∧ second.set index value = .error reason := by
  by_cases bound : index < first.values.length
  · have boundOther : index < second.values.length := by
      rw [same.values]
      exact bound
    have done : first.set index value = .ok _ := if_pos bound
    have doneOther : second.set index value = .ok _ := if_pos boundOther
    refine .inl ⟨_, _, done, doneOther, same.populated, same.length, ?_, ?_⟩
    · rw [values_of_set done, values_of_set doneOther, same.values]
    · simpa using same.stored
  · have boundOther : ¬index < second.values.length := by
      rw [same.values]
      exact bound
    exact .inr ⟨_, if_neg bound, if_neg boundOther⟩

/-- A template is copied into both contexts or into none. -/
theorem populate (template : List UInt32) :
    (∃ after other, first.populate template = .ok after ∧ second.populate template = .ok other ∧
      after.SameSlots other) ∨
    ∃ reason, first.populate template = .error reason ∧
      second.populate template = .error reason := by
  rw [Context.populate, Context.populate, same.populated, same.stored]
  split
  next => exact .inr ⟨_, rfl, rfl⟩
  next =>
    split
    next => exact .inr ⟨_, rfl, rfl⟩
    next =>
      refine .inl ⟨_, _, rfl, rfl, rfl, rfl, ?_, ?_⟩
      · simp [Context.values]
      · simp [same.stored]

/-! ## Conditions and pin selections -/

theorem value (operand : Operand) : operand.value second = operand.value first := by
  cases operand with
  | slot index => exact same.get index
  | constant value => rfl

theorem evalFrom (condition : Condition) (levels : Nat) (node : Fin condition.size) :
    condition.evalFrom second levels node = condition.evalFrom first levels node := by
  induction levels generalizing node with
  | zero => rfl
  | succ levels ih => simp only [Condition.evalFrom, same.value, ih]

theorem resolve (selection : PinSelection) :
    selection.resolve second = selection.resolve first := by
  cases selection with
  | unchanged => rfl
  | always state => rfl
  | choose condition yes no => simp only [PinSelection.resolve, Condition.eval, same.evalFrom]

end Context.SameSlots

/-! ## Workspaces with the same slots -/

/-- The workspaces have the same hardware, and contexts with the same slots. -/
structure Workspace.SameSlots (first second : Workspace σ) : Prop where
  hardware : second.hardware = first.hardware
  context : first.context.SameSlots second.context

namespace Workspace

/-- The hardware of workspaces with the same slots changes in the same way. -/
theorem changedAlike (change : σ → α × σ) : ChangedAlike Workspace.SameSlots change := by
  intro workspace other same
  rw [same.hardware]
  exact ⟨rfl, rfl, same.context⟩

theorem seenAlike_sameSlots (view : σ → α) : SeenAlike Workspace.SameSlots view := by
  intro workspace other same
  rw [same.hardware]

theorem inStep_reach (computation : BusM σ α) :
    TableM.InStep Workspace.SameSlots (reach computation) := by
  have matched : Matches (fun _ => true) Eq computation computation := by
    rintro hardware _ rfl
    exact ⟨rfl, rfl, rfl⟩
  apply matched.attempt.within
  · exact fun _ _ same => same.hardware.symm
  · rintro workspace other hardware _ same rfl
    exact ⟨rfl, same.context⟩

/-- Every port does the same in workspaces with the same slots. -/
theorem lockstep_port (port : Port σ) : port.Lockstep Workspace.SameSlots where
  readAccess _ := (inStep_reach _).bind fun _ => (matches_emit _).bind fun _ => matches_pure _
  writeAccess _ _ := (inStep_reach _).bind fun _ => (matches_emit _).bind fun _ => matches_pure _
  load slot := matches_query fun _ _ same => same.context.get slot
  store slot value := by
    rintro workspace other same
    rcases same.context.set slot value with
      ⟨after, otherAfter, done, doneOther, still⟩ | ⟨reason, failed, failedOther⟩
    · rw [store, act_apply, act_apply, done, doneOther]
      exact ⟨rfl, rfl, same.hardware, still⟩
    · rw [store, act_apply, act_apply, failed, failedOther]
      exact ⟨rfl, rfl, same.hardware, same.context⟩
  inspect := matches_query fun _ _ same => by rw [same.context.values, same.context.populated]
  populate template := by
    rintro workspace other same
    rcases same.context.populate template with
      ⟨after, otherAfter, done, doneOther, still⟩ | ⟨reason, failed, failedOther⟩
    · rw [populate, act_apply, act_apply, done, doneOther]
      exact ⟨rfl, rfl, same.hardware, still⟩
    · rw [populate, act_apply, act_apply, failed, failedOther]
      exact ⟨rfl, rfl, same.hardware, same.context⟩
  replace storage := matches_update fun _ _ same => ⟨same.hardware, rfl, rfl, rfl, rfl⟩
  reading timer _ := by
    have taken : TableM.InStep Workspace.SameSlots (act fun workspace : Workspace σ =>
        ((timer.now workspace.hardware).1,
          { workspace with hardware := (timer.now workspace.hardware).2 })) :=
      matches_act (fun _ _ same => (changedAlike timer.now _ _ same).1)
        fun _ _ same => (changedAlike timer.now _ _ same).2
    exact taken.bind fun _ => (matches_emit _).bind fun _ => matches_pure _

end Workspace

/-! ## Devices -/

namespace Device

variable (device : Device σ)

/-- Pins are selected by slots. -/
theorem inStep_selectPins (action : Action) :
    InStep (fun _ => true) Workspace.SameSlots (device.selectPins action)
      (device.selectPins action) := by
  rw [selectPins]
  cases device.pins with
  | none => exact matches_pure ()
  | some controller =>
      apply matches_query_bind
      rintro machine _ ⟨workspace, same, rfl⟩
      simp only [same.context.resolve]
      cases (device.driver.pins.selection action).resolve machine.context with
      | error reason => exact matches_emit _
      | ok choice =>
          cases choice with
          | none => exact matches_pure ()
          | some state =>
              apply (inStep_onHardware (Workspace.changedAlike _)).bind
              intro accepted
              exact (matches_emit _).bind fun _ =>
                matches_ite (fun _ => matches_pure ()) fun _ => matches_emit _

/-- A device does the same in workspaces with the same slots. -/
theorem lockstep_sameSlots :
    device.Lockstep device.pins device.driver.pins (fun _ => true) Workspace.SameSlots where
  port := Workspace.lockstep_port device.port
  hooks _ hook _ := Workspace.changedAlike hook
  timer timer _ := Workspace.changedAlike timer.now
  clocks clock _ := by
    cases clock with
    | fixed => trivial
    | gate isRunning enable disable =>
        exact ⟨Workspace.seenAlike_sameSlots _, Workspace.changedAlike _, Workspace.changedAlike _⟩
  channels _ _ :=
    ⟨Workspace.seenAlike_sameSlots _, Workspace.changedAlike _, Workspace.changedAlike _⟩
  selectPins := device.inStep_selectPins

/-- A new context is made in both storages or in none. -/
theorem newContext_sameSlots {first second : Context} (same : first.SameSlots second)
    (template : List UInt32) :
    (∃ after other, device.newContext template first = .ok after ∧
      device.newContext template second = .ok other ∧ after.SameSlots other) ∨
    ∃ reason, device.newContext template first = .error reason ∧
      device.newContext template second = .error reason := by
  rw [newContext, newContext, same.populated]
  split
  next => exact .inr ⟨_, rfl, rfl⟩
  next =>
    cases device.validate template.length with
    | error reason => exact .inr ⟨reason, rfl, rfl⟩
    | ok done => exact same.populate template

theorem inStep_createContext (template : List UInt32) :
    InStep (fun _ => true) Workspace.SameSlots (device.createContext template)
      (device.createContext template) := by
  apply matches_query_bind
  rintro machine _ ⟨workspace, same, rfl⟩
  rcases device.newContext_sameSlots same.context template with
    ⟨after, other, done, doneOther, still⟩ | ⟨reason, failed, failedOther⟩
  · simp only [done, doneOther]
    apply matches_update
    rintro machine _ ⟨workspace, alike, rfl⟩
    exact ⟨{ workspace with context := other }, ⟨alike.hardware, still⟩, rfl⟩
  · simp only [failed, failedOther]
    exact matches_fail _

/-- Every request has the same result in workspaces with the same slots, and leaves such
workspaces. -/
theorem inStep_perform (request : Request) :
    InStep (fun _ => true) Workspace.SameSlots (device.perform request)
      (device.perform request) :=
  device.lockstep_sameSlots.perform fun template _ => device.inStep_createContext template

/-- So does every history. -/
theorem inStep_history (happenings : List (Happening σ)) :
    InStep (fun _ => true) Workspace.SameSlots (device.history happenings)
      (device.history happenings) := by
  have unchanged : List.Forall₂ (Happening.InStep Workspace.SameSlots) happenings happenings := by
    apply List.forall₂_same.mpr
    intro happening _
    cases happening with
    | asked request => exact .asked request
    | changed hardware => exact .changed fun _ _ same => ⟨rfl, same.context⟩
    | handler holds => exact .handler holds
  exact device.lockstep_sameSlots.history unchanged fun template _ =>
    device.inStep_createContext template

end Device

end DevicePower
