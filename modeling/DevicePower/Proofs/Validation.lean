import DevicePower.Driver
import DevicePower.Proofs.Slots
import DevicePower.Proofs.Table.Accesses
import DevicePower.Proofs.Table.Keeping

/-!
# What a passed check is good for

Tables, conditions and pin selections are checked against the length of a context. The
check of an entry is turned into a statement about the slots that the entry uses, the
check of a condition into a statement about its evaluation: in a context with that many
slots, neither fails for a reason that the description is to blame for.
-/

namespace DevicePower

open TableM Traced

variable {σ : Type}

/-- A sequence of checks passes if all of them do. -/
theorem passes_bind_iff {ε α β : Type} {first : Except ε α} {next : α → Except ε β} {value : β} :
    (first >>= next) = .ok value ↔ ∃ middle, first = .ok middle ∧ next middle = .ok value := by
  cases first with
  | error error => simp [bind, Except.bind]
  | ok middle => simp [bind, Except.bind]

/-- Of two checks that only pass or fail, both have to pass. -/
theorem passes_both_iff {ε : Type} {first second : Except ε Unit} :
    (first >>= fun _ => second) = .ok () ↔ first = .ok () ∧ second = .ok () := by
  rw [passes_bind_iff]
  exact ⟨fun ⟨⟨⟩, passed⟩ => passed, fun passed => ⟨(), passed⟩⟩

/-- A sequence of checks fails with an error if the first does, or if the rest does after it. -/
theorem refuses_bind_iff {ε α β : Type} {first : Except ε α} {next : α → Except ε β} {error : ε} :
    (first >>= next) = .error error ↔
      first = .error error ∨ ∃ middle, first = .ok middle ∧ next middle = .error error := by
  cases first with
  | error other => simp [bind, Except.bind]
  | ok middle => simp [bind, Except.bind]

/-- The error is not the fault of a description. -/
def Error.Operational (error : Error) : Prop :=
  ∀ reason, error ≠ .configuration reason

theorem Error.operational_registerAccess (offset : UInt32) :
    (Error.registerAccess offset).Operational := nofun

theorem Error.operational_timeout (offset : UInt32) : (Error.timeout offset).Operational := nofun

theorem Error.operational_busy : Error.busy.Operational := nofun

theorem Error.operational_callback (stage : Stage) : (Error.callback stage).Operational := nofun

/-! ## Entries and tables -/

theorem requireSlot_eq_ok_iff {length index : Nat} :
    requireSlot length index = .ok () ↔ index < length := by
  rw [requireSlot]
  split
  next within => simp [within]
  next beyond => simp [beyond]

namespace Entry

variable {entry : Entry} {kind : TableKind} {length : Nat}

/-- Every slot that the entry uses is one of `length` slots. -/
structure Fits (length : Nat) (entry : Entry) : Prop where
  slot : entry.operation ≠ .flushRead → entry.slot < length
  sources : ∀ slot ∈ entry.sources, slot < length

/-- An entry that passes its check uses no slot that does not exist. -/
theorem fits_of_validate (passed : entry.validate kind length = .ok ()) :
    entry.Fits length := by
  obtain ⟨⟨⟩, slotPassed, rest⟩ := passes_bind_iff.mp passed
  obtain ⟨⟨⟩, augmentPassed, -⟩ := passes_bind_iff.mp rest
  have slot : entry.operation ≠ .flushRead → entry.slot < length := by
    intro uses
    rw [checkSlot, if_neg uses] at slotPassed
    exact requireSlot_eq_ok_iff.mp slotPassed
  refine ⟨slot, ?_⟩
  intro used member
  cases operation : entry.operation with
  | read | flushRead => simp [sources, operation] at member
  | write | writeThenRead | readModifyWrite op =>
      simp only [sources, operation, List.mem_singleton] at member
      rw [member]
      exact slot (by simp [operation])
  | writeAugmented op =>
      cases augment : entry.augment with
      | none | constant value =>
          simp only [sources, operation, augment, List.mem_singleton] at member
          rw [member]
          exact slot (by simp [operation])
      | combine left inner right =>
          simp only [checkAugment, operation, Operation.augmented, augment] at augmentPassed
          obtain ⟨⟨⟩, leftPassed, rightPassed⟩ := passes_bind_iff.mp augmentPassed
          simp only [sources, operation, augment, List.mem_cons, List.not_mem_nil,
            or_false] at member
          rcases member with rfl | rfl | rfl
          · exact requireSlot_eq_ok_iff.mp leftPassed
          · exact requireSlot_eq_ok_iff.mp rightPassed
          · exact slot (by simp [operation])

/-- Whatever an entry does, the slots remain. -/
theorem steps_hasSlots (port : Port σ) (entry : Entry) :
    entry.Steps port (fun workspace => workspace.context.HasSlots length) (fun _ => True) :=
  entry.steps_of_indifferent port (fun _ _ slots => slots)
    (fun _ _ _ _ slots done => slots.of_set done) (fun _ => trivial) (fun _ => trivial)
    fun _ => trivial

/-- An entry that fits the context fails for operational reasons only, provided that
there is a timer if it polls. -/
theorem Fits.steps (fits : entry.Fits length) {port : Port σ}
    (timed : entry.poll.isSome = true → port.timer.isSome = true) :
    entry.Steps port (fun workspace => workspace.context.HasSlots length)
      Error.Operational := by
  have read : Keeps (Workspace.Kept fun workspace => workspace.context.HasSlots length)
      Error.Operational (port.read entry.offset) :=
    Port.keeps_read (fun _ slots => slots) (Error.operational_registerAccess _)
  constructor
  case read => exact read
  case write =>
    intro _ value
    exact Port.keeps_write (fun _ slots => slots) (Error.operational_registerAccess _)
  case fetch =>
    intro slot used
    apply keeps_fetch
    intro workspace reason slots failed
    obtain ⟨value, found⟩ := slots.get_succeeds (fits.sources slot used)
    rw [found] at failed
    cases failed
  case store =>
    intro operation value
    apply keeps_deposit (fun _ _ slots done => slots.of_set done)
    intro workspace reason slots failed
    have within := fits.slot (by rw [operation]; decide)
    obtain ⟨after, done⟩ := slots.set_succeeds within value
    rw [done] at failed
    cases failed
  case settle =>
    intro poll present _
    apply Port.keeps_settle read (fun _ _ => keeps_reading fun _ slots => slots)
      (Error.operational_timeout _)
    intro absent
    have available := timed (by rw [present]; rfl)
    rw [absent] at available
    cases available

/-- An entry that fits the context has no step that can fail, if its register is read and written
without faults and it does not poll. -/
theorem Fits.steps_of_served (fits : entry.Fits length) {port : Port σ}
    (answers : ∀ hardware, ∃ value,
      (port.transport.read entry.offset hardware).result = .ok value)
    (accepts : ∀ value hardware,
      (port.transport.write entry.offset value hardware).result = .ok ())
    (unpolled : entry.poll = none) :
    entry.Steps port (fun workspace => workspace.context.HasSlots length) (fun _ => False) where
  read := by
    intro _ workspace slots
    obtain ⟨value, answered⟩ := answers workspace.hardware
    rw [Port.read_state, Port.read_result, answered]
    exact ⟨slots, nofun⟩
  write _ value := by
    intro _ workspace slots
    rw [Port.write_state, Port.write_result, accepts]
    exact ⟨slots, nofun⟩
  fetch slot used := keeps_fetch fun _ _ slots failed => by
    obtain ⟨value, found⟩ := slots.get_succeeds (fits.sources slot used)
    rw [found] at failed
    cases failed
  store reads value := by
    apply keeps_deposit (fun _ _ slots done => slots.of_set done)
    intro _ _ slots failed
    obtain ⟨after, done⟩ := slots.set_succeeds (fits.slot (by simp [reads])) value
    rw [done] at failed
    cases failed
  settle poll polled := by simp [unpolled] at polled

end Entry

namespace Table

/-- Every entry of a table that passes its check fits. -/
theorem fits_of_validate {kind : TableKind} {length : Nat} {table : Table}
    (passed : table.validate kind length = .ok ()) : ∀ entry ∈ table, entry.Fits length := by
  induction table with
  | nil => simp
  | cons first rest ih =>
      obtain ⟨⟨⟩, firstPassed, restPassed⟩ := passes_bind_iff.mp passed
      intro entry member
      rcases List.mem_cons.mp member with rfl | member
      · exact Entry.fits_of_validate firstPassed
      · exact ih restPassed entry member

end Table

/-! ## Conditions and pin selections -/

namespace Operand

theorem value_of_validate {context : Context} {length : Nat} (slots : context.HasSlots length)
    {operand : Operand} (passed : operand.validate length = .ok ()) :
    ∃ value, operand.value context = .ok value := by
  cases operand with
  | constant value => exact ⟨value, rfl⟩
  | slot index => exact slots.get_succeeds (requireSlot_eq_ok_iff.mp passed)

end Operand

namespace Condition

/-- A condition that passes its check can be evaluated. -/
theorem evalFrom_of_validateFrom {condition : Condition} {context : Context} {length : Nat}
    (slots : context.HasSlots length) (levels : Nat) (node : Fin condition.size)
    (passed : condition.validateFrom length levels node = .ok ()) :
    ∃ holds, condition.evalFrom context levels node = .ok holds := by
  induction levels generalizing node with
  | zero => cases passed
  | succ levels ih =>
      rw [validateFrom] at passed
      rw [evalFrom]
      cases shape : condition.nodes[node] with
      | nonzero operand =>
          simp only [shape] at passed ⊢
          obtain ⟨word, found⟩ := Operand.value_of_validate slots passed
          exact ⟨word != 0, by rw [found]; rfl⟩
      | compare comparison left right =>
          simp only [shape] at passed ⊢
          obtain ⟨⟨⟩, leftPassed, rightPassed⟩ := passes_bind_iff.mp passed
          obtain ⟨leftWord, leftFound⟩ := Operand.value_of_validate slots leftPassed
          obtain ⟨rightWord, rightFound⟩ := Operand.value_of_validate slots rightPassed
          exact ⟨comparison.holds leftWord rightWord, by rw [leftFound, rightFound]; rfl⟩
      | and left right =>
          simp only [shape] at passed ⊢
          obtain ⟨⟨⟩, leftPassed, rightPassed⟩ := passes_bind_iff.mp passed
          obtain ⟨leftHolds, leftFound⟩ := ih left leftPassed
          obtain ⟨rightHolds, rightFound⟩ := ih right rightPassed
          refine ⟨leftHolds && rightHolds, ?_⟩
          rw [leftFound]
          cases leftHolds with
          | false => rfl
          | true => exact rightFound
      | or left right =>
          simp only [shape] at passed ⊢
          obtain ⟨⟨⟩, leftPassed, rightPassed⟩ := passes_bind_iff.mp passed
          obtain ⟨leftHolds, leftFound⟩ := ih left leftPassed
          obtain ⟨rightHolds, rightFound⟩ := ih right rightPassed
          refine ⟨leftHolds || rightHolds, ?_⟩
          rw [leftFound]
          cases leftHolds with
          | false => exact rightFound
          | true => rfl
      | not inner =>
          simp only [shape] at passed ⊢
          obtain ⟨holds, found⟩ := ih inner passed
          exact ⟨!holds, by rw [found]; rfl⟩

end Condition

namespace PinSelection

/-- A selection that passes its check chooses a pin state, or leaves the pins alone. -/
theorem resolve_of_validate {context : Context} {length : Nat} (slots : context.HasSlots length)
    {selection : PinSelection} (passed : selection.validate length = .ok ()) :
    ∃ choice, selection.resolve context = .ok choice := by
  cases selection with
  | unchanged => exact ⟨none, rfl⟩
  | always state => exact ⟨some state, rfl⟩
  | choose condition yes no =>
      obtain ⟨holds, found⟩ :=
        Condition.evalFrom_of_validateFrom slots Condition.maxLevels condition.root passed
      have evaluated : condition.eval context = .ok holds := found
      exact ⟨some (if holds then yes else no), by rw [resolve, evaluated]; rfl⟩

end PinSelection

end DevicePower
