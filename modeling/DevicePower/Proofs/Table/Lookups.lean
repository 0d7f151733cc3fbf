import DevicePower.Proofs.Slots
import DevicePower.Proofs.Table.Accesses
import DevicePower.Proofs.Table.Keeping

/-!
# Slots that a table looks up

An entry that uses a slot which the context does not have stops the table, and the error names the
slot. `Entry.missing` is the first such slot. The entry has read its register by then if its
operation begins with a read, and has done nothing else. A comparison stops in the same way. No
other entry ever fails for want of a slot.
-/

namespace DevicePower

open TableM Traced

/-! ## Computations that stop at once -/

namespace Traced

variable {ε η σ α β : Type} {first : Traced ε η σ α} {next other : α → Traced ε η σ β}
variable {state : σ} {error : ε}

/-- A sequence whose first part stops at once stops at once. -/
theorem bind_of_stopped (stopped : first state = fail error state) :
    (first >>= next) state = fail error state := by
  have failed : (first state).result = .error error := by rw [stopped, fail_apply]
  rw [bind_of_error failed, stopped, fail_apply, fail_apply]

/-- The rest of a sequence does not matter if its first part fails. -/
theorem bind_eq_of_fails {next : α → Traced ε η σ α}
    (fails : ∃ error, (first state).result = .error error) :
    (first >>= next) state = first state := by
  obtain ⟨error, failed⟩ := fails
  rw [bind_of_error failed, ← failed]

theorem fails_bind_fail (first : Traced ε η σ α) (error : ε) (state : σ) :
    ∃ reason, ((first >>= fun _ => (fail error : Traced ε η σ β)) state).result =
      .error reason := by
  cases ended : (first state).result with
  | error reason => exact ⟨reason, by rw [bind_of_error ended]⟩
  | ok value => exact ⟨error, by rw [bind_of_ok ended, fail_apply]⟩

/-- What the rest of a sequence does matters only from where the first part leads to. -/
theorem bind_apply_congr
    (same : ∀ value, (first state).result = .ok value →
      next value (first state).state = other value (first state).state) :
    (first >>= next) state = (first >>= other) state := by
  cases ended : (first state).result with
  | error error => rw [bind_of_error ended, bind_of_error ended]
  | ok value => rw [bind_of_ok ended, bind_of_ok ended, same value ended]

end Traced

variable {σ : Type}

/-- The first of the slots that a context of `length` slots does not have. -/
def firstMissing (length : Nat) (slots : List Nat) : Option Nat :=
  slots.find? fun slot => length ≤ slot

/-- The error for a slot that does not exist. -/
abbrev Error.noSlot (slot : Nat) : Error :=
  .configuration (.indexOutOfRange slot)

namespace Entry

variable {port : Port σ} {entry : Entry} {workspace : Workspace σ} {slot index : Nat}

/-! ## Single look-ups -/

/-- Slots are looked up one after the other, up to the first that does not exist. -/
theorem fetch_bind_of_missing {α : Type} {rest : List Nat} {next : UInt32 → TableM σ α}
    (missing : firstMissing workspace.context.values.length (slot :: rest) = some index)
    (later : firstMissing workspace.context.values.length rest = some index →
      ∀ value, next value workspace = fail (.noSlot index) workspace) :
    (fetch slot >>= next) workspace = fail (.noSlot index) workspace := by
  rw [firstMissing, List.find?_cons_eq_some] at missing
  rcases missing with ⟨absent, rfl⟩ | ⟨within, missing⟩
  · apply bind_of_stopped
    rw [fetch_apply, Context.get_eq_error_iff.mpr ⟨of_decide_eq_true absent, rfl⟩,
      mapError_error, fail_apply]
  · have bound : slot < workspace.context.values.length := by simpa using within
    have present : workspace.context.get slot = .ok workspace.context.values[slot] := by
      rw [Context.get, List.getElem?_eq_getElem bound]
    have found : (fetch slot workspace : Outcome _ _ _ _).result =
        .ok workspace.context.values[slot] := by
      rw [fetch_apply, present, mapError_ok]
    rw [bind_of_ok found, fetch_apply, later missing, fail_apply, List.nil_append]

theorem fetch_bind_of_only {α : Type} {next : UInt32 → TableM σ α}
    (missing : firstMissing workspace.context.values.length [slot] = some index) :
    (fetch slot >>= next) workspace = fail (.noSlot index) workspace :=
  fetch_bind_of_missing missing fun none => nomatch none

theorem deposit_of_missing {value : UInt32} (missing : workspace.context.values.length ≤ slot) :
    (store slot value >>= configured) workspace = fail (.noSlot slot) workspace := by
  have refused : workspace.context.set slot value = .error (.indexOutOfRange slot) :=
    Context.set_eq_error_iff.mpr ⟨missing, rfl⟩
  simp [bind_apply, store, configured, refused]

/-! ## Entries -/

/-- The slots that an entry looks up or overwrites, in this order. -/
def uses (entry : Entry) : List Nat :=
  match entry.operation with
  | .read => [entry.slot]
  | _ => entry.sources

/-- The first slot that an entry uses and that a context of `length` slots does not have. -/
def missing (length : Nat) (entry : Entry) : Option Nat :=
  firstMissing length entry.uses

theorem missing_eq_none_iff {length : Nat} :
    entry.missing length = none ↔ ∀ slot ∈ entry.uses, slot < length := by
  simp [missing, firstMissing]

theorem used_of_missing {length : Nat} (missing : entry.missing length = some index) :
    index ∈ entry.uses ∧ length ≤ index := by
  rw [Entry.missing, firstMissing] at missing
  exact ⟨List.mem_of_find?_eq_some missing, by simpa using List.find?_some missing⟩

/-- What an entry does before it looks at any slot. -/
def lead (port : Port σ) (entry : Entry) : TableM σ Unit :=
  match entry.operation with
  | .read | .readModifyWrite _ => do
      let _ ← port.read entry.offset
  | _ => pure ()

/-- A value is moved only if every slot that this takes exists. -/
theorem transfer_of_missing (port : Port σ)
    (missing : entry.missing workspace.context.values.length = some index) :
    entry.transfer port workspace =
      (do
        entry.lead port
        fail (.noSlot index)) workspace := by
  rw [Entry.missing] at missing
  cases operation : entry.operation with
  | flushRead => simp [uses, sources, operation, firstMissing] at missing
  | read =>
      have absent : workspace.context.values.length ≤ entry.slot ∧ entry.slot = index := by
        simpa [uses, operation, firstMissing] using missing
      obtain ⟨absent, rfl⟩ := absent
      simp only [transfer, lead, operation, bind_assoc, pure_bind]
      apply bind_apply_congr
      intro value _
      rw [← bind_assoc]
      apply bind_of_stopped
      rw [deposit_of_missing (by rwa [Port.read_state])]
  | write =>
      simp only [transfer, lead, operation, pure_bind]
      exact fetch_bind_of_only (by simpa [uses, sources, operation] using missing)
  | writeThenRead =>
      simp only [transfer, lead, operation, pure_bind]
      exact fetch_bind_of_only (by simpa [uses, sources, operation] using missing)
  | readModifyWrite op =>
      simp only [transfer, lead, operation, bind_assoc, pure_bind]
      apply bind_apply_congr
      intro value _
      apply fetch_bind_of_only
      rw [Port.read_state]
      simpa [uses, sources, operation] using missing
  | writeAugmented op =>
      simp only [transfer, lead, operation, pure_bind]
      cases augment : entry.augment with
      | none =>
          rw [augmentValue, pure_bind]
          exact fetch_bind_of_only (by simpa [uses, sources, operation, augment] using missing)
      | constant value =>
          rw [augmentValue, pure_bind]
          exact fetch_bind_of_only (by simpa [uses, sources, operation, augment] using missing)
      | combine left inner right =>
          -- The operands of the augment are looked up before the slot itself.
          simp only [augmentValue, bind_assoc, pure_bind]
          have missing : firstMissing workspace.context.values.length [left, right, entry.slot] =
              some index := by
            simpa [uses, sources, operation, augment] using missing
          apply fetch_bind_of_missing missing
          intro missing _
          apply fetch_bind_of_missing missing
          intro missing _
          exact fetch_bind_of_only missing

/-- An entry that uses a slot which does not exist stops there. It has read its register if it
begins with that, and has done nothing else. -/
theorem run_of_missing (port : Port σ)
    (missing : entry.missing workspace.context.values.length = some index) :
    entry.run port workspace =
      (do
        entry.lead port
        fail (.noSlot index)) workspace := by
  have moved := transfer_of_missing port missing
  rw [run, bind_eq_of_fails (by rw [moved]; exact fails_bind_fail _ _ _), moved]

/-- An entry fails for want of a slot only if it uses that slot. -/
theorem steps_of_uses {length : Nat} {allowed : Error → Prop} (port : Port σ) (entry : Entry)
    (named : ∀ index ∈ entry.uses, length ≤ index → allowed (.noSlot index))
    (access : ∀ offset, allowed (.registerAccess offset))
    (timeout : ∀ offset, allowed (.timeout offset))
    (untimed : allowed (.configuration .noTimer)) :
    entry.Steps port (fun workspace => workspace.context.values.length = length) allowed := by
  have read : Keeps (Workspace.Kept fun workspace => workspace.context.values.length = length)
      allowed (port.read entry.offset) := Port.keeps_read (fun _ kept => kept) (access _)
  constructor
  case read => exact read
  case write => exact fun _ _ => Port.keeps_write (fun _ kept => kept) (access _)
  case fetch =>
    intro slot source
    apply keeps_fetch
    intro workspace reason kept failed
    obtain ⟨absent, rfl⟩ := Context.get_eq_error_iff.mp failed
    apply named slot _ (kept ▸ absent)
    cases operation : entry.operation with
    | read => simp [sources, operation] at source
    | _ => simpa only [uses, operation] using source
  case store =>
    intro operation value
    apply keeps_deposit
    · intro workspace after kept done
      rw [Context.values_of_set done, List.length_set, kept]
    · intro workspace reason kept failed
      obtain ⟨absent, rfl⟩ := Context.set_eq_error_iff.mp failed
      exact named entry.slot (by simp [uses, operation]) (kept ▸ absent)
  case settle =>
    exact fun _ _ _ =>
      Port.keeps_settle read (fun _ _ => keeps_reading fun _ kept => kept) (timeout _)
        fun _ => untimed

end Entry

/-! ## Tables -/

namespace Table

variable {port : Port σ} {entry : Entry} {workspace : Workspace σ} {table : Table} {index : Nat}

theorem run_append (port : Port σ) (before after : Table) :
    Table.run port (before ++ after) = (do Table.run port before; Table.run port after) := by
  induction before with
  | nil => exact (pure_bind () fun _ => Table.run port after).symm
  | cons entry rest ih => simp only [List.cons_append, run, ih, bind_assoc]

theorem differs_append (port : Port σ) (before after : Table) :
    Table.differs port (before ++ after) = (do
      if ← Table.differs port before then
        return true
      else
        Table.differs port after) := by
  induction before with
  | nil => simp [differs]
  | cons entry rest ih =>
      simp only [List.cons_append, differs, ih, bind_assoc]
      congr 1
      funext live
      congr 1
      funext saved
      split <;> simp

/-- No table changes the number of slots. One that fails for want of a slot has an entry that uses
it. -/
theorem keeps_length (port : Port σ) (table : Table) (length : Nat) :
    Keeps (Workspace.Kept fun workspace => workspace.context.values.length = length)
      (fun error => ∀ index, error = .noSlot index →
        ∃ entry ∈ table, index ∈ entry.uses ∧ length ≤ index)
      (table.run port) := by
  apply keeps_run
  intro entry member
  apply entry.steps_of_uses port
  · rintro slot used absent index ⟨⟩
    exact ⟨entry, member, used, absent⟩
  · nofun
  · nofun
  · nofun

theorem values_length_run (port : Port σ) (table : Table) (workspace : Workspace σ) :
    (table.run port workspace).state.context.values.length = workspace.context.values.length :=
  (table.keeps_length port _ [] workspace rfl).1

/-- A comparison changes no slot. One that fails for want of a slot has an entry that names it. -/
theorem keeps_context_differs (port : Port σ) (table : Table) (context : Context) :
    Keeps (Workspace.Kept fun workspace => workspace.context = context)
      (fun error => ∀ index, error = .noSlot index →
        ∃ entry ∈ table, entry.slot = index ∧ context.values.length ≤ index)
      (table.differs port) := by
  apply keeps_differs
  · exact fun _ _ => Port.keeps_read (fun _ kept => kept) nofun
  · intro entry member
    apply Entry.keeps_fetch
    rintro workspace reason rfl failed index ⟨⟩
    obtain ⟨absent, same⟩ := Context.get_eq_error_iff.mp failed
    cases same
    exact ⟨entry, member, rfl, absent⟩

/-- A table goes no further than an entry that uses a slot which does not exist. -/
theorem run_of_missing (before after : Table)
    (missing : entry.missing workspace.context.values.length = some index) :
    Table.run port (before ++ entry :: after) workspace =
      (do
        Table.run port before
        entry.lead port
        fail (.noSlot index)) workspace := by
  rw [run_append]
  apply bind_apply_congr
  intro _ _
  rw [← values_length_run port before workspace] at missing
  have stopped := Entry.run_of_missing port missing
  rw [run, bind_eq_of_fails (by rw [stopped]; exact fails_bind_fail _ _ _), stopped]

/-- A comparison goes no further than an entry that names a slot which does not exist. It has read
the register by then. -/
theorem differs_of_missing (before after : Table)
    (missing : workspace.context.values.length ≤ entry.slot) :
    Table.differs port (before ++ entry :: after) workspace =
      (do
        if ← Table.differs port before then
          return true
        else
          let _ ← port.read entry.offset
          fail (.noSlot entry.slot)) workspace := by
  rw [differs_append]
  apply bind_apply_congr
  intro differed _
  cases differed with
  | true => rfl
  | false =>
      have same := (keeps_context_differs port before workspace.context [] workspace rfl).1
      simp only [Bool.false_eq_true, if_false, differs]
      apply bind_apply_congr
      intro live _
      apply Entry.fetch_bind_of_only
      rw [Port.read_state, same]
      simpa [firstMissing] using missing

end Table

end DevicePower
