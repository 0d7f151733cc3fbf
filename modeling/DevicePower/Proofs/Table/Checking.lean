import DevicePower.Proofs.Table.Stopping
import DevicePower.Proofs.Validation

/-!
# What the check of a table finds

The check of a table and its run look at the same slots, but not in the same order: the check asks
for the slot of an entry before the operands of its augment, and the run looks the operands up
first. So the two may name different slots, but they find fault with the same entry. On a bus
without faults nothing else can go wrong, and an entry succeeds exactly if it passes its check.

Entries that poll are left out, since a poll may fail for want of a timer. So are entries that
have an augment which their operation does not take, or lack one that it does take: the check
refuses them, and the run takes no notice.
-/

namespace DevicePower

open TableM Traced

variable {σ : Type}

/-- A bus without faults: every read is answered, and every write is accepted. -/
structure Transport.Flawless (transport : Transport σ) : Prop where
  answers : ∀ offset hardware, ∃ value, (transport.read offset hardware).result = .ok value
  accepts : ∀ offset value hardware, (transport.write offset value hardware).result = .ok ()

namespace Entry

variable {port : Port σ} {entry : Entry} {workspace : Workspace σ}
variable {kind : TableKind} {length : Nat}

/-- An entry that does not poll, and has an augment exactly if its operation takes one. -/
structure Plain (entry : Entry) : Prop where
  unpolled : entry.poll = none
  augmented : entry.operation.augmented = true ↔ entry.augment ≠ .none

/-- The check of a plain entry asks for the slots that the entry uses, and for nothing else. -/
theorem Plain.validate_eq_ok_iff (plain : entry.Plain) :
    entry.validate kind length = .ok () ↔ ∀ slot ∈ entry.uses, slot < length := by
  have poll : entry.checkPoll kind = .ok () := by simp [checkPoll, plain.unpolled]
  rw [validate, passes_both_iff, passes_both_iff, poll, checkSlot, checkAugment, uses, sources]
  cases operation : entry.operation with
  | writeAugmented op =>
      cases augment : entry.augment with
      | none => exact absurd augment (plain.augmented.mp (by simp [operation, Operation.augmented]))
      | constant value => simp [Operation.augmented, requireSlot_eq_ok_iff]
      | combine left inner right =>
          -- The check begins with the slot of the entry, the run ends with it.
          simp [Operation.augmented, passes_both_iff, requireSlot_eq_ok_iff, and_comm, and_assoc]
  | _ =>
      have augment : entry.augment = .none := by
        simpa [operation, Operation.augmented] using plain.augmented
      simp [augment, Operation.augmented, requireSlot_eq_ok_iff]

/-- An entry that lacks a slot fails for want of it, as its read has been answered. -/
theorem run_result_of_missing {index : Nat} (flawless : port.transport.Flawless)
    (missing : entry.missing workspace.context.values.length = some index) :
    (entry.run port workspace).result = .error (.noSlot index) := by
  have led : (entry.lead port workspace).result = .ok () := by
    obtain ⟨value, answered⟩ := flawless.answers entry.offset workspace.hardware
    have read : (port.read entry.offset workspace).result = .ok value := by
      rw [Port.read_result, answered, mapError_ok]
    cases operation : entry.operation with
    | read | readModifyWrite op => simp [lead, operation, bind_of_ok read]
    | _ => simp [lead, operation]
  rw [run_of_missing port missing, bind_of_ok led, fail_apply]

end Entry

namespace Table

variable {port : Port σ} {table : Table} {workspace : Workspace σ} {step : Step σ}
variable {kind : TableKind} {length : Nat}

/-! ## Single steps -/

/-- A step succeeds exactly if its entry passes its check. -/
theorem Step.succeeds_iff (kind : TableKind) (plain : step.entry.Plain)
    (flawless : port.transport.Flawless) (slots : step.workspace.context.HasSlots length) :
    step.Succeeds port ↔ step.entry.validate kind length = .ok () := by
  constructor
  · intro succeeds
    rw [plain.validate_eq_ok_iff, ← Entry.missing_eq_none_iff, ← slots.values_length]
    cases missing : step.entry.missing step.workspace.context.values.length with
    | none => rfl
    | some index =>
        have failed := Entry.run_result_of_missing flawless missing
        rw [Step.Succeeds, Step.outcome, failed] at succeeds
        cases succeeds
  · intro passed
    have steady := ((Entry.fits_of_validate passed).steps_of_served (flawless.answers _)
      (flawless.accepts _) plain.unpolled).keeps_run
    cases result : (step.outcome port).result with
    | ok done => exact result
    | error error => exact ((steady [] step.workspace slots).2 error result).elim

/-- A step that fails was refused, and wants for a slot that its entry uses. -/
theorem Step.refused (kind : TableKind) (plain : step.entry.Plain)
    (flawless : port.transport.Flawless) (slots : step.workspace.context.HasSlots length)
    {error : Error} (failed : (step.outcome port).result = .error error) :
    (∃ reason, step.entry.validate kind length = .error reason) ∧
      ∃ index ∈ step.entry.uses, length ≤ index ∧ error = .noSlot index := by
  have unsuccessful : ¬step.Succeeds port := by simp [Step.Succeeds, failed]
  rw [Step.succeeds_iff kind plain flawless slots] at unsuccessful
  constructor
  · cases verdict : step.entry.validate kind length with
    | ok done => exact absurd verdict unsuccessful
    | error reason => exact ⟨reason, rfl⟩
  · rw [plain.validate_eq_ok_iff, ← Entry.missing_eq_none_iff] at unsuccessful
    obtain ⟨index, missing⟩ := Option.ne_none_iff_exists'.mp unsuccessful
    obtain ⟨used, beyond⟩ := Entry.used_of_missing missing
    rw [← slots.values_length] at missing
    have stopped := Entry.run_result_of_missing flawless missing
    rw [Step.outcome, stopped] at failed
    exact ⟨index, used, beyond, (Except.error.inj failed).symm⟩

/-- No step makes or removes a slot. -/
theorem steps_hasSlots (slots : workspace.context.HasSlots length) :
    ∀ step ∈ table.steps port workspace, step.workspace.context.HasSlots length := by
  induction table generalizing workspace with
  | nil => simp [steps]
  | cons entry rest ih =>
      have after : (entry.run port workspace).state.context.HasSlots length :=
        ((entry.steps_hasSlots port).keeps_run [] workspace slots).1
      exact List.forall_mem_cons.mpr ⟨slots, ih after⟩

/-! ## Whole tables -/

theorem validate_eq_ok_iff :
    table.validate kind length = .ok () ↔ ∀ entry ∈ table, entry.validate kind length = .ok () := by
  induction table with
  | nil => simp [validate]
  | cons entry rest ih => rw [validate, passes_both_iff, List.forall_mem_cons, ih]

/-- The first entry that does not pass decides what is reported. -/
theorem validate_of_refused {before after : Table} {entry : Entry} {reason : ConfigError}
    (passed : ∀ other ∈ before, other.validate kind length = .ok ())
    (refused : entry.validate kind length = .error reason) :
    (before ++ entry :: after).validate kind length = .error reason := by
  induction before with
  | nil => exact refuses_bind_iff.mpr (.inl refused)
  | cons first rest ih =>
      obtain ⟨firstPassed, restPassed⟩ := List.forall_mem_cons.mp passed
      exact refuses_bind_iff.mpr (.inr ⟨(), firstPassed, ih restPassed⟩)

section Plain

variable (plain : ∀ entry ∈ table, entry.Plain) (flawless : port.transport.Flawless)
variable (slots : workspace.context.HasSlots length)

include plain flawless slots

theorem steps_succeed_iff (kind : TableKind) :
    ∀ step ∈ table.steps port workspace,
      step.Succeeds port ↔ step.entry.validate kind length = .ok () := by
  intro step member
  have plainStep := (forall_entries_iff port workspace).mp plain step member
  exact Step.succeeds_iff kind plainStep flawless (steps_hasSlots slots step member)

/-- A table succeeds exactly if it passes its check. -/
theorem run_succeeds_iff_validate :
    (table.run port workspace).result = .ok () ↔ table.validate kind length = .ok () := by
  rw [run_succeeds_iff, validate_eq_ok_iff, forall_entries_iff port workspace]
  exact forall₂_congr (steps_succeed_iff plain flawless slots kind)

/-- A table that fails has come to the entry which the check refuses. -/
theorem halts_at_refused (kind : TableKind) {error : Error}
    (failed : (table.run port workspace).result = .error error) :
    ∃ number step reason index, Halts port table workspace number step error ∧
      table[number]? = some step.entry ∧
      Table.validate kind length (table.take number) = .ok () ∧
      step.entry.validate kind length = .error reason ∧
      table.validate kind length = .error reason ∧
      index ∈ step.entry.uses ∧ length ≤ index ∧ error = .noSlot index := by
  obtain ⟨number, step, halts⟩ := halts_of_error failed
  have member : step ∈ table.steps port workspace := List.mem_of_getElem? halts.stops.present
  have plainStep := (forall_entries_iff port workspace).mp plain step member
  obtain ⟨⟨reason, refused⟩, index, used, beyond, same⟩ :=
    Step.refused kind plainStep flawless (steps_hasSlots slots step member) halts.stops.failed
  have present : table[number]? = some step.entry := by
    rw [← steps_entries port table workspace, List.getElem?_map, halts.stops.present]
    rfl
  have passed : ∀ entry ∈ table.take number, entry.validate kind length = .ok () := by
    rw [← steps_entries port table workspace, ← List.map_take, List.forall_mem_map]
    intro other before
    have within := List.mem_of_mem_take before
    exact (steps_succeed_iff plain flawless slots kind other within).mp
      (halts.stops.before other before)
  have split : table = table.take number ++ step.entry :: table.drop (number + 1) := by
    obtain ⟨bound, found⟩ := List.getElem?_eq_some_iff.mp present
    rw [← found, ← List.drop_eq_getElem_cons bound, List.take_append_drop]
  have reported : table.validate kind length = .error reason := by
    rw [split]
    exact validate_of_refused passed refused
  exact ⟨number, step, reason, index, halts, present, validate_eq_ok_iff.mpr passed, refused,
    reported, used, beyond, same⟩

/-- On a bus without faults, the check of a table whose entries do not poll and have fitting
augments is exact: the table passes if and only if no run of it finds fault with the
description, and then it succeeds. If the check finds that a slot is missing, then the run stops at
the very entry that the check refused, for want of a slot that this entry uses. The entries before
have taken effect, and this one has written nothing. -/
theorem passes_iff_runs (kind : TableKind) :
    let run := table.run port workspace
    (table.validate kind length = .ok () ↔
      ∀ reason, run.result ≠ .error (.configuration reason)) ∧
    (table.validate kind length = .ok () ↔ run.result = .ok ()) ∧
    ∀ index, table.validate kind length = .error (.indexOutOfRange index) →
      ∃ number step missing, Halts port table workspace number step (.noSlot missing) ∧
        table[number]? = some step.entry ∧
        Table.validate kind length (table.take number) = .ok () ∧
        step.entry.validate kind length = .error (.indexOutOfRange index) ∧
        missing ∈ step.entry.uses ∧ length ≤ missing ∧ step.WritesNothing port := by
  intro run
  have exactly : run.result = .ok () ↔ table.validate kind length = .ok () :=
    run_succeeds_iff_validate plain flawless slots
  refine ⟨?_, exactly.symm, ?_⟩
  · rw [← exactly]
    constructor
    · intro done reason
      rw [done]
      exact nofun
    · intro operational
      cases result : run.result with
      | ok done => rfl
      | error error =>
          obtain ⟨-, -, -, index, -, -, -, -, -, -, -, rfl⟩ :=
            halts_at_refused plain flawless slots kind result
          exact absurd result (operational _)
  · intro index refused
    cases result : run.result with
    | ok done =>
        rw [exactly.mp result] at refused
        cases refused
    | error error =>
        obtain ⟨number, step, reason, missing, halts, present, passed, verdict, reported, used,
          beyond, rfl⟩ := halts_at_refused plain flawless slots kind result
        rw [refused] at reported
        cases reported
        exact ⟨number, step, missing, halts, present, passed, verdict, used, beyond,
          Step.writesNothing_of_noSlot halts.stops.failed⟩

end Plain

end Table

/-! ## A table with two slots too many -/

namespace Bench.Doubtful

/-- The second entry uses two slots that do not exist. The check asks for one of them first, and
the run looks the other up first. -/
def table : Table :=
  [⟨.write, 0, 0, .none, none⟩, ⟨.writeAugmented .or, 4, 7, .combine 1 .or 5, none⟩,
    ⟨.flushRead, 0, 9, .none, none⟩]

def port : Port SteadyCells where
  transport := SteadyCells.bank.transport
  timer := none
  policy := .fail

def workspace : Workspace SteadyCells :=
  ⟨fun _ => 0, ⟨[3, 4], 2, true⟩⟩

/-- The table is refused, and its run stops at the entry that was refused. Without this entry, the
table passes and succeeds. -/
theorem refused_where_it_stops :
    let rest := table.eraseIdx 1
    (∀ entry ∈ table, entry.Plain) ∧ port.transport.Flawless ∧ workspace.context.HasSlots 2 ∧
      table.validate .restore 2 = .error (.indexOutOfRange 7) ∧
      (∃ number step, Table.Halts port table workspace number step (.noSlot 5) ∧
        step.entry.validate .restore 2 = .error (.indexOutOfRange 7) ∧ step.WritesNothing port) ∧
      Table.validate .restore 2 rest = .ok () ∧
      (Table.run port rest workspace).result = .ok () := by
  intro rest
  have plain : ∀ entry ∈ table, entry.Plain := by
    simp only [table, List.forall_mem_cons]
    exact ⟨⟨rfl, by decide⟩, ⟨rfl, by decide⟩, ⟨rfl, by decide⟩, by simp⟩
  have flawless : port.transport.Flawless := ⟨fun _ _ => ⟨_, rfl⟩, fun _ _ _ => rfl⟩
  have slots : workspace.context.HasSlots 2 := ⟨rfl, rfl, by decide⟩
  have refused : table.validate .restore 2 = .error (.indexOutOfRange 7) := rfl
  have stopped : (table.run port workspace).result = .error (.noSlot 5) := rfl
  obtain ⟨-, -, stops⟩ := Table.passes_iff_runs plain flawless slots .restore
  obtain ⟨number, step, missing, halts, -, -, verdict, -, -, unwritten⟩ := stops 7 refused
  obtain rfl : 5 = missing := by
    rw [halts.result_eq] at stopped
    cases stopped
    rfl
  have plainRest : ∀ entry ∈ rest, entry.Plain := fun entry member =>
    plain entry (List.mem_of_mem_eraseIdx member)
  have passed : Table.validate .restore 2 rest = .ok () := rfl
  have succeeds := (Table.passes_iff_runs plainRest flawless slots .restore).2.1.mp passed
  exact ⟨plain, flawless, slots, refused, ⟨number, step, halts, verdict, unwritten⟩, passed,
    succeeds⟩

end Bench.Doubtful

end DevicePower
