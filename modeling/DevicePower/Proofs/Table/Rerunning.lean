import DevicePower.Bench.Registers
import DevicePower.Proofs.Register.WordArray
import DevicePower.Proofs.Table.Stopping

/-!
# Running a table again

A table that reads some registers into the context, and writes others from it, leaves the context
alone if it is run once more: the registers that were read hold what they held. This is so although
the second run may write other words than the first, because reads of the first have overwritten
the slots that the writes take their words from. It is also so if the table stops midway.

The registers are assumed to be like memory. A register that is not there fails every access, and
bits of the others may be read-only.
-/

namespace DevicePower

open TableM Traced

variable {σ : Type}

/-- Registers that are like memory. `words` says which registers there are and what they hold: these
answer and accept every access, and the others none. A read has no effect, and a write changes no
word but its own. -/
structure Transport.IsMemory (transport : Transport σ) (words : σ → UInt32 → Option UInt32) :
    Prop where
  read_result : ∀ offset hardware,
    (transport.read offset hardware).result.toOption = words hardware offset
  read_keeps : ∀ offset hardware, words (transport.read offset hardware).state = words hardware
  write_succeeds : ∀ offset value hardware,
    (transport.write offset value hardware).result = .ok () ↔ (words hardware offset).isSome
  write_own : ∀ offset value hardware,
    (words (transport.write offset value hardware).state offset).isSome =
      (words hardware offset).isSome
  write_other : ∀ offset value hardware other, other ≠ offset →
    words (transport.write offset value hardware).state other = words hardware other

namespace WordBank

@[simp] theorem index_put (bank : WordBank) (index : Nat) (value offset : UInt32) :
    (bank.put index value).index offset = bank.index offset := by
  simp [WordBank.index, put]

/-- Different offsets stand for different words. -/
theorem index_ne {bank : WordBank} {offset other : UInt32} {index indexOther : Nat}
    (found : bank.index offset = .ok index) (foundOther : bank.index other = .ok indexOther)
    (different : other ≠ offset) : index ≠ indexOther := by
  rw [index_eq] at found foundOther
  rw [ne_eq, ← UInt32.toNat_inj] at different
  grind

/-- A bank of words is memory. -/
theorem isMemory : registers.transport.IsMemory fun bank offset => (bank.read offset).toOption where
  read_result _ _ := rfl
  read_keeps _ _ := rfl
  write_succeeds offset value bank := by
    cases found : bank.index offset with
    | ok _ | error _ =>
        simp [registers, Bank.transport, write, read, found, Except.map, Except.toOption]
  write_own offset value bank := by
    cases found : bank.index offset with
    | ok _ | error _ =>
        simp [registers, Bank.transport, write, read, found, Except.map, Except.toOption]
  write_other offset value bank other different := by
    cases found : bank.index offset with
    | error _ => simp [registers, Bank.transport, write, found, Except.map]
    | ok index =>
        cases foundOther : bank.index other with
        | error _ => simp [registers, Bank.transport, write, read, found, foundOther, Except.map]
        | ok indexOther =>
            have apart : index ≠ indexOther := index_ne found foundOther different
            simp only [registers, Bank.transport, write, read, found, foundOther, Except.map,
              index_put]
            simp [put, List.getElem?_set_ne apart]

end WordBank

/-! ## Workspaces that a run cannot tell apart by what it reads -/

/-- The contexts differ at most in the words of their storage. -/
structure Context.SameShape (context other : Context) : Prop where
  populated : other.populated = context.populated
  length_eq : other.length = context.length
  stored : other.storage.length = context.storage.length

/-- The workspaces have the same registers and the same slots, and the registers at the fixed
offsets hold the same words. -/
structure Workspace.Alike (words : σ → UInt32 → Option UInt32) (fixed : UInt32 → Prop)
    (workspace other : Workspace σ) : Prop where
  shape : workspace.context.SameShape other.context
  present : ∀ offset,
    (words other.hardware offset).isSome = (words workspace.hardware offset).isSome
  held : ∀ offset, fixed offset → words other.hardware offset = words workspace.hardware offset

section Memory

variable {port : Port σ} {words : σ → UInt32 → Option UInt32} {fixed : UInt32 → Prop}
variable {workspace other origin : Workspace σ} {offset value : UInt32}

namespace Context.SameShape

variable {context after : Context} {slot : Nat}

theorem values_length (shape : context.SameShape after) :
    after.values.length = context.values.length := by
  rw [values, values, List.length_take, List.length_take, shape.length_eq, shape.stored]

theorem of_set {context between after : Context} (shape : context.SameShape between)
    (done : between.set slot value = .ok after) : context.SameShape after := by
  obtain ⟨-, rfl⟩ := set_eq_ok_iff.mp done
  exact ⟨shape.populated, shape.length_eq, by simpa using shape.stored⟩

end Context.SameShape

namespace Workspace.Alike

theorem refl (workspace : Workspace σ) : workspace.Alike words fixed workspace :=
  ⟨⟨rfl, rfl, rfl⟩, fun _ => rfl, fun _ _ => rfl⟩

/-- Two workspaces remain alike if each is alike to what becomes of it. -/
theorem follow {after afterOther : Workspace σ} (alike : workspace.Alike words fixed other)
    (stays : workspace.Alike words fixed after) (staysOther : other.Alike words fixed afterOther) :
    after.Alike words fixed afterOther where
  shape := {
    populated := by
      rw [staysOther.shape.populated, alike.shape.populated, stays.shape.populated]
    length_eq := by
      rw [staysOther.shape.length_eq, alike.shape.length_eq, stays.shape.length_eq]
    stored := by rw [staysOther.shape.stored, alike.shape.stored, stays.shape.stored] }
  present offset := by rw [staysOther.present, alike.present, stays.present]
  held offset kept := by
    rw [staysOther.held offset kept, alike.held offset kept, stays.held offset kept]

end Workspace.Alike

/-! ## Accesses to memory -/

namespace Transport.IsMemory

/-- A read fails exactly if there is no such register. -/
theorem read (memory : port.transport.IsMemory words) (offset : UInt32)
    (workspace : Workspace σ) :
    (port.read offset workspace).result =
      match words workspace.hardware offset with
      | some word => .ok word
      | none => .error (.registerAccess offset) := by
  rw [Port.read_result, ← memory.read_result]
  cases (port.transport.read offset workspace.hardware).result with
  | ok word => rfl
  | error cause => rfl

/-- So does a write. -/
theorem write (memory : port.transport.IsMemory words) (offset value : UInt32)
    (workspace : Workspace σ) :
    (port.write offset value workspace).result =
      if (words workspace.hardware offset).isSome then .ok ()
      else .error (.registerAccess offset) := by
  rw [Port.write_result]
  split
  next present => rw [(memory.write_succeeds _ _ _).mpr present, mapError_ok]
  next absent =>
    cases answer : (port.transport.write offset value workspace.hardware).result with
    | ok done => exact absurd ((memory.write_succeeds _ _ _).mp answer) absent
    | error cause => rfl

end Transport.IsMemory

namespace Entry

variable {entry : Entry}

/-- An entry leaves every register at a fixed offset as it is, unless it writes there. -/
theorem steps_alike (memory : port.transport.IsMemory words) (origin : Workspace σ)
    (unpolled : entry.poll = none) (free : entry.operation.writes = true → ¬fixed entry.offset) :
    entry.Steps port (fun workspace => origin.Alike words fixed workspace) (fun _ => True) where
  read := by
    apply Port.keeps_read _ trivial
    intro workspace alike
    constructor
    · exact alike.shape
    · simpa only [memory.read_keeps] using alike.present
    · simpa only [memory.read_keeps] using alike.held
  write writes value := by
    apply Port.keeps_write _ trivial
    intro workspace alike
    constructor
    · exact alike.shape
    · intro offset
      rw [← alike.present]
      by_cases own : offset = entry.offset
      · rw [own]
        exact memory.write_own _ _ _
      · rw [memory.write_other _ _ _ _ own]
    · intro offset kept
      have different : offset ≠ entry.offset := fun same => free writes (same ▸ kept)
      rw [memory.write_other _ _ _ _ different]
      exact alike.held offset kept
  fetch _ _ := keeps_fetch fun _ _ _ _ => trivial
  store _ _ := keeps_deposit
    (fun _ _ alike done => ⟨alike.shape.of_set done, alike.present, alike.held⟩)
    fun _ _ _ _ => trivial
  settle poll polled := by simp [unpolled] at polled

/-- The register of the entry, as far as its accesses can fail. -/
def access (words : UInt32 → Option UInt32) (entry : Entry) : Except Error Unit :=
  if (words entry.offset).isSome then .ok () else .error (.registerAccess entry.offset)

/-- The slots of the entry, as far as looking them up can fail. -/
def lookup (length : Nat) (entry : Entry) : Except Error Unit :=
  match entry.missing length with
  | none => .ok ()
  | some index => .error (.noSlot index)

/-- How an entry ends that runs over memory and does not poll. -/
def verdict (words : UInt32 → Option UInt32) (length : Nat) (entry : Entry) : Except Error Unit :=
  match entry.operation with
  | .read | .readModifyWrite _ => do
      entry.access words
      entry.lookup length
  | _ => do
      entry.lookup length
      entry.access words

/-- The augment of an entry that finds its slots can be looked up. -/
theorem augmentValue_of_found {op : BitOp} (operation : entry.operation = .writeAugmented op)
    (present : ∀ slot ∈ entry.uses, ∃ value, workspace.context.get slot = .ok value) :
    ∃ value, (augmentValue op entry.augment : TableM σ UInt32) workspace =
      ⟨.ok value, [], workspace⟩ := by
  cases augment : entry.augment with
  | none => exact ⟨_, rfl⟩
  | constant value => exact ⟨_, rfl⟩
  | combine left inner right =>
      obtain ⟨leftValue, leftGot⟩ := present left (by simp [uses, sources, operation, augment])
      obtain ⟨rightValue, rightGot⟩ := present right (by simp [uses, sources, operation, augment])
      refine ⟨inner.apply leftValue rightValue, ?_⟩
      simp only [augmentValue, bind_apply, fetch_apply, leftGot, rightGot, mapError_ok, pure_apply,
        List.append_nil]

/-- An entry that finds its slots can fail at its register only. -/
theorem run_result_of_found (memory : port.transport.IsMemory words)
    (unpolled : entry.poll = none)
    (found : entry.missing workspace.context.values.length = none) :
    (entry.run port workspace).result = entry.access (words workspace.hardware) := by
  have bound := missing_eq_none_iff.mp found
  have present (slot : Nat) (used : slot ∈ entry.uses) :
      ∃ value, workspace.context.get slot = .ok value :=
    ⟨_, by rw [Context.get, List.getElem?_eq_getElem (bound slot used)]⟩
  rw [run, wait, unpolled, access]
  cases operation : entry.operation with
  | read =>
      have stored (value : UInt32) :
          workspace.context.set entry.slot value =
            .ok { workspace.context with
              storage := workspace.context.storage.set entry.slot value } :=
        if_pos (bound entry.slot (by simp [uses, operation]))
      cases word : words workspace.hardware entry.offset with
      | none | some value =>
          simp [transfer, operation, bind_apply, memory.read, word, store, stored, configured,
            report]
  | flushRead =>
      cases word : words workspace.hardware entry.offset with
      | none | some value => simp [transfer, operation, bind_apply, memory.read, word, report]
  | write =>
      obtain ⟨value, got⟩ := present entry.slot (by simp [uses, sources, operation])
      cases word : words workspace.hardware entry.offset with
      | none | some _ => simp [transfer, operation, bind_apply, memory.write, word, report, got]
  | writeThenRead =>
      obtain ⟨value, got⟩ := present entry.slot (by simp [uses, sources, operation])
      have own := memory.write_own entry.offset value workspace.hardware
      cases word : words workspace.hardware entry.offset with
      | none => simp [transfer, operation, bind_apply, memory.write, word, got]
      | some _ =>
          rw [word] at own
          obtain ⟨after, wordAfter⟩ := Option.isSome_iff_exists.mp own
          simp [transfer, operation, bind_apply, memory.write, memory.read, word, wordAfter, report,
            got]
  | readModifyWrite op =>
      obtain ⟨value, got⟩ := present entry.slot (by simp [uses, sources, operation])
      cases word : words workspace.hardware entry.offset with
      | none | some _ =>
          simp [transfer, operation, bind_apply, memory.write, memory.read, memory.read_keeps, word,
            report, got]
  | writeAugmented op =>
      obtain ⟨value, got⟩ := present entry.slot (by simp only [uses, sources, operation]; grind)
      obtain ⟨augment, augmented⟩ := augmentValue_of_found operation present
      cases word : words workspace.hardware entry.offset with
      | none | some _ =>
          simp [transfer, operation, bind_apply, memory.write, augmented, word, report, got]

/-- An entry over memory ends as its slots and its register decide. -/
theorem run_result (memory : port.transport.IsMemory words) (unpolled : entry.poll = none)
    (workspace : Workspace σ) :
    (entry.run port workspace).result =
      entry.verdict (words workspace.hardware) workspace.context.values.length := by
  cases missing : entry.missing workspace.context.values.length with
  | none =>
      rw [run_result_of_found memory unpolled missing, verdict, lookup, missing]
      cases reached : entry.access (words workspace.hardware) with
      | ok _ | error _ => cases entry.operation <;> rfl
  | some index =>
      rw [run_of_missing port missing, verdict, lookup, missing, lead, access]
      cases word : words workspace.hardware entry.offset with
      | none | some _ =>
          cases entry.operation with
          | read | readModifyWrite op =>
              simp only [bind_apply, memory.read, word]
              rfl
          | _ => rfl

/-- In workspaces that are alike, an entry ends in the same way. -/
theorem run_result_alike (memory : port.transport.IsMemory words) (unpolled : entry.poll = none)
    (alike : workspace.Alike words fixed other) :
    (entry.run port other).result = (entry.run port workspace).result := by
  rw [run_result memory unpolled, run_result memory unpolled, alike.shape.values_length]
  simp only [verdict, access, alike.present]

end Entry

/-! ## Two runs -/

/-- Each word of the storage is the same after both runs, or neither run has changed it. -/
def Context.Repeats (before after beforeOther afterOther : Context) : Prop :=
  ∀ index : Nat, afterOther.storage[index]? = after.storage[index]? ∨
    after.storage[index]? = before.storage[index]? ∧
      afterOther.storage[index]? = beforeOther.storage[index]?

/-- What is repeated by the first parts of two runs and by the rest is repeated by the whole. -/
theorem Context.Repeats.trans {before middle after beforeOther middleOther afterOther : Context}
    (first : Repeats before middle beforeOther middleOther)
    (rest : Repeats middle after middleOther afterOther) :
    Repeats before after beforeOther afterOther := by
  intro index
  rcases rest index with same | ⟨kept, keptOther⟩
  · exact .inl same
  · rw [kept, keptOther]
    exact first index

/-- Storing one word in the same slot is repeated. -/
theorem Context.repeats_set {context after other afterOther : Context} {slot : Nat}
    (shape : context.SameShape other) (done : context.set slot value = .ok after)
    (doneOther : other.set slot value = .ok afterOther) :
    Repeats context after other afterOther := by
  obtain ⟨-, rfl⟩ := set_eq_ok_iff.mp done
  obtain ⟨-, rfl⟩ := set_eq_ok_iff.mp doneOther
  intro index
  by_cases own : slot = index
  · left
    simp only [List.getElem?_set, own, if_true, shape.stored]
  · right
    simp only [List.getElem?_set_ne own, and_self]

/-- Two contexts are the same if one comes from the other by a run that it repeats. -/
theorem Context.eq_of_repeats {before after again : Context} (shape : after.SameShape again)
    (repeats : Repeats before after after again) : again = after := by
  have storage : again.storage = after.storage := by
    apply List.ext_getElem?
    intro index
    rcases repeats index with same | ⟨-, kept⟩
    · exact same
    · exact kept
  obtain ⟨populated, length_eq, -⟩ := shape
  cases again
  cases after
  simp_all

namespace Entry

variable {entry : Entry}

/-- In workspaces that are alike, an entry brings the same word into its slot, if any. -/
theorem repeats (memory : port.transport.IsMemory words) (unpolled : entry.poll = none)
    (fix : entry.operation = .read → fixed entry.offset)
    (alike : workspace.Alike words fixed other) :
    workspace.context.Repeats (entry.run port workspace).state.context other.context
      (entry.run port other).state.context := by
  have untouched (kept : (entry.run port workspace).state.context = workspace.context)
      (keptOther : (entry.run port other).state.context = other.context) :
      workspace.context.Repeats (entry.run port workspace).state.context other.context
        (entry.run port other).state.context := by
    rw [kept, keptOther]
    exact fun _ => .inr ⟨rfl, rfl⟩
  have result := run_result_alike memory unpolled alike
  by_cases reads : entry.operation = .read
  · cases ended : (entry.run port workspace).result with
    | error error =>
        rw [ended] at result
        exact untouched (context_of_error ended) (context_of_error result)
    | ok done =>
        rw [ended] at result
        obtain ⟨word, context, answered, stored, state⟩ := run_read reads ended
        obtain ⟨wordOther, contextOther, answeredOther, storedOther, stateOther⟩ :=
          run_read reads result
        have held := alike.held entry.offset (fix reads)
        rw [← memory.read_result, ← memory.read_result, answered, answeredOther] at held
        cases held
        rw [state, stateOther]
        exact Context.repeats_set alike.shape stored storedOther
  · exact untouched (context_of_ne_read port reads workspace) (context_of_ne_read port reads other)

end Entry

namespace Table

variable {table : Table}

/-- In workspaces that are alike, a table ends in the same way and brings the same words into the
same slots, if it writes none of the registers that it reads into slots. -/
theorem run_alike (memory : port.transport.IsMemory words)
    (unpolled : ∀ entry ∈ table, entry.poll = none)
    (fix : ∀ entry ∈ table, entry.operation = .read → fixed entry.offset)
    (free : ∀ entry ∈ table, entry.operation.writes = true → ¬fixed entry.offset)
    (alike : workspace.Alike words fixed other) :
    (table.run port other).result = (table.run port workspace).result ∧
      workspace.context.Repeats (table.run port workspace).state.context other.context
        (table.run port other).state.context := by
  induction table generalizing workspace other with
  | nil => exact ⟨rfl, fun _ => .inr ⟨rfl, rfl⟩⟩
  | cons entry rest ih =>
      obtain ⟨unpolledFirst, unpolledRest⟩ := List.forall_mem_cons.mp unpolled
      obtain ⟨fixFirst, fixRest⟩ := List.forall_mem_cons.mp fix
      obtain ⟨freeFirst, freeRest⟩ := List.forall_mem_cons.mp free
      have first := Entry.repeats memory unpolledFirst fixFirst alike
      have result := Entry.run_result_alike memory unpolledFirst alike
      cases ended : (entry.run port workspace).result with
      | error error =>
          rw [ended] at result
          rw [run, bind_of_error ended, bind_of_error result]
          exact ⟨rfl, first⟩
      | ok done =>
          rw [ended] at result
          have stays (start : Workspace σ) :
              start.Alike words fixed (entry.run port start).state :=
            ((Entry.steps_alike memory start unpolledFirst freeFirst).keeps_run [] start
              (Workspace.Alike.refl start)).1
          obtain ⟨same, later⟩ := ih unpolledRest fixRest freeRest
            (alike.follow (stays workspace) (stays other))
          rw [run, bind_of_ok ended, bind_of_ok result]
          exact ⟨same, first.trans later⟩

/-- The table reads the register at the offset into a slot. -/
def Captures (table : Table) (offset : UInt32) : Prop :=
  ∃ entry ∈ table, entry.operation = .read ∧ entry.offset = offset

/-- A table over memory that does not poll, and that writes none of the registers that it reads into
slots, may be run twice in a row: the second run ends as the first did, and leaves the context as
the first left it, whatever the two runs have written. -/
theorem rerun_exact (memory : port.transport.IsMemory words) (unpolled : table.polls = false)
    (apart : ∀ entry ∈ table, entry.operation.writes = true → ¬table.Captures entry.offset)
    (workspace : Workspace σ) :
    let first := table.run port workspace
    let second := table.run port first.state
    second.result = first.result ∧ second.state.context = first.state.context := by
  intro first second
  have quiet : ∀ entry ∈ table, entry.poll = none := by
    simpa [Table.polls] using unpolled
  have stays (start : Workspace σ) :
      start.Alike words table.Captures (table.run port start).state :=
    (keeps_run (fun entry member =>
      Entry.steps_alike memory start (quiet entry member) (apart entry member)) [] start
        (Workspace.Alike.refl start)).1
  obtain ⟨result, repeats⟩ := run_alike memory quiet
    (fun entry member reads => ⟨entry, member, reads, rfl⟩) apart (stays workspace)
  exact ⟨result, Context.eq_of_repeats (stays first.state).shape repeats⟩

end Table

end Memory

/-! ## A table that writes something else when it is run again -/

namespace Bench.Relay

/-- One register is passed on from the context, and another is read into the same slot. The register
read last does not exist. -/
def table : Table :=
  [⟨.write, 0, 0, .none, none⟩, ⟨.read, 4, 0, .none, none⟩, ⟨.read, 8, 1, .none, none⟩]

def port : Port WordBank where
  transport := WordBank.registers.transport
  timer := none
  policy := .fail

def workspace : Workspace WordBank :=
  ⟨⟨[0, 9]⟩, ⟨[7, 5], 2, true⟩⟩

/-- The first run writes one word, and the second another. Both stop at the register that is not
there, with the same context. -/
theorem writes_another_word :
    let first := table.run port workspace
    let second := table.run port first.state
    first.events.filterMap Activity.asked =
        [.write 0 7 (.ok ()), .read 4 (.ok 9), .read 8 (.error .outOfRange)] ∧
      second.events.filterMap Activity.asked =
        [.write 0 9 (.ok ()), .read 4 (.ok 9), .read 8 (.error .outOfRange)] ∧
      second.result = first.result ∧ second.state.context = first.state.context ∧
      first.state.context.values = [9, 5] := by
  have apart : ∀ entry ∈ table, entry.operation.writes = true → ¬table.Captures entry.offset := by
    simp [table, Table.Captures, Operation.writes]
  have memory : port.transport.IsMemory fun bank offset => (bank.read offset).toOption :=
    WordBank.isMemory
  obtain ⟨result, context⟩ := Table.rerun_exact memory (by decide) apart workspace
  exact ⟨rfl, rfl, result, context, rfl⟩

end Bench.Relay

end DevicePower
