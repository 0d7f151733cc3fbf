import DevicePower.Bench.Cells
import DevicePower.Proofs.Device.LossDetection
import DevicePower.Proofs.Table.Replay

/-!
# When a restore may be skipped

A device that looks for lost registers writes none if it finds none, where a device that does not
look writes them all. Nobody can tell the difference as long as the comparison covers what the
restore table writes: a register that was found to have the value of its slot is written with the
value that it has, which changes nothing, not even where some of its bits are read-only. This
remains so if a register is written several times, from several slots, since then all of these
slots were found to have the same value.

The argument needs registers that are memory, on a bus without faults. It is about the words that
they hold; what reading them does otherwise is left open.
-/

namespace DevicePower

open DeviceM TableM Traced

variable {σ : Type}

/-! ## Tables on a bus without faults -/

/-- The register is memory on a bus without faults: a read answers the word that the register
holds, and a write is accepted. -/
structure Transport.Serves (transport : Transport σ) (words : σ → UInt32 → UInt32)
    (offset : UInt32) : Prop where
  answers : ∀ hardware, (transport.read offset hardware).result = .ok (words hardware offset)
  accepts : ∀ value hardware, (transport.write offset value hardware).result = .ok ()

section Tables

variable {port : Port σ} {words : σ → UInt32 → UInt32} {readOnly : UInt32 → UInt32}
variable {table : Table} {length : Nat}

/-- An entry that commands has no step that can fail. -/
theorem Entry.Commands.steps {entry : Entry} (commands : entry.Commands)
    (serves : port.transport.Serves words entry.offset) (fits : entry.Fits length) :
    entry.Steps port (fun workspace => workspace.context.HasSlots length) (fun _ => False) :=
  fits.steps_of_served (fun hardware => ⟨_, serves.answers hardware⟩) serves.accepts commands.2

/-- A table of such entries writes all that it is to write, and succeeds. -/
theorem Table.run_spec (port : Port σ) (stores : port.transport.StoresWords words readOnly)
    (serves : ∀ entry ∈ table, port.transport.Serves words entry.offset)
    (commands : ∀ entry ∈ table, entry.Commands) (fits : ∀ entry ∈ table, entry.Fits length)
    {workspace : Workspace σ} (slots : workspace.context.HasSlots length) :
    (table.run port workspace).result = .ok () ∧
      (table.run port workspace).state.context = workspace.context ∧
      words (table.run port workspace).state.hardware =
        imprintAll readOnly (table.plan workspace.context).orders (words workspace.hardware) := by
  have steady : Keeps (Workspace.Kept fun workspace => workspace.context.HasSlots length)
      (fun _ => False) (table.run port) :=
    Table.keeps_run fun entry member =>
      (commands entry member).steps (serves entry member) (fits entry member)
  have succeeds : (table.run port workspace).result = .ok () := by
    cases result : (table.run port workspace).result with
    | ok done => rfl
    | error error => exact ((steady [] workspace slots).2 error result).elim
  have carried : TableM.Carries words readOnly workspace.context
      (table.plan workspace.context) (table.run port) :=
    Table.carries_run stores commands
  obtain ⟨context, done, -, written, whole⟩ := carried workspace rfl
  rw [(whole (.inl succeeds)).1] at written
  exact ⟨succeeds, context, written⟩

variable {transport : Transport σ} {context : Context} {hardware : σ}

/-- To compare registers that are memory changes none of them. -/
theorem Table.readThrough_words (stores : transport.StoresWords words readOnly) (table : Table)
    (hardware : σ) : words (table.readThrough transport hardware) = words hardware := by
  induction table generalizing hardware with
  | nil => rfl
  | cons entry rest ih => exact (ih _).trans (stores.read entry.offset hardware)

/-- Registers that are intact one after the other are so all at once, if they are memory. -/
theorem Table.Intact.saved (intact : table.Intact transport context hardware)
    (stores : transport.StoresWords words readOnly)
    (serves : ∀ entry ∈ table, transport.Serves words entry.offset) :
    ∀ entry ∈ table, context.get entry.slot = .ok (words hardware entry.offset) := by
  induction table generalizing hardware with
  | nil => simp
  | cons first rest ih =>
      obtain ⟨⟨value, answered, saved⟩, later⟩ := intact
      obtain ⟨firstServes, restServes⟩ := List.forall_mem_cons.mp serves
      refine List.forall_mem_cons.mpr ⟨?_, ?_⟩
      · rw [firstServes.answers] at answered
        cases answered
        exact saved
      · have others := ih later restServes
        rwa [stores.read] at others

end Tables

/-! ## The restore with and without the comparison -/

/-- The computation succeeds, and leaves this context and these words in the registers. -/
structure Restored (words : σ → UInt32 → UInt32) (context : Context) (registers : UInt32 → UInt32)
    (outcome : Outcome Error Event (Machine σ) Unit) : Prop where
  result_eq : outcome.result = .ok ()
  context_eq : outcome.state.context = context
  words_eq : words outcome.state.hardware = registers

namespace Device

/-- The same device, except for whether it looks for lost registers. -/
def looking (looks : Bool) (device : Device σ) : Device σ :=
  { device with
    driver := { device.driver with
      flags := { device.driver.flags with checkContextLoss := looks } } }

/-- The comparison covers what a restore writes. The registers that the two tables name are memory
on a bus without faults, the restore table only writes from the context and reads for nothing, and
every slot that it writes to a register is compared with this register. The callback succeeds
and leaves the registers and the context alone. -/
structure CoversRestore (device : Device σ) (words : σ → UInt32 → UInt32)
    (readOnly : UInt32 → UInt32) : Prop where
  stores : device.transport.StoresWords words readOnly
  serves : ∀ kind, kind = .restore ∨ kind = .contextCheck →
    ∀ entry ∈ device.driver.tables kind, device.transport.Serves words entry.offset
  commands : ∀ entry ∈ device.driver.tables .restore, entry.Commands
  compared : ∀ entry ∈ device.driver.tables .restore, entry.operation.writes = true →
    ∃ check ∈ device.driver.tables .contextCheck,
      check.operation = .read ∧ check.offset = entry.offset ∧ check.slot = entry.slot
  callback : ∀ hook, device.hooks.hook .restore = some hook → ∀ hardware context,
    let ended := (hook hardware).1.run device.transport ⟨(hook hardware).2, context⟩
    ended.result = .ok () ∧ ended.state.context = context ∧
      words ended.state.hardware = words hardware

variable {device : Device σ} {words : σ → UInt32 → UInt32} {readOnly : UInt32 → UInt32}
variable {length : Nat} {machine : Machine σ}

/-- What becomes of the registers when the restore table is written. -/
def restoredWords (device : Device σ) (readOnly : UInt32 → UInt32) (context : Context)
    (registers : UInt32 → UInt32) : UInt32 → UInt32 :=
  imprintAll readOnly (Table.plan context (device.driver.tables .restore)).orders registers

namespace CoversRestore

variable (covers : device.CoversRestore words readOnly)

include covers

/-- The callback adds nothing to the restore table. -/
theorem callback_restored (machine : Machine σ) :
    Restored words machine.context (words machine.hardware) (device.callback .restore machine) := by
  cases present : device.hooks.hook .restore with
  | none =>
      rw [Device.callback, present]
      exact ⟨rfl, rfl, rfl⟩
  | some hook =>
      obtain ⟨result, context, registers⟩ :=
        covers.callback hook present machine.hardware machine.context
      rw [device.callback_apply machine present]
      exact ⟨congrArg (Except.mapError fun _ => Error.callback .restore) result, context, registers⟩

/-- If all registers that are compared are intact, the restore table would write what is there. -/
theorem restoredWords_of_intact (intact : device.FindsIntact machine) :
    device.restoredWords readOnly machine.context (words machine.hardware) =
      words machine.hardware := by
  have saved := intact.saved covers.stores (covers.serves .contextCheck (.inr rfl))
  apply imprintAll_current
  -- The value that is to be written comes from a slot, and this slot was compared with the
  -- register that it is to be written to.
  intro order member
  obtain ⟨entry, owned, writes, offset, stored⟩ := Table.mem_plan member
  obtain ⟨check, compared, -, sameOffset, sameSlot⟩ := covers.compared entry owned writes
  have found := saved check compared
  rw [sameOffset, sameSlot, offset, stored] at found
  exact (Except.ok.inj found).symm

variable (valid : device.driver.validate length = .ok ()) (slots : machine.context.HasSlots length)

include valid slots

/-- To write the context back is to write the restore table. -/
theorem writeBack_restored :
    Restored words machine.context
      (device.restoredWords readOnly machine.context (words machine.hardware))
      (device.writeBack machine) := by
  obtain ⟨passed, context, written⟩ := Table.run_spec device.port covers.stores
    (covers.serves .restore (.inl rfl)) covers.commands (Driver.fits_of_validate valid .restore)
    slots
  have ran : (device.runDriverTable .restore machine).result = .ok () := by
    rw [runDriverTable_apply]
    exact passed
  obtain ⟨called, contextAfter, registers⟩ :=
    covers.callback_restored (device.runDriverTable .restore machine).state
  rw [writeBack, bind_of_ok ran]
  rw [runDriverTable_apply] at called contextAfter registers ⊢
  exact ⟨called, contextAfter.trans context, registers.trans written⟩

/-- The comparison reads all registers that it gets to, so that it ends with an answer. -/
theorem intact_or_drifted :
    device.FindsIntact machine ∨ ∃ before entry, device.FindsDrifted machine before entry := by
  have found := Table.intact_or_reaches device.transport machine.hardware fun entry member =>
    slots.get_succeeds (Driver.compares_of_validate valid entry member)
  rcases found with intact | ⟨before, entry, reaches, unreadable | drifted⟩
  · exact .inl intact
  · have owned : entry ∈ device.driver.tables .contextCheck := reaches.part.subset (by simp)
    obtain ⟨cause, failed⟩ := unreadable
    rw [(covers.serves .contextCheck (.inr rfl) entry owned).answers] at failed
    cases failed
  · exact .inr ⟨before, entry, reaches, drifted⟩

/-- Whether the device looks for lost registers makes no difference to what a restore leaves. -/
theorem restore_restored (looks : Bool) :
    Restored words machine.context
      (device.restoredWords readOnly machine.context (words machine.hardware))
      ((device.looking looks).restore machine) := by
  cases looks with
  | false => exact covers.writeBack_restored valid slots
  | true =>
      have checks : (device.looking true).driver.flags.checkContextLoss = true := rfl
      rcases covers.intact_or_drifted valid slots with intact | ⟨before, entry, drifted⟩
      · obtain ⟨events, -, restored⟩ := restore_of_intact checks intact
        rw [restored, covers.restoredWords_of_intact intact]
        exact ⟨rfl, rfl, Table.readThrough_words covers.stores _ _⟩
      · obtain ⟨events, -, restored⟩ := restore_of_drifted checks drifted
        let counted := { device.afterReading (before ++ [entry]) machine with
          contextLosses := countLoss machine.contextLosses }
        -- The loss that was counted and the reads make no difference to what is written.
        have registers : words counted.hardware = words machine.hardware :=
          Table.readThrough_words covers.stores _ _
        have slotsThere : counted.context.HasSlots length := slots
        obtain ⟨result, context, written⟩ := covers.writeBack_restored valid slotsThere
        rw [registers] at written
        rw [restored]
        exact ⟨result, context, written⟩

end CoversRestore

/-- If the comparison covers what a restore writes, then a device that looks for lost registers, and
writes none if it finds none, ends like one that always writes them: with the same result, the
same context and the same words in all registers, which are those that the restore table asks
for. -/
theorem skipped_restore_exact (covers : device.CoversRestore words readOnly)
    (valid : device.driver.validate length = .ok ()) (slots : machine.context.HasSlots length) :
    let looked := (device.looking true).restore machine
    let direct := (device.looking false).restore machine
    looked.result = .ok () ∧ direct.result = .ok () ∧
      looked.state.context = direct.state.context ∧
      words looked.state.hardware = words direct.state.hardware ∧
      words direct.state.hardware =
        device.restoredWords readOnly machine.context (words machine.hardware) := by
  intro looked direct
  have one : Restored words _ _ looked := covers.restore_restored valid slots true
  have other : Restored words _ _ direct := covers.restore_restored valid slots false
  exact ⟨one.result_eq, other.result_eq, one.context_eq.trans other.context_eq.symm,
    one.words_eq.trans other.words_eq.symm, other.words_eq⟩

/-! ## A port in memory -/

open Bench

theorem steadyCells_coversRestore :
    SteadyCells.port.CoversRestore (fun cells => cells) GatedCells.readOnly where
  stores := {
    read := fun _ _ => rfl
    written := fun offset value cells _ => by
      funext other
      simp [SteadyCells.port, Bank.transport, SteadyCells.bank, imprint, Function.update]
    refused := fun _ _ _ _ failed => by cases failed }
  serves _ _ _ _ := ⟨fun _ => rfl, fun _ _ => rfl⟩
  commands := by simp [SteadyCells.port, Uart.driver, Entry.Commands]
  compared := by simp [SteadyCells.port, Uart.driver]
  callback _ present := by cases present

/-- Whether the port looks for lost registers makes no difference to what a restore leaves, neither
with its registers as they were saved nor with all of them lost. -/
theorem steadyCells_skips_restore :
    SteadyCells.port.driver.validate 4 = .ok () ∧ SteadyCells.started.context.HasSlots 4 ∧
      ((SteadyCells.port.looking true).restore SteadyCells.started).state.hardware =
        ((SteadyCells.port.looking false).restore SteadyCells.started).state.hardware ∧
      ((SteadyCells.port.looking true).restore SteadyCells.erased).state.hardware =
        ((SteadyCells.port.looking false).restore SteadyCells.erased).state.hardware := by
  have valid : SteadyCells.port.driver.validate 4 = .ok () := rfl
  have slots : SteadyCells.started.context.HasSlots 4 := ⟨rfl, rfl, by decide⟩
  have slotsLeft : SteadyCells.erased.context.HasSlots 4 := slots
  obtain ⟨-, -, -, kept, -⟩ := skipped_restore_exact steadyCells_coversRestore valid slots
  obtain ⟨-, -, -, rewritten, -⟩ := skipped_restore_exact steadyCells_coversRestore valid slotsLeft
  exact ⟨valid, slots, kept, rewritten⟩

end Device

end DevicePower
