import DevicePower.Proofs.Slots
import DevicePower.Proofs.Table.Accesses
import DevicePower.Proofs.Table.Keeping

/-!
# Tables over registers that remember

Some registers of a device are like memory: reading one has no effect, and gives the value
that was written to it last. This module shows what tables over such registers do. A table
of reads brings the registers into the context, a table of writes brings them back, and a
comparison that finds no difference has found both to agree.

Nothing is assumed about other registers, and every access may fail.
-/

namespace DevicePower

open TableM Traced

variable {σ : Type}

/-- The registers at the held offsets are like memory; `word` is what they hold. A write
that fails may leave any value in the register that it was meant for. -/
structure Transport.Remembers (transport : Transport σ) (word : UInt32 → σ → UInt32)
    (held : UInt32 → Prop) : Prop where
  read_answer : ∀ offset hardware value, held offset →
    (transport.read offset hardware).result = .ok value → value = word offset hardware
  read_keeps : ∀ offset hardware other, held other →
    word other (transport.read offset hardware).state = word other hardware
  write_self : ∀ offset value hardware, held offset →
    (transport.write offset value hardware).result = .ok () →
      word offset (transport.write offset value hardware).state = value
  write_other : ∀ offset value hardware other, held other → other ≠ offset →
    word other (transport.write offset value hardware).state = word other hardware

/-- The held registers hold these words. -/
def Holds (word : UInt32 → σ → UInt32) (held : UInt32 → Prop) (words : UInt32 → UInt32)
    (hardware : σ) : Prop :=
  ∀ offset, held offset → word offset hardware = words offset

/-- The change leaves the held registers as they are. -/
def Leaves (word : UInt32 → σ → UInt32) (held : UInt32 → Prop) (change : σ → σ) : Prop :=
  ∀ hardware offset, held offset → word offset (change hardware) = word offset hardware

/-- A port whose held registers are like memory. Time passes without touching them. -/
structure Port.Remembers (port : Port σ) (word : UInt32 → σ → UInt32)
    (held : UInt32 → Prop) : Prop where
  transport : port.transport.Remembers word held
  timer : ∀ timer, port.timer = some timer →
    Leaves word held fun hardware => (timer.now hardware).2

variable {port : Port σ} {word : UInt32 → σ → UInt32} {held : UInt32 → Prop}
variable {words : UInt32 → UInt32} {allowed : Error → Prop}

/-! ## What leaves the registers alone -/

theorem Holds.of_read {transport : Transport σ} (remembers : transport.Remembers word held)
    {hardware : σ} (holds : Holds word held words hardware) (offset : UInt32) :
    Holds word held words (transport.read offset hardware).state := by
  intro other kept
  rw [remembers.read_keeps offset hardware other kept]
  exact holds other kept

theorem Holds.of_write {transport : Transport σ} (remembers : transport.Remembers word held)
    {hardware : σ} (holds : Holds word held words hardware) {offset : UInt32}
    (free : ¬held offset) (value : UInt32) :
    Holds word held words (transport.write offset value hardware).state := by
  intro other kept
  have different : other ≠ offset := by
    rintro rfl
    exact free kept
  rw [remembers.write_other offset value hardware other kept different]
  exact holds other kept

theorem Holds.of_change {change : σ → σ} (leaves : Leaves word held change) {hardware : σ}
    (holds : Holds word held words hardware) : Holds word held words (change hardware) := by
  intro other kept
  rw [leaves hardware other kept]
  exact holds other kept

namespace Entry

/-- An entry that writes no held register leaves them all as they are. -/
theorem steps_holds (remembers : port.Remembers word held) (entry : Entry)
    (free : entry.operation.writes = true → ¬held entry.offset) :
    entry.Steps port (fun workspace => Holds word held words workspace.hardware)
      (fun _ => True) where
  read := Port.keeps_read (fun _ holds => holds.of_read remembers.transport _) trivial
  write writes value :=
    Port.keeps_write (fun _ holds => holds.of_write remembers.transport (free writes) value) trivial
  fetch _ _ := keeps_fetch fun _ _ _ _ => trivial
  store _ _ := keeps_deposit (fun _ _ holds _ => holds) fun _ _ _ _ => trivial
  settle _ _ _ := Port.keeps_settle
    (Port.keeps_read (fun _ holds => holds.of_read remembers.transport _) trivial)
    (fun timer present =>
      keeps_reading fun _ holds => holds.of_change (remembers.timer timer present))
    trivial fun _ => trivial

/-- An entry that reads into none of the given slots keeps what only these slots matter
to. -/
theorem steps_stored {slots : Nat → Prop} {stored : Context → Prop}
    (frame : ∀ context after slot value, ¬slots slot → context.set slot value = .ok after →
      stored context → stored after)
    (port : Port σ) (entry : Entry) (free : entry.operation = .read → ¬slots entry.slot) :
    entry.Steps port (fun workspace => stored workspace.context) (fun _ => True) where
  read := Port.keeps_read (fun _ holds => holds) trivial
  write _ _ := Port.keeps_write (fun _ holds => holds) trivial
  fetch _ _ := keeps_fetch fun _ _ _ _ => trivial
  store reads _ := keeps_deposit
    (fun workspace after holds done => frame workspace.context after _ _ (free reads) done holds)
    fun _ _ _ _ => trivial
  settle _ _ _ := Port.keeps_settle (Port.keeps_read (fun _ holds => holds) trivial)
    (fun _ _ => keeps_reading fun _ holds => holds) trivial fun _ => trivial

/-! ## Reading into the context -/

theorem wait_of_read (port : Port σ) {entry : Entry} (reads : entry.operation = .read) :
    entry.wait port = pure () := by
  rw [wait]
  split
  · simp [reads, Operation.writes]
  · rfl

theorem run_eq_of_reads (port : Port σ) {entry : Entry} (reads : entry.operation = .read) :
    entry.run port = (do
      let value ← port.read entry.offset
      configured (← store entry.slot value)
      entry.report value) := by
  rw [run, wait_of_read port reads, transfer, reads]
  simp

/-- A read that succeeds has put the value of its register into its slot. -/
theorem run_read {entry : Entry} (reads : entry.operation = .read) {workspace : Workspace σ}
    (done : (entry.run port workspace).result = .ok ()) :
    ∃ value context,
      (port.transport.read entry.offset workspace.hardware).result = .ok value ∧
      workspace.context.set entry.slot value = .ok context ∧
      (entry.run port workspace).state =
        ⟨(port.transport.read entry.offset workspace.hardware).state, context⟩ := by
  rw [run_eq_of_reads port reads] at done ⊢
  obtain ⟨value, answered, rest⟩ := bind_succeeds_iff.mp done
  rw [bind_of_ok answered]
  rw [Port.read_result, mapError_eq_ok_iff] at answered
  rw [Port.read_state] at rest ⊢
  cases stored : workspace.context.set entry.slot value with
  | error reason => simp [bind_apply, store, stored, configured] at rest
  | ok context =>
      refine ⟨value, context, answered, stored, ?_⟩
      simp [bind_apply, store, stored, configured, report]

/-! ## Writing from the context -/

/-- What a writing entry does after its write: it may read the register back, it reports,
and it may wait for the register to settle. -/
def afterWrite (port : Port σ) (entry : Entry) (value : UInt32) : TableM σ Unit := do
  if entry.operation = .writeThenRead then
    let _ ← port.read entry.offset
    pure ()
  entry.report value
  entry.wait port

theorem run_eq_of_writes (port : Port σ) {entry : Entry}
    (writes : entry.operation = .write ∨ entry.operation = .writeThenRead) :
    entry.run port = (do
      let value ← fetch entry.slot
      port.write entry.offset value
      entry.afterWrite port value) := by
  rcases writes with operation | operation
  · simp [run, transfer, afterWrite, operation]
  · simp [run, transfer, afterWrite, operation]

theorem keeps_afterWrite (remembers : port.Remembers word held) (words : UInt32 → UInt32)
    (entry : Entry) (context : Context) (value : UInt32) :
    Keeps (Workspace.Kept fun workspace =>
      workspace.context = context ∧ Holds word held words workspace.hardware) (fun _ => True)
      (entry.afterWrite port value) := by
  have read : Keeps (Workspace.Kept fun workspace =>
      workspace.context = context ∧ Holds word held words workspace.hardware) (fun _ => True)
      (port.read entry.offset) :=
    Port.keeps_read (fun _ holds => ⟨holds.1, holds.2.of_read remembers.transport _⟩) trivial
  have wait : Keeps (Workspace.Kept fun workspace =>
      workspace.context = context ∧ Holds word held words workspace.hardware) (fun _ => True)
      (entry.wait port) := by
    rw [Entry.wait]
    split
    · split
      · apply Port.keeps_settle read _ trivial fun _ => trivial
        intro timer present
        exact keeps_reading fun _ holds =>
          ⟨holds.1, holds.2.of_change (remembers.timer timer present)⟩
      · exact keeps_pure ()
    · exact keeps_pure ()
  rw [afterWrite]
  split
  · exact read.bind fun _ => (keeps_report value).bind fun _ => wait
  · exact (keeps_report value).bind fun _ => wait

/-- A write that succeeds has put the value of its slot into its register, and touched no
other held register. -/
theorem run_write (remembers : port.Remembers word held) {entry : Entry}
    (writes : entry.operation = .write ∨ entry.operation = .writeThenRead)
    (kept : held entry.offset) {workspace : Workspace σ}
    (stored : workspace.context.get entry.slot = .ok (words entry.offset))
    (done : (entry.run port workspace).result = .ok ()) :
    (entry.run port workspace).state.context = workspace.context ∧
      word entry.offset (entry.run port workspace).state.hardware = words entry.offset ∧
      ∀ other, held other → other ≠ entry.offset →
        word other (entry.run port workspace).state.hardware = word other workspace.hardware := by
  rw [run_eq_of_writes port writes] at done ⊢
  obtain ⟨value, fetched, rest⟩ := bind_succeeds_iff.mp done
  rw [bind_of_ok fetched]
  rw [fetch_apply, mapError_eq_ok_iff, stored] at fetched
  cases fetched
  obtain ⟨⟨⟩, written, -⟩ := bind_succeeds_iff.mp rest
  rw [bind_of_ok written]
  rw [Port.write_result, mapError_eq_ok_iff] at written
  let after := (port.write entry.offset (words entry.offset) workspace).state
  obtain ⟨⟨context, same⟩, -⟩ := keeps_afterWrite remembers
    (fun offset => word offset after.hardware) entry workspace.context (words entry.offset) [] after
    ⟨by simp [after], fun _ _ => rfl⟩
  have hardware : after.hardware =
      (port.transport.write entry.offset (words entry.offset) workspace.hardware).state := by
    simp [after]
  refine ⟨context, ?_, ?_⟩
  · apply (same entry.offset kept).trans
    rw [hardware]
    exact remembers.transport.write_self _ _ _ kept written
  · intro other heldOther different
    apply (same other heldOther).trans
    rw [hardware]
    exact remembers.transport.write_other _ _ _ other heldOther different

end Entry

namespace Table

/-- A table of reads that succeeds has brought its registers into the context. -/
theorem run_reads (remembers : port.Remembers word held) {table : Table}
    (reads : ∀ entry ∈ table, entry.operation = .read)
    (kept : ∀ entry ∈ table, held entry.offset) (distinct : (table.map Entry.slot).Nodup)
    {workspace : Workspace σ} (start : Holds word held words workspace.hardware)
    (done : (table.run port workspace).result = .ok ()) :
    (∀ entry ∈ table,
      (table.run port workspace).state.context.get entry.slot = .ok (words entry.offset)) ∧
    ∀ slot ∉ table.map Entry.slot,
      (table.run port workspace).state.context.get slot = workspace.context.get slot := by
  induction table generalizing workspace with
  | nil => simp [Table.run]
  | cons entry rest ih =>
      obtain ⟨⟨⟩, first, later⟩ := bind_succeeds_iff.mp done
      obtain ⟨value, context, answered, stored, state⟩ :=
        Entry.run_read (reads entry (by simp)) first
      have read : value = words entry.offset := by
        rw [remembers.transport.read_answer _ _ _ (kept entry (by simp)) answered]
        exact start _ (kept entry (by simp))
      have still : Holds word held words (entry.run port workspace).state.hardware := by
        rw [state]
        exact start.of_read remembers.transport entry.offset
      obtain ⟨fresh, distinctRest⟩ := List.nodup_cons.mp distinct
      obtain ⟨found, others⟩ := ih (fun other member => reads other (by simp [member]))
        (fun other member => kept other (by simp [member])) distinctRest still later
      have here : (entry.run port workspace).state.context.get entry.slot =
          .ok (words entry.offset) := by
        rw [state, ← read]
        exact Context.get_of_set_self stored
      rw [Table.run, bind_of_ok first]
      constructor
      · intro other member
        rcases List.mem_cons.mp member with rfl | member
        · rw [others _ fresh]
          exact here
        · exact found other member
      · intro slot absent
        simp only [List.map_cons, List.mem_cons, not_or] at absent
        rw [others slot absent.2, state]
        exact Context.get_of_set_ne stored (Ne.symm absent.1)

/-- A table of writes that succeeds has brought its registers back from the context. Held
registers that were right before are right after it. -/
theorem run_writes (remembers : port.Remembers word held) {table : Table}
    (writes : ∀ entry ∈ table, entry.operation = .write ∨ entry.operation = .writeThenRead)
    (kept : ∀ entry ∈ table, held entry.offset) {workspace : Workspace σ}
    (stored : ∀ entry ∈ table, workspace.context.get entry.slot = .ok (words entry.offset))
    (done : (table.run port workspace).result = .ok ()) :
    (∀ entry ∈ table,
      word entry.offset (table.run port workspace).state.hardware = words entry.offset) ∧
    ∀ other, held other → word other workspace.hardware = words other →
      word other (table.run port workspace).state.hardware = words other := by
  induction table generalizing workspace with
  | nil => exact ⟨by simp, fun _ _ right => right⟩
  | cons entry rest ih =>
      obtain ⟨⟨⟩, first, later⟩ := bind_succeeds_iff.mp done
      obtain ⟨context, written, untouched⟩ := Entry.run_write remembers (writes entry (by simp))
        (kept entry (by simp)) (stored entry (by simp)) first
      obtain ⟨restored, preserved⟩ := ih (fun other member => writes other (by simp [member]))
        (fun other member => kept other (by simp [member]))
        (by
          rw [context]
          exact fun other member => stored other (by simp [member])) later
      rw [Table.run, bind_of_ok first]
      constructor
      · intro other member
        rcases List.mem_cons.mp member with rfl | member
        · exact preserved _ (kept _ (by simp)) written
        · exact restored other member
      · intro other heldOther right
        by_cases same : other = entry.offset
        · subst same
          exact preserved _ heldOther written
        · apply preserved other heldOther
          rw [untouched other heldOther same]
          exact right

/-- A comparison that finds no difference has found every register to agree with its
slot. -/
theorem differs_false (remembers : port.Remembers word held) {table : Table}
    {workspace : Workspace σ} (same : (table.differs port workspace).result = .ok false) :
    ∀ entry ∈ table, held entry.offset →
      workspace.context.get entry.slot = .ok (word entry.offset workspace.hardware) := by
  induction table generalizing workspace with
  | nil => simp
  | cons entry rest ih =>
      obtain ⟨live, answered, compared⟩ := bind_succeeds_iff.mp same
      obtain ⟨saved, found, decided⟩ := bind_succeeds_iff.mp compared
      rw [Port.read_result, mapError_eq_ok_iff] at answered
      simp only [Entry.fetch_apply, Port.read_state, mapError_eq_ok_iff] at found decided
      split at decided
      · cases decided
      next agree =>
        have equal : live = saved := by simpa using agree
        intro other member heldOther
        rcases List.mem_cons.mp member with rfl | member
        · rw [found, ← equal, remembers.transport.read_answer _ _ _ heldOther answered]
        · rw [ih decided other member heldOther]
          simp only
          rw [remembers.transport.read_keeps _ _ _ heldOther]

end Table

end DevicePower
