import DevicePower.Proofs.Table.Lookups

/-!
# What a comparison finds

A comparison reads registers in order until one of them decides: a register that cannot be read,
or one that differs from its slot. The registers before it are intact. If no register decides,
all of them are. A read may change the hardware, so that the registers are intact one after the
other, each as the reads before it left the hardware.
-/

namespace DevicePower

open TableM Traced

variable {σ : Type}

namespace Entry

variable (transport : Transport σ) (context : Context) (entry : Entry) (hardware : σ)

/-- The register of the entry has the value of its slot. -/
def Intact : Prop :=
  ∃ value, (transport.read entry.offset hardware).result = .ok value ∧
    context.get entry.slot = .ok value

/-- The register of the entry cannot be read. -/
def Unreadable : Prop :=
  ∃ cause, (transport.read entry.offset hardware).result = .error cause

/-- The register of the entry has another value than its slot. -/
def Drifted : Prop :=
  ∃ live saved, (transport.read entry.offset hardware).result = .ok live ∧
    context.get entry.slot = .ok saved ∧ live ≠ saved

end Entry

namespace Table

/-- The hardware after the registers of a table were read, one after the other. -/
def readThrough (transport : Transport σ) : Table → σ → σ
  | [], hardware => hardware
  | entry :: rest, hardware =>
      Table.readThrough transport rest (transport.read entry.offset hardware).state

/-- These reads, with their answers. -/
def readings (transport : Transport σ) : Table → σ → List Access
  | [], _ => []
  | entry :: rest, hardware =>
      .read entry.offset (transport.read entry.offset hardware).result ::
        Table.readings transport rest (transport.read entry.offset hardware).state

/-- Read one after the other, the registers of a table have the values of their slots. -/
def Intact (transport : Transport σ) (context : Context) : Table → σ → Prop
  | [], _ => True
  | entry :: rest, hardware =>
      entry.Intact transport context hardware ∧
        Table.Intact transport context rest (transport.read entry.offset hardware).state

/-- The registers before the given entry are intact, so that it is reached. -/
structure Reaches (transport : Transport σ) (context : Context) (table : Table) (hardware : σ)
    (before : Table) (entry : Entry) : Prop where
  part : before ++ [entry] <+: table
  intact : before.Intact transport context hardware

/-- The comparison of a table reads the registers of a part of it, and ends in this way. Only
the reads matter to the hardware, and the context stays as it is. -/
structure Examines (port : Port σ) (table part : Table) (workspace : Workspace σ)
    (result : Except Error Bool) : Prop where
  result_eq : (table.differs port workspace).result = result
  asked_eq : (table.differs port workspace).events.filterMap Activity.asked =
    part.readings port.transport workspace.hardware
  state_eq : (table.differs port workspace).state =
    { workspace with hardware := part.readThrough port.transport workspace.hardware }

variable {port : Port σ} {table before : Table} {entry : Entry} {workspace : Workspace σ}

theorem readThrough_append (transport : Transport σ) (first second : Table) (hardware : σ) :
    Table.readThrough transport (first ++ second) hardware =
      second.readThrough transport (first.readThrough transport hardware) := by
  induction first generalizing hardware with
  | nil => rfl
  | cons entry rest ih => exact ih _

theorem readings_append (transport : Transport σ) (first second : Table) (hardware : σ) :
    Table.readings transport (first ++ second) hardware =
      first.readings transport hardware ++
        second.readings transport (first.readThrough transport hardware) := by
  induction first generalizing hardware with
  | nil => rfl
  | cons entry rest ih => exact congrArg (List.cons _) (ih _)

/-! ## One register after the other -/

/-- A register that is intact leaves it to the rest of the table. -/
theorem differs_cons_of_intact (rest : Table)
    (intact : entry.Intact port.transport workspace.context workspace.hardware) :
    Table.differs port (entry :: rest) workspace =
      let later := rest.differs port (port.read entry.offset workspace).state
      ⟨later.result, (port.read entry.offset workspace).events ++ later.events, later.state⟩ := by
  obtain ⟨value, answered, saved⟩ := intact
  have read : (port.read entry.offset workspace).result = .ok value := by
    rw [Port.read_result, answered, mapError_ok]
  rw [differs, bind_of_ok read]
  simp [bind_apply, saved]

/-- If all registers are intact, all of them are read. -/
theorem examines_of_intact
    (intact : table.Intact port.transport workspace.context workspace.hardware) :
    table.Examines port table workspace (.ok false) := by
  induction table generalizing workspace with
  | nil => exact ⟨rfl, rfl, rfl⟩
  | cons entry rest ih =>
      have step := differs_cons_of_intact rest intact.1
      rw [Port.read_state] at step
      have later : Examines port rest rest { workspace with
          hardware := (port.transport.read entry.offset workspace.hardware).state } (.ok false) :=
        ih intact.2
      constructor
      · rw [step]
        exact later.result_eq
      · rw [step, List.filterMap_append, Port.read_asked, later.asked_eq]
        rfl
      · rw [step]
        exact later.state_eq

/-- A register that cannot be read stops the comparison with an error. -/
theorem examines_of_unreadable (rest : Table)
    (unreadable : entry.Unreadable port.transport workspace.hardware) :
    Table.Examines port (entry :: rest) [entry] workspace
      (.error (.registerAccess entry.offset)) := by
  obtain ⟨cause, answered⟩ := unreadable
  have failed : (port.read entry.offset workspace).result =
      .error (.registerAccess entry.offset) := by
    rw [Port.read_result, answered, mapError_error]
  have stops : Table.differs port (entry :: rest) workspace =
      ⟨.error (.registerAccess entry.offset), (port.read entry.offset workspace).events,
        (port.read entry.offset workspace).state⟩ := by
    rw [differs, bind_of_error failed]
  constructor
  · rw [stops]
  · rw [stops]
    exact Port.read_asked _ _ _
  · rw [stops]
    exact Port.read_state _ _ _

/-- A register that differs from its slot stops the comparison with a difference. -/
theorem examines_of_drifted (rest : Table)
    (drifted : entry.Drifted port.transport workspace.context workspace.hardware) :
    Table.Examines port (entry :: rest) [entry] workspace (.ok true) := by
  obtain ⟨live, saved, answered, stored, different⟩ := drifted
  have read : (port.read entry.offset workspace).result = .ok live := by
    rw [Port.read_result, answered, mapError_ok]
  have stops : Table.differs port (entry :: rest) workspace =
      ⟨.ok true, (port.read entry.offset workspace).events ++
        [.note (.valueLost entry.offset saved live)],
        (port.read entry.offset workspace).state⟩ := by
    rw [differs, bind_of_ok read]
    simp [bind_apply, stored, different, -bind_pure_comp]
  constructor
  · rw [stops]
  · rw [stops, List.filterMap_append, Port.read_asked]
    rfl
  · rw [stops]
    exact Port.read_state _ _ _

/-! ## Whole tables -/

/-- What an entry that is reached decides is decided for the table. -/
theorem Reaches.examines {result : Except Error Bool}
    (reaches : table.Reaches port.transport workspace.context workspace.hardware before entry)
    (decides : ∀ rest, Table.Examines port (entry :: rest) [entry]
      { workspace with hardware := before.readThrough port.transport workspace.hardware } result) :
    table.Examines port (before ++ [entry]) workspace result := by
  obtain ⟨⟨rest, rfl⟩, intact⟩ := reaches
  have start := examines_of_intact intact
  have stop := decides rest
  have whole : Table.differs port (before ++ [entry] ++ rest) workspace =
      let later := Table.differs port (entry :: rest) (before.differs port workspace).state
      ⟨later.result, (before.differs port workspace).events ++ later.events, later.state⟩ := by
    rw [List.append_assoc, differs_append, bind_of_ok start.result_eq]
    rfl
  rw [start.state_eq] at whole
  constructor
  · rw [whole]
    exact stop.result_eq
  · rw [whole, List.filterMap_append, start.asked_eq, stop.asked_eq, readings_append]
  · rw [whole, readThrough_append]
    exact stop.state_eq

/-- If all slots exist, then either all registers are intact, or one that is reached decides. -/
theorem intact_or_reaches (transport : Transport σ) (hardware : σ) {context : Context}
    (stored : ∀ entry ∈ table, ∃ value, context.get entry.slot = .ok value) :
    table.Intact transport context hardware ∨
      ∃ before entry, table.Reaches transport context hardware before entry ∧
        (entry.Unreadable transport (before.readThrough transport hardware) ∨
          entry.Drifted transport context (before.readThrough transport hardware)) := by
  induction table generalizing hardware with
  | nil => exact .inl trivial
  | cons entry rest ih =>
      obtain ⟨saved, found⟩ := stored entry (by simp)
      have first : Table.Reaches transport context (entry :: rest) hardware [] entry :=
        ⟨⟨rest, rfl⟩, trivial⟩
      cases answer : (transport.read entry.offset hardware).result with
      | error cause => exact .inr ⟨[], entry, first, .inl ⟨cause, answer⟩⟩
      | ok live =>
          by_cases same : live = saved
          · have intact : entry.Intact transport context hardware :=
              ⟨live, answer, by rw [found, same]⟩
            have others := ih (transport.read entry.offset hardware).state
              fun other member => stored other (by simp [member])
            rcases others with others | ⟨before, other, reaches, decides⟩
            · exact .inl ⟨intact, others⟩
            · obtain ⟨part, before_intact⟩ := reaches
              refine .inr ⟨entry :: before, other, ⟨?_, intact, before_intact⟩, decides⟩
              exact List.cons_prefix_cons.mpr ⟨rfl, part⟩
          · exact .inr ⟨[], entry, first, .inr ⟨live, saved, answer, found, same⟩⟩

end Table

end DevicePower
