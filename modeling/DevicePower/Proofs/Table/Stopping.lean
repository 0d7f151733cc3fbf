import DevicePower.Bench.Cells
import DevicePower.Proofs.Table.Lookups
import DevicePower.Proofs.Table.Words

/-!
# Where a table stops

A table is run entry by entry, up to the first that fails. `Table.steps` lists the entries with the
workspaces in which they start, whether they are reached or not, and says nothing about stopping.
In these terms a run that fails has done what its entries do up to one of them, and nothing of the
entries behind that; and its context is what the reads before that entry have left. The entry that
fails adds nothing to the context, and if it fails before it comes to its write, it writes nothing.

Nothing is assumed about the registers, the timer and the policy.
-/

namespace DevicePower

open TableM Traced

variable {σ : Type}

namespace Table

/-- An entry, and the workspace in which it starts. -/
structure Step (σ : Type) where
  entry : Entry
  workspace : Workspace σ

/-- The entries of a table and where they start, if each starts where the one before it ended. -/
def steps (port : Port σ) : Table → Workspace σ → List (Step σ)
  | [], _ => []
  | entry :: rest, workspace =>
      ⟨entry, workspace⟩ :: Table.steps port rest (entry.run port workspace).state

/-- There is one step for each entry. -/
theorem steps_entries (port : Port σ) (table : Table) (workspace : Workspace σ) :
    (table.steps port workspace).map Step.entry = table := by
  induction table generalizing workspace with
  | nil => rfl
  | cons entry rest ih => rw [steps, List.map_cons, ih]

/-- What holds of all entries is what holds of the entries of all steps. -/
theorem forall_entries_iff (port : Port σ) {table : Table} (workspace : Workspace σ)
    {property : Entry → Prop} :
    (∀ entry ∈ table, property entry) ↔
      ∀ step ∈ table.steps port workspace, property step.entry := by
  have mapped : (∀ entry ∈ (table.steps port workspace).map Step.entry, property entry) ↔
      ∀ step ∈ table.steps port workspace, property step.entry := List.forall_mem_map
  rwa [steps_entries] at mapped

namespace Step

variable (port : Port σ) (step : Step σ)

/-- What the entry does. -/
def outcome : Outcome Error Activity (Workspace σ) Unit :=
  step.entry.run port step.workspace

/-- The entry runs to its end. -/
def Succeeds : Prop :=
  (step.outcome port).result = .ok ()

/-- What the register of the entry has to answer first. -/
def answer : Except BusError UInt32 :=
  (port.transport.read step.entry.offset step.workspace.hardware).result

/-- The entry reads its register into the slot. -/
def Fills (slot : Nat) : Prop :=
  step.entry.operation = .read ∧ step.entry.slot = slot

/-- The context with the answer in the slot, if the entry is there to read one. -/
def deposit (context : Context) : Context :=
  match step.entry.operation, step.answer port with
  | .read, .ok value => { context with storage := context.storage.set step.entry.slot value }
  | _, _ => context

/-- The entry writes no register. -/
def WritesNothing : Prop :=
  ∀ offset value answer,
    Activity.access (.write offset value answer) ∉ (step.outcome port).events

end Step

/-- The step with the given number is the first that does not succeed. -/
structure StopsAt (port : Port σ) (steps : List (Step σ)) (number : Nat) (step : Step σ)
    (error : Error) : Prop where
  present : steps[number]? = some step
  before : ∀ other ∈ steps.take number, other.Succeeds port
  failed : (step.outcome port).result = .error error

/-- A context has become what steps leave of it that have all succeeded: a slot holds what the last
read into it was answered, and the other slots are as they were. -/
structure Collects (port : Port σ) (steps : List (Step σ)) (before after : Context) : Prop where
  exactly : after = steps.foldl (fun context step => step.deposit port context) before
  length_eq : after.values.length = before.values.length
  untouched : ∀ slot, (∀ step ∈ steps, ¬step.Fills slot) → after.get slot = before.get slot
  latest : ∀ earlier step later slot, steps = earlier ++ step :: later → step.Fills slot →
    (∀ other ∈ later, ¬other.Fills slot) →
      ∃ value, step.answer port = .ok value ∧ after.get slot = .ok value

/-- What the steps report, one after the other. -/
def reports (port : Port σ) (steps : List (Step σ)) : List Activity :=
  steps.flatMap fun step => (step.outcome port).events

/-- The run of a table has come to the step with the given number and stopped there. Nothing is
reported of the steps behind it, and the context is what the steps before have collected. -/
structure Halts (port : Port σ) (table : Table) (workspace : Workspace σ) (number : Nat)
    (step : Step σ) (error : Error) : Prop where
  stops : StopsAt port (table.steps port workspace) number step error
  result_eq : (table.run port workspace).result = .error error
  events_eq : (table.run port workspace).events =
    reports port ((table.steps port workspace).take (number + 1))
  state_eq : (table.run port workspace).state = (step.outcome port).state
  collects : Collects port ((table.steps port workspace).take number) workspace.context
    (table.run port workspace).state.context

end Table

/-! ## Single entries -/

namespace Entry

variable {port : Port σ} {entry : Entry} {workspace : Workspace σ} {error : Error}

/-- An entry that does not read into a slot leaves the context as it is. -/
theorem context_of_ne_read (port : Port σ) (other : entry.operation ≠ .read)
    (workspace : Workspace σ) : (entry.run port workspace).state.context = workspace.context := by
  have frame : ∀ (context after : Context) (slot : Nat) (value : UInt32), ¬True →
      context.set slot value = .ok after → context = workspace.context →
        after = workspace.context :=
    fun _ _ _ _ free => absurd trivial free
  have steps := steps_stored frame port entry fun reads => absurd reads other
  exact (steps.keeps_run [] workspace rfl).1

/-- An entry that fails leaves the context as it is. -/
theorem context_of_error (failed : (entry.run port workspace).result = .error error) :
    (entry.run port workspace).state.context = workspace.context := by
  by_cases reads : entry.operation = .read
  · rw [run_eq_of_reads port reads] at failed ⊢
    rcases bind_fails_iff.mp failed with unread | ⟨value, answered, refused⟩
    · rw [bind_of_error unread, Port.read_state]
    · rw [bind_of_ok answered, Port.read_state]
      rw [Port.read_state] at refused
      cases stored : workspace.context.set entry.slot value with
      | error reason => simp [bind_apply, store, stored, configured]
      | ok context => simp [bind_apply, store, stored, configured, report] at refused
  · exact context_of_ne_read port reads workspace

end Entry

namespace Table

variable {port : Port σ} {table : Table} {workspace : Workspace σ} {error : Error}
variable {step : Step σ} {rest : List (Step σ)} {context : Context}

theorem collects_nil (port : Port σ) (context : Context) : Collects port [] context context where
  exactly := rfl
  length_eq := rfl
  untouched _ _ := rfl
  latest earlier step later slot same := by simp at same

/-- What one step collects. -/
theorem collects_singleton {before after : Context} (exactly : after = step.deposit port before)
    (length_eq : after.values.length = before.values.length)
    (untouched : ∀ slot, ¬step.Fills slot → after.get slot = before.get slot)
    (latest : ∀ slot, step.Fills slot →
      ∃ value, step.answer port = .ok value ∧ after.get slot = .ok value) :
    Collects port [step] before after where
  exactly := exactly
  length_eq := length_eq
  untouched slot free := untouched slot (free step (by simp))
  latest earlier other later slot same fills _ := by
    have member : other ∈ [step] := same ▸ List.mem_append_cons_self
    rw [List.mem_singleton] at member
    subst member
    exact latest slot fills

/-- An entry that does not read into a slot leaves nothing. -/
theorem Step.collects_of_ne_read (other : step.entry.operation ≠ .read) :
    Collects port [step] step.workspace.context (step.outcome port).state.context := by
  rw [Step.outcome, Entry.context_of_ne_read port other]
  apply collects_singleton
  · rw [Step.deposit]
    split
    next operation _ => exact absurd operation other
    next => rfl
  · rfl
  · exact fun _ _ => rfl
  · exact fun _ fills => absurd fills.1 other

/-- A read that succeeds leaves the answer in its slot. -/
theorem Step.collects_of_read (reads : step.entry.operation = .read)
    (succeeds : step.Succeeds port) :
    Collects port [step] step.workspace.context (step.outcome port).state.context := by
  obtain ⟨value, context, answered, stored, state⟩ := Entry.run_read reads succeeds
  have after : (step.outcome port).state.context = context := by rw [Step.outcome, state]
  have answer : step.answer port = .ok value := answered
  rw [after]
  apply collects_singleton
  · simp [Step.deposit, reads, answer, (Context.set_eq_ok_iff.mp stored).2]
  · rw [Context.values_of_set stored, List.length_set]
  · exact fun slot free => Context.get_of_set_ne stored fun same => free ⟨reads, same⟩
  · rintro _ ⟨-, rfl⟩
    exact ⟨value, answer, Context.get_of_set_self stored⟩

/-- What an entry that succeeds leaves of its context. -/
theorem Step.collects (succeeds : step.Succeeds port) :
    Collects port [step] step.workspace.context (step.outcome port).state.context := by
  by_cases reads : step.entry.operation = .read
  · exact Step.collects_of_read reads succeeds
  · exact Step.collects_of_ne_read reads

/-- Steps collect one after the other. -/
theorem Collects.cons {after : Context} (succeeds : step.Succeeds port)
    (collects : Collects port rest (step.outcome port).state.context after) :
    Collects port (step :: rest) step.workspace.context after := by
  have first := step.collects succeeds
  constructor
  case exactly =>
    have deposited : (step.outcome port).state.context = step.deposit port step.workspace.context :=
      first.exactly
    rw [List.foldl_cons, ← deposited]
    exact collects.exactly
  case length_eq => exact collects.length_eq.trans first.length_eq
  case untouched =>
    intro slot free
    rw [collects.untouched slot fun other member => free other (by simp [member])]
    exact first.untouched slot (by simpa using free step (by simp))
  case latest =>
    intro earlier other later slot same fills last
    cases earlier with
    | nil =>
        obtain ⟨rfl, rfl⟩ := List.cons.inj same
        rw [collects.untouched slot last]
        exact first.latest [] step [] slot rfl fills (by simp)
    | cons _ earlier =>
        exact collects.latest earlier other later slot (List.cons.inj same).2 fills last

/-! ## Whole tables -/

/-- A table that succeeds has done what all of its entries do. -/
theorem run_of_ok (done : (table.run port workspace).result = .ok ()) :
    (∀ step ∈ table.steps port workspace, step.Succeeds port) ∧
      (table.run port workspace).events = reports port (table.steps port workspace) ∧
      Collects port (table.steps port workspace) workspace.context
        (table.run port workspace).state.context := by
  induction table generalizing workspace with
  | nil => exact ⟨by simp [steps], rfl, collects_nil port workspace.context⟩
  | cons entry rest ih =>
      obtain ⟨⟨⟩, first, later⟩ := bind_succeeds_iff.mp done
      obtain ⟨succeeds, events, collects⟩ := ih later
      have succeedsFirst : Step.Succeeds port ⟨entry, workspace⟩ := first
      rw [run, bind_of_ok first]
      refine ⟨?_, ?_, collects.cons succeedsFirst⟩
      · exact List.forall_mem_cons.mpr ⟨succeedsFirst, succeeds⟩
      · rw [steps, reports, List.flatMap_cons, events]
        rfl

/-- A table that fails has done what its entries do up to the first that fails. -/
theorem run_of_error (failed : (table.run port workspace).result = .error error) :
    ∃ before step after, table.steps port workspace = before ++ step :: after ∧
      (∀ other ∈ before, other.Succeeds port) ∧ (step.outcome port).result = .error error ∧
      (table.run port workspace).events = reports port (before ++ [step]) ∧
      (table.run port workspace).state = (step.outcome port).state ∧
      Collects port before workspace.context (table.run port workspace).state.context := by
  induction table generalizing workspace with
  | nil => cases failed
  | cons entry rest ih =>
      rcases bind_fails_iff.mp failed with first | ⟨⟨⟩, first, later⟩
      · refine ⟨[], ⟨entry, workspace⟩, Table.steps port rest (entry.run port workspace).state,
          rfl, by simp, first, ?_, ?_, ?_⟩
        · rw [run, bind_of_error first]
          exact (List.append_nil _).symm
        · rw [run, bind_of_error first]
          rfl
        · rw [run, bind_of_error first]
          simp only [Entry.context_of_error first]
          exact collects_nil port workspace.context
      · obtain ⟨before, step, after, split, succeeds, stopped, events, state, collects⟩ := ih later
        have succeedsFirst : Step.Succeeds port ⟨entry, workspace⟩ := first
        rw [run, bind_of_ok first]
        refine ⟨⟨entry, workspace⟩ :: before, step, after, ?_, ?_, stopped, ?_, state,
          collects.cons succeedsFirst⟩
        · rw [steps, split, List.cons_append]
        · exact List.forall_mem_cons.mpr ⟨succeedsFirst, succeeds⟩
        · rw [List.cons_append, reports, List.flatMap_cons, events]
          rfl

/-- A table succeeds if all of its steps do. -/
theorem run_succeeds_iff :
    (table.run port workspace).result = .ok () ↔
      ∀ step ∈ table.steps port workspace, step.Succeeds port := by
  constructor
  · exact fun done => (run_of_ok done).1
  · intro succeeds
    cases result : (table.run port workspace).result with
    | ok done => rfl
    | error error =>
        obtain ⟨before, step, after, split, -, failed, -⟩ := run_of_error result
        have succeeded : step.Succeeds port := succeeds step (by simp [split])
        rw [Step.Succeeds, failed] at succeeded
        cases succeeded

/-- A table that fails has come to one of its steps. -/
theorem halts_of_error (failed : (table.run port workspace).result = .error error) :
    ∃ number step, Halts port table workspace number step error := by
  obtain ⟨before, step, after, split, succeeds, stopped, events, state, collects⟩ :=
    run_of_error failed
  refine ⟨before.length, step, ⟨by simp [split], ?_, stopped⟩, failed, ?_, state, ?_⟩
  · simpa [split] using succeeds
  · rw [events, split, List.take_append, List.take_of_length_le (Nat.le_succ _)]
    simp
  · rwa [split, List.take_left]

theorem StopsAt.not_lt {steps : List (Step σ)} {number other : Nat} {stepOther : Step σ}
    {errorOther : Error} (stops : StopsAt port steps number step error)
    (stopsOther : StopsAt port steps other stepOther errorOther) : ¬other < number := by
  intro earlier
  have member : stepOther ∈ steps.take number := by
    apply List.mem_of_getElem?
    rw [List.getElem?_take_of_lt earlier]
    exact stopsOther.present
  have succeeds := stops.before stepOther member
  rw [Step.Succeeds, stopsOther.failed] at succeeds
  cases succeeds

/-- There is only one step at which steps can stop. -/
theorem StopsAt.unique {steps : List (Step σ)} {number other : Nat} {stepOther : Step σ}
    {errorOther : Error} (stops : StopsAt port steps number step error)
    (stopsOther : StopsAt port steps other stepOther errorOther) : other = number :=
  Nat.le_antisymm (Nat.le_of_not_lt (stopsOther.not_lt stops))
    (Nat.le_of_not_lt (stops.not_lt stopsOther))

/-! ## Entries that do not come to their write -/

/-- The activity is no write of a register. -/
def Unwritten (activity : Activity) : Prop :=
  ∀ offset value answer, activity ≠ .access (.write offset value answer)

theorem unwritten_read (port : Port σ) (offset : UInt32) (workspace : Workspace σ) :
    ∀ activity ∈ (port.read offset workspace).events, Unwritten activity := by
  rintro _ member register value answer rfl
  have asked : .write register value answer ∈
      (port.read offset workspace).events.filterMap Activity.asked :=
    List.mem_filterMap.mpr ⟨_, member, rfl⟩
  rw [Port.read_asked, List.mem_singleton] at asked
  cases asked

/-- Before an entry looks at a slot, it writes nothing. -/
theorem keeps_lead (port : Port σ) (entry : Entry) :
    Keeps (Throughout Unwritten fun _ => True) (fun _ => True) (entry.lead port) := by
  have read : Keeps (Throughout Unwritten fun _ => True) (fun _ => True)
      (port.read entry.offset) :=
    keeps_throughout_iff.mpr fun workspace _ =>
      ⟨unwritten_read port entry.offset workspace, trivial, fun _ _ => trivial⟩
  unfold Entry.lead
  split
  · exact read.bind fun _ => keeps_pure ()
  · exact read.bind fun _ => keeps_pure ()
  · exact keeps_pure ()

/-- An entry that fails for want of a slot does so before its write. -/
theorem Step.writesNothing_of_noSlot {index : Nat}
    (failed : (step.outcome port).result = .error (.noSlot index)) : step.WritesNothing port := by
  have steps : step.entry.Steps port
      (fun workspace => workspace.context.values.length = step.workspace.context.values.length)
      (fun error => ∀ index, error = .noSlot index →
        index ∈ step.entry.uses ∧ step.workspace.context.values.length ≤ index) := by
    apply Entry.steps_of_uses port
    · rintro index used absent _ ⟨⟩
      exact ⟨used, absent⟩
    · nofun
    · nofun
    · nofun
  obtain ⟨used, absent⟩ := (steps.keeps_run [] step.workspace rfl).2 _ failed index rfl
  cases missing : step.entry.missing step.workspace.context.values.length with
  | none => exact absurd (Entry.missing_eq_none_iff.mp missing index used) (Nat.not_lt.mpr absent)
  | some first =>
      have kept : Keeps (Throughout Unwritten fun _ => True) (fun _ => True)
          (do step.entry.lead port; (fail (.noSlot first) : TableM σ Unit)) :=
        (keeps_lead port step.entry).bind fun _ => keeps_fail trivial
      obtain ⟨unwritten, -⟩ := keeps_throughout_iff.mp kept step.workspace trivial
      rw [← Entry.run_of_missing port missing] at unwritten
      exact fun offset value answer member => unwritten _ member offset value answer rfl

/-- A read-modify-write whose read fails does not come to its write. -/
theorem Step.writesNothing_of_unread {op : BitOp} {cause : BusError}
    (modifies : step.entry.operation = .readModifyWrite op)
    (unread : step.answer port = .error cause) : step.WritesNothing port := by
  have failed : (port.read step.entry.offset step.workspace).result =
      .error (.registerAccess step.entry.offset) := by
    rw [Port.read_result]
    exact congrArg (Except.mapError _) unread
  have stopped : (step.outcome port).events =
      (port.read step.entry.offset step.workspace).events := by
    simp only [Step.outcome, Entry.run, Entry.transfer, modifies, bind_assoc]
    rw [bind_of_error failed]
  intro offset value answer member
  rw [stopped] at member
  exact unwritten_read port step.entry.offset step.workspace _ member offset value answer rfl

/-! ## Where a run stops -/

/-- A run that fails has stopped at exactly one step, with the error of this step. It has done what
the steps before and this one do, and nothing of those behind it, and its context is what the steps
before have collected. A step that wants for a slot, or that cannot read the register it is to
modify, has written nothing. A run that succeeds has done and collected what all steps do. -/
theorem run_exact (port : Port σ) (table : Table) (workspace : Workspace σ) :
    let steps := table.steps port workspace
    let run := table.run port workspace
    (∀ error, run.result = .error error →
      ∃ number step, Halts port table workspace number step error ∧
        (∀ other stepOther errorOther,
          StopsAt port steps other stepOther errorOther → other = number) ∧
        (∀ index, error = .noSlot index → step.WritesNothing port) ∧
        (∀ op cause, step.entry.operation = .readModifyWrite op →
          step.answer port = .error cause → step.WritesNothing port)) ∧
    (run.result = .ok () →
      (∀ step ∈ steps, step.Succeeds port) ∧ run.events = reports port steps ∧
        Collects port steps workspace.context run.state.context) := by
  refine ⟨fun error failed => ?_, run_of_ok⟩
  obtain ⟨number, step, halts⟩ := halts_of_error failed
  refine ⟨number, step, halts, ?_, ?_, ?_⟩
  · exact fun other stepOther errorOther stopsOther => halts.stops.unique stopsOther
  · rintro index rfl
    exact Step.writesNothing_of_noSlot halts.stops.failed
  · exact fun op cause modifies unread => Step.writesNothing_of_unread modifies unread

end Table

/-! ## A table with a slot too many -/

namespace Bench.Overreach

/-- Two registers are saved, and a third is to be combined with a slot that does not exist. -/
def table : Table :=
  [⟨.read, 0, 0, .none, none⟩, ⟨.read, 4, 1, .none, none⟩,
    ⟨.readModifyWrite .or, 8, 2, .none, none⟩, ⟨.write, 0, 0, .none, none⟩]

def port : Port Cells where
  transport := Cells.bank.transport
  timer := none
  policy := .fail

def workspace : Workspace Cells :=
  ⟨Cells.filled, ⟨[0, 0], 2, true⟩⟩

/-- The step at which the table stops. -/
def step : Table.Step Cells :=
  ⟨⟨.readModifyWrite .or, 8, 2, .none, none⟩, ⟨Cells.filled, ⟨[1, 26], 2, true⟩⟩⟩

theorem stopsAt : Table.StopsAt port (table.steps port workspace) 2 step (.noSlot 2) where
  present := rfl
  before := by
    have done : (Table.run port (table.take 2) workspace).result = .ok () := rfl
    exact (Table.run_of_ok done).1
  failed := rfl

/-- The table stops at its third entry, with the first two registers in the context and nothing
written there. Without this entry and the last, it succeeds with the same context. -/
theorem stops_at_missing_slot :
    (table.run port workspace).result = .error (.noSlot 2) ∧
      (∃ step, Table.Halts port table workspace 2 step (.noSlot 2) ∧ step.WritesNothing port) ∧
      (Table.run port (table.take 2) workspace).result = .ok () ∧
      (Table.run port (table.take 2) workspace).state.context.get 1 = .ok 26 := by
  have failed : (table.run port workspace).result = .error (.noSlot 2) := rfl
  have done : (Table.run port (table.take 2) workspace).result = .ok () := rfl
  obtain ⟨number, step, halts, only, unwritten, -⟩ :=
    (Table.run_exact port table workspace).1 _ failed
  obtain ⟨-, -, collects⟩ := (Table.run_exact port (table.take 2) workspace).2 done
  obtain rfl : 2 = number := only 2 _ _ stopsAt
  refine ⟨failed, ⟨step, halts, unwritten 2 rfl⟩, done, ?_⟩
  obtain ⟨value, answered, found⟩ := collects.latest [_] _ [] 1 rfl ⟨rfl, rfl⟩ (by simp)
  have read : value = 26 := by
    injection answered with same
    exact same.symm
  rw [found, read]

end Bench.Overreach

end DevicePower
