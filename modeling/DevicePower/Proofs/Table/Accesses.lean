import DevicePower.Proofs.Keeping
import DevicePower.Table.Execution

/-!
# What single accesses do

An access of a table reaches the transport once, and reports the bus cycles, the access
and, if it failed, a note. The lemmas of this module say what the outcome of an access is
in terms of that of the transport.
-/

namespace DevicePower

open TableM Traced

variable {σ : Type}

/-- The access that an activity is, leaving out what it takes on the bus. -/
def Activity.asked : Activity → Option Access
  | .access dealing => some dealing
  | _ => none

namespace TableM

@[simp] theorem readAccess_apply (transport : Transport σ) (offset : UInt32)
    (workspace : Workspace σ) :
    readAccess transport offset workspace =
      let answer := transport.read offset workspace.hardware
      ⟨.ok answer.result, answer.events.map .cycle ++ [.access (.read offset answer.result)],
        { workspace with hardware := answer.state }⟩ := rfl

@[simp] theorem writeAccess_apply (transport : Transport σ) (offset value : UInt32)
    (workspace : Workspace σ) :
    writeAccess transport offset value workspace =
      let answer := transport.write offset value workspace.hardware
      ⟨.ok answer.result,
        answer.events.map .cycle ++ [.access (.write offset value answer.result)],
        { workspace with hardware := answer.state }⟩ := rfl

end TableM

namespace Port

variable {port : Port σ} {offset value : UInt32} {workspace : Workspace σ}

theorem read_result (port : Port σ) (offset : UInt32) (workspace : Workspace σ) :
    (port.read offset workspace).result =
      (port.transport.read offset workspace.hardware).result.mapError
        fun _ => .registerAccess offset := by
  cases answer : (port.transport.read offset workspace.hardware).result with
  | ok value => simp [read, bind_apply, answer]
  | error error => simp [read, bind_apply, answer]

@[simp] theorem read_state (port : Port σ) (offset : UInt32) (workspace : Workspace σ) :
    (port.read offset workspace).state =
      { workspace with
        hardware := (port.transport.read offset workspace.hardware).state } := by
  cases answer : (port.transport.read offset workspace.hardware).result with
  | ok value => simp [read, bind_apply, answer]
  | error error => simp [read, bind_apply, answer]

/-- Reading a register asks for one access. -/
theorem read_asked (port : Port σ) (offset : UInt32) (workspace : Workspace σ) :
    (port.read offset workspace).events.filterMap Activity.asked =
      [.read offset (port.transport.read offset workspace.hardware).result] := by
  cases answer : (port.transport.read offset workspace.hardware).result with
  | ok value => simp [read, bind_apply, answer, Activity.asked, Function.comp_def]
  | error error =>
      simp [read, bind_apply, answer, Activity.asked, Function.comp_def, List.filterMap_cons]

/-- A register that was read is reported with the value that it had. -/
theorem access_of_read (answered : (port.read offset workspace).result = .ok value) :
    .access (.read offset (.ok value)) ∈ (port.read offset workspace).events := by
  cases answer : (port.transport.read offset workspace.hardware).result with
  | ok word =>
      rw [read_result, answer] at answered
      cases answered
      simp [read, bind_apply, answer]
  | error error =>
      rw [read_result, answer] at answered
      cases answered

/-- A read that failed is reported as such. -/
theorem failure_of_read {error : Error}
    (failed : (port.read offset workspace).result = .error error) :
    ∃ cause, .access (.read offset (.error cause)) ∈ (port.read offset workspace).events := by
  cases answer : (port.transport.read offset workspace.hardware).result with
  | ok word =>
      rw [read_result, answer] at failed
      cases failed
  | error cause =>
      refine ⟨cause, ?_⟩
      simp [read, bind_apply, answer]

theorem write_result (port : Port σ) (offset value : UInt32) (workspace : Workspace σ) :
    (port.write offset value workspace).result =
      (port.transport.write offset value workspace.hardware).result.mapError
        fun _ => .registerAccess offset := by
  cases answer : (port.transport.write offset value workspace.hardware).result with
  | ok done => simp [write, bind_apply, answer]
  | error error => simp [write, bind_apply, answer]

@[simp] theorem write_state (port : Port σ) (offset value : UInt32) (workspace : Workspace σ) :
    (port.write offset value workspace).state =
      { workspace with
        hardware := (port.transport.write offset value workspace.hardware).state } := by
  cases answer : (port.transport.write offset value workspace.hardware).result with
  | ok done => simp [write, bind_apply, answer]
  | error error => simp [write, bind_apply, answer]

/-- A write that failed is reported as such. -/
theorem failure_of_write {cause : BusError}
    (failed : (port.transport.write offset value workspace.hardware).result = .error cause) :
    .access (.write offset value (.error cause)) ∈ (port.write offset value workspace).events := by
  simp [write, bind_apply, failed]

end Port

@[simp] theorem Entry.fetch_apply (slot : Nat) (workspace : Workspace σ) :
    Entry.fetch slot workspace =
      ⟨(workspace.context.get slot).mapError .configuration, [], workspace⟩ := rfl

end DevicePower
