import DevicePower.Callback
import DevicePower.Proofs.Matching
import DevicePower.Table.Execution

/-!
# Tables in lockstep

Two workspaces may differ in something that no table finds out. If every access, every reading of
the timer and every dealing with the context does the same in both and leaves them related, then so
does everything that is made of these: entries, tables and callbacks run in lockstep.
-/

namespace DevicePower

open TableM Traced

variable {σ α : Type} {related : Workspace σ → Workspace σ → Prop}

/-- The computation does the same in related workspaces and leaves related ones. -/
abbrev TableM.InStep (related : Workspace σ → Workspace σ → Prop) (computation : TableM σ α) :
    Prop :=
  Matches (fun _ => true) related computation computation

/-- What a port consists of does the same in related workspaces. -/
structure Port.Lockstep (port : Port σ) (related : Workspace σ → Workspace σ → Prop) : Prop where
  readAccess : ∀ offset, InStep related (readAccess port.transport offset)
  writeAccess : ∀ offset value, InStep related (writeAccess port.transport offset value)
  load : ∀ slot, InStep related (load slot : TableM σ (Except ConfigError UInt32))
  store : ∀ slot value, InStep related (store slot value : TableM σ (Except ConfigError Unit))
  inspect : InStep related (inspect : TableM σ (List UInt32 × Bool))
  populate : ∀ template,
    InStep related (populate template : TableM σ (Except ConfigError Unit))
  replace : ∀ storage, InStep related (replace storage : TableM σ Unit)
  reading : ∀ timer, port.timer = some timer → InStep related (reading timer)

namespace Port.Lockstep

variable {port : Port σ} (lockstep : port.Lockstep related)

include lockstep

theorem read (offset : UInt32) : InStep related (port.read offset) := by
  apply (lockstep.readAccess offset).bind
  intro answer
  cases answer with
  | ok value => exact matches_pure value
  | error error => exact (matches_emit _).bind fun _ => matches_fail _

theorem write (offset value : UInt32) : InStep related (port.write offset value) := by
  apply (lockstep.writeAccess offset value).bind
  intro answer
  cases answer with
  | ok done => exact matches_pure ()
  | error error => exact (matches_emit _).bind fun _ => matches_fail _

omit lockstep in
theorem expire (offset : UInt32) (poll : SettlePoll) (last : UInt32) :
    InStep related (port.expire offset poll last) := by
  apply (matches_emit _).bind
  intro _
  cases port.policy with
  | fail => exact matches_fail _
  | proceed => exact matches_pure ()

theorem await {timer : Timer σ} (present : port.timer = some timer) (offset : UInt32)
    (poll : SettlePoll) (budget start : UInt32) (reads : Nat) (last : UInt32) :
    InStep related (port.await timer offset poll budget start reads last) := by
  induction reads generalizing last with
  | zero => exact expire offset poll last
  | succ reads ih =>
      apply (lockstep.read offset).bind
      intro value
      refine matches_ite (fun _ => matches_pure ()) fun _ => ?_
      apply (lockstep.reading timer present).bind
      intro now
      exact matches_ite (fun _ => expire offset poll value) fun _ => ih value

theorem settle (offset : UInt32) (poll : SettlePoll) :
    InStep related (port.settle offset poll) := by
  rw [Port.settle]
  cases present : port.timer with
  | none => exact matches_fail _
  | some timer =>
      exact (lockstep.reading timer present).bind fun start =>
        lockstep.await present offset poll _ start port.maxReads 0

theorem fetch (slot : Nat) : InStep related (Entry.fetch slot : TableM σ UInt32) :=
  (lockstep.load slot).bind fun _ => matches_ofExcept _

theorem augmentValue (op : BitOp) (augment : Augment) :
    InStep related (Entry.augmentValue op augment : TableM σ UInt32) := by
  cases augment with
  | none => exact matches_pure _
  | constant value => exact matches_pure value
  | combine left inner right =>
      exact (lockstep.fetch left).bind fun _ => (lockstep.fetch right).bind fun _ =>
        matches_pure _

theorem transfer (entry : Entry) : InStep related (entry.transfer port) := by
  have reported (value : UInt32) : InStep related (entry.report value : TableM σ Unit) :=
    matches_emit _
  rw [Entry.transfer]
  cases entry.operation with
  | read =>
      exact (lockstep.read _).bind fun value => (lockstep.store _ value).bind fun _ =>
        (matches_ofExcept _).bind fun _ => reported value
  | flushRead => exact (lockstep.read _).bind reported
  | write =>
      exact (lockstep.fetch _).bind fun value => (lockstep.write _ value).bind fun _ =>
        reported value
  | writeThenRead =>
      exact (lockstep.fetch _).bind fun value => (lockstep.write _ value).bind fun _ =>
        (lockstep.read _).bind fun _ => reported value
  | readModifyWrite op =>
      exact (lockstep.read _).bind fun _ => (lockstep.fetch _).bind fun _ =>
        (lockstep.write _ _).bind fun _ => reported _
  | writeAugmented op =>
      exact (lockstep.augmentValue op _).bind fun _ => (lockstep.fetch _).bind fun _ =>
        (lockstep.write _ _).bind fun _ => reported _

theorem wait (entry : Entry) : InStep related (entry.wait port) := by
  rw [Entry.wait]
  cases entry.poll with
  | none => exact matches_pure ()
  | some poll => exact matches_ite (fun _ => lockstep.settle _ poll) fun _ => matches_pure ()

theorem run (table : Table) : InStep related (table.run port) := by
  induction table with
  | nil => exact matches_pure ()
  | cons entry rest ih =>
      exact ((lockstep.transfer entry).bind fun _ => lockstep.wait entry).bind fun _ => ih

theorem differs (table : Table) : InStep related (table.differs port) := by
  induction table with
  | nil => exact matches_pure false
  | cons entry rest ih =>
      exact (lockstep.read _).bind fun live => (lockstep.fetch _).bind fun saved =>
        matches_ite (fun _ => (matches_emit _).bind fun _ => matches_pure true) fun _ => ih

/-- A callback decides from answers alone how to go on. -/
theorem program (callback : Callback) : InStep related (callback.run port.transport) := by
  induction callback with
  | finish result => exact matches_ofExcept result
  | read offset next ih => exact (lockstep.readAccess offset).bind ih
  | write offset value next ih => exact (lockstep.writeAccess offset value).bind ih
  | load slot next ih => exact (lockstep.load slot).bind ih
  | store slot value next ih => exact (lockstep.store slot value).bind ih
  | inspect next ih => exact lockstep.inspect.bind fun (values, populated) => ih values populated
  | populate template next ih => exact (lockstep.populate template).bind ih
  | replace storage next ih => exact (lockstep.replace storage).bind fun _ => ih

end Port.Lockstep

end DevicePower
