import DevicePower.Callback
import DevicePower.Proofs.Keeping
import DevicePower.Table.Execution

/-!
# What tables keep

A table is a sequence of entries, and an entry consists of reads, writes, look-ups
and waits. `Entry.Steps` lists what has to be known about these in order to know
what the entry keeps; a table then keeps what each of its entries keeps.

`Workspace.Kept` is the form of invariant used here: a property of the hardware
and the context, whatever is reported meanwhile.
-/

namespace DevicePower

open TableM Traced

variable {σ : Type}

/-- An invariant that looks at the workspace only. -/
abbrev Workspace.Kept (sound : Workspace σ → Prop) : List Activity → Workspace σ → Prop :=
  fun _ workspace => sound workspace

namespace TableM

variable {sound : Workspace σ → Prop} {allowed : Error → Prop} {transport : Transport σ}

/-- Reading a register keeps what holds of the workspace with the hardware after the
read. -/
theorem keeps_readAccess {offset : UInt32}
    (read : ∀ workspace, sound workspace →
      sound { workspace with hardware := (transport.read offset workspace.hardware).state }) :
    Keeps (Workspace.Kept sound) allowed (readAccess transport offset) := by
  apply Keeps.bind
  · intro _ workspace holds
    exact ⟨read workspace holds, by simp [reach]⟩
  · intro answer
    exact (keeps_emit fun _ _ holds => holds).bind fun _ => keeps_pure answer

/-- Writing a register keeps what holds of the workspace with the hardware after the
write. -/
theorem keeps_writeAccess {offset value : UInt32}
    (write : ∀ workspace, sound workspace →
      sound { workspace with
        hardware := (transport.write offset value workspace.hardware).state }) :
    Keeps (Workspace.Kept sound) allowed (writeAccess transport offset value) := by
  apply Keeps.bind
  · intro _ workspace holds
    exact ⟨write workspace holds, by simp [reach]⟩
  · intro answer
    exact (keeps_emit fun _ _ holds => holds).bind fun _ => keeps_pure answer

theorem keeps_reading {timer : Timer σ}
    (taken : ∀ workspace, sound workspace →
      sound { workspace with hardware := (timer.now workspace.hardware).2 }) :
    Keeps (Workspace.Kept sound) allowed (reading timer) :=
  (keeps_act fun _ workspace holds => taken workspace holds).bind fun now =>
    (keeps_emit fun _ _ holds => holds).bind fun _ => keeps_pure now

theorem keeps_store {slot : Nat} {value : UInt32}
    (stored : ∀ workspace after, sound workspace → workspace.context.set slot value = .ok after →
      sound { workspace with context := after }) :
    Keeps (Workspace.Kept sound) allowed (store slot value) := by
  apply keeps_act
  intro _ workspace holds
  cases done : workspace.context.set slot value with
  | ok after => simpa [done] using stored workspace after holds done
  | error reason => simpa [done] using holds

theorem keeps_populate {template : List UInt32}
    (populated : ∀ workspace after, sound workspace →
      workspace.context.populate template = .ok after →
        sound { workspace with context := after }) :
    Keeps (Workspace.Kept sound) allowed (populate template) := by
  apply keeps_act
  intro _ workspace holds
  cases done : workspace.context.populate template with
  | ok after => simpa [done] using populated workspace after holds done
  | error reason => simpa [done] using holds

theorem keeps_replace {storage : List UInt32}
    (replaced : ∀ workspace, sound workspace →
      sound { workspace with context := .new storage }) :
    Keeps (Workspace.Kept sound) allowed (replace storage) :=
  keeps_update fun _ => replaced

end TableM

namespace Port

variable {port : Port σ} {sound : Workspace σ → Prop} {allowed : Error → Prop}
variable {offset : UInt32}

theorem keeps_read
    (read : ∀ workspace, sound workspace →
      sound { workspace with
        hardware := (port.transport.read offset workspace.hardware).state })
    (failed : allowed (.registerAccess offset)) :
    Keeps (Workspace.Kept sound) allowed (port.read offset) := by
  apply (keeps_readAccess read).bind
  intro answer
  cases answer with
  | ok value => exact keeps_pure value
  | error error => exact (keeps_emit fun _ _ holds => holds).bind fun _ => keeps_fail failed

theorem keeps_write {value : UInt32}
    (write : ∀ workspace, sound workspace →
      sound { workspace with
        hardware := (port.transport.write offset value workspace.hardware).state })
    (failed : allowed (.registerAccess offset)) :
    Keeps (Workspace.Kept sound) allowed (port.write offset value) := by
  apply (keeps_writeAccess write).bind
  intro answer
  cases answer with
  | ok done => exact keeps_pure ()
  | error error => exact (keeps_emit fun _ _ holds => holds).bind fun _ => keeps_fail failed

theorem keeps_expire {poll : SettlePoll} (last : UInt32) (failed : allowed (.timeout offset)) :
    Keeps (Workspace.Kept sound) allowed (port.expire offset poll last) := by
  apply (keeps_emit fun _ _ holds => holds).bind
  intro _
  cases port.policy with
  | fail => exact keeps_fail failed
  | proceed => exact keeps_pure ()

/-- A settle poll keeps what its reads and the readings of the timer keep. -/
theorem keeps_await {timer : Timer σ} {poll : SettlePoll} {budget start : UInt32}
    (read : Keeps (Workspace.Kept sound) allowed (port.read offset))
    (taken : Keeps (Workspace.Kept sound) allowed (reading timer))
    (failed : allowed (.timeout offset)) (reads : Nat) (last : UInt32) :
    Keeps (Workspace.Kept sound) allowed
      (port.await timer offset poll budget start reads last) := by
  induction reads generalizing last with
  | zero => exact keeps_expire last failed
  | succ reads ih =>
      apply read.bind
      intro value
      split
      · exact keeps_pure ()
      · apply taken.bind
        intro now
        split
        · exact keeps_expire value failed
        · exact ih value

theorem keeps_settle {poll : SettlePoll}
    (read : Keeps (Workspace.Kept sound) allowed (port.read offset))
    (taken : ∀ timer, port.timer = some timer →
      Keeps (Workspace.Kept sound) allowed (reading timer))
    (failed : allowed (.timeout offset))
    (untimed : port.timer = none → allowed (.configuration .noTimer)) :
    Keeps (Workspace.Kept sound) allowed (port.settle offset poll) := by
  rw [settle]
  split
  next absent => exact keeps_fail (untimed absent)
  next timer present =>
    exact (taken timer present).bind fun start =>
      keeps_await read (taken timer present) failed port.maxReads 0

end Port

namespace Entry

/-- The slots whose values an entry looks up. -/
def sources (entry : Entry) : List Nat :=
  match entry.operation, entry.augment with
  | .read, _ | .flushRead, _ => []
  | .writeAugmented _, .combine left _ right => [left, right, entry.slot]
  | _, _ => [entry.slot]

/-- What the single steps of an entry keep. -/
structure Steps (port : Port σ) (sound : Workspace σ → Prop) (allowed : Error → Prop)
    (entry : Entry) : Prop where
  read : Keeps (Workspace.Kept sound) allowed (port.read entry.offset)
  write : entry.operation.writes = true → ∀ value,
    Keeps (Workspace.Kept sound) allowed (port.write entry.offset value)
  fetch : ∀ slot ∈ entry.sources, Keeps (Workspace.Kept sound) allowed (fetch slot)
  store : entry.operation = .read → ∀ value,
    Keeps (Workspace.Kept sound) allowed (store entry.slot value >>= configured)
  settle : ∀ poll, entry.poll = some poll → entry.operation.writes = true →
    Keeps (Workspace.Kept sound) allowed (port.settle entry.offset poll)

variable {port : Port σ} {sound : Workspace σ → Prop} {allowed : Error → Prop} {entry : Entry}

/-- A look-up changes nothing, and fails only if the slot does not exist. -/
theorem keeps_fetch {slot : Nat}
    (missing : ∀ workspace reason, sound workspace →
      workspace.context.get slot = .error reason → allowed (.configuration reason)) :
    Keeps (Workspace.Kept sound) allowed (Entry.fetch slot) := by
  apply keeps_query_bind
  intro _ workspace holds
  apply keeps_ofExcept
  intro error failed
  cases found : workspace.context.get slot with
  | ok value => simp [found] at failed
  | error reason =>
      rw [found] at failed
      cases failed
      exact missing workspace reason holds found

/-- A slot is overwritten if it exists, and nothing changes otherwise. -/
theorem keeps_deposit {slot : Nat} {value : UInt32}
    (stored : ∀ workspace after, sound workspace → workspace.context.set slot value = .ok after →
      sound { workspace with context := after })
    (missing : ∀ workspace reason, sound workspace →
      workspace.context.set slot value = .error reason → allowed (.configuration reason)) :
    Keeps (Workspace.Kept sound) allowed (store slot value >>= configured) := by
  intro _ workspace holds
  cases done : workspace.context.set slot value with
  | ok after =>
      have answered : (store slot value workspace : Outcome Error _ _ _).result = .ok (.ok ()) := by
        simp [store, done]
      rw [bind_of_ok answered]
      refine ⟨?_, by simp [configured]⟩
      simpa [configured, store, done] using stored workspace after holds done
  | error reason =>
      have answered : (store slot value workspace : Outcome Error _ _ _).result =
          .ok (.error reason) := by
        simp [store, done]
      rw [bind_of_ok answered]
      refine ⟨by simpa [configured, store, done] using holds, ?_⟩
      intro error failed
      simp only [configured, ofExcept_apply, mapError_error] at failed
      cases failed
      exact missing workspace reason holds done

theorem keeps_report (value : UInt32) :
    Keeps (Workspace.Kept sound) allowed (entry.report value : TableM σ Unit) :=
  keeps_emit fun _ _ holds => holds

theorem Steps.keeps_transfer (steps : entry.Steps port sound allowed) :
    Keeps (Workspace.Kept sound) allowed (entry.transfer port) := by
  rw [transfer]
  split
  next operation =>
    apply steps.read.bind
    intro value
    rw [← bind_assoc]
    exact (steps.store operation value).bind fun _ => keeps_report value
  next operation =>
    exact steps.read.bind fun value => keeps_report value
  next operation =>
    apply (steps.fetch _ (by simp [sources, operation])).bind
    intro value
    exact (steps.write (by simp [operation, Operation.writes]) value).bind fun _ =>
      keeps_report value
  next operation =>
    apply (steps.fetch _ (by simp [sources, operation])).bind
    intro value
    apply (steps.write (by simp [operation, Operation.writes]) value).bind
    intro _
    exact steps.read.bind fun _ => keeps_report value
  next op operation =>
    apply steps.read.bind
    intro current
    apply (steps.fetch _ (by simp [sources, operation])).bind
    intro operand
    exact (steps.write (by simp [operation, Operation.writes]) _).bind fun _ => keeps_report _
  next op operation =>
    have augmented : Keeps (Workspace.Kept sound) allowed
        (augmentValue op entry.augment : TableM σ UInt32) := by
      rw [augmentValue.eq_def]
      split
      · exact keeps_pure _
      · exact keeps_pure _
      next left inner right augment =>
        apply (steps.fetch left (by simp [sources, operation, augment])).bind
        intro leftValue
        apply (steps.fetch right (by simp [sources, operation, augment])).bind
        intro rightValue
        exact keeps_pure _
    apply augmented.bind
    intro augment
    apply (steps.fetch entry.slot (by rw [sources, operation]; split <;> simp_all)).bind
    intro operand
    exact (steps.write (by simp [operation, Operation.writes]) _).bind fun _ => keeps_report _

theorem Steps.keeps_wait (steps : entry.Steps port sound allowed) :
    Keeps (Workspace.Kept sound) allowed (entry.wait port) := by
  rw [wait]
  split
  next poll present =>
    split
    next writes => exact steps.settle poll present writes
    next => exact keeps_pure ()
  next => exact keeps_pure ()

/-- What every access to the registers, every reading of the timer and every change of a slot
keeps is kept by every entry, if all errors of entries are allowed. -/
theorem steps_of_accesses (entry : Entry)
    (read : ∀ offset workspace, sound workspace →
      sound { workspace with
        hardware := (port.transport.read offset workspace.hardware).state })
    (write : ∀ offset value workspace, sound workspace →
      sound { workspace with
        hardware := (port.transport.write offset value workspace.hardware).state })
    (taken : ∀ timer, port.timer = some timer → ∀ workspace, sound workspace →
      sound { workspace with hardware := (timer.now workspace.hardware).2 })
    (stored : ∀ workspace after slot value, sound workspace →
      workspace.context.set slot value = .ok after → sound { workspace with context := after })
    (access : ∀ offset, allowed (.registerAccess offset))
    (timeout : ∀ offset, allowed (.timeout offset))
    (configuration : ∀ reason, allowed (.configuration reason)) :
    entry.Steps port sound allowed := by
  have keptRead : Keeps (Workspace.Kept sound) allowed (port.read entry.offset) :=
    Port.keeps_read (read _) (access _)
  exact {
    read := keptRead
    write := fun _ _ => Port.keeps_write (write _ _) (access _)
    fetch := fun _ _ => keeps_fetch fun _ _ _ _ => configuration _
    store := fun _ _ => keeps_deposit (fun workspace after => stored workspace after _ _)
      fun _ _ _ _ => configuration _
    settle := fun _ _ _ =>
      Port.keeps_settle keptRead (fun timer present => keeps_reading (taken timer present))
        (timeout _) fun _ => configuration _ }

/-- What neither the hardware nor the value of a slot matters to is kept by every entry, if
all errors of entries are allowed. -/
theorem steps_of_indifferent (port : Port σ) (entry : Entry)
    (hardware : ∀ workspace hardware, sound workspace → sound { workspace with hardware })
    (stored : ∀ workspace after slot value, sound workspace →
      workspace.context.set slot value = .ok after → sound { workspace with context := after })
    (access : ∀ offset, allowed (.registerAccess offset))
    (timeout : ∀ offset, allowed (.timeout offset))
    (configuration : ∀ reason, allowed (.configuration reason)) :
    entry.Steps port sound allowed :=
  entry.steps_of_accesses (fun _ workspace => hardware workspace _)
    (fun _ _ workspace => hardware workspace _) (fun _ _ workspace => hardware workspace _)
    stored access timeout configuration

/-- An entry keeps what its single steps keep. -/
theorem Steps.keeps_run (steps : entry.Steps port sound allowed) :
    Keeps (Workspace.Kept sound) allowed (entry.run port) :=
  steps.keeps_transfer.bind fun _ => steps.keeps_wait

end Entry

namespace Table

variable {port : Port σ} {sound : Workspace σ → Prop} {allowed : Error → Prop}

/-- A table keeps what all of its entries keep. -/
theorem keeps_run {table : Table}
    (steps : ∀ entry ∈ table, entry.Steps port sound allowed) :
    Keeps (Workspace.Kept sound) allowed (table.run port) := by
  induction table with
  | nil => exact keeps_pure ()
  | cons entry rest ih =>
      apply (steps entry (by simp)).keeps_run.bind
      intro _
      exact ih fun other member => steps other (by simp [member])

/-- A comparison reads registers and looks slots up, and keeps what these keep. -/
theorem keeps_differs {table : Table}
    (read : ∀ entry ∈ table, Keeps (Workspace.Kept sound) allowed (port.read entry.offset))
    (fetch : ∀ entry ∈ table, Keeps (Workspace.Kept sound) allowed (Entry.fetch entry.slot)) :
    Keeps (Workspace.Kept sound) allowed (table.differs port) := by
  induction table with
  | nil => exact keeps_pure false
  | cons entry rest ih =>
      apply (read entry (by simp)).bind
      intro live
      apply (fetch entry (by simp)).bind
      intro saved
      split
      · exact (keeps_emit fun _ _ holds => holds).bind fun _ => keeps_pure true
      · exact ih (fun other member => read other (by simp [member]))
          fun other member => fetch other (by simp [member])

end Table

/-! ## Callbacks -/

namespace Callback

/-- A single step of a callback, apart from what comes of it. -/
inductive Step where
  | read (offset : UInt32)
  | write (offset value : UInt32)
  | load (slot : Nat)
  | store (slot : Nat) (value : UInt32)
  | inspect
  | populate (template : List UInt32)
  | replace (storage : List UInt32)

namespace Step

/-- The step leaves the context in its place. -/
def KeepsContext : Step → Prop
  | .replace _ => False
  | _ => True

/-- The step makes no context: it changes values of slots at most. -/
def MakesNoContext : Step → Prop
  | .populate _ | .replace _ => False
  | _ => True

/-- The step overwrites none of the given registers and none of the given slots. To make a
context is to overwrite every slot. -/
def Spares (registers : UInt32 → Prop) (slots : Nat → Prop) : Step → Prop
  | .write offset _ => ¬registers offset
  | .store slot _ => ¬slots slot
  | .populate _ | .replace _ => ∀ slot, ¬slots slot
  | _ => True

end Step

/-- Whatever the callback is answered, it takes permitted steps only. -/
def Only (permitted : Step → Prop) : Callback → Prop
  | .finish _ => True
  | .read offset next => permitted (.read offset) ∧ ∀ answer, (next answer).Only permitted
  | .write offset value next =>
      permitted (.write offset value) ∧ ∀ answer, (next answer).Only permitted
  | .load slot next => permitted (.load slot) ∧ ∀ answer, (next answer).Only permitted
  | .store slot value next =>
      permitted (.store slot value) ∧ ∀ answer, (next answer).Only permitted
  | .inspect next =>
      permitted .inspect ∧ ∀ values populated, (next values populated).Only permitted
  | .populate template next =>
      permitted (.populate template) ∧ ∀ answer, (next answer).Only permitted
  | .replace storage next => permitted (.replace storage) ∧ next.Only permitted

theorem Only.mono {permitted wider : Step → Prop} {program : Callback}
    (only : program.Only permitted) (included : ∀ step, permitted step → wider step) :
    program.Only wider := by
  induction program with
  | finish result => trivial
  | read offset next ih => exact ⟨included _ only.1, fun answer => ih answer (only.2 answer)⟩
  | write offset value next ih =>
      exact ⟨included _ only.1, fun answer => ih answer (only.2 answer)⟩
  | load slot next ih => exact ⟨included _ only.1, fun answer => ih answer (only.2 answer)⟩
  | store slot value next ih =>
      exact ⟨included _ only.1, fun answer => ih answer (only.2 answer)⟩
  | inspect next ih =>
      exact ⟨included _ only.1, fun values populated =>
        ih values populated (only.2 values populated)⟩
  | populate template next ih =>
      exact ⟨included _ only.1, fun answer => ih answer (only.2 answer)⟩
  | replace storage next ih => exact ⟨included _ only.1, ih only.2⟩

/-- Every callback does something. -/
theorem only_anything (program : Callback) : program.Only fun _ => True := by
  induction program with
  | finish result => trivial
  | read offset next ih => exact ⟨trivial, ih⟩
  | write offset value next ih => exact ⟨trivial, ih⟩
  | load slot next ih => exact ⟨trivial, ih⟩
  | store slot value next ih => exact ⟨trivial, ih⟩
  | inspect next ih => exact ⟨trivial, ih⟩
  | populate template next ih => exact ⟨trivial, ih⟩
  | replace storage next ih => exact ⟨trivial, ih⟩

/-- A callback keeps what its steps keep. Its errors are of its own making. -/
theorem keeps_run {transport : Transport σ} {sound : Workspace σ → Prop}
    {permitted : Step → Prop} {program : Callback} (only : program.Only permitted)
    (read : ∀ offset, Keeps (Workspace.Kept sound) (fun _ => True)
      (readAccess transport offset))
    (write : ∀ offset value, permitted (.write offset value) →
      Keeps (Workspace.Kept sound) (fun _ => True) (writeAccess transport offset value))
    (store : ∀ slot value, permitted (.store slot value) →
      Keeps (Workspace.Kept sound) (fun _ => True) (TableM.store slot value))
    (populate : ∀ template, permitted (.populate template) →
      Keeps (Workspace.Kept sound) (fun _ => True) (TableM.populate template))
    (replace : ∀ storage, permitted (.replace storage) →
      Keeps (Workspace.Kept sound) (fun _ => True) (TableM.replace storage)) :
    Keeps (Workspace.Kept sound) (fun _ => True) (program.run transport) := by
  induction program with
  | finish result => exact keeps_ofExcept fun _ _ => trivial
  | read offset next ih => exact (read offset).bind fun answer => ih answer (only.2 answer)
  | write offset value next ih =>
      exact (write offset value only.1).bind fun answer => ih answer (only.2 answer)
  | load slot next ih => exact (keeps_query _).bind fun answer => ih answer (only.2 answer)
  | store slot value next ih =>
      exact (store slot value only.1).bind fun answer => ih answer (only.2 answer)
  | inspect next ih =>
      exact (keeps_query _).bind fun (values, populated) =>
        ih values populated (only.2 values populated)
  | populate template next ih =>
      exact (populate template only.1).bind fun answer => ih answer (only.2 answer)
  | replace storage next ih => exact (replace storage only.1).bind fun _ => ih only.2

/-- What no change of the context breaks is kept if the accesses keep it. -/
theorem keeps_run_of_accesses {transport : Transport σ} {sound : Workspace σ → Prop}
    {permitted : Step → Prop} {program : Callback} (only : program.Only permitted)
    (context : ∀ workspace context, sound workspace → sound { workspace with context })
    (read : ∀ offset, Keeps (Workspace.Kept sound) (fun _ => True)
      (readAccess transport offset))
    (write : ∀ offset value, permitted (.write offset value) →
      Keeps (Workspace.Kept sound) (fun _ => True) (writeAccess transport offset value)) :
    Keeps (Workspace.Kept sound) (fun _ => True) (program.run transport) :=
  keeps_run only read write
    (fun _ _ _ => keeps_store fun workspace after holds _ => context workspace after holds)
    (fun _ _ => keeps_populate fun workspace after holds _ => context workspace after holds)
    fun _ _ => keeps_replace fun workspace => context workspace _

end Callback

/-- Whatever callback is called, it takes permitted steps only. -/
def Hooks.Only (permitted : Callback.Step → Prop) (hooks : Hooks σ) : Prop :=
  ∀ stage hook, hooks.hook stage = some hook → ∀ hardware, (hook hardware).1.Only permitted

/-- No callback puts another context in the place of the one it is handed. -/
abbrev Hooks.KeepContext (hooks : Hooks σ) : Prop :=
  hooks.Only Callback.Step.KeepsContext

/-- No callback populates the context or replaces it. -/
abbrev Hooks.MakeNoContext (hooks : Hooks σ) : Prop :=
  hooks.Only Callback.Step.MakesNoContext

theorem Hooks.Only.mono {permitted wider : Callback.Step → Prop} {hooks : Hooks σ}
    (only : hooks.Only permitted) (included : ∀ step, permitted step → wider step) :
    hooks.Only wider :=
  fun stage hook present hardware => (only stage hook present hardware).mono included

/-- Callbacks that make no context keep the one they are handed. -/
theorem Hooks.MakeNoContext.keepContext {hooks : Hooks σ} (none : hooks.MakeNoContext) :
    hooks.KeepContext :=
  none.mono fun step made => by cases step <;> trivial

theorem Hooks.only_anything (hooks : Hooks σ) : hooks.Only fun _ => True :=
  fun _ hook _ hardware => (hook hardware).1.only_anything

end DevicePower
