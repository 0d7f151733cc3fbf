import DevicePower.Bench.Cells
import DevicePower.Proofs.Device.Attempts
import DevicePower.Proofs.Device.Busy
import DevicePower.Proofs.Device.Keeping
import DevicePower.Proofs.Table.Words

/-!
# A context that is saved once

A driver may ask for its registers to be saved only once. A save then runs the save table as long as
no run of it has succeeded, and does nothing afterwards. If nothing but the save table stores words
in the context, that one run decides about the context for good: later requests find it as the run
left it, whatever becomes of them.

A save is asked for by itself and is the first step of every suspend. `saveStart` says for every
request whether it comes to a save, and in which machine. All other steps are calm: they run no save
table, and leave the context and the record of it alone.
-/

namespace DevicePower

open DeviceM TableM Traced

variable {σ α β : Type}

/-- The event belongs to a run of the save table. -/
def Event.saving : Event → Bool
  | .activity (.table kind) _ => kind == .save
  | .tableEnded kind _ => kind == .save
  | _ => false

/-- Everything that a computation has to do with saving: its runs of the save table, the context
that it leaves, and whether that counts as saved. -/
def Outcome.savings (outcome : Outcome Error Event (Machine σ) α) : List Event × Context × Bool :=
  (outcome.events.filter Event.saving, outcome.state.context, outcome.state.contextSaved)

theorem Outcome.savings_eq_iff {outcome : Outcome Error Event (Machine σ) α}
    {events : List Event} {context : Context} {saved : Bool} :
    outcome.savings = (events, context, saved) ↔
      outcome.events.filter Event.saving = events ∧ outcome.state.context = context ∧
        outcome.state.contextSaved = saved := by
  simp [Outcome.savings]

theorem Outcome.mem_savings_iff {outcome : Outcome Error Event (Machine σ) α} {event : Event}
    (saving : event.saving = true) : event ∈ outcome.savings.1 ↔ event ∈ outcome.events := by
  simp [savings, saving]

/-- No entry of the table reads a register into a slot. -/
def Table.StoresNothing (table : Table) : Prop :=
  ∀ entry ∈ table, entry.operation ≠ .read

instance (table : Table) : Decidable table.StoresNothing :=
  inferInstanceAs (Decidable (∀ entry ∈ table, entry.operation ≠ .read))

/-- A table that stores nothing keeps the context, and what is known besides. -/
theorem Table.StoresNothing.keeps_context {table : Table} (stores : table.StoresNothing)
    (port : Port σ) (context : Context) (known : Prop) :
    Keeps (Workspace.Kept fun workspace => workspace.context = context ∧ known) (fun _ => True)
      (table.run port) := by
  have frame : ∀ (before after : Context) (slot : Nat) (value : UInt32), ¬True →
      before.set slot value = .ok after → before = context ∧ known → after = context ∧ known :=
    fun _ _ _ _ free => absurd trivial free
  exact Table.keeps_run fun entry member =>
    Entry.steps_stored frame port entry fun reads => absurd reads (stores entry member)

/-- The request brings no table that stores words in the context. -/
def Request.StoresNothing : Request → Prop
  | .runTable table => table.StoresNothing
  | _ => True

/-- What happens brings no table that stores words in the context. -/
def Happening.StoresNothing : Happening σ → Prop
  | .asked request => request.StoresNothing
  | _ => True

namespace Device

/-- Nothing stores words in the context but the save table, and the context check, which is compared
and never run. -/
structure StoresBySaving (device : Device σ) : Prop where
  tables : ∀ kind, kind ≠ .save → kind ≠ .contextCheck →
    Table.StoresNothing (device.driver.tables kind)
  hooks : device.hooks.Only (Callback.Step.Spares (fun _ => False) fun _ => True)

/-! ## Calm steps -/

/-- The computation runs no save table, and leaves the context and the record of it alone. -/
def Calm (computation : DeviceM σ α) : Prop :=
  ∀ context saved,
    Keeps
      (Throughout (fun event => event.saving = false) fun machine : Machine σ =>
        machine.context = context ∧ machine.contextSaved = saved)
      (fun _ => True) computation

theorem Calm.savings {computation : DeviceM σ α} (calm : Calm computation)
    (machine : Machine σ) :
    (computation machine).savings = ([], machine.context, machine.contextSaved) := by
  obtain ⟨events, ⟨context, saved⟩, -⟩ :=
    keeps_throughout_iff.mp (calm machine.context machine.contextSaved) machine ⟨rfl, rfl⟩
  refine Outcome.savings_eq_iff.mpr ⟨List.filter_eq_nil_iff.mpr ?_, context, saved⟩
  intro event member
  simp [events event member]

/-- The runs of two steps are reported one after the other, and the second step decides about the
rest. -/
theorem savings_bind {first : DeviceM σ α} {machine : Machine σ} {value : α}
    (done : (first machine).result = .ok value) (next : α → DeviceM σ β) :
    let second := next value (first machine).state
    ((first >>= next) machine).savings =
      ((first machine).savings.1 ++ second.savings.1, second.savings.2) := by
  intro second
  rw [bind_of_ok done, Outcome.savings, List.filter_append]
  rfl

/-- A calm step before makes no difference to saving. -/
theorem Calm.savings_bind {first : DeviceM σ α} (calm : Calm first) {machine : Machine σ}
    {value : α} (done : (first machine).result = .ok value) (next : α → DeviceM σ β) :
    ((first >>= next) machine).savings = (next value (first machine).state).savings := by
  rw [Device.savings_bind done, calm.savings]
  rfl

/-- A calm step afterwards makes no difference to saving. -/
theorem savings_bind_of_calm {first : DeviceM σ α} {next : α → DeviceM σ β}
    (calm : ∀ value, Calm (next value)) (machine : Machine σ) :
    ((first >>= next) machine).savings = (first machine).savings := by
  cases ended : (first machine).result with
  | error error =>
      rw [bind_of_error ended]
      rfl
  | ok value =>
      rw [savings_bind ended, (calm value).savings, List.append_nil]
      rfl

variable {device : Device σ}

/-- All that does not save is calm. -/
theorem StoresBySaving.steady (stores : device.StoresBySaving) (context : Context)
    (saved : Bool) :
    Steady device (fun kind => kind ≠ .save) (fun _ => True)
      (Throughout (fun event => event.saving = false) fun machine =>
        machine.context = context ∧ machine.contextSaved = saved)
      (fun _ => True) := by
  have upkeep : Upkeep device (fun kind => kind ≠ .save) (fun _ => True)
      (fun event => event.saving = false)
      (fun machine => machine.context = context ∧ machine.contextSaved = saved)
      (fun _ => True) := {
    run := fun kind other runs machine _ =>
      (stores.tables kind other runs).keeps_context device.port context
        (machine.contextSaved = saved)
    differs := fun _ _ _ => Table.keeps_differs
      (fun _ _ => Port.keeps_read (fun _ holds => holds) trivial)
      fun _ _ => Entry.keeps_fetch fun _ _ _ _ => trivial
    status := fun _ _ _ _ _ => Port.keeps_read (fun _ holds => holds) trivial
    program := fun stage hook _ present _ hardware _ =>
      Callback.keeps_run (stores.hooks stage hook present hardware)
        (fun _ => keeps_readAccess fun _ holds => holds)
        (fun _ _ _ => keeps_writeAccess fun _ holds => holds)
        (fun _ _ free => absurd trivial free) (fun _ free => absurd trivial (free 0))
        fun _ free => absurd trivial (free 0)
    saved := fun saving => absurd rfl saving
    activity := by
      intro origin within activity
      cases origin with
      | table kind =>
          have other : kind ≠ .save := within
          simpa [Event.saving] using other
      | _ => rfl
    tableEnded := fun kind _ other => by simpa [Event.saving] using other }
  exact upkeep.steady

/-- What sets no slot does not replace the context. -/
theorem StoresBySaving.keepContext (stores : device.StoresBySaving) : device.hooks.KeepContext :=
  stores.hooks.mono fun step spares => by
    cases step with
    | replace storage => exact absurd trivial (spares 0)
    | _ => trivial

theorem resumeUses_unsaving : ResumeUses (fun kind => kind ≠ .save) (fun _ => True) := by
  constructor <;> simp

namespace StoresBySaving

theorem calm_runtimeResume (stores : device.StoresBySaving) : Calm device.runtimeResume :=
  fun context saved => (stores.steady context saved).runtimeResume resumeUses_unsaving
    (keeps_update fun _ _ holds => holds) (keeps_update fun _ _ holds => holds)

theorem calm_beforeSleep (stores : device.StoresBySaving) : Calm device.beforeSleep :=
  fun context saved =>
    ((stores.steady context saved).wakeBeforeSleep (stores.calm_runtimeResume context saved)).bind
      fun _ => (stores.steady context saved).callback .suspend trivial

theorem calm_usedRecently (stores : device.StoresBySaving) : Calm device.usedRecently :=
  fun context saved => (stores.steady context saved).usedRecently

/-- What a suspend does after the save is calm. -/
theorem savings_suspendActive (stores : device.StoresBySaving) (action : Action)
    (start : Machine σ) :
    (device.suspendActive action start).savings = (device.save start).savings := by
  have concludes (paused : UInt32) (result : Except Error Unit) :
      Calm (device.concludeSuspend paused result) := fun context saved =>
    (stores.steady context saved).concludeSuspend (by decide)
      (keeps_update fun _ _ holds => holds) paused fun _ _ => trivial
  have quiets : Calm (device.quiesce action) := fun context saved =>
    (stores.steady context saved).quiesce action (by decide) (by decide) (by decide) trivial
  have pauses : Calm device.pauseChannels := fun context saved =>
    (stores.steady context saved).pauseChannels
  rw [suspendActive]
  refine (savings_bind_of_calm ?_ start).trans (savings_bind_of_calm (fun _ => pauses) start)
  intro prepared context saved
  cases prepared with
  | ok paused =>
      exact (quiets context saved).attempt_bind fun result _ =>
        concludes paused result context saved
  | error error => exact concludes 0 (.error error) context saved

end StoresBySaving

/-! ## Requests -/

variable (device)

/-- The machine in which putting the device to sleep saves, if it does. -/
def sleepSave (machine : Machine σ) : Option (Machine σ) :=
  if device.driver.flags.systemContext then some machine
  else if device.driver.flags.runtimePm then (attemptFor .suspend machine).map Prod.snd
  else none

/-- The machine in which a request comes to a save, if it does: at once, as the first step of an
attempt to suspend, or as the first step of going to sleep with the context. -/
def saveStart : Request → Machine σ → Option (Machine σ)
  | .save, machine => some machine
  | .suspend, machine =>
      if machine.power = .systemSuspended then
        none
      else
        match (device.beforeSleep machine).result with
        | .ok () => device.sleepSave (device.beforeSleep machine).state
        | .error _ => none
  | request, machine => (device.suspendStart request machine).map Prod.snd

/-- What becomes of saving from a save on, or without one. -/
def savingsFrom (machine : Machine σ) : Option (Machine σ) → List Event × Context × Bool
  | some start => (device.save start).savings
  | none => ([], machine.context, machine.contextSaved)

variable {device}

theorem eq_of_sleepSave {machine start : Machine σ}
    (begins : device.sleepSave machine = some start) : start = machine := by
  rw [sleepSave] at begins
  split at begins
  · exact (Option.some.inj begins).symm
  · split at begins
    · exact eq_of_attemptFor begins
    · cases begins

/-- It makes no difference to that where a calm step is counted. -/
theorem Calm.savingsFrom {computation : DeviceM σ α} (calm : Calm computation)
    (machine : Machine σ) (start : Option (Machine σ)) :
    device.savingsFrom (computation machine).state start = device.savingsFrom machine start := by
  obtain ⟨-, context, saved⟩ := Outcome.savings_eq_iff.mp (calm.savings machine)
  cases start with
  | some start => rfl
  | none => exact congrArg₂ (fun context saved => ([], context, saved)) context saved

/-- A step that has nothing to say but that it was carried out. -/
theorem savings_answering (computation : DeviceM σ Unit) (machine : Machine σ) :
    (answering computation machine).savings = (computation machine).savings :=
  savings_bind_of_calm (fun _ _ _ => keeps_pure _) machine

namespace StoresBySaving

theorem savings_runtimeSuspendFor (stores : device.StoresBySaving) (action : Action)
    (machine : Machine σ) :
    (device.runtimeSuspendFor action machine).savings =
      device.savingsFrom machine ((attemptFor action machine).map Prod.snd) := by
  rw [runtimeSuspendFor_apply, attemptFor]
  by_cases active : machine.power = .active
  · simp only [if_pos active]
    exact stores.savings_suspendActive action machine
  · simp only [if_neg active]
    rfl

theorem savings_autosuspend (stores : device.StoresBySaving) (machine : Machine σ) :
    (device.autosuspend machine).savings =
      device.savingsFrom machine (device.saveStart .autosuspend machine) := by
  obtain ⟨recent, looked, -⟩ := device.usedRecently_result machine
  have calm := stores.calm_usedRecently
  rw [autosuspend, calm.savings_bind looked, saveStart, suspendStart, looked, ← calm.savingsFrom]
  cases recent with
  | true => rfl
  | false => exact stores.savings_runtimeSuspendFor .autosuspend _
  all_goals rintro ⟨⟩

/-- What putting the device to sleep does after the save is calm. -/
theorem savings_sleepWithContext (stores : device.StoresBySaving) (start : Machine σ) :
    (device.sleepWithContext start).savings = (device.save start).savings := by
  apply savings_bind_of_calm
  intro _ context saved
  have steady := stores.steady context saved
  exact (steady.pins .suspend).bind fun _ =>
    (steady.gateClocks (by decide)).bind fun _ => keeps_update fun _ _ holds => holds

theorem savings_sleep (stores : device.StoresBySaving) (machine : Machine σ) :
    (device.sleep machine).savings = device.savingsFrom machine (device.sleepSave machine) := by
  rw [sleep, sleepSave]
  cases device.driver.flags.systemContext with
  | true => exact stores.savings_sleepWithContext machine
  | false =>
      cases device.driver.flags.runtimePm with
      | true => exact stores.savings_runtimeSuspendFor .suspend machine
      | false => rfl

theorem savings_suspend (stores : device.StoresBySaving) (machine : Machine σ) :
    (device.suspend machine).savings =
      device.savingsFrom machine (device.saveStart .suspend machine) := by
  by_cases asleep : machine.power = .systemSuspended
  · rw [device.suspend_of_asleep asleep, saveStart, if_pos asleep]
    rfl
  have calm := stores.calm_beforeSleep
  have tells : Calm device.tellAsleep := fun context saved =>
    (keeps_query _).bind fun _ => (stores.steady context saved).news _ (by simp)
  rw [device.suspend_of_awake asleep, saveStart, if_neg asleep]
  cases entered : (device.beforeSleep machine).result with
  | error error =>
      rw [bind_of_error entered]
      exact calm.savings machine
  | ok done =>
      rw [calm.savings_bind entered, savings_bind_of_calm fun _ => tells, stores.savings_sleep,
        calm.savingsFrom]

/-- A request does about saving what the save does to which it comes, and nothing if it comes to
none. A context that exists is not created again. -/
theorem savings_perform (stores : device.StoresBySaving) {request : Request}
    (brings : request.StoresNothing) {machine : Machine σ}
    (created : machine.context.populated = true) :
    (device.perform request machine).savings =
      device.savingsFrom machine (device.saveStart request machine) := by
  have answered {computation : DeviceM σ Unit} (calm : Calm computation) :
      (answering computation machine).savings =
        ([], machine.context, machine.contextSaved) :=
    (savings_answering computation machine).trans (calm.savings machine)
  cases request with
  | save => exact savings_answering device.save machine
  | runtimeSuspend =>
      exact (savings_answering _ _).trans (stores.savings_runtimeSuspendFor .suspend machine)
  | autosuspend => exact (savings_answering _ _).trans (stores.savings_autosuspend machine)
  | suspend => exact (savings_answering _ _).trans (stores.savings_suspend machine)
  | createContext template =>
      have refused : device.newContext template machine.context = .error .contextExists := by
        rw [newContext, if_pos created]
      rw [perform, savings_answering, createContext, query_bind_apply, refused]
      rfl
  | runtimeResume => exact answered stores.calm_runtimeResume
  | resume =>
      exact answered fun context saved =>
        (stores.steady context saved).resume trivial ((stores.steady context saved).wakeFrom
          resumeUses_unsaving (keeps_update fun _ _ holds => holds)
          (stores.calm_runtimeResume context saved))
  | restore =>
      exact answered fun context saved =>
        (stores.steady context saved).restore (by decide) (by decide) trivial
  | maskInterrupts =>
      exact answered fun context saved => (stores.steady context saved).maskInterrupts (by decide)
  | unmaskInterrupts =>
      exact answered fun context saved => (stores.steady context saved).unmaskInterrupts (by decide)
  | gateClocks =>
      exact answered fun context saved => (stores.steady context saved).gateClocks (by decide)
  | ungateClocks =>
      exact answered fun context saved => (stores.steady context saved).ungateClocks (by decide)
  | markBusy => exact answered fun context saved => (stores.steady context saved).markBusy
  | selectPins action =>
      exact answered fun context saved => (stores.steady context saved).pins action
  | readRegister offset =>
      have calm : Calm (device.readRegister offset) := fun context saved =>
        Upkeep.keeps_working (fun _ => rfl) fun _ holds =>
          Port.keeps_read (fun _ holds => holds) trivial
      exact (savings_bind_of_calm (fun _ _ _ => keeps_pure _) machine).trans (calm.savings machine)
  | writeRegister offset value =>
      exact answered fun context saved =>
        Upkeep.keeps_working (fun _ => rfl) fun _ holds =>
          Port.keeps_write (fun _ holds => holds) trivial
  | runTable table =>
      exact answered fun context saved =>
        Upkeep.keeps_working (fun _ => rfl) fun machine _ =>
          Table.StoresNothing.keeps_context brings device.port context
            (machine.contextSaved = saved)

/-- What a request does before it comes to a save is calm. -/
theorem saveStart_context (stores : device.StoresBySaving) {request : Request}
    {machine start : Machine σ} (begins : device.saveStart request machine = some start) :
    start.context = machine.context ∧ start.contextSaved = machine.contextSaved := by
  have after {τ : Type} {computation : DeviceM σ τ} (calm : Calm computation) :
      (computation machine).state.context = machine.context ∧
        (computation machine).state.contextSaved = machine.contextSaved :=
    (Outcome.savings_eq_iff.mp (calm.savings machine)).2
  cases request with
  | save =>
      cases begins
      exact ⟨rfl, rfl⟩
  | runtimeSuspend =>
      obtain rfl := eq_of_attemptFor begins
      exact ⟨rfl, rfl⟩
  | autosuspend =>
      rw [saveStart, suspendStart] at begins
      · split at begins
        · obtain rfl := eq_of_attemptFor begins
          exact after stores.calm_usedRecently
        · cases begins
      all_goals rintro ⟨⟩
  | suspend =>
      rw [saveStart] at begins
      split at begins
      · cases begins
      · split at begins
        · obtain rfl := eq_of_sleepSave begins
          exact after stores.calm_beforeSleep
        · cases begins
  | _ => cases begins

end StoresBySaving

/-! ## Saving -/

/-- A save of a context that is saved once and was saved does nothing. -/
theorem savings_save_of_saved (once : device.driver.flags.saveOnce = true) {start : Machine σ}
    (saved : start.contextSaved = true) :
    (device.save start).savings = ([], start.context, true) := by
  rw [save, query_bind_apply, once, saved]
  exact congrArg (fun saved => ([], start.context, saved)) saved

/-- Before that, a save is a run of the whole save table, and the context counts as saved if the run
succeeds. -/
theorem savings_save_of_unsaved {start : Machine σ} (unsaved : start.contextSaved = false) :
    let run := device.runDriverTable .save start
    (device.save start).savings = (run.events, run.state.context, run.result.isOk) := by
  have whole : (device.runDriverTable .save start).savings =
      ((device.runDriverTable .save start).events,
        (device.runDriverTable .save start).state.context, false) := by
    refine Outcome.savings_eq_iff.mpr ⟨List.filter_eq_self.mpr ?_, rfl, unsaved⟩
    intro event member
    simp only [runDriverTable_apply, List.mem_append, List.mem_map, List.mem_singleton] at member
    rcases member with ⟨activity, -, rfl⟩ | rfl <;> rfl
  rw [save, query_bind_apply, unsaved, Bool.and_false]
  cases ended : (device.runDriverTable .save start).result with
  | error error =>
      intro run
      have failed : run.result.isOk = false := by rw [ended]; rfl
      rw [if_neg (by decide), bind_of_error ended, failed]
      exact whole
  | ok done =>
      intro run
      have succeeded : run.result.isOk = true := by rw [ended]; rfl
      rw [if_neg (by decide), savings_bind ended, whole, succeeded]
      simp [Outcome.savings, run]

/-- The context counts as saved if it did before, or if a run of the save table succeeded. -/
def SavedBy (before : Bool) (savings : List Event × Context × Bool) : Prop :=
  savings.2.2 = true ↔ before = true ∨ .tableEnded .save (.ok ()) ∈ savings.1

theorem tableEnded_ok_mem_iff {kind : TableKind} {machine : Machine σ} :
    .tableEnded kind (.ok ()) ∈ (device.runDriverTable kind machine).events ↔
      (device.runDriverTable kind machine).result.isOk = true := by
  cases ended : ((device.driver.tables kind).run device.port machine.toWorkspace).result with
  | ok done => simp [runDriverTable_apply, ended, Except.isOk, Except.toBool]
  | error error => simp [runDriverTable_apply, ended, Except.isOk, Except.toBool]

theorem savedBy_save (once : device.driver.flags.saveOnce = true) (start : Machine σ) :
    SavedBy start.contextSaved (device.save start).savings := by
  cases saved : start.contextSaved with
  | true => simp [savings_save_of_saved once saved, SavedBy]
  | false => simp [savings_save_of_unsaved saved, SavedBy, tableEnded_ok_mem_iff]

namespace StoresBySaving

variable {machine : Machine σ}

/-- A request that comes to a save which does nothing does nothing about saving either. -/
theorem savings_perform_of_saved (stores : device.StoresBySaving)
    (once : device.driver.flags.saveOnce = true) {request : Request}
    (brings : request.StoresNothing) (created : machine.context.populated = true)
    (saved : machine.contextSaved = true) :
    (device.perform request machine).savings = ([], machine.context, true) := by
  rw [stores.savings_perform brings created]
  cases begins : device.saveStart request machine with
  | none => rw [savingsFrom, saved]
  | some start =>
      obtain ⟨context, marked⟩ := stores.saveStart_context begins
      rw [savingsFrom, savings_save_of_saved once (marked.trans saved), context]

theorem savedBy_perform (stores : device.StoresBySaving)
    (once : device.driver.flags.saveOnce = true) {request : Request}
    (brings : request.StoresNothing) (created : machine.context.populated = true) :
    SavedBy machine.contextSaved (device.perform request machine).savings := by
  rw [stores.savings_perform brings created]
  cases begins : device.saveStart request machine with
  | none => simp [savingsFrom, SavedBy]
  | some start =>
      rw [← (stores.saveStart_context begins).2]
      exact savedBy_save once start

end StoresBySaving

/-! ## Histories -/

/-- Being asked for a request is all that matters about what happens. -/
theorem savings_undergo_asked (request : Request) (machine : Machine σ) :
    (device.undergo (.asked request) machine).savings = (device.perform request machine).savings :=
  savings_bind_of_calm (fun _ _ _ => keeps_pure _) machine

namespace StoresBySaving

variable {machine : Machine σ} {happenings : List (Happening σ)}

theorem savings_undergo_of_saved (stores : device.StoresBySaving)
    (once : device.driver.flags.saveOnce = true) {happening : Happening σ}
    (brings : happening.StoresNothing) (created : machine.context.populated = true)
    (saved : machine.contextSaved = true) :
    (device.undergo happening machine).savings = ([], machine.context, true) := by
  cases happening with
  | asked request =>
      rw [savings_undergo_asked]
      exact stores.savings_perform_of_saved once brings created saved
  | _ => exact congrArg (fun saved => ([], machine.context, saved)) saved

/-- From the first run on that succeeded, a history runs no save table and keeps the context. -/
theorem savings_history_of_saved (stores : device.StoresBySaving)
    (once : device.driver.flags.saveOnce = true)
    (brings : ∀ happening ∈ happenings, happening.StoresNothing)
    (created : machine.context.populated = true) (saved : machine.contextSaved = true) :
    (device.history happenings machine).savings = ([], machine.context, true) := by
  induction happenings generalizing machine with
  | nil => exact congrArg (fun saved => ([], machine.context, saved)) saved
  | cons happening rest ih =>
      have first := stores.savings_undergo_of_saved once (brings happening (by simp)) created saved
      obtain ⟨-, context, still⟩ := Outcome.savings_eq_iff.mp first
      have later := ih (fun other member => brings other (by simp [member]))
        (populated_undergo stores.keepContext happening created) still
      rw [history, savings_bind (device.undergo_succeeds happening machine), first, later, context]
      rfl

theorem savedBy_undergo (stores : device.StoresBySaving)
    (once : device.driver.flags.saveOnce = true) {happening : Happening σ}
    (brings : happening.StoresNothing) (created : machine.context.populated = true) :
    SavedBy machine.contextSaved (device.undergo happening machine).savings := by
  cases happening with
  | asked request =>
      rw [savings_undergo_asked]
      exact stores.savedBy_perform once brings created
  | _ => simp [SavedBy, Outcome.savings, undergo]

theorem savedBy_history (stores : device.StoresBySaving)
    (once : device.driver.flags.saveOnce = true)
    (brings : ∀ happening ∈ happenings, happening.StoresNothing)
    (created : machine.context.populated = true) :
    SavedBy machine.contextSaved (device.history happenings machine).savings := by
  induction happenings generalizing machine with
  | nil => simp [SavedBy, Outcome.savings, history]
  | cons happening rest ih =>
      have first := stores.savedBy_undergo once (brings happening (by simp)) created
      have later := ih (fun other member => brings other (by simp [member]))
        (populated_undergo stores.keepContext happening created)
      rw [history, savings_bind (device.undergo_succeeds happening machine)]
      simp only [SavedBy, List.mem_append] at first later ⊢
      rw [later, ← or_assoc, ← first]
      rfl

end StoresBySaving

/-- A driver that saves once, and stores words in the context by saving only, captures the registers
once. As long as no run of the save table has succeeded, every request that comes to a save runs the
whole table from its start, with the context as the runs before have left it, and the context counts
as saved if that run succeeds. A request that comes to none leaves all of this alone. From the first
run on that succeeds, whatever happens runs the save table no more, and the context stays what that
run has made of it. -/
theorem save_once_freezes (device : Device σ) (once : device.driver.flags.saveOnce = true)
    (stores : device.StoresBySaving) {machine : Machine σ}
    (created : machine.context.populated = true) {earlier : List (Happening σ)}
    (brings : ∀ happening ∈ earlier, happening.StoresNothing) :
    let before := device.history earlier machine
    (before.state.contextSaved = true ↔
      machine.contextSaved = true ∨ .tableEnded .save (.ok ()) ∈ before.events) ∧
    (before.state.contextSaved = false → ∀ request : Request, request.StoresNothing →
      let after := device.perform request before.state
      match device.saveStart request before.state with
      | some start =>
          let run := device.runDriverTable .save start
          start.context = before.state.context ∧
            after.savings = (run.events, run.state.context, run.result.isOk)
      | none => after.savings = ([], before.state.context, false)) ∧
    (before.state.contextSaved = true → ∀ later : List (Happening σ),
      (∀ happening ∈ later, happening.StoresNothing) →
        (device.history later before.state).savings = ([], before.state.context, true)) := by
  intro before
  have existing : before.state.context.populated = true :=
    populated_history stores.keepContext earlier created
  refine ⟨?_, ?_, ?_⟩
  · exact (stores.savedBy_history once brings created).trans
      (or_congr_right (Outcome.mem_savings_iff rfl))
  · intro unsaved request plain after
    have performed := stores.savings_perform plain existing
    cases begins : device.saveStart request before.state with
    | none =>
        rw [begins] at performed
        rw [← unsaved]
        exact performed
    | some start =>
        obtain ⟨context, marked⟩ := stores.saveStart_context begins
        rw [begins] at performed
        exact ⟨context, performed.trans (savings_save_of_unsaved (marked.trans unsaved))⟩
  · intro saved later plain
    exact stores.savings_history_of_saved once plain existing saved

end Device

namespace Bench.Cells

/-- The serial port in plain memory, with its registers saved once. -/
def capturing : Device Cells :=
  { port with driver := { port.driver with flags := { port.driver.flags with saveOnce := true } } }

theorem capturing_stores : capturing.StoresBySaving where
  tables kind := by cases kind <;> decide
  hooks stage hook present hardware := by
    cases stage <;> cases present
    trivial

/-- The port with its context created. The second access to it is dropped. -/
def faltering : Machine Cells :=
  (capturing.createContext Uart.template
    (.initial { filled with dropped := [false, true] } [0, 0, 0, 0])).state

/-- The port is started, and saved in vain. -/
def beforeCapture : List (Happening Cells) :=
  [.asked .runtimeResume, .asked .save]

/-- The registers are lost, and restored at the second attempt. One of them is written, and the port
is saved again and suspended. -/
def afterCapture : List (Happening Cells) :=
  [.changed erased, .asked .resume, .asked .resume, .asked (.writeRegister 4 9), .asked .save,
    .asked .runtimeSuspend]

/-- The first run of the save table captures one register and fails. The next run is part of a
system suspend and starts from the beginning; it captures both. Nothing that happens later changes
that, not even when a register holds another word. -/
theorem captures_once :
    let failed := capturing.history beforeCapture faltering
    let slept := capturing.perform .suspend failed.state
    let later := capturing.history afterCapture slept.state
    failed.state.context.values = [1, 0, 0, 5] ∧
      (∃ start, capturing.saveStart .suspend failed.state = some start ∧
        slept.savings.1 = (capturing.runDriverTable .save start).events) ∧
      slept.savings.1.filterMap Event.asked =
        [(.table .save, .read 0 (.ok 1)), (.table .save, .read 4 (.ok 26))] ∧
      slept.state.context.values = [1, 26, 0, 5] ∧
      later.savings = ([], slept.state.context, true) ∧ later.state.hardware.word 4 = 9 := by
  intro failed slept later
  have started : ∀ happening ∈ beforeCapture, happening.StoresNothing := by
    simp [beforeCapture, Happening.StoresNothing, Request.StoresNothing]
  have goesOn : ∀ happening ∈ afterCapture, happening.StoresNothing := by
    simp [afterCapture, Happening.StoresNothing, Request.StoresNothing]
  have created : faltering.context.populated = true := by decide +kernel
  have unsaved : failed.state.contextSaved = false := by decide +kernel
  obtain ⟨-, attempts, -⟩ := Device.save_once_freezes capturing rfl capturing_stores created started
  have comes : (capturing.saveStart .suspend failed.state).isSome = true := by decide +kernel
  obtain ⟨start, begins⟩ := Option.isSome_iff_exists.mp comes
  obtain ⟨-, captured⟩ := begins ▸ attempts unsaved .suspend trivial
  have stored : slept.state.context.populated = true := by decide +kernel
  have saved : slept.state.contextSaved = true := by decide +kernel
  obtain ⟨-, -, freezes⟩ := Device.save_once_freezes capturing rfl capturing_stores stored
    (List.forall_mem_nil _)
  simp only [Device.history, pure_apply] at freezes
  have frozen : later.savings = ([], slept.state.context, true) := freezes saved _ goesOn
  have partly : failed.state.context.values = [1, 0, 0, 5] := by decide +kernel
  have accesses : slept.savings.1.filterMap Event.asked =
      [(.table .save, .read 0 (.ok 1)), (.table .save, .read 4 (.ok 26))] := by decide +kernel
  have wholly : slept.state.context.values = [1, 26, 0, 5] := by decide +kernel
  have written : later.state.hardware.word 4 = 9 := by decide +kernel
  exact ⟨partly, ⟨start, begins, congrArg Prod.fst captured⟩, accesses, wholly, frozen, written⟩

end Bench.Cells

end DevicePower
