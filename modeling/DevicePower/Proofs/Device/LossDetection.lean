import DevicePower.Bench.Uart
import DevicePower.Proofs.Device.Bounds
import DevicePower.Proofs.Device.Phases
import DevicePower.Proofs.Device.Records
import DevicePower.Proofs.Device.Validation
import DevicePower.Proofs.Table.Comparison
import Mathlib.Logic.Function.Iterate

/-!
# How lost registers are detected

A device that looks for lost registers compares some of them with the context before it restores
any. The first register that decides ends the comparison: one that cannot be read is an error, and
nothing is restored; one that differs from its slot is a loss, which is counted before the restore
begins, so that the count stands even if the restore fails. If all registers agree, they are left
as they are.

Restore steps are part of several transitions. `restoreStart` says for every request whether it
comes to one, and in which machine. That makes the count of losses a sum over a history: one for
every restore step whose comparison finds a difference, and nothing for anything else.
-/

namespace DevicePower

open DeviceM TableM Traced

variable {σ : Type}

namespace Device

/-! ## The number of losses -/

/-- The machine as the restore step of a runtime resume meets it, if the resume has one. -/
def resumeStart (machine : Machine σ) : Option (Machine σ) :=
  if machine.firstResumeDone = true ∧ machine.power ≠ .active then some machine else none

variable (device : Device σ)

/-- The machine as the restore step meets it that comes after the clocks were ungated, if they
can be. -/
def ungatedStart (machine : Machine σ) : Option (Machine σ) :=
  match (device.ungateClocks machine).result with
  | .ok () => some (device.ungateClocks machine).state
  | .error _ => none

/-- The machine as the restore step of a request meets it, if the request has one and gets that
far. -/
def restoreStart : Request → Machine σ → Option (Machine σ)
  | .restore, machine => some machine
  | .runtimeResume, machine => resumeStart machine
  | .suspend, machine =>
      if machine.power = .runtimeSuspended then resumeStart machine else none
  | .resume, machine =>
      match machine.power with
      | .active => none
      | .runtimeSuspended => resumeStart machine
      | .systemSuspended => device.ungatedStart machine
  | _, _ => none

/-- One if there is a restore step and its comparison finds a difference, and zero otherwise. -/
def lossesAt : Option (Machine σ) → Nat
  | some start =>
      match (device.lostContext start).result with
      | .ok true => 1
      | _ => 0
  | none => 0

/-- One if what happens comes to a restore step whose comparison finds a difference, and zero
otherwise. -/
def lossesBy : Happening σ → Machine σ → Nat
  | .asked request, machine => device.lossesAt (device.restoreStart request machine)
  | _, _ => 0

/-- The number of restore steps in a history whose comparison finds a difference. -/
def lossesFound : List (Happening σ) → Machine σ → Nat
  | [], _ => 0
  | happening :: rest, machine =>
      device.lossesBy happening machine +
        lossesFound rest (device.undergo happening machine).state

theorem apart_contextLosses : Machine.Apart (Machine.contextLosses (σ := σ)) where
  workspace _ _ := rfl
  held _ _ := rfl
  tracked _ _ := rfl
  saved _ := rfl
  entered _ _ := rfl
  started _ := rfl

theorem toNat_iterate_countLoss (count : Nat) (losses : UInt32) :
    (countLoss^[count] losses).toNat = min (losses.toNat + count) (2 ^ 32 - 1) := by
  induction count generalizing losses with
  | zero =>
      have bound := losses.toNat_lt
      simp only [Function.iterate_zero, id_eq]
      omega
  | succ count ih =>
      rw [Function.iterate_succ_apply, ih, toNat_countLoss]
      omega

/-- Writing the context back does not count losses. -/
theorem contextLosses_writeBack (machine : Machine σ) :
    (device.writeBack machine).state.contextLosses = machine.contextLosses := by
  have kept (losses : UInt32) :
      Keeps (Machine.Shows Machine.contextLosses losses) (fun _ => True) device.writeBack :=
    (apart_contextLosses.keeps_runDriverTable device .restore).bind fun _ =>
      apart_contextLosses.keeps_callback device .restore
  exact Keeps.shown kept machine

/-- A restore counts a loss if its comparison finds a difference, however it goes on. -/
theorem contextLosses_restore (checks : device.driver.flags.checkContextLoss = true)
    (machine : Machine σ) :
    (device.restore machine).state.contextLosses =
      countLoss^[device.lossesAt (some machine)] machine.contextLosses := by
  have compared := Keeps.shown (fun _ => apart_contextLosses.keeps_lostContext device) machine
  rw [restore, if_pos checks, lossesAt]
  cases result : (device.lostContext machine).result with
  | error error =>
      rw [bind_of_error result]
      exact compared
  | ok lost =>
      rw [bind_of_ok result]
      cases lost with
      | false => exact compared
      | true => exact (device.contextLosses_writeBack _).trans (congrArg countLoss compared)

/-- A runtime resume counts what its restore step counts. -/
theorem contextLosses_runtimeResume (checks : device.driver.flags.checkContextLoss = true)
    (machine : Machine σ) :
    (device.runtimeResume machine).state.contextLosses =
      countLoss^[device.lossesAt (resumeStart machine)] machine.contextLosses := by
  rw [runtimeResume, query_bind_apply]
  split
  next done =>
    split
    next active =>
      have idle : resumeStart machine = none := if_neg fun both => both.2 active
      rw [idle]
      rfl
    next inactive =>
      have starts : resumeStart machine = some machine := if_pos ⟨done, inactive⟩
      have concluded := Keeps.shown fun _ =>
        apart_contextLosses.keeps_concludeResume device (device.wakeUp machine).result
      have broughtUp := Keeps.shown fun _ => apart_contextLosses.keeps_bringUp device
      -- The restore comes first, and nothing that comes after it counts.
      rw [starts, ← device.contextLosses_restore checks, attempt_bind_apply, concluded, wakeUp_eq]
      exact bind_unseen (fun _ => broughtUp) machine
  next fresh =>
    have first : resumeStart machine = none := if_neg fun both => fresh both.1
    rw [first]
    exact Keeps.shown (fun _ => apart_contextLosses.keeps_firstResume device) machine

theorem used_contextLosses (machine : Machine σ) (lastBusy : Option UInt32) :
    { machine with lastBusy }.contextLosses = machine.contextLosses := rfl

/-- A device that goes to sleep counts what waking it up before counts. -/
theorem contextLosses_suspend (checks : device.driver.flags.checkContextLoss = true)
    (machine : Machine σ) :
    (device.suspend machine).state.contextLosses =
      countLoss^[device.lossesAt (device.restoreStart .suspend machine)] machine.contextLosses := by
  have slept (losses : UInt32) :
      Keeps (Machine.Shows Machine.contextLosses losses) (fun _ => True) device.fallAsleep :=
    (apart_contextLosses.keeps_callback device .suspend).bind fun _ =>
      (apart_contextLosses.keeps_sleep device used_contextLosses).bind fun _ =>
        (keeps_query _).bind fun _ => Machine.keeps_report _
  have awake : (device.wakeBeforeSleep machine).state.contextLosses =
      countLoss^[device.lossesAt (device.restoreStart .suspend machine)] machine.contextLosses := by
    rw [wakeBeforeSleep, query_bind_apply, restoreStart]
    split
    next suspended => exact device.contextLosses_runtimeResume checks machine
    next other => rfl
  rw [suspend, query_bind_apply]
  split
  next asleep =>
    have resting : device.restoreStart .suspend machine = none := if_neg (by rw [asleep]; decide)
    rw [resting]
    rfl
  next other =>
    rw [← awake]
    exact bind_unseen (fun _ => Keeps.shown slept) machine

/-- The restore step of a device that wakes up with its context comes after the clocks. -/
theorem contextLosses_wakeWithContext (checks : device.driver.flags.checkContextLoss = true)
    (machine : Machine σ) :
    (device.wakeWithContext machine).state.contextLosses =
      countLoss^[device.lossesAt (device.ungatedStart machine)] machine.contextLosses := by
  have ungated := Keeps.shown (fun _ => apart_contextLosses.keeps_ungateClocks device) machine
  have risen (losses : UInt32) :
      Keeps (Machine.Shows Machine.contextLosses losses) (fun _ => True)
        (do device.selectPins .resume; enter .active : DeviceM σ Unit) :=
    (apart_contextLosses.keeps_selectPins device .resume).bind fun _ =>
      apart_contextLosses.keeps_enter .active
  rw [wakeWithContext, ungatedStart]
  cases result : (device.ungateClocks machine).result with
  | error error =>
      rw [bind_of_error result]
      exact ungated
  | ok done =>
      rw [bind_of_ok result, ← ungated, ← device.contextLosses_restore checks]
      exact bind_unseen (fun _ => Keeps.shown risen) _

/-- A system resume counts what its restore step counts. -/
theorem contextLosses_resume (checks : device.driver.flags.checkContextLoss = true)
    (machine : Machine σ) :
    (device.resume machine).state.contextLosses =
      countLoss^[device.lossesAt (device.restoreStart .resume machine)] machine.contextLosses := by
  have called (losses : UInt32) :
      Keeps (Machine.Shows Machine.contextLosses losses) (fun _ => True) (do
        device.callback .resume
        device.markBusy
        device.tell .resumed) :=
    (apart_contextLosses.keeps_callback device .resume).bind fun _ =>
      (apart_contextLosses.keeps_markBusy device used_contextLosses).bind fun _ =>
        Machine.keeps_report _
  have woken : (device.wakeFrom machine.power machine).state.contextLosses =
      countLoss^[device.lossesAt (device.restoreStart .resume machine)] machine.contextLosses := by
    cases power : machine.power with
    | active => simp only [restoreStart, power]; rfl
    | runtimeSuspended =>
        simp only [restoreStart, power]
        exact device.contextLosses_runtimeResume checks machine
    | systemSuspended =>
        simp only [restoreStart, power]
        exact device.contextLosses_wakeWithContext checks machine
  rw [resume, query_bind_apply, ← woken]
  exact bind_unseen (fun _ => Keeps.shown called) machine

/-- A request counts what its restore step counts, and nothing else. -/
theorem contextLosses_perform (checks : device.driver.flags.checkContextLoss = true)
    (request : Request) (machine : Machine σ) :
    (device.perform request machine).state.contextLosses =
      countLoss^[device.lossesAt (device.restoreStart request machine)] machine.contextLosses := by
  have answered (computation : DeviceM σ Unit) :
      (answering computation machine).state.contextLosses =
        (computation machine).state.contextLosses :=
    bind_unseen (fun _ _ => rfl) machine
  have plain (other : request.restores = false) :
      (device.perform request machine).state.contextLosses = machine.contextLosses :=
    Keeps.shown (fun _ => apart_contextLosses.keeps_perform device used_contextLosses other) machine
  cases request with
  | restore => exact (answered _).trans (device.contextLosses_restore checks machine)
  | runtimeResume => exact (answered _).trans (device.contextLosses_runtimeResume checks machine)
  | suspend => exact (answered _).trans (device.contextLosses_suspend checks machine)
  | resume => exact (answered _).trans (device.contextLosses_resume checks machine)
  | _ => exact plain rfl

/-- Whatever happens, what is counted is the restore steps that find a loss. -/
theorem contextLosses_undergo (checks : device.driver.flags.checkContextLoss = true)
    (happening : Happening σ) (machine : Machine σ) :
    (device.undergo happening machine).state.contextLosses =
      countLoss^[device.lossesBy happening machine] machine.contextLosses := by
  cases happening with
  | asked request => exact device.contextLosses_perform checks request machine
  | changed hardware => rfl
  | handler holds => rfl

theorem contextLosses_history (checks : device.driver.flags.checkContextLoss = true)
    (happenings : List (Happening σ)) (machine : Machine σ) :
    (device.history happenings machine).state.contextLosses =
      countLoss^[device.lossesFound happenings machine] machine.contextLosses := by
  induction happenings generalizing machine with
  | nil => rfl
  | cons happening rest ih =>
      rw [history, bind_of_ok (device.undergo_succeeds happening machine), ih,
        device.contextLosses_undergo checks, ← Function.iterate_add_apply, lossesFound,
        Nat.add_comm]

/-! ## One restore step -/

/-- The events tell of these reads of a comparison. No other access is made, and no clock, no pin
and no callback is involved. -/
structure Compares (events : List Event) (reads : List Access) : Prop where
  asked_eq : events.filterMap Event.asked =
    reads.map fun dealing => (.table .contextCheck, dealing)
  discreet : ∀ event ∈ events, event.interferes = false

/-- The machine after the registers of a table were read, one after the other. -/
def afterReading (table : Table) (machine : Machine σ) : Machine σ :=
  { machine with hardware := table.readThrough device.transport machine.hardware }

/-- Every register that is compared has the value of its slot. -/
def FindsIntact (machine : Machine σ) : Prop :=
  (device.driver.tables .contextCheck).Intact device.transport machine.context machine.hardware

/-- The comparison comes to the entry, after the entries before, and cannot read its register. -/
def FindsUnreadable (machine : Machine σ) (before : Table) (entry : Entry) : Prop :=
  (device.driver.tables .contextCheck).Reaches device.transport machine.context machine.hardware
    before entry ∧
    entry.Unreadable device.transport (device.afterReading before machine).hardware

/-- The comparison comes to the entry, after the entries before, and its register differs from its
slot. -/
def FindsDrifted (machine : Machine σ) (before : Table) (entry : Entry) : Prop :=
  (device.driver.tables .contextCheck).Reaches device.transport machine.context machine.hardware
    before entry ∧
    entry.Drifted device.transport machine.context (device.afterReading before machine).hardware

/-- What a restore does that looks for lost registers first. The registers that are compared are
read in order, up to the first that cannot be read or that differs from its slot. If there is
none, nothing else is done. If one cannot be read, this is the error, and nothing else is done
either. If one differs, a loss is counted and the context is written back; that the loss was
counted stands even if this fails. -/
structure DetectsLoss (machine : Machine σ) : Prop where
  decided : device.FindsIntact machine ∨ ∃ before entry,
    device.FindsUnreadable machine before entry ∨ device.FindsDrifted machine before entry
  intact : device.FindsIntact machine →
    let check := device.driver.tables .contextCheck
    ∃ events, Compares events (check.readings device.transport machine.hardware) ∧
      device.restore machine = ⟨.ok (), events, device.afterReading check machine⟩
  unreadable : ∀ before entry, device.FindsUnreadable machine before entry →
    ∃ events,
      Compares events (Table.readings device.transport (before ++ [entry]) machine.hardware) ∧
      device.restore machine = ⟨.error (.registerAccess entry.offset), events,
        device.afterReading (before ++ [entry]) machine⟩
  lost : ∀ before entry, device.FindsDrifted machine before entry →
    let counted := { device.afterReading (before ++ [entry]) machine with
      contextLosses := countLoss machine.contextLosses }
    let table := device.runDriverTable .restore counted
    let callback := device.callback .restore table.state
    (∃ events,
      Compares events (Table.readings device.transport (before ++ [entry]) machine.hardware) ∧
      device.restore machine =
        match table.result with
        | .ok () => ⟨callback.result, events ++ (table.events ++ callback.events), callback.state⟩
        | .error error => ⟨.error error, events ++ table.events, table.state⟩) ∧
    (device.restore machine).state.contextLosses = countLoss machine.contextLosses ∧
    (countLoss machine.contextLosses).toNat = min (machine.contextLosses.toNat + 1) (2 ^ 32 - 1)

variable {device} {machine : Machine σ}

/-- A comparison does to the device what reading the registers does. -/
theorem lostContext_of_examines {part : Table} {result : Except Error Bool}
    (examines : (device.driver.tables .contextCheck).Examines device.port part
      machine.toWorkspace result) :
    ∃ events, Compares events (part.readings device.transport machine.hardware) ∧
      device.lostContext machine = ⟨result, events, device.afterReading part machine⟩ := by
  simp only [device.lostContext_apply, examines.result_eq, examines.state_eq]
  refine ⟨_, ⟨?_, ?_⟩, rfl⟩
  · rw [List.filterMap_append, asked_activities, examines.asked_eq]
    simp [Event.asked, port]
  · refine List.forall_mem_append.mpr ⟨(accounts_activities _ _).discreet, ?_⟩
    simp [Event.interferes]

theorem restore_of_intact (checks : device.driver.flags.checkContextLoss = true)
    (intact : device.FindsIntact machine) :
    let check := device.driver.tables .contextCheck
    ∃ events, Compares events (check.readings device.transport machine.hardware) ∧
      device.restore machine = ⟨.ok (), events, device.afterReading check machine⟩ := by
  have examines : (device.driver.tables .contextCheck).Examines device.port
      (device.driver.tables .contextCheck) machine.toWorkspace (.ok false) :=
    Table.examines_of_intact intact
  obtain ⟨events, compares, looked⟩ := lostContext_of_examines examines
  refine ⟨events, compares, ?_⟩
  have kept : (device.lostContext machine).result = .ok false := by rw [looked]
  rw [restore, if_pos checks, bind_of_ok kept, looked]
  simp

theorem restore_of_unreadable (checks : device.driver.flags.checkContextLoss = true)
    {before : Table} {entry : Entry} (found : device.FindsUnreadable machine before entry) :
    ∃ events,
      Compares events (Table.readings device.transport (before ++ [entry]) machine.hardware) ∧
      device.restore machine = ⟨.error (.registerAccess entry.offset), events,
        device.afterReading (before ++ [entry]) machine⟩ := by
  have examines : (device.driver.tables .contextCheck).Examines device.port (before ++ [entry])
      machine.toWorkspace (.error (.registerAccess entry.offset)) :=
    found.1.examines fun rest => Table.examines_of_unreadable rest found.2
  obtain ⟨events, compares, looked⟩ := lostContext_of_examines examines
  refine ⟨events, compares, ?_⟩
  have failed : (device.lostContext machine).result = .error (.registerAccess entry.offset) := by
    rw [looked]
  rw [restore, if_pos checks, bind_of_error failed, looked]

theorem restore_of_drifted (checks : device.driver.flags.checkContextLoss = true)
    {before : Table} {entry : Entry} (found : device.FindsDrifted machine before entry) :
    let counted := { device.afterReading (before ++ [entry]) machine with
      contextLosses := countLoss machine.contextLosses }
    ∃ events,
      Compares events (Table.readings device.transport (before ++ [entry]) machine.hardware) ∧
      device.restore machine =
        ⟨(device.writeBack counted).result, events ++ (device.writeBack counted).events,
          (device.writeBack counted).state⟩ := by
  have examines : (device.driver.tables .contextCheck).Examines device.port (before ++ [entry])
      machine.toWorkspace (.ok true) :=
    found.1.examines fun rest => Table.examines_of_drifted rest found.2
  obtain ⟨events, compares, looked⟩ := lostContext_of_examines examines
  intro counted
  have lost : (device.lostContext machine).result = .ok true := by rw [looked]
  refine ⟨events ++ [.note (.device device.name (.contextLost counted.contextLosses))], ?_, ?_⟩
  · constructor
    · rw [List.filterMap_append, compares.asked_eq]
      simp [Event.asked]
    · refine List.forall_mem_append.mpr ⟨compares.discreet, ?_⟩
      simp [Event.interferes]
  · rw [restore, if_pos checks, bind_of_ok lost, looked, List.append_assoc]
    rfl

/-- A device that looks for lost registers does so in a context that has the slots which the
device was checked against. -/
theorem Checked.detectsLoss {length : Nat} (checked : device.Checked length)
    (checks : device.driver.flags.checkContextLoss = true)
    (slots : machine.context.HasSlots length) : device.DetectsLoss machine where
  decided := by
    have found := Table.intact_or_reaches device.transport machine.hardware fun entry member =>
      slots.get_succeeds (checked.compares entry member)
    rcases found with intact | ⟨before, entry, reaches, unreadable | drifted⟩
    · exact .inl intact
    · exact .inr ⟨before, entry, .inl ⟨reaches, unreadable⟩⟩
    · exact .inr ⟨before, entry, .inr ⟨reaches, drifted⟩⟩
  intact := restore_of_intact checks
  unreadable _ _ := restore_of_unreadable checks
  lost before entry found := by
    intro counted table callback
    obtain ⟨events, compares, restored⟩ := restore_of_drifted checks found
    refine ⟨⟨events, compares, ?_⟩, ?_, toNat_countLoss machine.contextLosses⟩
    · rw [restored, writeBack]
      cases ended : (device.runDriverTable .restore counted).result with
      | error error => rw [bind_of_error ended]
      | ok done => rw [bind_of_ok ended]
    · rw [restored]
      exact device.contextLosses_writeBack counted

/-- A device whose context was created and that looks for lost registers finds the first that is
lost, and counts the losses: whatever happens to it, the count is the number of restore steps that
found a register lost, as far as it goes. -/
theorem created_detects_loss (device : Device σ)
    (checks : device.driver.flags.checkContextLoss = true) {template : List UInt32}
    {fresh : Machine σ} (created : (device.createContext template fresh).result = .ok ()) :
    (∀ machine : Machine σ, machine.context.HasSlots template.length →
      device.DetectsLoss machine) ∧
    ∀ hardware storage happenings,
      (device.history happenings (.initial hardware storage)).state.contextLosses.toNat =
        min (device.lossesFound happenings (.initial hardware storage)) (2 ^ 32 - 1) := by
  constructor
  · intro machine slots
    exact (createContext_eq_ok created).1.detectsLoss checks slots
  · intro hardware storage happenings
    have fresh : (Machine.initial hardware storage).contextLosses.toNat = 0 := rfl
    rw [device.contextLosses_history checks, toNat_iterate_countLoss, fresh, Nat.zero_add]

/-- The serial port finds that its registers differ from the template, restores them, and finds
nothing the next time. -/
theorem uart_detects_loss :
    let initial := Machine.initial Bench.Uart.board [0, 0, 0, 0]
    let happenings :=
      [.asked (.createContext Bench.Uart.template), .asked .restore, .asked .restore]
    (Bench.Uart.device.createContext Bench.Uart.template initial).result = .ok () ∧
      Bench.Uart.device.DetectsLoss Bench.Uart.created ∧
      (Bench.Uart.device.history happenings initial).state.contextLosses.toNat = 1 := by
  intro initial happenings
  have created : (Bench.Uart.device.createContext Bench.Uart.template initial).result = .ok () :=
    rfl
  obtain ⟨detects, counts⟩ := created_detects_loss Bench.Uart.device rfl created
  refine ⟨created, detects _ (createContext_eq_ok created).2, ?_⟩
  have found : Bench.Uart.device.lossesFound happenings initial = 1 := by decide
  rw [counts, found]
  rfl

end Device

end DevicePower
