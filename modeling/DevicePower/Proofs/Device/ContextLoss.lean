import DevicePower.Bench.Uart
import DevicePower.Proofs.Device.History
import DevicePower.Proofs.Device.Steps
import DevicePower.Proofs.Device.Upkeep

/-!
# Lost registers and their repair

A device that checks for lost registers compares them with its context and restores them
if one differs. Restoring takes a table and a callback, and either may fail midway. The
next attempt compares again, and only what it finds then decides: registers that agree
with the context are left alone, even if an earlier restore was never finished.

This module follows the loss through a history. What a request reports about restoring is
read off the events that have to do with it; all other steps are silent about it.
-/

namespace DevicePower

open DeviceM Traced

variable {σ α β : Type}

/-- The event is part of a restore, or the comparison that decides about one. -/
def Event.restoring : Event → Bool
  | .activity (.table kind) _ => kind == .restore
  | .activity (.callback stage) _ => stage == .restore
  | .tableEnded kind _ => kind == .restore
  | .compared _ => true
  | .callbackCalled stage _ _ => stage == .restore
  | .stageEnded stage _ => stage == .restore
  | _ => false

/-- The restore table ran to its end, and the stage after it was passed. -/
def RestoreFinished (events : List Event) : Prop :=
  .tableEnded .restore (.ok ()) ∈ events ∧ .stageEnded .restore (.ok ()) ∈ events

/-- No comparison that is reported found a loss. -/
def NoLoss (events : List Event) : Prop :=
  .compared (.ok true) ∉ events

/-- Since registers were last found lost, if ever, they were restored to the end. -/
def Repaired (events : List Event) : Prop :=
  ∀ before after, events = before ++ .compared (.ok true) :: after → NoLoss after →
    RestoreFinished after

/-- What a computation that succeeds reports about restoring: nothing, that there was
nothing to restore, or that a loss was found and everything was restored. -/
inductive RestoreReport : List Event → Prop where
  | silent : RestoreReport []
  | intact : RestoreReport [.compared (.ok false)]
  | finished {steps : List Event} (restored : RestoreFinished steps)
      (once : ∀ result, .compared result ∉ steps) :
      RestoreReport (.compared (.ok true) :: steps)

/-! ## Following the loss -/

/-- What is not part of a restore does not tell whether one is finished. -/
theorem restoreFinished_filter {events : List Event} :
    RestoreFinished (events.filter Event.restoring) ↔ RestoreFinished events := by
  simp [RestoreFinished, Event.restoring]

/-- A request that finds a loss and succeeds has repaired it. -/
theorem repaired_of_finished {past present steps : List Event}
    (reported : present.filter Event.restoring = .compared (.ok true) :: steps)
    (restored : RestoreFinished steps) (once : ∀ result, .compared result ∉ steps) :
    Repaired (past ++ present) := by
  intro before after split noLater
  have lossPresent : .compared (.ok true) ∈ present := by
    have member : .compared (.ok true) ∈ present.filter Event.restoring := by simp [reported]
    exact (List.mem_filter.mp member).1
  rcases List.append_eq_append_iff.mp split with ⟨middle, rfl, rest⟩ | ⟨middle, rfl, rest⟩
  · -- The loss is found by the request itself.
    rw [rest, List.filter_append, List.filter_cons_of_pos rfl] at reported
    rw [← restoreFinished_filter]
    cases earlier : middle.filter Event.restoring with
    | nil =>
        rw [earlier, List.nil_append] at reported
        rw [(List.cons.inj reported).2]
        exact restored
    | cons first others =>
        rw [earlier, List.cons_append] at reported
        have inside : .compared (.ok true) ∈ steps := by simp [← (List.cons.inj reported).2]
        exact absurd inside (once _)
  · -- A loss before the request is not the latest.
    cases middle with
    | nil =>
        rw [List.nil_append] at rest
        rw [← rest, List.filter_cons_of_pos rfl] at reported
        rw [← restoreFinished_filter, (List.cons.inj reported).2]
        exact restored
    | cons first others =>
        have later : after = others ++ present := (List.cons.inj rest).2
        exact absurd (by simp [later, lossPresent]) noLater

/-- A request that finds no loss and restores nothing leaves everything as it was. -/
theorem repaired_append_iff {past present : List Event} (noLoss : NoLoss present)
    (nothing : ¬.tableEnded .restore (.ok ()) ∈ present)
    (nowhere : ¬.stageEnded .restore (.ok ()) ∈ present) :
    Repaired (past ++ present) ↔ Repaired past := by
  constructor
  · intro repaired before after split noLater
    have finished := repaired before (after ++ present) (by simp [split])
      (by simpa [NoLoss] using And.intro noLater noLoss)
    simpa [RestoreFinished, nothing, nowhere] using finished
  · intro repaired before after split noLater
    rcases List.append_eq_append_iff.mp split with ⟨middle, rfl, rest⟩ | ⟨middle, rfl, rest⟩
    · exact absurd (by simp [rest]) noLoss
    · cases middle with
      | nil =>
          rw [List.nil_append] at rest
          exact absurd (by simp [← rest]) noLoss
      | cons first others =>
          obtain ⟨rfl, rfl⟩ := List.cons.inj rest
          have finished := repaired before others rfl
            (fun member => noLater (by simp [member]))
          exact ⟨by simp [finished.1], by simp [finished.2]⟩

/-! ## Silent steps -/

/-- The computation has nothing to do with restoring. -/
abbrev Quiet (computation : DeviceM σ α) : Prop :=
  Keeps (Throughout (fun event => event.restoring = false) fun _ => True) (fun _ => True)
    computation

/-- Whenever the computation succeeds, it reports about restoring as it should. -/
def Reports (computation : DeviceM σ α) : Prop :=
  ∀ machine value, (computation machine).result = .ok value →
    RestoreReport ((computation machine).events.filter Event.restoring)

theorem Quiet.filter {computation : DeviceM σ α} (quiet : Quiet computation)
    (machine : Machine σ) : (computation machine).events.filter Event.restoring = [] := by
  obtain ⟨events, -⟩ := keeps_throughout_iff.mp quiet machine trivial
  apply List.filter_eq_nil_iff.mpr
  intro event member
  simp [events event member]

theorem Quiet.reports {computation : DeviceM σ α} (quiet : Quiet computation) :
    Reports computation := by
  intro machine value _
  rw [quiet.filter machine]
  exact .silent

theorem Quiet.bind_reports {first : DeviceM σ α} {next : α → DeviceM σ β}
    (quiet : Quiet first) (reports : ∀ value, Reports (next value)) :
    Reports (first >>= next) := by
  intro machine value done
  obtain ⟨middle, succeeded, rest⟩ := bind_succeeds_iff.mp done
  rw [bind_of_ok succeeded, List.filter_append, quiet.filter machine, List.nil_append]
  exact reports middle _ value rest

theorem Reports.bind_quiet {first : DeviceM σ α} {next : α → DeviceM σ β}
    (reports : Reports first) (quiet : ∀ value, Quiet (next value)) :
    Reports (first >>= next) := by
  intro machine value done
  obtain ⟨middle, succeeded, -⟩ := bind_succeeds_iff.mp done
  rw [bind_of_ok succeeded, List.filter_append, (quiet middle).filter, List.append_nil]
  exact reports machine middle succeeded

/-- An attempt whose failure is not accepted reports as the computation does. -/
theorem Reports.attempt_bind {computation : DeviceM σ α}
    {next : Except Error α → DeviceM σ β} (reports : Reports computation)
    (quiet : ∀ result, Quiet (next result))
    (strict : ∀ error machine value, (next (.error error) machine).result ≠ .ok value) :
    Reports (computation.attempt >>= next) := by
  intro machine value done
  obtain ⟨result, attempted, rest⟩ := bind_succeeds_iff.mp done
  cases attempted
  cases ended : (computation machine).result with
  | error error => exact absurd (by rwa [ended] at rest) (strict error _ value)
  | ok middle =>
      rw [attempt_bind_apply, List.filter_append, (quiet _).filter, List.append_nil]
      exact reports machine middle ended

namespace Device

variable {device : Device σ}

/-- All that is not about restoring or the comparison before it is silent. -/
theorem quiet_upkeep (device : Device σ) :
    Upkeep device (fun kind => kind ≠ .restore ∧ kind ≠ .contextCheck)
      (fun stage => stage ≠ .restore) (fun event => event.restoring = false) (fun _ => True)
      (fun _ => True) where
  run _ _ _ _ _ _ _ _ := ⟨trivial, fun _ _ => trivial⟩
  differs _ _ _ _ _ _ := ⟨trivial, fun _ _ => trivial⟩
  status _ _ _ _ _ _ _ _ := ⟨trivial, fun _ _ => trivial⟩
  program _ _ _ _ _ _ _ _ _ _ := ⟨trivial, fun _ _ => trivial⟩
  activity origin within activity := by
    cases origin with
    | table kind => simpa [Event.restoring] using within.1
    | callback stage =>
        have other : stage ≠ .restore := within
        simpa [Event.restoring] using other
    | pendingStatus => rfl
    | request => rfl
  tableEnded kind result other := by simpa [Event.restoring] using other.1
  compared _ other := absurd rfl other.2
  callbackCalled stage _ _ other := by simpa [Event.restoring] using other
  stageEnded stage _ other := by simpa [Event.restoring] using other

theorem quiet_steady (device : Device σ) :
    Steady device (fun kind => kind ≠ .restore ∧ kind ≠ .contextCheck)
      (fun stage => stage ≠ .restore)
      (Throughout (fun event => event.restoring = false) fun _ => True) (fun _ => True) :=
  device.quiet_upkeep.steady

theorem quiet_working {origin : Origin} {computation : TableM σ α}
    (foreign : ∀ activity, (Event.activity origin activity).restoring = false) :
    Quiet (working origin computation) :=
  Upkeep.keeps_working foreign fun _ _ _ _ _ => ⟨trivial, fun _ _ => trivial⟩

theorem filter_activities {origin : Origin}
    (foreign : ∀ activity, (Event.activity origin activity).restoring = false)
    (activities : List Activity) :
    (activities.map (Event.activity origin)).filter Event.restoring = [] := by
  apply List.filter_eq_nil_iff.mpr
  intro event member
  obtain ⟨activity, -, rfl⟩ := List.mem_map.mp member
  simp [foreign activity]

theorem quiet_enter (power : PowerState) : Quiet (enter power : DeviceM σ Unit) :=
  keeps_update fun _ _ holds => holds

/-! ## Restoring -/

/-- The event is no comparison. -/
def NoComparison : Event → Prop
  | .compared _ => False
  | _ => True

/-- Writing the context back involves no comparison. -/
theorem writeBack_once (device : Device σ) (machine : Machine σ) :
    ∀ result, .compared result ∉ (device.writeBack machine).events := by
  have upkeep : Upkeep device (fun kind => kind ≠ .contextCheck) (fun _ => True)
      NoComparison (fun _ => True) (fun _ => True) := {
    run := fun _ _ _ _ _ _ _ _ => ⟨trivial, fun _ _ => trivial⟩
    differs := fun _ _ _ _ _ _ => ⟨trivial, fun _ _ => trivial⟩
    status := fun _ _ _ _ _ _ _ _ => ⟨trivial, fun _ _ => trivial⟩
    program := fun _ _ _ _ _ _ _ _ _ _ => ⟨trivial, fun _ _ => trivial⟩
    compared := fun _ other => absurd rfl other }
  obtain ⟨events, -⟩ := keeps_throughout_iff.mp
    (upkeep.steady.writeBack (by decide) trivial) machine trivial
  intro result member
  exact events _ member

theorem writeBack_finishes {machine : Machine σ}
    (done : (device.writeBack machine).result = .ok ()) :
    RestoreFinished (device.writeBack machine).events := by
  obtain ⟨⟨⟩, ran, passed⟩ := bind_succeeds_iff.mp done
  rw [writeBack, bind_of_ok ran]
  have ended := device.tableEnded_mem .restore machine
  rw [ran] at ended
  exact ⟨List.mem_append_left _ ended,
    List.mem_append_right _ (device.stageEnded_of_callback passed)⟩

theorem reports_restore (checks : device.driver.flags.checkContextLoss = true) :
    Reports device.restore := by
  intro machine value done
  rw [restore, if_pos checks] at done ⊢
  obtain ⟨differs, found, rest⟩ := bind_succeeds_iff.mp done
  rw [bind_of_ok found]
  have compared : (device.lostContext machine).events.filter Event.restoring =
      [.compared (device.lostContext machine).result] := by
    rw [lostContext_apply, List.filter_append, filter_activities (fun _ => rfl), List.nil_append]
    rfl
  rw [List.filter_append, compared, found]
  cases differs with
  | false => exact .intact
  | true =>
      rw [if_pos rfl] at rest ⊢
      obtain ⟨⟨⟩, recorded, written⟩ := bind_succeeds_iff.mp rest
      have silent : Quiet device.recordLoss := device.quiet_steady.recordLoss
      rw [bind_of_ok recorded, List.filter_append, silent.filter, List.nil_append]
      apply RestoreReport.finished
      · exact restoreFinished_filter.mpr (writeBack_finishes written)
      · intro result member
        exact device.writeBack_once _ result (List.mem_filter.mp member).1

theorem reports_runtimeResume (checks : device.driver.flags.checkContextLoss = true) :
    Reports device.runtimeResume := by
  have quiet := device.quiet_steady
  have woken : Reports device.wakeUp := by
    rw [wakeUp_eq]
    exact (reports_restore checks).bind_quiet fun _ =>
      quiet.bringUp (by simp) (by simp) (by simp)
  have begun : Quiet device.firstResume :=
    (quiet.callback .firstResume (by simp)).bind fun _ => keeps_update fun _ _ holds => holds
  have looked : Quiet (query fun machine => machine : DeviceM σ (Machine σ)) := keeps_query _
  apply looked.bind_reports
  intro machine
  split
  · split
    · exact Quiet.reports (keeps_pure ())
    · apply woken.attempt_bind
      · intro result
        exact quiet.concludeResume (quiet_enter .active) fun _ _ => trivial
      · intro error machine value done
        cases done
  · exact begun.reports

theorem reports_suspend (checks : device.driver.flags.checkContextLoss = true) :
    Reports device.suspend := by
  have quiet := device.quiet_steady
  have looked : Quiet (query fun machine => machine.power : DeviceM σ PowerState) :=
    keeps_query _
  have woken : Reports device.wakeBeforeSleep := by
    apply looked.bind_reports
    intro power
    split
    · exact reports_runtimeResume checks
    · exact Quiet.reports (keeps_pure ())
  have uses : SuspendUses (fun kind => kind ≠ .restore ∧ kind ≠ .contextCheck)
      (fun stage => stage ≠ .restore) := by constructor <;> simp
  apply looked.bind_reports
  intro power
  split
  · exact Quiet.reports (keeps_pure ())
  · exact woken.bind_quiet fun _ =>
      (quiet.callback .suspend (by simp)).bind fun _ =>
        (quiet.sleep uses quiet_enter).bind fun _ =>
          (keeps_query _).bind fun _ => quiet.news _ (by simp)

theorem reports_resume (checks : device.driver.flags.checkContextLoss = true) :
    Reports device.resume := by
  have quiet := device.quiet_steady
  have looked : Quiet (query fun machine => machine.power : DeviceM σ PowerState) :=
    keeps_query _
  have woken : ∀ power, Reports (device.wakeFrom power) := by
    intro power
    cases power with
    | active => exact Quiet.reports (keeps_pure ())
    | runtimeSuspended => exact reports_runtimeResume checks
    | systemSuspended =>
        have ungated : Quiet device.ungateClocks := quiet.ungateClocks (by simp)
        apply ungated.bind_reports
        intro _
        exact (reports_restore checks).bind_quiet fun _ =>
          (quiet.pins .resume).bind fun _ => quiet_enter .active
  apply looked.bind_reports
  intro power
  exact (woken power).bind_quiet fun _ =>
    (quiet.callback .resume (by simp)).bind fun _ =>
      quiet.markBusy.bind fun _ => quiet.news _ (by simp)

/-- Whatever is asked for, a success reports about restoring as it should. -/
theorem reports_perform (checks : device.driver.flags.checkContextLoss = true)
    (request : Request) : Reports (device.perform request) := by
  have quiet := device.quiet_steady
  have uses : SuspendUses (fun kind => kind ≠ .restore ∧ kind ≠ .contextCheck)
      (fun stage => stage ≠ .restore) := by constructor <;> simp
  have answered : ∀ {computation : DeviceM σ Unit}, Quiet computation →
      Reports (answering computation) := by
    intro computation silent
    exact silent.reports.bind_quiet fun _ => keeps_pure _
  have answeredLater : ∀ {computation : DeviceM σ Unit}, Reports computation →
      Reports (answering computation) := by
    intro computation reports
    exact reports.bind_quiet fun _ => keeps_pure _
  cases request with
  | createContext template =>
      apply answered
      apply (keeps_query _).bind
      intro context
      split
      · exact keeps_update fun _ _ holds => holds
      · exact keeps_fail trivial
  | runtimeSuspend =>
      exact answered (quiet.runtimeSuspendFor uses (quiet_enter .runtimeSuspended) .suspend)
  | runtimeResume => exact answeredLater (reports_runtimeResume checks)
  | autosuspend => exact answered (quiet.autosuspend uses (quiet_enter .runtimeSuspended))
  | suspend => exact answeredLater (reports_suspend checks)
  | resume => exact answeredLater (reports_resume checks)
  | save => exact answered (quiet.save (by simp))
  | restore => exact answeredLater (reports_restore checks)
  | maskInterrupts => exact answered (quiet.maskInterrupts (by simp))
  | unmaskInterrupts => exact answered (quiet.unmaskInterrupts (by simp))
  | gateClocks => exact answered (quiet.gateClocks (by simp))
  | ungateClocks => exact answered (quiet.ungateClocks (by simp))
  | readRegister offset =>
      have silent : Quiet (device.readRegister offset) := quiet_working fun _ => rfl
      exact silent.reports.bind_quiet fun _ => keeps_pure _
  | writeRegister offset value => exact answered (quiet_working fun _ => rfl)
  | runTable table => exact answered (quiet_working fun _ => rfl)
  | markBusy => exact answered quiet.markBusy
  | selectPins action => exact answered (quiet.pins action)

/-- When a request that compared the registers succeeds, an outstanding loss is repaired
if this very comparison found it, or if it was repaired before. A comparison that finds no
loss leaves a restore that was begun earlier as it is: nothing is written, and the callback
does not run. -/
theorem loss_repaired_iff (device : Device σ) (machine : Machine σ)
    (checks : device.driver.flags.checkContextLoss = true)
    (happenings : List (Happening σ)) (request : Request) :
    let past := device.history happenings machine
    let outcome := device.perform request past.state
    (∃ answer, outcome.result = .ok answer) → (∃ result, .compared result ∈ outcome.events) →
      (Repaired (past.events ++ outcome.events) ↔
        .compared (.ok true) ∈ outcome.events ∨ Repaired past.events) ∧
      (.compared (.ok true) ∉ outcome.events →
        ∀ event ∈ outcome.events, event.restoring = true → event = .compared (.ok false)) := by
  rintro past outcome ⟨answer, done⟩ ⟨result, compared⟩
  have report := reports_perform checks request past.state answer done
  have relevant : .compared result ∈ outcome.events.filter Event.restoring :=
    List.mem_filter.mpr ⟨compared, rfl⟩
  generalize reported : outcome.events.filter Event.restoring = relevantEvents at report relevant
  cases report with
  | silent => cases relevant
  | intact =>
      have only : ∀ event ∈ outcome.events, event.restoring = true →
          event = .compared (.ok false) := by
        intro event member restoring
        have kept : event ∈ outcome.events.filter Event.restoring :=
          List.mem_filter.mpr ⟨member, restoring⟩
        rw [reported] at kept
        exact List.mem_singleton.mp kept
      have noLoss : NoLoss outcome.events := fun member => by cases only _ member rfl
      refine ⟨?_, fun _ => only⟩
      rw [repaired_append_iff noLoss (fun member => by cases only _ member rfl)
        (fun member => by cases only _ member rfl)]
      exact ⟨.inr, fun either => either.resolve_left noLoss⟩
  | finished restored once =>
      have loss : .compared (.ok true) ∈ outcome.events := by
        have kept : .compared (.ok true) ∈ outcome.events.filter Event.restoring := by
          simp [reported]
        exact (List.mem_filter.mp kept).1
      refine ⟨?_, fun noLoss => absurd loss noLoss⟩
      constructor
      · intro _
        exact .inl loss
      · intro _
        exact repaired_of_finished reported restored once

/-- The serial port repairs a loss when it resumes. -/
theorem uart_loss_repaired :
    let past := Bench.Uart.device.history
      [.asked .save, .changed Bench.Uart.damaged, .asked .restore] Bench.Uart.active
    let outcome := Bench.Uart.device.perform .restore past.state
    Repaired (past.events ++ outcome.events) := by
  intro past outcome
  have checks : Bench.Uart.device.driver.flags.checkContextLoss = true := rfl
  have done : outcome.result = .ok .done := by decide +kernel
  have loss : .compared (.ok true) ∈ outcome.events := by decide +kernel
  exact ((loss_repaired_iff Bench.Uart.device Bench.Uart.active checks
    [.asked .save, .changed Bench.Uart.damaged, .asked .restore] .restore ⟨_, done⟩ ⟨_, loss⟩).1).mpr
      (.inl loss)

/-- A restore that failed midway need not be completed: the port with the careless check
rewrites the divisor, fails to write the control register, and finds nothing to restore when
it is asked again. -/
theorem careless_restore_left_unfinished :
    let past := Bench.Uart.careless.history
      [.asked (.createContext Bench.Uart.template), .asked .save, .changed Bench.Uart.damaged,
        .asked .restore] (.initial Bench.Uart.board [0, 0, 0, 0])
    let outcome := Bench.Uart.careless.perform .restore past.state
    Bench.Uart.careless.driver.flags.checkContextLoss = true ∧ outcome.result = .ok .done ∧
      .compared (.ok false) ∈ outcome.events ∧ ¬Repaired (past.events ++ outcome.events) := by
  intro past outcome
  refine ⟨rfl, by decide +kernel, by decide +kernel, ?_⟩
  intro repaired
  let trace := past.events ++ outcome.events
  have split : trace = trace.take 10 ++ .compared (.ok true) :: trace.drop 11 := by
    decide +kernel
  have noLater : .compared (.ok true) ∉ trace.drop 11 := by decide +kernel
  have unfinished : .tableEnded .restore (.ok ()) ∉ trace.drop 11 := by decide +kernel
  exact unfinished (repaired _ _ split noLater).1

end Device

end DevicePower
