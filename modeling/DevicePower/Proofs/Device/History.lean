import DevicePower.Proofs.Device.Steady
import Mathlib.Control.Monad.Basic

/-!
# Histories of a device

A history is everything that happens to a device from some moment on: requests, which
may fail, changes that the hardware makes by itself, and interrupt handlers that take
and release the interrupt lock. It is a computation of the device like any other, but
one that never fails.

`Lasting` adds to the steps of a transition what begins and ends one. An invariant that
lasts is kept by every request, and by a history if it also survives whatever the
hardware does by itself.
-/

namespace DevicePower

open DeviceM Traced

variable {σ : Type}

deriving instance DecidableEq for Access

deriving instance DecidableEq for News

deriving instance DecidableEq for Note

deriving instance DecidableEq for Activity

deriving instance DecidableEq for Event

/-- Something that happens to a device. -/
inductive Happening (σ : Type) where
  /-- A caller asks for something. -/
  | asked (request : Request)
  /-- The hardware changes by itself, in any way: registers, faults, transfers, time. -/
  | changed (hardware : σ)
  /-- An interrupt handler takes the interrupt lock or releases it. -/
  | handler (holds : Bool)

/-- What is asked for is one step of a transition, or an access to a register. -/
def Request.isStep : Request → Bool
  | .save | .restore | .maskInterrupts | .unmaskInterrupts | .gateClocks | .ungateClocks
  | .readRegister _ | .writeRegister _ _ | .markBusy | .selectPins _ => true
  | _ => false

namespace Device

/-- What a happening does. That a request fails does not end the history. -/
def undergo (device : Device σ) : Happening σ → DeviceM σ Unit
  | .asked request => do
      let _ ← (device.perform request).attempt
  | .changed hardware => Traced.update fun machine => { machine with hardware }
  | .handler holds => Traced.update fun machine => { machine with irqHeld := holds }

/-- One happening after the other. -/
def history (device : Device σ) : List (Happening σ) → DeviceM σ Unit
  | [] => pure ()
  | happening :: rest => do
      device.undergo happening
      device.history rest

/-- The machine is reached from a new one by some history. -/
def Reachable (device : Device σ) (machine : Machine σ) : Prop :=
  ∃ hardware storage happenings,
    (device.history happenings (.initial hardware storage)).state = machine

/-- Every step of a device keeps the invariant, and so does whatever moves it to another
power state and what callers ask for besides. A new context and a table of the caller may
fail in any way. -/
structure Lasting (device : Device σ) (invariant : List Event → Machine σ → Prop)
    (allowed : Error → Prop) : Prop
    extends Steady device (fun _ => True) (fun _ => True) invariant allowed where
  suspended : Keeps invariant allowed (enter .runtimeSuspended : DeviceM σ Unit)
  runtimeResume : Keeps invariant allowed device.runtimeResume
  suspend : Keeps invariant allowed device.suspend
  resume : Keeps invariant allowed device.resume
  create : ∀ template, Keeps invariant (fun _ => True) (device.createContext template)
  serve : ∀ table, Keeps invariant (fun _ => True) (device.runTable table)
  read : ∀ offset, Keeps invariant allowed (device.readRegister offset)
  write : ∀ offset value, Keeps invariant allowed (device.writeRegister offset value)

variable {device : Device σ} {invariant : List Event → Machine σ → Prop}
variable {allowed : Error → Prop}

/-! ## Histories -/

/-- A history keeps an invariant that every request keeps, and that the hardware and the
interrupt handlers do not break by themselves. It never fails. -/
theorem keeps_history
    (asked : ∀ request, Keeps invariant (fun _ => True) (device.perform request))
    (changed : ∀ hardware seen machine, invariant seen machine →
      invariant seen { machine with hardware })
    (handled : ∀ irqHeld seen machine, invariant seen machine →
      invariant seen { machine with irqHeld }) (happenings : List (Happening σ)) :
    Keeps invariant (fun _ => False) (device.history happenings) := by
  induction happenings with
  | nil => exact keeps_pure ()
  | cons happening rest ih =>
      have first : Keeps invariant (fun _ => False) (device.undergo happening) := by
        cases happening with
        | asked request => exact (asked request).attempt_bind fun _ _ => keeps_pure ()
        | changed hardware => exact keeps_update fun seen machine => changed hardware seen machine
        | handler holds => exact keeps_update fun seen machine => handled holds seen machine
      exact first.bind fun _ => ih

theorem undergo_succeeds (device : Device σ) (happening : Happening σ) (machine : Machine σ) :
    (device.undergo happening machine).result = .ok () := by
  cases happening <;> rfl

theorem history_singleton (device : Device σ) (happening : Happening σ) :
    device.history [happening] = device.undergo happening :=
  bind_pure (device.undergo happening)

/-- A history that goes on is one history after the other. -/
theorem history_append (device : Device σ) (earlier later : List (Happening σ)) :
    device.history (earlier ++ later) = (do
      device.history earlier
      device.history later) := by
  induction earlier with
  | nil => exact (pure_bind () fun _ => device.history later).symm
  | cons happening rest ih =>
      simp only [List.cons_append, history, ih, bind_assoc]

theorem history_succeeds (device : Device σ) (happenings : List (Happening σ))
    (machine : Machine σ) : (device.history happenings machine).result = .ok () := by
  have kept : Keeps (fun _ _ => True) (fun _ => False) (device.history happenings) :=
    keeps_history (fun _ _ _ _ => ⟨trivial, fun _ _ => trivial⟩) (fun _ _ _ _ => trivial)
      (fun _ _ _ _ => trivial) happenings
  cases result : (device.history happenings machine).result with
  | ok done => rfl
  | error error => exact ((kept [] machine trivial).2 error result).elim

/-- Whatever happens in a reachable state leads to a reachable state. -/
theorem Reachable.history {machine : Machine σ} (reachable : device.Reachable machine)
    (happenings : List (Happening σ)) :
    device.Reachable (device.history happenings machine).state := by
  obtain ⟨hardware, storage, earlier, rfl⟩ := reachable
  refine ⟨hardware, storage, earlier ++ happenings, ?_⟩
  rw [history_append, bind_of_ok (device.history_succeeds earlier _)]

theorem Reachable.undergo {machine : Machine σ} (reachable : device.Reachable machine)
    (happening : Happening σ) : device.Reachable (device.undergo happening machine).state := by
  rw [← history_singleton]
  exact reachable.history [happening]

/-- An invariant that every request keeps in reachable states is kept by a history that begins
in one. -/
theorem Reachable.keeps_history
    (asked : ∀ request seen machine, device.Reachable machine → invariant seen machine →
      invariant (seen ++ (device.perform request machine).events)
        (device.perform request machine).state)
    (changed : ∀ hardware seen machine, invariant seen machine →
      invariant seen { machine with hardware })
    (handled : ∀ irqHeld seen machine, invariant seen machine →
      invariant seen { machine with irqHeld }) (happenings : List (Happening σ)) :
    Keeps (fun seen machine => invariant seen machine ∧ device.Reachable machine)
      (fun _ => False) (device.history happenings) := by
  apply Device.keeps_history
  · rintro request seen machine ⟨holds, reachable⟩
    refine ⟨⟨asked request seen machine reachable holds, ?_⟩, fun _ _ => trivial⟩
    exact reachable.undergo (.asked request)
  · rintro hardware seen machine ⟨holds, reachable⟩
    exact ⟨changed hardware seen machine holds, reachable.undergo (.changed hardware)⟩
  · rintro irqHeld seen machine ⟨holds, reachable⟩
    exact ⟨handled irqHeld seen machine holds, reachable.undergo (.handler irqHeld)⟩

/-! ## Transitions -/

theorem suspendUses_all : SuspendUses (fun _ => True) (fun _ => True) :=
  ⟨trivial, trivial, trivial, trivial, trivial, trivial⟩

theorem resumeUses_all : ResumeUses (fun _ => True) (fun _ => True) :=
  ⟨trivial, trivial, trivial, trivial, trivial, trivial, trivial⟩

namespace Steady

theorem suspend (steady : Steady device (fun _ => True) (fun _ => True) invariant allowed)
    (enter : ∀ power, Keeps invariant allowed (enter power : DeviceM σ Unit))
    (resumed : Keeps invariant allowed device.runtimeResume) :
    Keeps invariant allowed device.suspend := by
  apply (keeps_query _).bind
  intro power
  split
  · exact keeps_pure ()
  · exact (steady.wakeBeforeSleep resumed).bind fun _ =>
      (steady.callback .suspend trivial).bind fun _ =>
        (steady.sleep suspendUses_all enter).bind fun _ =>
          (keeps_query _).bind fun _ => steady.news _ (by simp)

theorem resume {tables : TableKind → Prop} {stages : Stage → Prop}
    (steady : Steady device tables stages invariant allowed) (passing : stages .resume)
    (woken : ∀ power, Keeps invariant allowed (device.wakeFrom power)) :
    Keeps invariant allowed device.resume :=
  (keeps_query _).bind fun power =>
    (woken power).bind fun _ =>
      (steady.callback .resume passing).bind fun _ =>
        steady.markBusy.bind fun _ => steady.news _ (by simp)

theorem wakeFrom {tables : TableKind → Prop} {stages : Stage → Prop}
    (steady : Steady device tables stages invariant allowed) (uses : ResumeUses tables stages)
    (enter : Keeps invariant allowed (enter .active : DeviceM σ Unit))
    (resumed : Keeps invariant allowed device.runtimeResume) (power : PowerState) :
    Keeps invariant allowed (device.wakeFrom power) := by
  cases power with
  | active => exact keeps_pure ()
  | runtimeSuspended => exact resumed
  | systemSuspended =>
      rw [Device.wakeFrom, wakeWithContext_eq]
      exact (steady.getUp uses.clockEnable uses.contextCheck uses.restore
        uses.afterRestore).bind fun _ => enter

end Steady

/-! ## Steps asked for by themselves -/

theorem keeps_answering {computation : DeviceM σ Unit}
    (kept : Keeps invariant allowed computation) :
    Keeps invariant allowed (answering computation) :=
  kept.bind fun _ => keeps_pure _

/-- A step that is asked for by itself keeps what it keeps within a transition. Only gating
the clocks needs the table for it. -/
theorem Steady.perform_step {tables : TableKind → Prop} {stages : Stage → Prop}
    (steady : Steady device tables stages invariant allowed)
    (read : ∀ offset, Keeps invariant allowed (device.readRegister offset))
    (write : ∀ offset value, Keeps invariant allowed (device.writeRegister offset value))
    (others : ∀ kind, kind ≠ .clockDisable → tables kind) (passing : stages .restore)
    {request : Request} (gating : request = .gateClocks → tables .clockDisable)
    (step : request.isStep = true) : Keeps invariant allowed (device.perform request) := by
  cases request with
  | save => exact keeps_answering (steady.save (others .save (by decide)))
  | restore =>
      exact keeps_answering (steady.restore (others .contextCheck (by decide))
        (others .restore (by decide)) passing)
  | maskInterrupts => exact keeps_answering (steady.maskInterrupts (others .irqDisable (by decide)))
  | unmaskInterrupts =>
      exact keeps_answering (steady.unmaskInterrupts (others .irqEnable (by decide)))
  | gateClocks => exact keeps_answering (steady.gateClocks (gating rfl))
  | ungateClocks => exact keeps_answering (steady.ungateClocks (others .clockEnable (by decide)))
  | readRegister offset => exact (read offset).bind fun _ => keeps_pure _
  | writeRegister offset value => exact keeps_answering (write offset value)
  | markBusy => exact keeps_answering steady.markBusy
  | selectPins action => exact keeps_answering (steady.pins action)
  | _ => cases step

/-- Every request but for a new context keeps what is kept by the steps and by what begins and
ends a transition. -/
theorem Steady.perform (steady : Steady device (fun _ => True) (fun _ => True) invariant allowed)
    (suspended : Keeps invariant allowed (enter .runtimeSuspended : DeviceM σ Unit))
    (resumed : Keeps invariant allowed device.runtimeResume)
    (suspend : Keeps invariant allowed device.suspend)
    (resume : Keeps invariant allowed device.resume)
    (read : ∀ offset, Keeps invariant allowed (device.readRegister offset))
    (write : ∀ offset value, Keeps invariant allowed (device.writeRegister offset value))
    {request : Request}
    (serve : ∀ table, request = .runTable table → Keeps invariant allowed (device.runTable table))
    (no_template : ∀ template, request ≠ .createContext template) :
    Keeps invariant allowed (device.perform request) := by
  cases request with
  | createContext template => exact absurd rfl (no_template template)
  | runTable table => exact keeps_answering (serve table rfl)
  | runtimeSuspend =>
      exact keeps_answering (steady.runtimeSuspendFor suspendUses_all suspended .suspend)
  | runtimeResume => exact keeps_answering resumed
  | autosuspend => exact keeps_answering (steady.autosuspend suspendUses_all suspended)
  | suspend => exact keeps_answering suspend
  | resume => exact keeps_answering resume
  | _ =>
      exact steady.perform_step read write (fun _ _ => trivial) trivial (fun _ => trivial) rfl

namespace Lasting

/-- An invariant for which it makes no difference what power state is entered lasts if it
is kept by every step and by the requests that are not made of steps. -/
theorem of_enter (steady : Steady device (fun _ => True) (fun _ => True) invariant allowed)
    (enter : ∀ power, Keeps invariant allowed (enter power : DeviceM σ Unit))
    (started : Keeps invariant allowed
      (update fun machine : Machine σ =>
        { machine with firstResumeDone := true, power := .active }))
    (create : ∀ template, Keeps invariant (fun _ => True) (device.createContext template))
    (serve : ∀ table, Keeps invariant (fun _ => True) (device.runTable table))
    (read : ∀ offset, Keeps invariant allowed (device.readRegister offset))
    (write : ∀ offset value, Keeps invariant allowed (device.writeRegister offset value)) :
    Lasting device invariant allowed := by
  have resumed : Keeps invariant allowed device.runtimeResume :=
    steady.runtimeResume resumeUses_all (enter .active) started
  exact {
    toSteady := steady
    suspended := enter .runtimeSuspended
    runtimeResume := resumed
    suspend := steady.suspend enter resumed
    resume := steady.resume trivial (steady.wakeFrom resumeUses_all (enter .active) resumed)
    create
    serve
    read
    write }

/-! ## Invariants that last -/

/-- A request that brings neither a template nor a table of its own fails with allowed
errors only. -/
theorem perform (lasting : Lasting device invariant allowed) {request : Request}
    (no_template : ∀ template, request ≠ .createContext template)
    (no_table : ∀ table, request ≠ .runTable table) :
    Keeps invariant allowed (device.perform request) :=
  lasting.toSteady.perform lasting.suspended lasting.runtimeResume lasting.suspend lasting.resume
    lasting.read lasting.write (fun table same => absurd same (no_table table)) no_template

/-- Every request keeps the invariant, even if it fails. -/
theorem perform_any (lasting : Lasting device invariant allowed) (request : Request) :
    Keeps invariant (fun _ => True) (device.perform request) := by
  by_cases template : ∃ template, request = .createContext template
  · obtain ⟨template, rfl⟩ := template
    exact keeps_answering (lasting.create template)
  by_cases table : ∃ table, request = .runTable table
  · obtain ⟨table, rfl⟩ := table
    exact keeps_answering (lasting.serve table)
  simp only [not_exists] at template table
  exact (lasting.perform template table).allow fun _ _ => trivial

/-- A history keeps an invariant that lasts and that the hardware and the interrupt
handlers do not break by themselves. It never fails. -/
theorem history (lasting : Lasting device invariant allowed)
    (changed : ∀ hardware seen machine, invariant seen machine →
      invariant seen { machine with hardware })
    (handled : ∀ irqHeld seen machine, invariant seen machine →
      invariant seen { machine with irqHeld }) (happenings : List (Happening σ)) :
    Keeps invariant (fun _ => False) (device.history happenings) :=
  keeps_history lasting.perform_any changed handled happenings

end Lasting

end Device

end DevicePower
