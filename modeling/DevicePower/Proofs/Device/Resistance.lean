import DevicePower.Proofs.Device.History
import DevicePower.Proofs.Device.Maintenance

/-!
# Invariants that no access breaks

Many invariants do not look at the registers, or only at what no access to a register changes.
Such an invariant is maintained whatever the tables and callbacks of a driver do, and whatever
of it fails. `Resists` says so of the accesses, the readings and the records one by one; the
steps with clocks and channels and the moves between power states are left to be shown.
-/

namespace DevicePower

open DeviceM TableM Traced

variable {σ : Type}

/-- What is asked for is a transition between power states. -/
def Request.isTransition : Request → Bool
  | .runtimeSuspend | .runtimeResume | .autosuspend | .suspend | .resume => true
  | _ => false

/-- The request resumes a device at run time that is in this power state. -/
def Request.ResumesFrom : Request → PowerState → Prop
  | .runtimeResume, power => power ≠ .active
  | .suspend, power | .resume, power => power = .runtimeSuspended
  | _, _ => False

namespace Device

variable {device : Device σ} {tables : TableKind → Prop} {stages : Stage → Prop}
variable {invariant : List Event → Machine σ → Prop}

/-- No access to a register, no reading of the timer and nothing that is recorded about the
device breaks the invariant, and neither do the events that are reported meanwhile. -/
structure Resists (device : Device σ) (tables : TableKind → Prop) (stages : Stage → Prop)
    (invariant : List Event → Machine σ → Prop) : Prop where
  read : ∀ offset seen machine, invariant seen machine →
    invariant seen { machine with
      hardware := (device.transport.read offset machine.hardware).state } := by
        intros; assumption
  write : ∀ offset value seen machine, invariant seen machine →
    invariant seen { machine with
      hardware := (device.transport.write offset value machine.hardware).state } := by
        intros; assumption
  context : ∀ context seen machine, invariant seen machine →
    invariant seen { machine with context } := by
      intros; assumption
  prepared : ∀ stage hook, stages stage → device.hooks.hook stage = some hook →
    ∀ seen machine, invariant seen machine →
      invariant seen { machine with hardware := (hook machine.hardware).2 } := by
        intros; assumption
  ticked : ∀ timer, device.timer = some timer → ∀ seen machine, invariant seen machine →
    invariant seen { machine with hardware := (timer.now machine.hardware).2 } := by
      intros; assumption
  selected : ∀ controller, device.pins = some controller → ∀ state seen machine,
    invariant seen machine →
      invariant seen { machine with hardware := (controller.select state machine.hardware).2 } := by
        intros; assumption
  held : device.driver.flags.irqSublock = true → ∀ irqHeld seen machine,
    invariant seen machine → invariant seen { machine with irqHeld } := by
      intros; assumption
  saved : ∀ seen machine, invariant seen machine →
    invariant seen { machine with contextSaved := true } := by
      intros; assumption
  lost : ∀ seen machine, invariant seen machine →
    invariant seen { machine with contextLosses := countLoss machine.contextLosses } := by
      intros; assumption
  used : ∀ now seen machine, invariant seen machine →
    invariant seen { machine with lastBusy := now } := by
      intros; assumption
  reported : ∀ event seen machine, event.Within device machine tables stages →
    invariant seen machine → invariant (seen ++ [event]) machine
  unresolved : ∀ action reason seen machine, invariant seen machine →
    invariant
      (seen ++ [.note (.device device.name (.noPinState action (.configuration reason)))]) machine

namespace Resists

/-- Whatever a table does, it does by accesses. -/
theorem keeps_table (resists : Resists device tables stages invariant) (table : Table)
    (seen : List Event) (machine : Machine σ) :
    Keeps
      (Workspace.Kept fun workspace => invariant seen { machine with toWorkspace := workspace })
      (fun _ => True) (table.run device.port) :=
  Table.keeps_run fun entry _ =>
    entry.steps_of_accesses
      (fun offset workspace => resists.read offset seen { machine with toWorkspace := workspace })
      (fun offset value workspace =>
        resists.write offset value seen { machine with toWorkspace := workspace })
      (fun timer present workspace =>
        resists.ticked timer present seen { machine with toWorkspace := workspace })
      (fun workspace after _ _ holds _ =>
        resists.context after seen { machine with toWorkspace := workspace } holds)
      (fun _ => trivial) (fun _ => trivial) fun _ => trivial

theorem keeps_read (resists : Resists device tables stages invariant) (offset : UInt32)
    (seen : List Event) (machine : Machine σ) :
    Keeps
      (Workspace.Kept fun workspace => invariant seen { machine with toWorkspace := workspace })
      (fun _ => True) (device.port.read offset) :=
  Port.keeps_read
    (fun workspace => resists.read offset seen { machine with toWorkspace := workspace }) trivial

theorem keeps_write (resists : Resists device tables stages invariant) (offset value : UInt32)
    (seen : List Event) (machine : Machine σ) :
    Keeps
      (Workspace.Kept fun workspace => invariant seen { machine with toWorkspace := workspace })
      (fun _ => True) (device.port.write offset value) :=
  Port.keeps_write
    (fun workspace => resists.write offset value seen { machine with toWorkspace := workspace })
    trivial

/-- An invariant that no access breaks is maintained, whatever may fail. -/
theorem maintains (resists : Resists device tables stages invariant) :
    Maintains device tables stages invariant (fun _ => True) where
  run _ _ _ seen machine _ := resists.keeps_table _ seen machine
  differs _ seen machine _ :=
    Table.keeps_differs (fun _ _ => resists.keeps_read _ seen machine)
      fun _ _ => Entry.keeps_fetch fun _ _ _ _ => trivial
  status _ _ _ seen machine _ := resists.keeps_read _ seen machine
  program _ hook _ _ seen machine hardware _ :=
    Callback.keeps_run_of_accesses (hook hardware).1.only_anything
      (fun workspace context =>
        resists.context context seen { machine with toWorkspace := workspace })
      (fun offset => keeps_readAccess fun workspace =>
        resists.read offset seen { machine with toWorkspace := workspace })
      fun offset value _ => keeps_writeAccess fun workspace =>
        resists.write offset value seen { machine with toWorkspace := workspace }
  busy _ := trivial
  failed _ _ := trivial
  prepared := resists.prepared
  ticked := resists.ticked
  selected := resists.selected
  held := resists.held
  saved _ := resists.saved
  lost := resists.lost
  used := resists.used
  reported := resists.reported
  unresolved action reason seen machine holds _ :=
    resists.unresolved action reason seen machine holds

/-- A new context changes nothing that matters. -/
theorem keeps_createContext (resists : Resists device tables stages invariant)
    (template : List UInt32) : Keeps invariant (fun _ => True) (device.createContext template) := by
  apply (keeps_query _).bind
  intro context
  split
  · exact keeps_update fun seen machine => resists.context _ seen machine
  · exact keeps_fail trivial

section Requested

variable (requested : ∀ activity seen machine, invariant seen machine →
  invariant (seen ++ [.activity .request activity]) machine)

include requested

/-- Of the accesses that a caller asks for, only the events have to be looked at. -/
theorem keeps_runTable (resists : Resists device tables stages invariant) (table : Table) :
    Keeps invariant (fun _ => True) (device.runTable table) :=
  keeps_working requested fun seen machine _ => resists.keeps_table table seen machine

theorem keeps_readRegister (resists : Resists device tables stages invariant) (offset : UInt32) :
    Keeps invariant (fun _ => True) (device.readRegister offset) :=
  keeps_working requested fun seen machine _ => resists.keeps_read offset seen machine

theorem keeps_writeRegister (resists : Resists device tables stages invariant)
    (offset value : UInt32) : Keeps invariant (fun _ => True) (device.writeRegister offset value) :=
  keeps_working requested fun seen machine _ => resists.keeps_write offset value seen machine

/-- An invariant that no access breaks lasts if every step and every move keep it. -/
theorem lasting (resists : Resists device (fun _ => True) (fun _ => True) invariant)
    (steady : Steady device (fun _ => True) (fun _ => True) invariant (fun _ => True))
    (enter : ∀ power, Keeps invariant (fun _ => True) (enter power : DeviceM σ Unit))
    (started : Keeps invariant (fun _ => True)
      (update fun machine =>
        { machine with firstResumeDone := true, power := .active } : DeviceM σ Unit)) :
    Lasting device invariant (fun _ => True) :=
  .of_enter steady enter started resists.keeps_createContext (resists.keeps_runTable requested)
    (resists.keeps_readRegister requested) (resists.keeps_writeRegister requested)

/-- A request that is no transition keeps what every step keeps that has nothing to do with
channels. Only gating the clocks needs the table for it. -/
theorem keeps_plain (resists : Resists device (fun _ => True) (fun _ => True) invariant)
    {tables : TableKind → Prop}
    (steady : Steady device.unplugged tables (fun _ => True) invariant (fun _ => True))
    (others : ∀ kind, kind ≠ .clockDisable → tables kind) {request : Request}
    (gating : request = .gateClocks → tables .clockDisable)
    (plain : request.isTransition = false) :
    Keeps invariant (fun _ => True) (device.perform request) := by
  have read (offset : UInt32) : Keeps invariant (fun _ => True) (device.readRegister offset) :=
    resists.keeps_readRegister requested offset
  have write (offset value : UInt32) :
      Keeps invariant (fun _ => True) (device.writeRegister offset value) :=
    resists.keeps_writeRegister requested offset value
  have stepped : request.isStep = true →
      Keeps invariant (fun _ => True) (device.unplugged.perform request) :=
    steady.perform_step read write others trivial gating
  cases request with
  | createContext template => exact keeps_answering (resists.keeps_createContext template)
  | runTable table => exact keeps_answering (resists.keeps_runTable requested table)
  | runtimeSuspend | runtimeResume | autosuspend | suspend | resume => cases plain
  | _ => exact stepped rfl

end Requested

end Resists

end Device

end DevicePower
