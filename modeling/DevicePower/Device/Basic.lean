import DevicePower.Callback
import DevicePower.Driver
import DevicePower.Journal.Event
import DevicePower.Table.Execution

/-!
# Devices

A device ties a driver to one piece of hardware: the registers, and the clocks,
DMA channels, pins and timer that belong to it. What changes while the device is
driven is its `Machine`: the hardware in any state whatever, the context, and the
record of where the device is in its power cycle.

The operations of a device are `DeviceM` computations. This module holds the ways
in which they reach the machine; every one of them reports what it does.
-/

namespace DevicePower

/-- A clock that a device depends on. -/
inductive Clock (σ : Type) where
  /-- A clock that can be switched. -/
  | gate (isRunning : σ → Bool) (enable disable : σ → σ)
  /-- A clock that always runs and cannot be switched. -/
  | fixed

/-- A DMA channel of a device. A paused channel keeps its transfers. -/
structure Channel (σ : Type) where
  isActive : σ → Bool
  pause : σ → σ
  resume : σ → σ

/-- The controller of a device's pins. It may refuse a state. -/
structure PinController (σ : Type) where
  select : PinState → σ → Bool × σ

/-- One device and everything it is connected to. -/
structure Device (σ : Type) where
  id : Nat
  name : String
  driver : Driver
  transport : Transport σ
  hooks : Hooks σ
  timer : Option (Timer σ) := none
  /-- The number of reads after which a settle poll is given up, as for a port. -/
  maxReads : Nat := 0x100000000
  clocks : List (Clock σ) := []
  channels : List (Channel σ) := []
  pins : Option (PinController σ) := none

/-- Everything about a device that changes. -/
structure Machine (σ : Type) extends Workspace σ where
  /-- The save table ran to its end at least once. -/
  contextSaved : Bool := false
  /-- How often the registers were found lost. -/
  contextLosses : UInt32 := 0
  /-- The first resume of the device succeeded. -/
  firstResumeDone : Bool := false
  /-- Bit `n` is set while DMA channel `n` is paused. -/
  pausedChannels : UInt32 := 0
  power : PowerState := .runtimeSuspended
  /-- The timer at the last time the device was in use. -/
  lastBusy : Option UInt32 := none
  /-- Somebody holds the interrupt lock of the device. -/
  irqHeld : Bool := false

/-- A device that was never driven, with storage for its context. -/
def Machine.initial {σ : Type} (hardware : σ) (storage : List UInt32) : Machine σ where
  hardware := hardware
  context := .new storage

/-- Computations that drive a device. -/
abbrev DeviceM (σ : Type) : Type → Type :=
  Traced Error Event (Machine σ)

namespace DeviceM

variable {σ α : Type}

/-- Work on hardware and context, and report it as done for `origin`. -/
def working (origin : Origin) (computation : TableM σ α) : DeviceM σ α :=
  (computation.relabel (Event.activity origin)).within Machine.toWorkspace
    fun workspace machine => { machine with toWorkspace := workspace }

/-- Change the hardware and learn something from it. -/
def onHardware (change : σ → α × σ) : DeviceM σ α :=
  Traced.act fun machine =>
    let (answer, hardware) := change machine.hardware
    (answer, { machine with hardware })

/-- Change the hardware. -/
def change (f : σ → σ) : DeviceM σ Unit :=
  onHardware fun hardware => ((), f hardware)

/-- Look at the hardware. -/
def look (view : σ → α) : DeviceM σ α :=
  Traced.query fun machine => view machine.hardware

end DeviceM

namespace Device

open DeviceM

variable {σ α : Type}

/-- The registers of a device as its tables see them. -/
def port (device : Device σ) : Port σ where
  transport := device.transport
  timer := device.timer
  policy := device.driver.timeoutPolicy
  maxReads := device.maxReads

/-- Tell something about the device. -/
def tell (device : Device σ) (news : News) : DeviceM σ Unit :=
  Traced.emit (.note (.device device.name news))

/-- The present time, if the device has a timer. -/
def now (device : Device σ) : DeviceM σ (Option UInt32) :=
  match device.timer with
  | none => return none
  | some timer => do
      let now ← onHardware timer.now
      Traced.emit (.reading now)
      return some now

/-- Remember the present time as the last time the device was in use. -/
def markBusy (device : Device σ) : DeviceM σ Unit := do
  let now ← device.now
  Traced.update fun machine => { machine with lastBusy := now }

/-- Run a table of the driver. -/
def runDriverTable (device : Device σ) (kind : TableKind) : DeviceM σ Unit := do
  let result ← (working (.table kind)
    ((device.driver.tables kind).run device.port)).attempt
  Traced.emit (.tableEnded kind result)
  Traced.ofExcept result

/-- Pass a stage, by means of the callback of the device for it. A failure of the
callback is told and reported as a failure of the stage. -/
def callback (device : Device σ) (stage : Stage) : DeviceM σ Unit :=
  match device.hooks.hook stage with
  | none => Traced.emit (.stageEnded stage (.ok ()))
  | some hook => do
      let machine ← Traced.query fun machine => machine
      Traced.emit (.callbackCalled stage machine.irqHeld machine.power)
      let program ← onHardware hook
      let result ← (working (.callback stage) (program.run device.transport)).attempt
      Traced.emit (.stageEnded stage result)
      match result with
      | .ok () => pure ()
      | .error error => do
          device.tell (.callbackFailed stage error)
          Traced.fail (.callback stage)

end Device

end DevicePower
