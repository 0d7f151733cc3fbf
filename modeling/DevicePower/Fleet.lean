import DevicePower.Device.Request
import DevicePower.Registry

/-!
# Fleets

A fleet is a number of devices together with a registry through which a framework
reaches them. A framework knows ids only. It may know of devices that have no
power management; a request for one of those is told and succeeds.

The members of a fleet have hardware of their own. The one thing they may share is
an interrupt lock, which an interrupt handler of one member then holds against all
that use it.
-/

namespace DevicePower

/-- One device of a fleet. -/
structure Member (σ : Type) where
  device : Device σ
  machine : Machine σ
  /-- Which interrupt lock the device uses. -/
  irqLock : Nat
  /-- The interrupt handler of the device holds its lock. -/
  inHandler : Bool := false

/-- `size` devices and the registry that some of them are bound to. -/
structure Fleet (size : Nat) (σ : Type) where
  members : Vector (Member σ) size
  registry : Registry (Fin size)

/-- One thing that happens while a fleet is driven. -/
inductive FleetEvent where
  | member (number : Nat) (event : Event)
  | note (note : Note)

/-- Computations that drive a fleet. -/
abbrev FleetM (size : Nat) (σ : Type) : Type → Type :=
  Traced Error FleetEvent (Fleet size σ)

namespace Fleet

variable {size : Nat} {σ α : Type}

/-- A fleet with one member changed. -/
def setMember (fleet : Fleet size σ) (number : Fin size) (member : Member σ) :
    Fleet size σ :=
  { fleet with members := fleet.members.set number member }

/-- Drive one member. -/
def on (number : Fin size) (computation : Device σ → DeviceM σ α) : FleetM size σ α :=
  fun fleet =>
    let member := fleet.members[number]
    let outcome := computation member.device member.machine
    ⟨outcome.result, outcome.events.map (FleetEvent.member number),
      fleet.setMember number { member with machine := outcome.state }⟩

/-- Let the hardware of one member change by itself. -/
def alter (number : Fin size) (change : σ → σ) : FleetM size σ Unit :=
  Traced.update fun fleet =>
    let member := fleet.members[number]
    fleet.setMember number
      { member with machine :=
          { member.machine with hardware := change member.machine.hardware } }

/-! ## The registry -/

/-- How the registry knows a member. -/
def registration (fleet : Fleet size σ) (number : Fin size) : Registration (Fin size) where
  id := fleet.members[number].device.id
  name := fleet.members[number].device.name
  device := number

/-- Put a member into the registry. -/
def register (number : Fin size) : FleetM size σ Unit := do
  let fleet ← Traced.query id
  match fleet.registry.register (fleet.registration number) with
  | .ok registry => Traced.update fun fleet => { fleet with registry }
  | .error reason => Traced.fail (.configuration reason)

/-- Take the first device with an id out of the registry. -/
def unregister (id : Nat) : FleetM size σ (Option (Registration (Fin size))) :=
  Traced.act fun fleet =>
    let (found, registry) := fleet.registry.unregister id
    (found, { fleet with registry })

/-- The members in the registry, in the order of their slots. -/
def registered (fleet : Fleet size σ) : List (Fin size) :=
  fleet.registry.devices.map Registration.device

/-- Drive the device with an id. -/
def onId (id : Nat) (computation : Device σ → DeviceM σ Unit) : FleetM size σ Unit := do
  let found ← Traced.query fun fleet => fleet.registry.find? id
  match found with
  | some registration => on registration.device computation
  | none => Traced.emit (.note (.unknownDevice id))

/-! ## System sleep of a whole fleet -/

/-- Put members to sleep one after the other, up to the first that fails. -/
def suspendEach : List (Fin size) → FleetM size σ Unit
  | [] => pure ()
  | number :: rest => do
      on number Device.suspend
      suspendEach rest

/-- Wake up members one after the other, whichever of them fail. The first failure
is the one that is reported. -/
def resumeEach : List (Fin size) → FleetM size σ Unit
  | [] => pure ()
  | number :: rest => do
      match ← (on number Device.resume).attempt with
      | .ok () => resumeEach rest
      | .error error => do
          let name ← Traced.query fun fleet => fleet.members[number].device.name
          Traced.emit (.note (.device name (.wakeUpFailed error)))
          let _ ← (resumeEach rest).attempt
          Traced.fail error

/-- Put every registered device to sleep, in the order of the slots. -/
def suspendAll : FleetM size σ Unit := do
  let numbers ← Traced.query registered
  suspendEach numbers

/-- Wake up every registered device, in the reverse order of the slots. -/
def resumeAll : FleetM size σ Unit := do
  let numbers ← Traced.query registered
  resumeEach numbers.reverse

/-! ## Interrupt handlers -/

/-- Let the lock of one member be held or free, for everybody who uses it. -/
def setIrqLock (fleet : Fleet size σ) (lock : Nat) (held : Bool) : Fleet size σ :=
  { fleet with members := fleet.members.map fun member =>
      if member.irqLock = lock then
        { member with machine := { member.machine with irqHeld := held } }
      else
        member }

/-- Whether an interrupt handler could take the lock of a member now. -/
def irqLockFree (number : Fin size) : FleetM size σ Bool :=
  Traced.query fun fleet => !fleet.members[number].machine.irqHeld

/-- Let the interrupt handler of a member take its lock and keep it. -/
def enterHandler (number : Fin size) : FleetM size σ Unit :=
  Traced.update fun fleet =>
    let member := fleet.members[number]
    (fleet.setMember number { member with inHandler := true }).setIrqLock member.irqLock true

/-- Let the interrupt handler of a member release its lock, if it holds it. -/
def leaveHandler (number : Fin size) : FleetM size σ Unit :=
  Traced.update fun fleet =>
    let member := fleet.members[number]
    if member.inHandler then
      (fleet.setMember number { member with inHandler := false }).setIrqLock
        member.irqLock false
    else
      fleet

end Fleet

end DevicePower
