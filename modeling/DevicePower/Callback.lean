import DevicePower.Table.Port

/-!
# Callbacks

Whatever a device needs beyond its tables is supplied as a callback. A callback
is a program that takes one step after the other, on the registers and on the
context, and decides from the answers how to go on. It is handed the context itself
and may do with it whatever can be done with a context: look up and overwrite slots,
see how it stands, populate it, and even put a new one in its place.
-/

namespace DevicePower

/-- A program over the registers and the context of a device. -/
inductive Callback where
  | finish (result : Except Error Unit)
  | read (offset : UInt32) (next : Except BusError UInt32 → Callback)
  | write (offset value : UInt32) (next : Except BusError Unit → Callback)
  | load (slot : Nat) (next : Except ConfigError UInt32 → Callback)
  | store (slot : Nat) (value : UInt32) (next : Except ConfigError Unit → Callback)
  /-- Ask for all the slots, and whether the context is populated. -/
  | inspect (next : List UInt32 → Bool → Callback)
  | populate (template : List UInt32) (next : Except ConfigError Unit → Callback)
  /-- Put a new context in the place of the one that was handed over, with storage of
  its own. -/
  | replace (storage : List UInt32) (next : Callback)

namespace Callback

variable {σ : Type}

/-- Run a callback against the registers of a device. -/
def run (transport : Transport σ) : Callback → TableM σ Unit
  | .finish result => Traced.ofExcept result
  | .read offset next => do
      let answer ← TableM.readAccess transport offset
      (next answer).run transport
  | .write offset value next => do
      let answer ← TableM.writeAccess transport offset value
      (next answer).run transport
  | .load slot next => do
      let answer ← TableM.load slot
      (next answer).run transport
  | .store slot value next => do
      let answer ← TableM.store slot value
      (next answer).run transport
  | .inspect next => do
      let (values, populated) ← TableM.inspect
      (next values populated).run transport
  | .populate template next => do
      let answer ← TableM.populate template
      (next answer).run transport
  | .replace storage next => do
      TableM.replace storage
      next.run transport

end Callback

/-- What a device does at a stage. Which program that is may depend on the
hardware, and preparing it may change the hardware. -/
abbrev Hook (σ : Type) : Type := σ → Callback × σ

/-- The callbacks of a device. Only the first has to be supplied; a stage without
a callback succeeds at once. -/
structure Hooks (σ : Type) where
  firstResume : Hook σ
  runtimeSuspend : Option (Hook σ) := none
  runtimeResume : Option (Hook σ) := none
  restore : Option (Hook σ) := none
  suspend : Option (Hook σ) := none
  resume : Option (Hook σ) := none

/-- The callback for a stage, if there is one. -/
def Hooks.hook {σ : Type} (hooks : Hooks σ) : Stage → Option (Hook σ)
  | .firstResume => some hooks.firstResume
  | .runtimeSuspend => hooks.runtimeSuspend
  | .runtimeResume => hooks.runtimeResume
  | .restore => hooks.restore
  | .suspend => hooks.suspend
  | .resume => hooks.resume

end DevicePower
