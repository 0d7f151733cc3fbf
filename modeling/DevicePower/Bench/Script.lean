import DevicePower.Callback

/-!
# Scripted callbacks

A callback written down as a list of actions. The actions run in order, and the
first that fails ends the callback with its error; a failed access becomes an
error that names the register.
-/

namespace DevicePower.Bench

/-- One action of a scripted callback. -/
inductive ScriptAction where
  /-- Read a register into a slot. -/
  | read (offset : UInt32) (slot : Nat)
  /-- Write a value to a register. -/
  | write (offset value : UInt32)
  /-- Write a slot to a register. -/
  | writeSlot (offset : UInt32) (slot : Nat)
  /-- Replace the bits of a register that a mask selects. -/
  | update (offset mask value : UInt32)
  /-- Set a slot. -/
  | set (slot : Nat) (value : UInt32)
  /-- Stop with an error. -/
  | fail (error : Error)

/-- The actions of a scripted callback. -/
abbrev Script : Type := List ScriptAction

/-- Go on with the value of an access, or stop because it failed. -/
def afterAccess {α : Type} (offset : UInt32) (next : α → Callback) :
    Except BusError α → Callback
  | .ok value => next value
  | .error _ => .finish (.error (.registerAccess offset))

/-- Go on with the value of a slot, or stop because there is none. -/
def afterSlot {α : Type} (next : α → Callback) : Except ConfigError α → Callback
  | .ok value => next value
  | .error reason => .finish (.error (.configuration reason))

/-- The callback that carries out one action and then goes on with `rest`. -/
def ScriptAction.callback (rest : Callback) : ScriptAction → Callback
  | .read offset slot =>
      .read offset (afterAccess offset fun value =>
        .store slot value (afterSlot fun _ => rest))
  | .write offset value => .write offset value (afterAccess offset fun _ => rest)
  | .writeSlot offset slot =>
      .load slot (afterSlot fun value =>
        .write offset value (afterAccess offset fun _ => rest))
  | .update offset mask value =>
      .read offset (afterAccess offset fun old =>
        .write offset (mergeBits old mask value) (afterAccess offset fun _ => rest))
  | .set slot value => .store slot value (afterSlot fun _ => rest)
  | .fail error => .finish (.error error)

/-- The callback that carries out a script. -/
def Script.callback : Script → Callback
  | [] => .finish (.ok ())
  | action :: rest => action.callback (Script.callback rest)

end DevicePower.Bench
