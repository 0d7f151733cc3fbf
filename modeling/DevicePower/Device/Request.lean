import DevicePower.Device.SystemSleep

/-!
# Requests to a device

Everything a caller can ask of a device, as data. A history of a device is a list
of requests; each is carried out from the state that the one before it left.
-/

namespace DevicePower

/-- Something a caller asks of a device. -/
inductive Request where
  | createContext (template : List UInt32)
  | runtimeSuspend
  | runtimeResume
  | autosuspend
  | suspend
  | resume
  | save
  | restore
  | maskInterrupts
  | unmaskInterrupts
  | gateClocks
  | ungateClocks
  | readRegister (offset : UInt32)
  | writeRegister (offset value : UInt32)
  | runTable (table : Table)
  | markBusy
  | selectPins (action : Action)

/-- What a request is answered with when it succeeds. -/
inductive Answer where
  | done
  | word (value : UInt32)
  deriving DecidableEq, Repr

namespace Device

open DeviceM

variable {σ : Type}

/-- Read a register on behalf of a caller. -/
def readRegister (device : Device σ) (offset : UInt32) : DeviceM σ UInt32 :=
  working .request (device.port.read offset)

/-- Write a register on behalf of a caller. -/
def writeRegister (device : Device σ) (offset value : UInt32) : DeviceM σ Unit :=
  working .request (device.port.write offset value)

/-- Run a table of the caller against the context of a device. -/
def runTable (device : Device σ) (table : Table) : DeviceM σ Unit :=
  working .request (table.run device.port)

/-- Answer a request that has nothing to say but that it was carried out. -/
def answering (computation : DeviceM σ Unit) : DeviceM σ Answer := do
  computation
  return .done

/-- Carry out a request. -/
def perform (device : Device σ) : Request → DeviceM σ Answer
  | .createContext template => answering (device.createContext template)
  | .runtimeSuspend => answering device.runtimeSuspend
  | .runtimeResume => answering device.runtimeResume
  | .autosuspend => answering device.autosuspend
  | .suspend => answering device.suspend
  | .resume => answering device.resume
  | .save => answering device.save
  | .restore => answering device.restore
  | .maskInterrupts => answering device.maskInterrupts
  | .unmaskInterrupts => answering device.unmaskInterrupts
  | .gateClocks => answering device.gateClocks
  | .ungateClocks => answering device.ungateClocks
  | .readRegister offset => do
      let value ← device.readRegister offset
      return .word value
  | .writeRegister offset value => answering (device.writeRegister offset value)
  | .runTable table => answering (device.runTable table)
  | .markBusy => answering device.markBusy
  | .selectPins action => answering (device.selectPins action)

end Device

end DevicePower
