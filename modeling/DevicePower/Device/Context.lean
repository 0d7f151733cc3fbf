import DevicePower.Device.Basic

/-!
# The context of a device

A context is created once, after the device was checked against it, and is saved
and restored from then on. A device that checks for lost registers restores them
only if one of them differs from the context.
-/

namespace DevicePower

/-- The number of DMA channels that a device can keep track of. -/
def maxChannels : Nat := 32

namespace Device

open DeviceM

variable {σ : Type}

/-- Check everything about a device that a template of `length` words depends on. -/
def validate (device : Device σ) (length : Nat) : Except ConfigError Unit := do
  device.driver.validate length
  if device.timer.isNone &&
      (device.driver.needsTimer || device.driver.autosuspendMillis.isSome) then
    throw .noTimer
  if device.driver.flags.dma && maxChannels < device.channels.length then
    throw .tooManyChannels

/-- The context after it was created from a template: the device must not have
one, must fit the template, and must have storage for it. -/
def newContext (device : Device σ) (template : List UInt32) (context : Context) :
    Except ConfigError Context :=
  if context.populated then
    .error .contextExists
  else do
    device.validate template.length
    context.populate template

/-- Create the context of a device. If this fails, the device stays as it is. -/
def createContext (device : Device σ) (template : List UInt32) : DeviceM σ Unit := do
  let context ← Traced.query fun machine => machine.context
  match device.newContext template context with
  | .ok context => Traced.update fun machine => { machine with context }
  | .error reason => Traced.fail (.configuration reason)

/-- Save the registers into the context, unless they are saved once and were. -/
def save (device : Device σ) : DeviceM σ Unit := do
  let saved ← Traced.query fun machine => machine.contextSaved
  if device.driver.flags.saveOnce && saved then
    pure ()
  else do
    device.runDriverTable .save
    Traced.update fun machine => { machine with contextSaved := true }

/-- One more loss of the registers. The count stops at its largest value. -/
def countLoss (losses : UInt32) : UInt32 :=
  if losses = 0xffffffff then losses else losses + 1

/-- Whether the registers of the device were lost since the context was saved. -/
def lostContext (device : Device σ) : DeviceM σ Bool := do
  let result ← (working (.table .contextCheck)
    ((device.driver.tables .contextCheck).differs device.port)).attempt
  Traced.emit (.compared result)
  Traced.ofExcept result

/-- Note that the registers were lost. -/
def recordLoss (device : Device σ) : DeviceM σ Unit := do
  Traced.update fun machine =>
    { machine with contextLosses := countLoss machine.contextLosses }
  let losses ← Traced.query fun machine => machine.contextLosses
  device.tell (.contextLost losses)

/-- Write the context back, by the restore table and then by the callback. -/
def writeBack (device : Device σ) : DeviceM σ Unit := do
  device.runDriverTable .restore
  device.callback .restore

/-- Restore the registers from the context. A device that checks for lost
registers is left alone if it kept them. -/
def restore (device : Device σ) : DeviceM σ Unit :=
  if device.driver.flags.checkContextLoss then do
    if ← device.lostContext then
      device.recordLoss
      device.writeBack
    else
      pure ()
  else
    device.writeBack

end Device

end DevicePower
