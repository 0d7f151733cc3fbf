import DevicePower.Device.Context

/-!
# DMA channels of a device

Channels with transfers under way are paused while a device is suspended. The
machine remembers which channels are paused, one bit each, so that exactly those
are resumed.
-/

namespace DevicePower

/-- The bit that stands for a channel. -/
def channelBit (number : Nat) : UInt32 :=
  1 <<< UInt32.ofNat number

namespace Channel

open DeviceM

variable {σ : Type}

/-- Pause a channel that is active and not paused yet. The answer is its bit if it
was paused now, and zero otherwise. -/
def pauseIfActive (number : Nat) (channel : Channel σ) : DeviceM σ UInt32 := do
  let paused ← Traced.query fun machine => machine.pausedChannels
  if paused &&& channelBit number = 0 then do
    let active ← look channel.isActive
    Traced.emit (.channel number (.found active))
    if active then do
      Traced.emit (.channel number .paused)
      change channel.pause
      Traced.update fun machine =>
        { machine with pausedChannels := machine.pausedChannels ||| channelBit number }
      return channelBit number
    else
      return 0
  else
    return 0

/-- Resume a channel if it is paused and belongs to the selected ones. -/
def resumeIfPaused (selected : UInt32) (number : Nat) (channel : Channel σ) :
    DeviceM σ Unit := do
  let paused ← Traced.query fun machine => machine.pausedChannels
  if paused &&& selected &&& channelBit number ≠ 0 then do
    Traced.emit (.channel number .resumed)
    change channel.resume
    Traced.update fun machine =>
      { machine with pausedChannels := machine.pausedChannels &&& ~~~channelBit number }
  else
    pure ()

/-- Pause the active channels of a list, numbered from `number` on. The answer
holds the bits of those that were paused now. -/
def pauseAll (number : Nat) : List (Channel σ) → DeviceM σ UInt32
  | [] => return 0
  | channel :: rest => do
      let first ← channel.pauseIfActive number
      let others ← pauseAll (number + 1) rest
      return first ||| others

/-- Resume the selected channels of a list, numbered from `number` on. -/
def resumeAll (selected : UInt32) (number : Nat) : List (Channel σ) → DeviceM σ Unit
  | [] => pure ()
  | channel :: rest => do
      channel.resumeIfPaused selected number
      resumeAll selected (number + 1) rest

end Channel

namespace Device

variable {σ : Type}

/-- The channels that a device keeps track of. -/
def trackedChannels (device : Device σ) : List (Channel σ) :=
  device.channels.take maxChannels

/-- Pause the active channels of a device that has the capability. The answer
holds the bits of those that were paused now. -/
def pauseChannels (device : Device σ) : DeviceM σ UInt32 :=
  if device.driver.flags.dma then
    Channel.pauseAll 0 device.trackedChannels
  else
    return 0

/-- Resume those of the selected channels that are paused. -/
def resumeChannels (device : Device σ) (selected : UInt32) : DeviceM σ Unit :=
  Channel.resumeAll selected 0 device.trackedChannels

end Device

end DevicePower
