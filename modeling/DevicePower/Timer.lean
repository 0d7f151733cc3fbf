/-!
# Timers

A timer is a free running 32-bit counter that wraps around. Durations are
converted into counter ticks before they are compared with it, rounded down; a
duration that does not fit the counter becomes the largest tick count.
-/

namespace DevicePower

/-- A counter of the hardware. Taking a reading may change the hardware, if only
because time passes. -/
structure Timer (σ : Type) where
  now : σ → UInt32 × σ
  /-- Counter ticks per second. -/
  frequency : UInt32

/-- The largest tick count. -/
def maxTicks : UInt32 := 0xffffffff

/-- The ticks that pass in `duration` units of time, of which `perSecond` make a
second. The product of two 32-bit numbers fits into 64 bits. -/
def ticks (frequency duration : UInt32) (perSecond : UInt64) : UInt32 :=
  let count := duration.toUInt64 * frequency.toUInt64 / perSecond
  if maxTicks.toUInt64 < count then maxTicks else count.toUInt32

/-- The ticks that pass in a number of microseconds. -/
def microsToTicks (frequency duration : UInt32) : UInt32 :=
  ticks frequency duration 1000000

/-- The ticks that pass in a number of milliseconds. -/
def millisToTicks (frequency duration : UInt32) : UInt32 :=
  ticks frequency duration 1000

/-- The ticks from one reading to a later one, at most one wrap apart. -/
def elapsed (start now : UInt32) : UInt32 :=
  now - start

end DevicePower
