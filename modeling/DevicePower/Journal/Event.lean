import DevicePower.Journal.Note

/-!
# Events of a device

The journal of a device records every dealing with something outside the engine,
in order: what its tables, its callbacks and single requests do with registers;
every question put to a clock or a DMA channel and every change made to one; pin
selections; readings of the timer; and the interrupt lock. It also marks where
tables, comparisons and callbacks end, so that each access can be told from the
others by what it was made for.

What can be seen while a table or a callback runs is its activity: the accesses it
makes, the bus cycles that the transport spends on each of them, the readings it
takes from the timer, and its notes.
-/

namespace DevicePower

/-- One thing that happens while a table runs. -/
inductive Activity where
  /-- A cycle on the bus, part of the access that is reported next. -/
  | cycle (access : Access)
  /-- An access that the table asked for. -/
  | access (access : Access)
  /-- A reading of the timer. -/
  | reading (now : UInt32)
  | note (note : Note)

/-- What an access was made for. -/
inductive Origin where
  /-- A table of the driver. -/
  | table (kind : TableKind)
  /-- The look at the interrupt status after interrupts were masked. -/
  | pendingStatus
  /-- A register access or a table that a caller asked for. -/
  | request
  /-- The callback of a stage. -/
  | callback (stage : Stage)
  deriving DecidableEq, Repr

/-- A dealing with a clock. -/
inductive ClockAction where
  | found (running : Bool)
  | enabled
  | disabled
  deriving DecidableEq, Repr

/-- A dealing with a DMA channel. -/
inductive ChannelAction where
  | found (active : Bool)
  | paused
  | resumed
  deriving DecidableEq, Repr

/-- One thing that happens while a device is driven. -/
inductive Event where
  | activity (origin : Origin) (activity : Activity)
  /-- A table of the driver ran to its end, or to its first error. -/
  | tableEnded (kind : TableKind) (result : Except Error Unit)
  /-- The registers were compared with the context; true if one differed. -/
  | compared (result : Except Error Bool)
  | clock (number : Nat) (action : ClockAction)
  | channel (number : Nat) (action : ChannelAction)
  /-- A pin state was asked for, which the pin controller accepted or refused. -/
  | pins (state : PinState) (accepted : Bool)
  /-- The callback of a stage was called, with the interrupt lock held or not, in
  this power state. -/
  | callbackCalled (stage : Stage) (irqHeld : Bool) (power : PowerState)
  /-- A stage was passed or failed, by a callback or for want of one. -/
  | stageEnded (stage : Stage) (result : Except Error Unit)
  /-- The interrupt lock was taken; contended if it was held at that moment. -/
  | irqTaken (contended : Bool)
  | irqReleased
  | reading (now : UInt32)
  | note (note : Note)

end DevicePower
