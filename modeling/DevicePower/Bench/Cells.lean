import DevicePower.Bench.Uart

/-!
# Plain memory on the bench

Registers that are memory and nothing else, on a bus that drops some of the accesses. A
second serial port has its registers there. It keeps its context in system sleep, and can
do without clocks, pins and a timer. A third one has a clock, and bits that cannot be
written. One more has a timer and pins, and the last one has channels that keep a log.
-/

namespace DevicePower.Bench

/-- Registers that are plain memory. -/
structure Cells where
  values : UInt32 → UInt32 := fun _ => 0
  /-- Which of the accesses to come are dropped. -/
  dropped : List Bool := []

namespace Cells

/-- The value of a register. -/
def word (offset : UInt32) (cells : Cells) : UInt32 :=
  cells.values offset

/-- Give a register another value. -/
def put (offset value : UInt32) (cells : Cells) : Cells :=
  { cells with values := fun other => if other = offset then value else cells.values other }

/-- Go on to the next access. -/
def next (cells : Cells) : Cells :=
  { cells with dropped := cells.dropped.tail }

/-- The registers at the far end of a bus. -/
def bank : Bank Cells where
  read offset cells :=
    (if cells.dropped.headD false then .error .nack else .ok (cells.word offset), cells.next)
  write offset value cells :=
    if cells.dropped.headD false then (.error .nack, cells.next)
    else (.ok (), (cells.put offset value).next)

/-- The serial port with its registers in plain memory. -/
def port : Device Cells where
  id := 2
  name := "uart1"
  driver := {
    Uart.driver with
    flags := { Uart.driver.flags with systemContext := true }
    autosuspendMillis := none }
  transport := bank.transport
  hooks := { firstResume := fun cells => (.finish (.ok ()), cells) }

/-- Memory with the port switched on. -/
def filled : Cells where
  values offset := if offset = 0 then 1 else if offset = 4 then 26 else 0

/-- Memory that has lost everything. The first restore from it stops midway: the divisor is
written, and the write of the control register is dropped. -/
def erased : Cells where
  dropped := [false, false, false, true]

/-- The port with its context created, after its first resume. -/
def active : Machine Cells :=
  let created := (port.createContext Uart.template (.initial filled [0, 0, 0, 0])).state
  (port.runtimeResume created).state

end Cells

/-- Plain memory with bits that no write changes, and with a clock beside it. -/
structure GatedCells extends Cells where
  ticking : Bool := false

namespace GatedCells

/-- The bits of a register that no write changes: one bit of the control register. -/
def readOnly (offset : UInt32) : UInt32 :=
  if offset = 0 then 0x80 else 0

/-- The registers at the far end of a bus. -/
def bank : Bank GatedCells where
  read offset gated :=
    let (answer, after) := Cells.bank.read offset gated.toCells
    (answer, { gated with toCells := after })
  write offset value gated :=
    let merged := mergeBits value (readOnly offset) (gated.word offset)
    let (answer, after) := Cells.bank.write offset merged gated.toCells
    (answer, { gated with toCells := after })

/-- The same with other accesses dropped. -/
def dropping (gated : GatedCells) (dropped : List Bool) : GatedCells :=
  { gated with dropped }

/-- The clock of the port. -/
def clock : Clock GatedCells :=
  .gate (fun gated => gated.ticking) (fun gated => { gated with ticking := true })
    (fun gated => { gated with ticking := false })

/-- After a resume the port is asked for its status, which need not answer. -/
def inquire : Callback :=
  .read 12 fun answer => .finish ((answer.map fun _ => ()).mapError fun _ => .registerAccess 12)

/-- The serial port with a clock of its own. It never looks for lost registers. -/
def port : Device GatedCells where
  id := 3
  name := "uart2"
  driver := {
    Uart.driver with
    flags := { Uart.driver.flags with checkContextLoss := false }
    autosuspendMillis := none }
  transport := bank.transport
  hooks := {
    firstResume := fun gated => (.finish (.ok ()), gated)
    runtimeResume := some fun gated => (inquire, gated) }
  clocks := [clock]

/-- The port asleep after its first resume. Its registers are lost, and the clock is off. -/
def asleep : Machine GatedCells where
  hardware := { values := fun offset => if offset = 0 then 0x80 else 0 }
  context := ⟨[1, 26, 0, 5], 4, true⟩
  firstResumeDone := true

end GatedCells

/-- Plain memory with the same bits that no write changes, on a bus that drops nothing. -/
abbrev SteadyCells : Type := UInt32 → UInt32

namespace SteadyCells

/-- The registers at the far end of a bus. -/
def bank : Bank SteadyCells where
  read offset cells := (.ok (cells offset), cells)
  write offset value cells :=
    let merged := mergeBits value (GatedCells.readOnly offset) (cells offset)
    (.ok (), fun other => if other = offset then merged else cells other)

/-- The serial port with its registers in such memory. -/
def port : Device SteadyCells where
  id := 4
  name := "uart3"
  driver := { Uart.driver with autosuspendMillis := none }
  transport := bank.transport
  hooks := { firstResume := fun cells => (.finish (.ok ()), cells) }

/-- The port after its first resume, with its registers as they were saved. -/
def started : Machine SteadyCells where
  hardware offset := if offset = 0 then 1 else if offset = 4 then 26 else 0
  context := ⟨[1, 26, 0, 5], 4, true⟩
  firstResumeDone := true

/-- The port after it has lost its registers. -/
def erased : Machine SteadyCells :=
  { started with hardware := fun _ => 0 }

end SteadyCells

/-- Plain memory with a counter and pins beside it. The time is counted without end; every reading
takes a tick. -/
structure TimedCells extends Cells where
  time : Nat := 0
  pins : PinState := .default

namespace TimedCells

/-- The registers at the far end of a bus. -/
def bank : Bank TimedCells where
  read offset timed :=
    let (answer, after) := Cells.bank.read offset timed.toCells
    (answer, { timed with toCells := after })
  write offset value timed :=
    let (answer, after) := Cells.bank.write offset value timed.toCells
    (answer, { timed with toCells := after })

/-- The counter shows the time modulo its width. -/
def timer : Timer TimedCells where
  now timed := (UInt32.ofNat timed.time, { timed with time := timed.time + 1 })
  frequency := 1000

/-- The pins take every state. -/
def controller : PinController TimedCells where
  select state timed := (true, { timed with pins := state })

/-- The serial port with a timer and pins of its own. -/
def port : Device TimedCells where
  id := 5
  name := "uart4"
  driver := Uart.driver
  transport := bank.transport
  hooks := { firstResume := fun timed => (.finish (.ok ()), timed) }
  timer := some timer
  pins := some controller

end TimedCells

/-- Plain memory with two channels beside it, which always have transfers under way and keep a log
of their calls. -/
structure LoggedCells extends Cells where
  calls : List (Nat × ChannelAction) := []

namespace LoggedCells

/-- The registers at the far end of a bus. -/
def bank : Bank LoggedCells where
  read offset logged :=
    let (answer, after) := Cells.bank.read offset logged.toCells
    (answer, { logged with toCells := after })
  write offset value logged :=
    let (answer, after) := Cells.bank.write offset value logged.toCells
    (answer, { logged with toCells := after })

/-- Enter a call in the log. -/
def call (number : Nat) (action : ChannelAction) (logged : LoggedCells) : LoggedCells :=
  { logged with calls := logged.calls ++ [(number, action)] }

/-- A channel that enters its calls in the log. -/
def channel (number : Nat) : Channel LoggedCells where
  isActive _ := true
  pause := call number .paused
  resume := call number .resumed

/-- The serial port with channels that keep a log. -/
def port : Device LoggedCells where
  id := 6
  name := "uart5"
  driver := { Uart.driver with autosuspendMillis := none }
  transport := bank.transport
  hooks := { firstResume := fun logged => (.finish (.ok ()), logged) }
  channels := [channel 0, channel 1]

end LoggedCells

end DevicePower.Bench
