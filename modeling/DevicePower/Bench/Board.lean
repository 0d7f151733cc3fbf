import DevicePower.Bench.Registers
import DevicePower.Bench.Script
import DevicePower.Device.Basic
import DevicePower.Register.Protection

/-!
# Simulated boards

The hardware of one device as plain data: registers, a timer that moves with every
reading, clocks, DMA channels, pins and scripted callbacks. All of it can be
changed from outside between requests.
-/

namespace DevicePower.Bench

/-- The state of the hardware of one device. -/
structure Board where
  registers : Registers
  /-- The count that the timer shows next. -/
  time : UInt32 := 0
  /-- How far the timer moves with every reading. -/
  timeStep : UInt32 := 0
  /-- Which clocks run. -/
  clocks : List Bool := []
  /-- Which DMA channels have transfers under way. -/
  channels : List Bool := []
  /-- Pin states are refused. -/
  pinsRefuse : Bool := false
  /-- What the callback of every stage does. -/
  scripts : Stage → Script := fun _ => []

namespace Board

/-- The registers of a board at the far end of a bus. -/
def bank : Bank Board where
  read offset board :=
    let (answer, registers) := board.registers.read offset
    (answer, { board with registers })
  write offset value board :=
    let (answer, registers) := board.registers.write offset value
    (answer, { board with registers })

/-- The registers of a board behind protection schemes, the innermost first. -/
def transport (protections : List Protection) : Transport Board :=
  protections.foldl Transport.protect bank.transport

/-- The timer of a board. -/
def timer (frequency : UInt32) : Timer Board where
  now board := (board.time, { board with time := board.time + board.timeStep })
  frequency := frequency

/-- Switch a clock of a board on or off. -/
def setClock (number : Nat) (running : Bool) (board : Board) : Board :=
  { board with clocks := board.clocks.set number running }

/-- A clock of a board that can be switched. -/
def clock (number : Nat) : Clock Board :=
  .gate (fun board => board.clocks.getD number false) (setClock number true)
    (setClock number false)

/-- A DMA channel of a board. Whether it is active does not depend on its being
paused. -/
def channel (number : Nat) : Channel Board where
  isActive board := board.channels.getD number false
  pause := id
  resume := id

/-- The pin controller of a board. -/
def pins : PinController Board where
  select _ board := (!board.pinsRefuse, board)

/-- The callback that a board has for a stage. -/
def hook (stage : Stage) : Hook Board :=
  fun board => ((board.scripts stage).callback, board)

/-- A callback for every stage. -/
def hooks : Hooks Board where
  firstResume := hook .firstResume
  runtimeSuspend := some (hook .runtimeSuspend)
  runtimeResume := some (hook .runtimeResume)
  restore := some (hook .restore)
  suspend := some (hook .suspend)
  resume := some (hook .resume)

/-- Callbacks for nothing but the first resume. -/
def minimalHooks : Hooks Board where
  firstResume := hook .firstResume

/-! ## Changes from outside -/

/-- Change the registers of a board. -/
def onRegisters (change : Registers → Registers) (board : Board) : Board :=
  { board with registers := change board.registers }

/-- Let time pass. -/
def advance (ticks : UInt32) (board : Board) : Board :=
  { board with time := board.time + ticks }

/-- Change how far the timer moves with every reading. -/
def setTimeStep (ticks : UInt32) (board : Board) : Board :=
  { board with timeStep := ticks }

/-- Start or finish the transfers of a DMA channel. -/
def setChannel (number : Nat) (active : Bool) (board : Board) : Board :=
  { board with channels := board.channels.set number active }

/-- Let pin states be refused or accepted. -/
def refusePins (refuse : Bool) (board : Board) : Board :=
  { board with pinsRefuse := refuse }

/-- Replace the callback of a stage. -/
def setScript (stage : Stage) (script : Script) (board : Board) : Board :=
  { board with scripts := fun other => if other = stage then script else board.scripts other }

end Board

/-- How a simulated device is put together. -/
structure Wiring where
  id : Nat
  name : String
  driver : Driver
  /-- The protection schemes of the registers, the innermost first. -/
  protections : List Protection
  /-- The frequency of the timer, if there is one. -/
  frequency : Option UInt32
  /-- The clocks; false stands for one that cannot be switched. -/
  clocks : List Bool
  /-- The number of DMA channels. -/
  channels : Nat
  /-- There is a pin controller. -/
  hasPins : Bool
  /-- There is a callback for the first resume only. -/
  minimal : Bool

/-- The device that a wiring describes. -/
def Wiring.device (wiring : Wiring) : Device Board where
  id := wiring.id
  name := wiring.name
  driver := wiring.driver
  transport := Board.transport wiring.protections
  hooks := if wiring.minimal then Board.minimalHooks else Board.hooks
  timer := wiring.frequency.map Board.timer
  clocks := wiring.clocks.zipIdx.map fun (switchable, number) =>
    if switchable then Board.clock number else .fixed
  channels := (List.range wiring.channels).map Board.channel
  pins := if wiring.hasPins then some Board.pins else none

end DevicePower.Bench
