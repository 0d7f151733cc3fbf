import DevicePower.Bench.Board
import DevicePower.Device.Request

/-!
# A serial port on the bench

One device with a bit of everything: two registers that are saved, compared and restored,
interrupts that can be pending, a DMA channel, a clock that can be stopped, a timer, and
pins whose state while asleep depends on the context. It shows that the assumptions of
the general theorems can be met together.
-/

namespace DevicePower.Bench.Uart

/-- The pins go to sleep if the port is switched on, and to idle otherwise. -/
def isOn : Condition where
  size := 1
  nodes := #v[.nonzero (.slot 0)]
  root := 0

/-- Register 0 is the control register, register 4 the divisor, register 8 the interrupt
mask and register 12 the interrupt status. -/
def driver : Driver where
  name := "uart"
  tables
    | .save => [⟨.read, 0, 0, .none, none⟩, ⟨.read, 4, 1, .none, none⟩]
    | .contextCheck => [⟨.read, 0, 0, .none, none⟩, ⟨.read, 4, 1, .none, none⟩]
    | .restore => [⟨.writeThenRead, 4, 1, .none, none⟩, ⟨.write, 0, 0, .none, none⟩]
    | .irqDisable => [⟨.write, 8, 2, .none, none⟩]
    | .irqEnable => [⟨.write, 8, 3, .none, none⟩]
    | _ => []
  pendingCheck := some ⟨12, 1, 1, .pendingOnMatch⟩
  pins := { PinMap.standard with suspend := .choose isOn .sleep .idle }
  flags := {
    checkContextLoss := true
    irq := true
    dma := true
    irqSublock := true
  }
  autosuspendMillis := some 10

/-- The port, as it is wired to a board. -/
def device : Device Board :=
  Wiring.device {
    id := 1
    name := "uart0"
    driver
    protections := []
    frequency := some 1000
    clocks := [true]
    channels := 1
    hasPins := true
    minimal := false
  }

/-- The slots for control, divisor, and the interrupt masks while asleep and awake. -/
def template : List UInt32 := [0, 0, 0, 5]

/-- A board with the port switched on, and with transfers under way. -/
def board : Board where
  registers := { store := .memory { values := [(0, 1), (4, 26)] } }
  timeStep := 1
  clocks := [true]
  channels := [true]

/-- The port with its context created. -/
def created : Machine Board :=
  (device.createContext template (.initial board [0, 0, 0, 0])).state

/-- The port after its first resume. -/
def active : Machine Board :=
  (device.runtimeResume created).state

/-- The port with an interrupt pending. -/
def interrupted : Machine Board :=
  { active with hardware := active.hardware.onRegisters (Registers.poke 12 1) }

/-- The port with a register that cannot be reached in one direction. -/
def failing (direction : Direction) (offset : UInt32) (machine : Machine Board) :
    Machine Board :=
  let fault : Fault := { offset, directions := [direction], error := .nack }
  { machine with hardware := machine.hardware.onRegisters (Registers.inject fault) }

/-- The port with a context check that looks at the divisor only. -/
def careless : Device Board :=
  { device with
    driver := { driver with
      tables := fun kind =>
        if kind = .contextCheck then [⟨.read, 4, 1, .none, none⟩] else driver.tables kind } }

/-- A board that has lost its registers, and whose control register cannot be written the
next time. -/
def damaged : Board :=
  { board with
    registers := {
      store := .memory {}
      faults := [{ offset := 0, directions := [.write], error := .nack, count := 1 }] } }

/-- A board whose callback refuses every runtime suspend. -/
def reluctant : Board :=
  board.setScript .runtimeSuspend [.fail (.callback .runtimeSuspend)]

/-- A board whose callback refuses every runtime resume. -/
def grudging : Board :=
  board.setScript .runtimeResume [.fail (.callback .runtimeResume)]

/-- The port with a context of its own in system sleep. -/
def sleeper : Device Board :=
  { device with
    driver := { driver with flags := { driver.flags with systemContext := true } } }

/-- The port with a callback for its first resume that puts a context of its own in the
place of the one it is handed. -/
def forgetful : Device Board :=
  { device with
    hooks := { firstResume := fun board => (.replace [0, 0, 0, 0, 0] (.finish (.ok ())), board) } }

/-- A clock that can be switched on any board, by itself. -/
def clock : Clock Board :=
  .gate (fun board => board.clocks == [true]) (fun board => { board with clocks := [true] })
    (fun board => { board with clocks := [false] })

/-- The port with a clock of its own. -/
def selfClocked : Device Board :=
  { device with clocks := [clock] }

/-- The port with a clock of its own after its first resume. -/
def selfClockedActive : Machine Board :=
  (selfClocked.perform .runtimeResume
    (selfClocked.perform (.createContext template) (.initial board [0, 0, 0, 0])).state).state

end DevicePower.Bench.Uart
