import DevicePower.Context
import DevicePower.Journal.Event
import DevicePower.Timer

/-!
# Ports

A port is what a register table runs against: the registers of a device, and the
timer that bounds its settle polls. The operations of a port work on the hardware
and on the context of the device at once and report all that they do.
-/

namespace DevicePower

/-- What a settle poll that runs out of time does. -/
inductive TimeoutPolicy where
  /-- It stops the table with an error. -/
  | fail
  /-- It lets the table carry on as if the register had settled. -/
  | proceed
  deriving DecidableEq, Repr

/-- The name a policy has in messages. -/
def TimeoutPolicy.name : TimeoutPolicy → String
  | .fail => "Fail"
  | .proceed => "Proceed"

/-- The hardware of a device and its context. -/
structure Workspace (σ : Type) where
  hardware : σ
  context : Context

/-- Computations on the hardware and the context of a device. -/
abbrev TableM (σ : Type) : Type → Type :=
  Traced Error Activity (Workspace σ)

/-- The registers of a device as its tables see them. -/
structure Port (σ : Type) where
  transport : Transport σ
  timer : Option (Timer σ)
  policy : TimeoutPolicy
  /-- The number of reads after which a settle poll is given up as if its time were up.
  A poll has no such limit of its own: if it makes fewer reads, then it does the same
  under every higher limit. -/
  maxReads : Nat := 0x100000000

namespace TableM

variable {σ α : Type}

/-- Reach the bus, and report its cycles. -/
def reach (computation : BusM σ α) : TableM σ (Except BusError α) :=
  ((computation.attempt).relabel Activity.cycle).within Workspace.hardware
    fun hardware workspace => { workspace with hardware }

/-- Read a register and report the access. -/
def readAccess (transport : Transport σ) (offset : UInt32) :
    TableM σ (Except BusError UInt32) := do
  let answer ← reach (transport.read offset)
  Traced.emit (.access (.read offset answer))
  return answer

/-- Write a register and report the access. -/
def writeAccess (transport : Transport σ) (offset value : UInt32) :
    TableM σ (Except BusError Unit) := do
  let answer ← reach (transport.write offset value)
  Traced.emit (.access (.write offset value answer))
  return answer

/-- The value of a context slot. -/
def load (slot : Nat) : TableM σ (Except ConfigError UInt32) :=
  Traced.query fun workspace => workspace.context.get slot

/-- Overwrite a context slot. A slot that does not exist changes nothing. -/
def store (slot : Nat) (value : UInt32) : TableM σ (Except ConfigError Unit) :=
  Traced.act fun workspace =>
    match workspace.context.set slot value with
    | .ok context => (.ok (), { workspace with context })
    | .error error => (.error error, workspace)

/-- All the slots of the context, and whether it is populated. -/
def inspect : TableM σ (List UInt32 × Bool) :=
  Traced.query fun workspace => (workspace.context.values, workspace.context.populated)

/-- Copy a template into the context. What cannot be copied changes nothing. -/
def populate (template : List UInt32) : TableM σ (Except ConfigError Unit) :=
  Traced.act fun workspace =>
    match workspace.context.populate template with
    | .ok context => (.ok (), { workspace with context })
    | .error error => (.error error, workspace)

/-- Go on with a new context, in other storage. -/
def replace (storage : List UInt32) : TableM σ Unit :=
  Traced.update fun workspace => { workspace with context := .new storage }

/-- Stop with a configuration error, if there is one. -/
def configured (result : Except ConfigError α) : TableM σ α :=
  Traced.ofExcept (result.mapError .configuration)

/-- Take a reading of the timer and report it. -/
def reading (timer : Timer σ) : TableM σ UInt32 := do
  let now ← Traced.act fun workspace =>
    let (now, hardware) := timer.now workspace.hardware
    (now, { workspace with hardware })
  Traced.emit (.reading now)
  return now

end TableM

namespace Port

open TableM

variable {σ : Type}

/-- Read a register. A failure is noted and names the register. -/
def read (port : Port σ) (offset : UInt32) : TableM σ UInt32 := do
  match ← readAccess port.transport offset with
  | .ok value => return value
  | .error error => do
      Traced.emit (.note (.readFailed offset error))
      Traced.fail (.registerAccess offset)

/-- Write a register. A failure is noted and names the register. -/
def write (port : Port σ) (offset value : UInt32) : TableM σ Unit := do
  match ← writeAccess port.transport offset value with
  | .ok () => pure ()
  | .error error => do
      Traced.emit (.note (.writeFailed offset value error))
      Traced.fail (.registerAccess offset)

/-- What happens when a settle poll runs out of time. -/
def expire (port : Port σ) (offset : UInt32) (poll : SettlePoll) (last : UInt32) :
    TableM σ Unit := do
  Traced.emit (.note (.unsettled offset poll.timeoutMicros last))
  match port.policy with
  | .fail => Traced.fail (.timeout offset)
  | .proceed => pure ()

/-- Read a register until its value is accepted, or until `budget` ticks have
passed since `start`. At least one read is made, and a value that is accepted
counts even if the time is up. After the given number of reads the poll is given up.
`last` is the value of the previous read. -/
def await (port : Port σ) (timer : Timer σ) (offset : UInt32) (poll : SettlePoll)
    (budget start : UInt32) : Nat → UInt32 → TableM σ Unit
  | 0, last => port.expire offset poll last
  | reads + 1, _ => do
      let value ← port.read offset
      if poll.accepts value then
        pure ()
      else do
        let now ← reading timer
        if budget ≤ elapsed start now then
          port.expire offset poll value
        else
          port.await timer offset poll budget start reads value

/-- Wait for a register to settle. The time is measured from a reading taken
before the first read. -/
def settle (port : Port σ) (offset : UInt32) (poll : SettlePoll) : TableM σ Unit :=
  match port.timer with
  | none => Traced.fail (.configuration .noTimer)
  | some timer => do
      let start ← reading timer
      port.await timer offset poll (microsToTicks timer.frequency poll.timeoutMicros)
        start port.maxReads 0

end Port

end DevicePower
