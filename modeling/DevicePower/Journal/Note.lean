import DevicePower.Power
import DevicePower.Register.Transport
import DevicePower.Table.Entry

/-!
# Notes

What the library tells a human reader while it drives a device. A note is a
value; its level and its wording are derived from it here and nowhere else.
Offsets and register values appear in base sixteen, with a leading `0x`,
lower-case digits and no leading zeros.
-/

namespace DevicePower

/-- The digits of a number in base sixteen. -/
def hexDigits (number : Nat) : String :=
  String.ofList (Nat.toDigits 16 number)

/-- A word as notes show it. -/
def hex (word : UInt32) : String :=
  "0x" ++ hexDigits word.toNat

/-- How important a note is. -/
inductive Level where
  | trace
  | debug
  | warn
  | error
  deriving DecidableEq, Repr

/-- The name of a level. -/
def Level.name : Level → String
  | .trace => "TRACE"
  | .debug => "DEBUG"
  | .warn => "WARN"
  | .error => "ERROR"

/-- What there is to tell about one device. -/
inductive News where
  /-- The status register shows a pending interrupt. -/
  | interruptPending (status : UInt32)
  /-- The registers were found changed, for the given number of times so far. -/
  | contextLost (losses : UInt32)
  | pinsRefused (state : PinState)
  | noPinState (action : Action) (error : Error)
  | callbackFailed (stage : Stage) (error : Error)
  | runtimeSuspended
  | runtimeResumed
  | suspendDeferred
  | suspendFailed (error : Error)
  | resumeFailed (error : Error)
  | unmaskFailed (error : Error)
  | suspended (power : PowerState)
  | resumed
  /-- The device failed to wake up together with all others. -/
  | wakeUpFailed (error : Error)

namespace News

/-- How important news of a device are. -/
def level : News → Level
  | .interruptPending _ | .contextLost _ | .runtimeSuspended | .runtimeResumed
  | .suspendDeferred | .suspended _ | .resumed => .debug
  | .pinsRefused _ | .noPinState _ _ | .callbackFailed _ _ | .suspendFailed _
  | .resumeFailed _ | .unmaskFailed _ => .warn
  | .wakeUpFailed _ => .error

/-- The wording of news of a device. -/
def text : News → String
  | .interruptPending status => "interrupt pending (" ++ hex status ++ ")"
  | .contextLost losses => "context lost (" ++ toString losses ++ " times), restoring"
  | .pinsRefused state => "failed to select " ++ state.name ++ " pins"
  | .noPinState action error => "no pin state for " ++ action.name ++ ": " ++ error.text
  | .callbackFailed stage error => stage.name ++ " callback failed: " ++ error.text
  | .runtimeSuspended => "runtime suspended"
  | .runtimeResumed => "runtime resumed"
  | .suspendDeferred => "interrupt pending, suspend deferred"
  | .suspendFailed error => "runtime suspend failed: " ++ error.text
  | .resumeFailed error => "runtime resume failed: " ++ error.text
  | .unmaskFailed error => "cannot unmask interrupts: " ++ error.text
  | .suspended power => "suspended (" ++ power.name ++ ")"
  | .resumed => "resumed"
  | .wakeUpFailed error => "resume failed: " ++ error.text

end News

/-- Something worth telling. -/
inductive Note where
  /-- An entry was carried out; the value is the one that was moved. -/
  | entryDone (operation : Operation) (offset value : UInt32)
  /-- A live register differs from the slot it is compared with. -/
  | valueLost (offset saved live : UInt32)
  | readFailed (offset : UInt32) (error : BusError)
  | writeFailed (offset value : UInt32) (error : BusError)
  /-- A settle poll ran out of time. -/
  | unsettled (offset timeoutMicros last : UInt32)
  /-- News of the device with this name. -/
  | device (name : String) (news : News)
  /-- A request names a device that is not registered. -/
  | unknownDevice (id : Nat)

namespace Note

/-- How important a note is. -/
def level : Note → Level
  | .entryDone _ _ _ => .trace
  | .valueLost _ _ _ => .debug
  | .readFailed _ _ | .writeFailed _ _ _ | .unsettled _ _ _ => .warn
  | .device _ news => news.level
  | .unknownDevice _ => .error

/-- The wording of a note. -/
def text : Note → String
  | .entryDone operation offset value =>
      operation.text ++ " " ++ hex offset ++ " = " ++ hex value
  | .valueLost offset saved live =>
      "context lost at " ++ hex offset ++ ": saved " ++ hex saved ++ ", live " ++ hex live
  | .readFailed offset error => "read of " ++ hex offset ++ " failed: " ++ error.name
  | .writeFailed offset value error =>
      "write of " ++ hex value ++ " to " ++ hex offset ++ " failed: " ++ error.name
  | .unsettled offset timeoutMicros last =>
      "register " ++ hex offset ++ " did not settle within " ++ toString timeoutMicros ++
        "us (last read " ++ hex last ++ ")"
  | .device name news => name ++ ": " ++ news.text
  | .unknownDevice id => "no universal PM device with id " ++ toString id

end Note

end DevicePower
