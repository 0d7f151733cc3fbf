/-!
# Errors

Why an operation of the library fails. `ConfigError` says what is wrong with a
device description, `Error` what went wrong while a device was being driven.
Only `Error.busy` asks the caller to try again later.
-/

namespace DevicePower

/-- The points at which a device's own code takes part in a transition. -/
inductive Stage where
  | firstResume
  | runtimeSuspend
  | runtimeResume
  | restore
  | suspend
  | resume
  deriving DecidableEq, Repr

/-- The register tables of a device type. -/
inductive TableKind where
  | save
  | contextCheck
  | restore
  | irqDisable
  | irqEnable
  | clockDisable
  | clockEnable
  | wakeup
  deriving DecidableEq, Repr

/-- Why a device description, or a request about it, is rejected. -/
inductive ConfigError where
  /-- A table or a condition names a context slot that does not exist. -/
  | indexOutOfRange (index : Nat)
  /-- A capability is claimed, but the table it needs is empty. -/
  | missingTable (kind : TableKind)
  /-- A table entry combines options that make no sense together. -/
  | invalidEntry (kind : TableKind)
  /-- The storage behind a context cannot hold its template. -/
  | contextStorage
  /-- The context of this device was created before. -/
  | contextExists
  /-- Something has to be timed, but the device has no timer. -/
  | noTimer
  /-- The device owns more DMA channels than can be tracked. -/
  | tooManyChannels
  /-- A pending check is configured for a device that raises no interrupts. -/
  | pendingCheckWithoutIrq
  /-- The registry has no free slot. -/
  | registryFull
  /-- A condition nests too deeply, or refers back to itself. -/
  | conditionTooDeep
  deriving DecidableEq, Repr

/-- Why driving a device failed. -/
inductive Error where
  /-- The register at this offset could not be read or written. -/
  | registerAccess (offset : UInt32)
  /-- The device is in use; the caller is expected to try again. -/
  | busy
  /-- The register at this offset did not settle in time. -/
  | timeout (offset : UInt32)
  /-- The device description is wrong. -/
  | configuration (reason : ConfigError)
  /-- The device's own code for this stage reported failure. -/
  | callback (stage : Stage)
  deriving DecidableEq, Repr

/-! ## Wording -/

/-- The name a stage has in messages. -/
def Stage.name : Stage → String
  | .firstResume => "FirstResume"
  | .runtimeSuspend => "RuntimeSuspend"
  | .runtimeResume => "RuntimeResume"
  | .restore => "Restore"
  | .suspend => "Suspend"
  | .resume => "Resume"

/-- The name a table kind has in messages. -/
def TableKind.name : TableKind → String
  | .save => "Save"
  | .contextCheck => "ContextCheck"
  | .restore => "Restore"
  | .irqDisable => "IrqDisable"
  | .irqEnable => "IrqEnable"
  | .clockDisable => "ClockDisable"
  | .clockEnable => "ClockEnable"
  | .wakeup => "Wakeup"

/-- One line that describes a rejected description, for messages. -/
def ConfigError.text : ConfigError → String
  | .indexOutOfRange index => "IndexOutOfRange \x7b index: " ++ toString index ++ " \x7d"
  | .missingTable kind => "MissingTable(" ++ kind.name ++ ")"
  | .invalidEntry kind => "InvalidEntry(" ++ kind.name ++ ")"
  | .contextStorage => "ContextStorage"
  | .contextExists => "ContextExists"
  | .noTimer => "NoTimer"
  | .tooManyChannels => "TooManyChannels"
  | .pendingCheckWithoutIrq => "PendingCheckWithoutIrq"
  | .registryFull => "RegistryFull"
  | .conditionTooDeep => "ConditionTooDeep"

/-- One line that describes an error, for messages. -/
def Error.text : Error → String
  | .registerAccess offset =>
      "RegisterAccessFailed \x7b offset: " ++ toString offset ++ " \x7d"
  | .busy => "Busy"
  | .timeout offset => "Timeout \x7b offset: " ++ toString offset ++ " \x7d"
  | .configuration reason => "ConfigurationError(" ++ reason.text ++ ")"
  | .callback stage => "CallbackFailed \x7b stage: " ++ stage.name ++ " \x7d"

/-! ## Integer codes -/

/-- Whether the caller should try the operation again later. -/
def Error.isRetryable (error : Error) : Bool :=
  error == .busy

/-- The negative code under which a power management framework knows an error:
the codes for an input or output failure, a busy device, an expired time limit,
an invalid argument and a bad address, in this order of the causes. -/
def Error.code : Error → Int
  | .registerAccess _ => -5
  | .busy => -16
  | .timeout _ => -110
  | .configuration _ => -22
  | .callback _ => -14

/-- The integer a framework expects back from an operation: zero for success. -/
def resultCode : Except Error Unit → Int
  | .ok () => 0
  | .error error => error.code

end DevicePower
