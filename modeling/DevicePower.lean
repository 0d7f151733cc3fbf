import DevicePower.Device.Text
import DevicePower.Fleet
import DevicePower.Proofs.Device.CallbackOrder
import DevicePower.Proofs.Device.CallbackPairs
import DevicePower.Proofs.Device.ChannelCalls
import DevicePower.Proofs.Device.ClockSafety
import DevicePower.Proofs.Device.ContextLoss
import DevicePower.Proofs.Device.Continuation
import DevicePower.Proofs.Device.Gating
import DevicePower.Proofs.Device.LockDiscipline
import DevicePower.Proofs.Device.Rollback
import DevicePower.Proofs.Device.RoundTrip
import DevicePower.Proofs.Device.Validation
import DevicePower.Proofs.Device.Busy
import DevicePower.Proofs.Device.Masking
import DevicePower.Proofs.Matching
import DevicePower.Proofs.Table.Matching
import DevicePower.Proofs.Device.PinsApart
import DevicePower.Proofs.Table.Replay
import DevicePower.Proofs.Device.Replay
import DevicePower.Proofs.Registry
import DevicePower.Proofs.Fleet
import DevicePower.Proofs.Device.Creation
import DevicePower.Proofs.Device.Bounds
import DevicePower.Proofs.Table.Settling
import DevicePower.Proofs.Device.PendingCheck
import DevicePower.Proofs.Device.LossDetection
import DevicePower.Proofs.Device.SkippedRestore
import DevicePower.Proofs.Condition.Meaning
import DevicePower.Proofs.Register.Unlocking
import DevicePower.Proofs.Table.Stopping
import DevicePower.Proofs.Table.Checking
import DevicePower.Proofs.Table.Rerunning
import DevicePower.Proofs.Table.Expiry
import DevicePower.Proofs.Device.AutosuspendDelay
import DevicePower.Proofs.Device.SaveOnce
import DevicePower.Proofs.Registry.Conservation
import DevicePower.Proofs.Register.WordArray
