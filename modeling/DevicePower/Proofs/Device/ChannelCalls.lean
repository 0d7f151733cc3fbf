import DevicePower.Bench.Cells
import DevicePower.Proofs.Device.Channels
import DevicePower.Proofs.Device.Resistance

/-!
# Calls of the channels

The journal of a device says which channels were paused and resumed. Whether they really were can
only be seen in the hardware. This module lets the hardware keep a log of the calls itself: every
channel that is paused or resumed enters it there, and nothing else does. Whatever a device is asked
for, the journal and the log then go on with the same calls. So a step reports a call exactly when
it makes it, and no call is made behind the back of the journal.
-/

namespace DevicePower

open DeviceM Traced

variable {σ : Type}

namespace Device

/-- What `log` shows of the hardware is a log of the calls of the channels: each call is entered at
the end, and nothing else that the device reaches changes it. -/
structure LogsCalls (device : Device σ) (log : σ → List (Nat × ChannelAction)) : Prop where
  paused : ∀ number channel, device.trackedChannels[number]? = some channel → ∀ hardware,
    log (channel.pause hardware) = log hardware ++ [(number, .paused)]
  resumed : ∀ number channel, device.trackedChannels[number]? = some channel → ∀ hardware,
    log (channel.resume hardware) = log hardware ++ [(number, .resumed)]
  read : ∀ offset hardware, log (device.transport.read offset hardware).state = log hardware
  write : ∀ offset value hardware,
    log (device.transport.write offset value hardware).state = log hardware
  prepared : ∀ stage hook, device.hooks.hook stage = some hook → ∀ hardware,
    log (hook hardware).2 = log hardware
  ticked : ∀ timer, device.timer = some timer → ∀ hardware,
    log (timer.now hardware).2 = log hardware
  selected : ∀ controller, device.pins = some controller → ∀ state hardware,
    log (controller.select state hardware).2 = log hardware
  enabled : ∀ isRunning enable disable, .gate isRunning enable disable ∈ device.clocks →
    ∀ hardware, log (enable hardware) = log hardware
  disabled : ∀ isRunning enable disable, .gate isRunning enable disable ∈ device.clocks →
    ∀ hardware, log (disable hardware) = log hardware

/-- The log has gone on, since it showed `past`, with the calls that are reported. -/
def Logged (log : σ → List (Nat × ChannelAction)) (past : List (Nat × ChannelAction))
    (seen : List Event) (machine : Machine σ) : Prop :=
  log machine.hardware = past ++ seen.filterMap Event.switch

variable {device : Device σ} {log : σ → List (Nat × ChannelAction)}
variable {past : List (Nat × ChannelAction)} {seen : List Event} {machine : Machine σ}

/-- What is reported about anything else does not matter. -/
theorem Logged.other (logged : Logged log past seen machine) {event : Event}
    (unrelated : event.switch = none) : Logged log past (seen ++ [event]) machine := by
  rw [Logged, List.filterMap_append, List.filterMap_cons_none unrelated, List.filterMap_nil,
    List.append_nil]
  exact logged

/-- A call that is entered in the log is reported too. -/
theorem Logged.call (logged : Logged log past seen machine) {number : Nat}
    {action : ChannelAction} {events : List Event} {hardware : σ} {pausedChannels : UInt32}
    (reported : events.filterMap Event.switch = [(number, action)])
    (entered : log hardware = log machine.hardware ++ [(number, action)]) :
    Logged log past (seen ++ events) { machine with hardware, pausedChannels } := by
  rw [Logged, List.filterMap_append, reported, ← List.append_assoc, ← logged]
  exact entered

theorem switch_of_unrelated {event : Event}
    (unrelated : ∀ number action, event ≠ .channel number action) : event.switch = none := by
  cases event with
  | channel number action => exact absurd rfl (unrelated number action)
  | _ => rfl

/-! ## Steps -/

namespace LogsCalls

variable (logs : device.LogsCalls log)

include logs

/-- A channel that is found active and not paused yet is called, and reported as paused; another
one is not. -/
theorem keeps_pauseIfActive {number : Nat} {channel : Channel σ}
    (found : device.trackedChannels[number]? = some channel) :
    Keeps (Logged log past) (fun _ => True) (channel.pauseIfActive number) := by
  have known : number < device.trackedChannels.length := (List.getElem?_eq_some_iff.mp found).1
  intro seen machine logged
  rw [channel.pauseIfActive_apply (Nat.lt_of_lt_of_le known device.trackedChannels_length)]
  refine ⟨?_, fun _ _ => trivial⟩
  split
  next already => simpa using logged
  next free =>
    split
    next active => exact logged.call rfl (logs.paused number channel found machine.hardware)
    next idle => exact logged.other rfl

/-- A channel that is paused and selected is called, and reported as resumed; another one is
not. -/
theorem keeps_resumeIfPaused (selected : UInt32) {number : Nat} {channel : Channel σ}
    (found : device.trackedChannels[number]? = some channel) :
    Keeps (Logged log past) (fun _ => True) (channel.resumeIfPaused selected number) := by
  have known : number < device.trackedChannels.length := (List.getElem?_eq_some_iff.mp found).1
  intro seen machine logged
  rw [channel.resumeIfPaused_apply selected
    (Nat.lt_of_lt_of_le known device.trackedChannels_length)]
  refine ⟨?_, fun _ _ => trivial⟩
  split
  next chosen => exact logged.call rfl (logs.resumed number channel found machine.hardware)
  next spared => simpa using logged

/-- Nothing else enters the log, and nothing else is reported as a call. -/
theorem resists : device.Resists (fun _ => True) (fun _ => True) (Logged log past) where
  read offset _ machine logged := (logs.read offset machine.hardware).trans logged
  write offset value _ machine logged := (logs.write offset value machine.hardware).trans logged
  prepared stage hook _ present _ machine logged :=
    (logs.prepared stage hook present machine.hardware).trans logged
  ticked timer present _ machine logged :=
    (logs.ticked timer present machine.hardware).trans logged
  selected controller present state _ machine logged :=
    (logs.selected controller present state machine.hardware).trans logged
  reported _ _ _ within logged := logged.other (switch_of_unrelated within.ne_channel)
  unresolved _ _ _ _ logged := logged.other rfl

theorem steady :
    Steady device (fun _ => True) (fun _ => True) (Logged log past) (fun _ => True) := by
  have resists : device.Resists (fun _ => True) (fun _ => True) (Logged log past) := logs.resists
  apply resists.maintains.steady
  · intro _ number clock owned
    apply keeps_stop fun _ _ _ logged => logged.other rfl
    rintro isRunning enable disable rfl _ machine logged
    exact (logs.disabled _ _ _ (List.mem_of_getElem? owned) machine.hardware).trans logged
  · intro number clock owned
    apply keeps_start fun _ _ _ logged => logged.other rfl
    rintro isRunning enable disable rfl _ machine logged
    exact (logs.enabled _ _ _ (List.mem_of_getElem? owned) machine.hardware).trans logged
  · exact fun _ _ _ found => logs.keeps_pauseIfActive found
  · exact fun selected _ _ found => logs.keeps_resumeIfPaused selected found

end LogsCalls

/-! ## Requests -/

/-- Whatever a device is asked for, in any state and with any failures, the calls that its channels
get are those that the journal reports, in the same order. -/
theorem calls_reported (logs : device.LogsCalls log) (request : Request) (machine : Machine σ) :
    let outcome := device.perform request machine
    log outcome.state.hardware =
      log machine.hardware ++ outcome.events.filterMap Event.switch := by
  intro outcome
  have lasting : Lasting device (Logged log (log machine.hardware)) (fun _ => True) :=
    logs.resists.lasting (fun _ _ _ logged => logged.other rfl) logs.steady
      (fun _ => keeps_update fun _ _ logged => logged) (keeps_update fun _ _ logged => logged)
  have begins : Logged log (log machine.hardware) [] machine := by simp [Logged]
  exact (lasting.perform_any request [] machine begins).1

end Device

/-! ## Channels that keep a log -/

namespace Bench.LoggedCells

/-- Nothing on this board touches the log but the channels. -/
theorem logsCalls : port.LogsCalls LoggedCells.calls where
  paused number channel found hardware := by
    rcases number with _ | _ | number <;> cases found <;> rfl
  resumed number channel found hardware := by
    rcases number with _ | _ | number <;> cases found <;> rfl
  read _ _ := rfl
  write _ _ _ := rfl
  prepared stage hook present _ := by
    cases stage <;> cases present
    rfl
  ticked := nofun
  selected := nofun
  enabled := nofun
  disabled := nofun

/-- Both channels are called in a suspend, and called back in the resume after it. -/
example :
    let created := (port.createContext Uart.template (.initial {} [0, 0, 0, 0])).state
    let asleep := (port.history [.asked .runtimeResume, .asked .runtimeSuspend] created).state
    (port.perform .runtimeResume asleep).state.hardware.calls =
      [(0, .paused), (1, .paused), (0, .resumed), (1, .resumed)] := by
  decide +kernel

end Bench.LoggedCells

end DevicePower
