import DevicePower.Bench.Uart
import DevicePower.Proofs.Device.Channels
import DevicePower.Proofs.Device.Resistance
import DevicePower.Proofs.Device.Transitions

/-!
# Transfers under way

A channel that is paused twice, or resumed without having been paused, loses its transfer. The
record of paused channels keeps this from happening, although it survives suspends that fail and
is changed by suspends, by their undoing and by resumes alike. `Tracked` ties the record to the
journal: over any history, a channel is in the record exactly while the last thing done to it
was pausing it. That the journal reports the calls which the channels really get is shown by
`Device.calls_reported`.
-/

namespace DevicePower

open DeviceM Traced

variable {σ : Type}

/-! ## Switching one channel -/

/-- How this event switches the channel with the given number, if it does. -/
def Event.switchOf (number : Nat) (event : Event) : Option ChannelAction :=
  match event.switch with
  | some (other, action) => if other = number then some action else none
  | none => none

/-- How the channel with the given number was switched, in order. -/
def switchesOf (number : Nat) (events : List Event) : List ChannelAction :=
  events.filterMap (Event.switchOf number)

/-- Pausing and resuming in turns, beginning with a pause. -/
def turns (count : Nat) : List ChannelAction :=
  (List.range count).map fun turn => if turn % 2 = 0 then .paused else .resumed

theorem turns_succ (count : Nat) :
    turns (count + 1) = turns count ++ [if count % 2 = 0 then .paused else .resumed] := by
  simp [turns, List.range_succ]

/-- An odd number of turns ends with a pause. -/
theorem getLast?_turns_iff (count : Nat) :
    (turns count).getLast? = some .paused ↔ count % 2 = 1 := by
  cases count with
  | zero => simp [turns]
  | succ count =>
      rw [turns_succ, List.getLast?_concat]
      split <;> simp <;> omega

theorem switchesOf_concat (number : Nat) (events : List Event) (event : Event) :
    switchesOf number (events ++ [event]) =
      switchesOf number events ++ (event.switchOf number).toList := by
  rw [switchesOf, List.filterMap_append]
  cases switched : event.switchOf number with
  | none => simp [switchesOf, switched]
  | some action => simp [switchesOf, switched]

theorem mem_of_mem_switchesOf {number : Nat} {action : ChannelAction} {events : List Event}
    (member : action ∈ switchesOf number events) : .channel number action ∈ events := by
  obtain ⟨event, present, switched⟩ := List.mem_filterMap.mp member
  cases event with
  | channel other switching =>
      cases switching with
      | found active => simp [Event.switchOf, Event.switch] at switched
      | paused =>
          simp only [Event.switchOf, Event.switch, Option.ite_none_right_eq_some,
            Option.some.injEq] at switched
          obtain ⟨rfl, rfl⟩ := switched
          exact present
      | resumed =>
          simp only [Event.switchOf, Event.switch, Option.ite_none_right_eq_some,
            Option.some.injEq] at switched
          obtain ⟨rfl, rfl⟩ := switched
          exact present
  | _ => simp [Event.switchOf, Event.switch] at switched

namespace Device

/-! ## The record and the journal -/

/-- A channel is paused only after it was found active. -/
def PausesActive (before : List Event) (event : Event) : Prop :=
  ∀ number, event = .channel number .paused →
    before.getLast? = some (.channel number (.found true))

/-- The record of paused channels agrees with the events so far. Only channels that the device
keeps track of were dealt with, and only by a driver that has the capability. -/
structure Tracked (device : Device σ) (events : List Event) (paused : UInt32) : Prop where
  alternates : ∀ number < maxChannels, ∃ count, switchesOf number events = turns count ∧
    hasChannel paused number = decide (count % 2 = 1)
  active : Guarded PausesActive events
  connected : ∀ number action, .channel number action ∈ events →
    number < device.trackedChannels.length ∧ device.driver.flags.dma = true

namespace Tracked

variable {device : Device σ} {events : List Event} {paused : UInt32}

/-- Other events do not matter. -/
theorem other (tracked : device.Tracked events paused) {event : Event}
    (unrelated : ∀ number action, event ≠ .channel number action) :
    device.Tracked (events ++ [event]) paused where
  alternates := by
    intro number bound
    have silent : event.switchOf number = none := by
      cases event with
      | channel other action => exact absurd rfl (unrelated other action)
      | _ => rfl
    rw [switchesOf_concat, silent, Option.toList_none, List.append_nil]
    exact tracked.alternates number bound
  active := by
    rw [guarded_concat_iff]
    exact ⟨tracked.active, fun number same => absurd same (unrelated number .paused)⟩
  connected := by
    intro number action member
    rcases List.mem_append.mp member with old | new
    · exact tracked.connected number action old
    · exact absurd (List.mem_singleton.mp new).symm (unrelated number action)

/-- One more dealing with a channel that was dealt with rightly. -/
theorem switched (tracked : device.Tracked events paused) {number : Nat}
    {action : ChannelAction} {after : UInt32}
    (known : number < device.trackedChannels.length) (dma : device.driver.flags.dma = true)
    (guard : PausesActive events (.channel number action))
    (others : ∀ other < maxChannels, other ≠ number →
      hasChannel after other = hasChannel paused other)
    (turn : number < maxChannels → ∃ count,
      switchesOf number (events ++ [.channel number action]) = turns count ∧
        hasChannel after number = decide (count % 2 = 1)) :
    device.Tracked (events ++ [.channel number action]) after where
  alternates := by
    intro other bound
    by_cases same : other = number
    · subst same
      exact turn bound
    · have silent : (Event.channel number action).switchOf other = none := by
        cases action <;> simp [Event.switchOf, Event.switch, Ne.symm same]
      rw [switchesOf_concat, silent, Option.toList_none, List.append_nil,
        others other bound same]
      exact tracked.alternates other bound
  active := guarded_concat_iff.mpr ⟨tracked.active, guard⟩
  connected := by
    intro other action member
    rcases List.mem_append.mp member with old | new
    · exact tracked.connected other action old
    · cases List.mem_singleton.mp new
      exact ⟨known, dma⟩

/-- A channel that is looked at keeps its place in the record. -/
theorem found (tracked : device.Tracked events paused) {number : Nat} (active : Bool)
    (known : number < device.trackedChannels.length) (dma : device.driver.flags.dma = true) :
    device.Tracked (events ++ [.channel number (.found active)]) paused := by
  apply tracked.switched known dma (fun _ same => by cases same) fun _ _ _ => rfl
  intro bound
  rw [switchesOf_concat, Event.switchOf, Event.switch, Option.toList_none, List.append_nil]
  exact tracked.alternates number bound

/-- A channel that was found active and is not in the record may be paused. -/
theorem pause (tracked : device.Tracked events paused) {number : Nat}
    (known : number < device.trackedChannels.length) (dma : device.driver.flags.dma = true)
    (found : events.getLast? = some (.channel number (.found true)))
    (free : hasChannel paused number = false) :
    device.Tracked (events ++ [.channel number .paused])
      (paused ||| channelBit number) := by
  have bound : number < maxChannels := Nat.lt_of_lt_of_le known device.trackedChannels_length
  apply tracked.switched known dma
  · intro other same
    cases same
    exact found
  · intro other otherBound different
    rw [hasChannel_or_channelBit bound otherBound]
    simp [Ne.symm different]
  · intro _
    obtain ⟨count, switches, record⟩ := tracked.alternates number bound
    have even : count % 2 = 0 := by
      rw [free] at record
      have := of_decide_eq_false record.symm
      omega
    refine ⟨count + 1, ?_, ?_⟩
    · rw [switchesOf_concat, switches, turns_succ, if_pos even]
      simp [Event.switchOf, Event.switch]
    · rw [hasChannel_or_channelBit bound bound]
      simp
      omega

/-- A channel in the record was paused. -/
theorem paused_of_recorded (tracked : device.Tracked events paused) {number : Nat}
    (recorded : hasChannel paused number = true) : .channel number .paused ∈ events := by
  obtain ⟨count, switches, record⟩ := tracked.alternates number (hasChannel_lt recorded)
  rw [recorded] at record
  have last := (getLast?_turns_iff count).mpr (of_decide_eq_true record.symm)
  rw [← switches] at last
  exact mem_of_mem_switchesOf (List.mem_of_getLast? last)

/-- The channels in the record are connected. -/
theorem lt_length (tracked : device.Tracked events paused) {number : Nat}
    (recorded : hasChannel paused number = true) : number < device.trackedChannels.length :=
  (tracked.connected number .paused (tracked.paused_of_recorded recorded)).1

/-- A channel in the record may be resumed. -/
theorem resume (tracked : device.Tracked events paused) {number : Nat}
    (recorded : hasChannel paused number = true) :
    device.Tracked (events ++ [.channel number .resumed])
      (paused &&& ~~~channelBit number) := by
  have bound : number < maxChannels := hasChannel_lt recorded
  obtain ⟨known, dma⟩ := tracked.connected number .paused (tracked.paused_of_recorded recorded)
  apply tracked.switched known dma fun _ same => by cases same
  · intro other otherBound different
    rw [hasChannel_and_not_channelBit bound otherBound]
    simp [Ne.symm different]
  · intro _
    obtain ⟨count, switches, record⟩ := tracked.alternates number bound
    have odd : count % 2 = 1 := by
      rw [recorded] at record
      exact of_decide_eq_true record.symm
    refine ⟨count + 1, ?_, ?_⟩
    · rw [switchesOf_concat, switches, turns_succ, if_neg (by omega)]
      simp [Event.switchOf, Event.switch]
    · rw [hasChannel_and_not_channelBit bound bound]
      simp
      omega

end Tracked

/-! ## Every step -/

/-- The journal and the record, as an invariant. -/
def Tracks (device : Device σ) (seen : List Event) (machine : Machine σ) : Prop :=
  device.Tracked seen machine.pausedChannels

theorem tracks_resists (device : Device σ) :
    device.Resists (fun _ => True) (fun _ => True) device.Tracks where
  reported _ _ _ within tracked := tracked.other within.ne_channel
  unresolved _ _ _ _ tracked := tracked.other nofun

theorem tracks_pauseIfActive (device : Device σ) {number : Nat} {channel : Channel σ}
    (dma : device.driver.flags.dma = true)
    (found : device.trackedChannels[number]? = some channel) :
    Keeps device.Tracks (fun _ => True) (channel.pauseIfActive number) := by
  have known : number < device.trackedChannels.length := (List.getElem?_eq_some_iff.mp found).1
  intro seen machine tracked
  rw [channel.pauseIfActive_apply (Nat.lt_of_lt_of_le known device.trackedChannels_length)]
  refine ⟨?_, fun _ _ => trivial⟩
  split
  · simpa using tracked
  next free =>
    have looked (active : Bool) := tracked.found active known dma
    split
    · have paused := (looked true).pause known dma (by simp) (by simpa using free)
      rw [List.append_assoc] at paused
      exact paused
    · exact looked false

theorem tracks_resumeIfPaused (device : Device σ) (selected : UInt32) {number : Nat}
    {channel : Channel σ} (found : device.trackedChannels[number]? = some channel) :
    Keeps device.Tracks (fun _ => True) (channel.resumeIfPaused selected number) := by
  have known : number < device.trackedChannels.length := (List.getElem?_eq_some_iff.mp found).1
  intro seen machine tracked
  rw [channel.resumeIfPaused_apply selected
    (Nat.lt_of_lt_of_le known device.trackedChannels_length)]
  refine ⟨?_, fun _ _ => trivial⟩
  split
  next chosen =>
    rw [hasChannel_and, Bool.and_eq_true] at chosen
    exact tracked.resume chosen.1
  next => simpa using tracked

theorem tracks_steady (device : Device σ) :
    Steady device (fun _ => True) (fun _ => True) device.Tracks (fun _ => True) := by
  apply device.tracks_resists.maintains.steady
  · intro _ number clock _
    exact keeps_stop (fun _ _ _ tracked => tracked.other nofun) fun _ _ _ _ _ _ tracked => tracked
  · intro number clock _
    exact keeps_start (fun _ _ _ tracked => tracked.other nofun) fun _ _ _ _ _ _ tracked => tracked
  · exact fun dma _ _ found => device.tracks_pauseIfActive dma found
  · exact fun selected _ _ found => device.tracks_resumeIfPaused selected found

theorem tracks_lasting (device : Device σ) : Lasting device device.Tracks (fun _ => True) :=
  device.tracks_resists.lasting (fun _ _ _ tracked => tracked.other nofun) device.tracks_steady
    (fun _ => keeps_update fun _ _ tracked => tracked) (keeps_update fun _ _ tracked => tracked)

/-- The record agrees with the journal after any history. -/
theorem tracked_history (device : Device σ) (happenings : List (Happening σ)) (hardware : σ)
    (storage : List UInt32) :
    device.Tracked (device.history happenings (.initial hardware storage)).events
      (device.history happenings (.initial hardware storage)).state.pausedChannels := by
  have untouched : device.Tracks [] (.initial hardware storage) := {
    alternates := fun number _ => ⟨0, rfl, by simp [Machine.initial]⟩
    active := guarded_nil
    connected := by simp }
  exact (device.tracks_lasting.history (fun _ _ _ tracked => tracked)
    (fun _ _ _ tracked => tracked) happenings _ _ untouched).1

/-! ## Steps away from the channels -/

section Apart

variable (device : Device σ) (sound : List Event → PowerState → Bool → UInt32 → Prop)
variable (more : ∀ seen event power done paused, (∀ number action, event ≠ .channel number action) →
  sound seen power done paused → sound (seen ++ [event]) power done paused)

include more

theorem resists_apart :
    device.Resists (fun _ => True) (fun _ => True) fun seen machine =>
      sound seen machine.power machine.firstResumeDone machine.pausedChannels where
  reported event seen machine within := more seen event _ _ _ within.ne_channel
  unresolved _ _ seen machine := more seen _ _ _ _ nofun

/-- What is said about the events, the power state, the first resume and the record of paused
channels is kept by every step of a device without channels, if other events do not matter to
it. -/
theorem steady_apart :
    Steady device.unplugged (fun _ => True) (fun _ => True)
      (fun seen machine =>
        sound seen machine.power machine.firstResumeDone machine.pausedChannels)
      (fun _ => True) := by
  apply (device.resists_apart sound more).maintains.steady_unplugged
  · intro _ number clock _
    exact keeps_stop (fun _ seen _ => more seen _ _ _ _ nofun) fun _ _ _ _ _ _ holds => holds
  · intro number clock _
    exact keeps_start (fun _ seen _ => more seen _ _ _ _ nofun) fun _ _ _ _ _ _ holds => holds

/-- The same of every request that is no transition. -/
theorem perform_apart {request : Request} (plain : request.isTransition = false) :
    Keeps
      (fun seen machine =>
        sound seen machine.power machine.firstResumeDone machine.pausedChannels)
      (fun _ => True) (device.perform request) := by
  have resists := device.resists_apart sound more
  have steady := device.steady_apart sound more
  have requested := fun activity seen (machine : Machine σ) =>
    more seen (.activity .request activity) machine.power machine.firstResumeDone
      machine.pausedChannels nofun
  exact resists.keeps_plain requested steady (fun _ _ => trivial) (fun _ => trivial) plain

end Apart

/-- No channel was dealt with. -/
def Silent (events : List Event) : Prop :=
  ∀ number action, .channel number action ∉ events

theorem Silent.concat {events : List Event} {event : Event} (silent : Silent events)
    (unrelated : ∀ number action, event ≠ .channel number action) : Silent (events ++ [event]) := by
  intro number action member
  rcases List.mem_append.mp member with old | new
  · exact silent number action old
  · exact unrelated number action (List.mem_singleton.mp new).symm

/-! ## Resuming -/

/-- All channels in the record are connected to the device. -/
def Connected (device : Device σ) (paused : UInt32) : Prop :=
  ∀ number, hasChannel paused number = true → number < device.trackedChannels.length

/-- Resuming all paused channels empties the record. -/
theorem resumeChannels_clears (device : Device σ) {machine : Machine σ}
    (connected : device.Connected machine.pausedChannels) :
    ∃ hardware events, device.resumeChannels machine.pausedChannels machine =
      ⟨.ok (), events, { machine with hardware, pausedChannels := 0 }⟩ := by
  obtain ⟨mask, hardware, events, swept, -, bits⟩ :=
    device.resumeChannels_spec machine.pausedChannels machine
  have empty : mask = 0 := by
    apply eq_of_hasChannel
    intro other bound
    cases recorded : hasChannel machine.pausedChannels other with
    | false => simp [bits other bound, recorded]
    | true => simp [bits other bound, recorded, connected other recorded]
  exact ⟨hardware, events, empty ▸ swept⟩

/-- A resume of a device that is not active leaves no channel paused. -/
theorem ends_runtimeResume_cleared (device : Device σ) :
    Ends
      (fun _ machine => device.Connected machine.pausedChannels ∧
        (machine.firstResumeDone = false → machine.pausedChannels = 0) ∧ machine.power ≠ .active)
      (fun _ _ machine => machine.pausedChannels = 0) (fun _ _ _ => True)
      device.runtimeResume := by
  apply ends_runtimeResume
  · rintro seen machine ⟨-, -, inactive⟩ - active
    exact absurd active inactive
  · have steady := device.steady_apart (fun _ _ _ paused => device.Connected paused)
      fun _ _ _ _ _ _ connected => connected
    have restored : Keeps (fun _ machine => device.Connected machine.pausedChannels)
        (fun _ => True) device.restore := steady.restore trivial trivial trivial
    have powered : Keeps (fun _ machine => device.Connected machine.pausedChannels)
        (fun _ => True) device.powerUp := steady.powerUp trivial trivial trivial
    have cleared (paused : UInt32) : Ends
        (fun _ machine => device.Connected machine.pausedChannels ∧ machine.pausedChannels = paused)
        (fun _ _ machine => machine.pausedChannels = 0)
        (fun _ _ machine => device.Connected machine.pausedChannels)
        (device.resumeChannels paused) := by
      rintro seen machine ⟨connected, rfl⟩
      obtain ⟨hardware, events, swept⟩ := device.resumeChannels_clears connected
      rw [swept]
    rw [wakeUp_eq]
    have woken := restored.ends.bind fun _ => powered.ends.bind fun _ => ends_query_bind cleared
    exact woken.weaken (fun _ _ before => before.1.1) (fun _ _ _ empty => empty)
      fun _ _ _ _ => trivial
  · have steady := device.steady_apart (fun _ _ _ paused => paused = 0)
      fun _ _ _ _ _ _ empty => empty
    have called : Keeps (fun _ machine => machine.pausedChannels = 0) (fun _ => True)
        (device.callback .firstResume) := steady.callback .firstResume trivial
    exact called.ends.weaken (fun _ _ before => before.1.2.1 before.2) (fun _ _ _ empty => empty)
      fun _ _ _ _ => trivial

/-- The channels come last in a resume, so that one that fails has not come to them. -/
theorem ends_runtimeResume_silent (device : Device σ) :
    Ends (fun seen _ => Silent seen) (fun _ _ _ => True) (fun _ seen _ => Silent seen)
      device.runtimeResume := by
  have steady := device.steady_apart (fun seen _ _ _ => Silent seen)
    fun _ _ _ _ _ unrelated silent => silent.concat unrelated
  apply ends_runtimeResume
  · exact fun _ _ _ _ _ => trivial
  · rw [wakeUp_eq]
    have restored : Keeps (fun seen _ => Silent seen) (fun _ => True) device.restore :=
      steady.restore trivial trivial trivial
    have powered : Keeps (fun seen _ => Silent seen) (fun _ => True) device.powerUp :=
      steady.powerUp trivial trivial trivial
    have resumed (paused : UInt32) : Ends (fun _ _ => True) (fun _ _ _ => True)
        (fun _ seen _ => Silent seen) (device.resumeChannels paused) := by
      intro seen machine _
      obtain ⟨mask, hardware, events, swept, -⟩ := device.resumeChannels_spec paused machine
      simp [swept]
    have broughtUp : Ends (fun seen _ => Silent seen) (fun _ _ _ => True)
        (fun _ seen _ => Silent seen) device.bringUp :=
      powered.ends.bind fun _ =>
        ends_query_bind fun paused => (resumed paused).given fun _ _ _ => trivial
    have woken := restored.ends.bind fun _ => broughtUp
    exact woken.weaken (fun _ _ before => before.1) (fun _ _ _ _ => trivial)
      fun _ _ _ silent => silent.concat nofun
  · have called : Keeps (fun seen _ => Silent seen) (fun _ => True)
        (device.callback .firstResume) :=
      steady.callback .firstResume trivial
    exact called.ends.weaken (fun _ _ before => before.1) (fun _ _ _ _ => trivial)
      fun _ _ _ silent => silent

/-! ## Over every history -/

/-- Every channel was paused and resumed in turns, paused only after it was found active, and
is in the record exactly if it was paused last. Channels that do not exist or that have no bit
were never dealt with, and neither was any channel of a driver without the capability. -/
structure TransfersKept (device : Device σ) (events : List Event) (machine : Machine σ) :
    Prop where
  alternating : ∀ number < maxChannels, ∃ count, switchesOf number events = turns count
  recorded : ∀ number < maxChannels, hasChannel machine.pausedChannels number = true ↔
    (switchesOf number events).getLast? = some .paused
  active : ∀ before number after, events = before ++ .channel number .paused :: after →
    before.getLast? = some (.channel number (.found true))
  connected : ∀ number action, .channel number action ∈ events →
    number < maxChannels ∧ number < device.channels.length
  unknown : ∀ number, device.channels.length ≤ number →
    hasChannel machine.pausedChannels number = false
  incapable : device.driver.flags.dma = false → ∀ number action,
    .channel number action ∉ events

theorem lt_of_lt_trackedChannels (device : Device σ) {number : Nat}
    (known : number < device.trackedChannels.length) :
    number < maxChannels ∧ number < device.channels.length := by
  rw [trackedChannels, List.length_take] at known
  omega

theorem Tracked.kept {device : Device σ} {events : List Event} {machine : Machine σ}
    (tracked : device.Tracked events machine.pausedChannels) :
    device.TransfersKept events machine where
  alternating := by
    intro number bound
    obtain ⟨count, switches, -⟩ := tracked.alternates number bound
    exact ⟨count, switches⟩
  recorded := by
    intro number bound
    obtain ⟨count, switches, record⟩ := tracked.alternates number bound
    rw [switches, getLast?_turns_iff, record, decide_eq_true_iff]
  active := fun before number after same => tracked.active before _ after same number rfl
  connected := fun number action member =>
    device.lt_of_lt_trackedChannels (tracked.connected number action member).1
  unknown := by
    intro number beyond
    cases recorded : hasChannel machine.pausedChannels number with
    | false => rfl
    | true =>
        have known := (device.lt_of_lt_trackedChannels (tracked.lt_length recorded)).2
        omega
  incapable := by
    intro incapable number action member
    have dma := (tracked.connected number action member).2
    simp [incapable] at dma

/-- The bookkeeping of transfers is right after any history, whatever failed in it and however
the transfers came and went. A resume that fails afterwards resumes no channel, and one that
runs its steps to the end leaves none paused. -/
theorem transfers_kept (device : Device σ) (hardware : σ) (storage : List UInt32)
    (happenings : List (Happening σ)) :
    let past := device.history happenings (.initial hardware storage)
    let resumed := device.runtimeResume past.state
    device.TransfersKept past.events past.state ∧
      (∀ error, resumed.result = .error error →
        ∀ number, .channel number .resumed ∉ resumed.events) ∧
      (past.state.firstResumeDone = true → past.state.power ≠ .active →
        resumed.result = .ok () → resumed.state.pausedChannels = 0) := by
  intro past resumed
  have tracked := device.tracked_history happenings hardware storage
  refine ⟨tracked.kept, ?_, ?_⟩
  · intro error failed number
    have silent : Silent [] := by simp [Silent]
    exact device.ends_runtimeResume_silent.of_error [] silent failed number .resumed
  · intro done inactive succeeded
    have fresh : past.state.firstResumeDone = false → past.state.pausedChannels = 0 := by
      simp [done]
    exact device.ends_runtimeResume_cleared.of_ok []
      ⟨fun _ recorded => tracked.lt_length recorded, fresh, inactive⟩ succeeded

/-- The serial port pauses its transfer in a suspend. The resume after it fails at first, on a
board that has lost its registers, and leaves the transfer paused; on a sound board it succeeds
and resumes it. -/
theorem uart_transfers_kept :
    let asleep : List (Happening Bench.Board) :=
      [.asked (.createContext Bench.Uart.template), .asked .runtimeResume, .asked .runtimeSuspend]
    let past := Bench.Uart.device.history asleep (.initial Bench.Uart.board [0, 0, 0, 0])
    let spoilt := Bench.Uart.device.history (asleep ++ [.changed Bench.Uart.damaged])
      (.initial Bench.Uart.board [0, 0, 0, 0])
    past.state.pausedChannels = channelBit 0 ∧
      (Bench.Uart.device.runtimeResume spoilt.state).result = .error (.registerAccess 0) ∧
      .channel 0 .resumed ∉ (Bench.Uart.device.runtimeResume spoilt.state).events ∧
      (Bench.Uart.device.runtimeResume past.state).result = .ok () ∧
      (Bench.Uart.device.runtimeResume past.state).state.pausedChannels = 0 := by
  intro asleep
  have spoiltKept := Bench.Uart.device.transfers_kept Bench.Uart.board [0, 0, 0, 0]
    (asleep ++ [.changed Bench.Uart.damaged])
  have kept := Bench.Uart.device.transfers_kept Bench.Uart.board [0, 0, 0, 0] asleep
  refine ⟨by decide +kernel, by decide +kernel, ?_, by decide +kernel, ?_⟩
  · exact spoiltKept.2.1 (.registerAccess 0) (by decide +kernel) 0
  · exact kept.2.2 (by decide +kernel) (by decide +kernel) (by decide +kernel)

end Device

end DevicePower
