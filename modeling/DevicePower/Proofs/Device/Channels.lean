import DevicePower.Device.Channels
import DevicePower.Proofs.Device.Steps

/-!
# Pausing and resuming channels

A set of channels is a word with one bit for each. This module reads such words bit by
bit, and shows what a sweep over the channels of a device does to the set of paused ones:
pausing adds the bits that it answers with, all of them new, and resuming removes the
selected ones.
-/

namespace DevicePower

open DeviceM Traced

variable {σ : Type}

/-- The channel with this number belongs to the set. -/
def hasChannel (mask : UInt32) (number : Nat) : Bool :=
  mask.toBitVec.getLsbD number

theorem hasChannel_lt {mask : UInt32} {number : Nat} (member : hasChannel mask number = true) :
    number < maxChannels :=
  BitVec.lt_of_getLsbD member

@[simp] theorem hasChannel_zero (number : Nat) : hasChannel 0 number = false := by
  simp [hasChannel]

@[simp] theorem hasChannel_or (left right : UInt32) (number : Nat) :
    hasChannel (left ||| right) number = (hasChannel left number || hasChannel right number) := by
  simp [hasChannel]

@[simp] theorem hasChannel_and (left right : UInt32) (number : Nat) :
    hasChannel (left &&& right) number = (hasChannel left number && hasChannel right number) := by
  simp [hasChannel]

theorem hasChannel_not (mask : UInt32) {number : Nat} (tracked : number < maxChannels) :
    hasChannel (~~~mask) number = !hasChannel mask number := by
  have bound : number < 32 := tracked
  simp [hasChannel, bound]

theorem hasChannel_channelBit {number other : Nat} (tracked : number < maxChannels)
    (otherTracked : other < maxChannels) :
    hasChannel (channelBit number) other = decide (number = other) := by
  have bound : number < 32 := tracked
  have otherBound : other < 32 := otherTracked
  rw [hasChannel, channelBit, UInt32.toBitVec_shiftLeft]
  simp only [UInt32.toBitVec_ofNat', BitVec.shiftLeft_eq', BitVec.getLsbD_shiftLeft, otherBound]
  simp [Nat.mod_eq_of_lt bound]
  rw [Bool.eq_iff_iff]
  simp
  omega

/-- Sets with the same channels are the same word. -/
theorem eq_of_hasChannel {left right : UInt32}
    (same : ∀ number < maxChannels, hasChannel left number = hasChannel right number) :
    left = right := by
  apply UInt32.toBitVec_inj.mp
  exact BitVec.eq_of_getLsbD_eq same

theorem and_channelBit_eq_zero_iff {mask : UInt32} {number : Nat}
    (tracked : number < maxChannels) :
    mask &&& channelBit number = 0 ↔ hasChannel mask number = false := by
  constructor
  · intro absent
    have bit := congrArg (hasChannel · number) absent
    simpa [hasChannel_channelBit tracked tracked] using bit
  · intro absent
    apply eq_of_hasChannel
    intro other otherTracked
    rw [hasChannel_and, hasChannel_channelBit tracked otherTracked, hasChannel_zero]
    by_cases same : number = other
    · simp [← same, absent]
    · simp [same]

/-- Adding a channel to a set changes the set at its number only. -/
theorem hasChannel_or_channelBit {mask : UInt32} {number other : Nat}
    (tracked : number < maxChannels) (otherTracked : other < maxChannels) :
    hasChannel (mask ||| channelBit number) other =
      (hasChannel mask other || decide (number = other)) := by
  rw [hasChannel_or, hasChannel_channelBit tracked otherTracked]

/-- Removing a channel from a set changes the set at its number only. -/
theorem hasChannel_and_not_channelBit {mask : UInt32} {number other : Nat}
    (tracked : number < maxChannels) (otherTracked : other < maxChannels) :
    hasChannel (mask &&& ~~~channelBit number) other =
      (hasChannel mask other && !decide (number = other)) := by
  rw [hasChannel_and, hasChannel_not _ otherTracked, hasChannel_channelBit tracked otherTracked]

/-! ## Sweeps -/

/-- The channels of a set, from `number` on, all switched in the same way. -/
def switches (action : ChannelAction) (number count : Nat) (mask : UInt32) :
    List (Nat × ChannelAction) :=
  ((List.range' number count).filter (hasChannel mask)).map fun other => (other, action)

/-- Only the channels from `number` on decide which of them are switched. -/
theorem switches_congr {action : ChannelAction} {number count : Nat} {left right : UInt32}
    (same : ∀ other, number ≤ other → other < number + count →
      hasChannel left other = hasChannel right other) :
    switches action number count left = switches action number count right := by
  unfold switches
  congr 1
  apply List.filter_congr
  intro other member
  obtain ⟨low, high⟩ := List.mem_range'_1.mp member
  exact same other low high

theorem switches_succ (action : ChannelAction) (number count : Nat) (mask : UInt32) :
    switches action number (count + 1) mask =
      (if hasChannel mask number then [(number, action)] else []) ++
        switches action (number + 1) count mask := by
  cases member : hasChannel mask number with
  | true => simp [switches, List.range'_succ, member]
  | false => simp [switches, List.range'_succ, member]

namespace Channel

variable {number : Nat}

/-- A channel is looked at unless it is paused already, and paused if it is active. -/
theorem pauseIfActive_apply (tracked : number < maxChannels) (channel : Channel σ)
    (machine : Machine σ) :
    channel.pauseIfActive number machine =
      if hasChannel machine.pausedChannels number then
        ⟨.ok 0, [], machine⟩
      else if channel.isActive machine.hardware then
        ⟨.ok (channelBit number), [.channel number (.found true), .channel number .paused],
          { machine with
            hardware := channel.pause machine.hardware
            pausedChannels := machine.pausedChannels ||| channelBit number }⟩
      else
        ⟨.ok 0, [.channel number (.found false)], machine⟩ := by
  rw [pauseIfActive, query_bind_apply]
  cases before : hasChannel machine.pausedChannels number with
  | true =>
      have present : machine.pausedChannels &&& channelBit number ≠ 0 := by
        rw [ne_eq, and_channelBit_eq_zero_iff tracked, before]
        simp
      rw [if_neg present]
      rfl
  | false =>
      rw [if_pos ((and_channelBit_eq_zero_iff tracked).mpr before)]
      cases active : channel.isActive machine.hardware with
      | true =>
          simp only [bind_apply, look_apply, active]
          rfl
      | false =>
          simp only [bind_apply, look_apply, active]
          rfl

/-- A channel is resumed if it is paused and selected. -/
theorem resumeIfPaused_apply (selected : UInt32) (tracked : number < maxChannels)
    (channel : Channel σ) (machine : Machine σ) :
    channel.resumeIfPaused selected number machine =
      if hasChannel (machine.pausedChannels &&& selected) number then
        ⟨.ok (), [.channel number .resumed],
          { machine with
            hardware := channel.resume machine.hardware
            pausedChannels := machine.pausedChannels &&& ~~~channelBit number }⟩
      else
        ⟨.ok (), [], machine⟩ := by
  rw [resumeIfPaused, query_bind_apply]
  cases chosen : hasChannel (machine.pausedChannels &&& selected) number with
  | true =>
      have present : machine.pausedChannels &&& selected &&& channelBit number ≠ 0 := by
        rw [ne_eq, and_channelBit_eq_zero_iff tracked, chosen]
        simp
      rw [if_pos present]
      rfl
  | false =>
      have absent := (and_channelBit_eq_zero_iff tracked).mpr chosen
      rw [if_neg (by simpa using absent)]
      rfl

/-- A channel that is asked to pause answers with its bit if it was paused now. -/
theorem pauseIfActive_spec (tracked : number < maxChannels) (channel : Channel σ)
    (machine : Machine σ) :
    ∃ bits hardware events,
      channel.pauseIfActive number machine =
        ⟨.ok bits, events,
          { machine with hardware, pausedChannels := machine.pausedChannels ||| bits }⟩ ∧
      Accounts events [] (if hasChannel bits number then [(number, .paused)] else []) ∧
      ∀ other < maxChannels, hasChannel bits other = true →
        other = number ∧ hasChannel machine.pausedChannels number = false := by
  have unchanged : { machine with pausedChannels := machine.pausedChannels ||| 0 } = machine := by
    simp
  rw [pauseIfActive_apply tracked]
  split
  · refine ⟨0, machine.hardware, [], ?_, by simpa using accounts_nil, by simp⟩
    rw [unchanged]
  next before =>
    split
    · refine ⟨channelBit number, _, _, rfl, ⟨rfl, ?_, by simp [Event.interferes]⟩, ?_⟩
      · rw [hasChannel_channelBit tracked tracked]
        simp only [decide_true, if_true]
        rfl
      · intro other otherTracked member
        rw [hasChannel_channelBit tracked otherTracked] at member
        exact ⟨(of_decide_eq_true member).symm, by simpa using before⟩
    · refine ⟨0, machine.hardware, [.channel number (.found false)], ?_, ⟨rfl, ?_, ?_⟩, by simp⟩
      · rw [unchanged]
      · rw [hasChannel_zero]
        rfl
      · simp [Event.interferes]

/-- A channel that is asked to resume is removed from the paused ones if it is one of them
and selected. -/
theorem resumeIfPaused_spec (selected : UInt32) (tracked : number < maxChannels)
    (channel : Channel σ) (machine : Machine σ) :
    ∃ mask hardware events,
      channel.resumeIfPaused selected number machine =
        ⟨.ok (), events, { machine with hardware, pausedChannels := mask }⟩ ∧
      Accounts events []
        (if hasChannel (machine.pausedChannels &&& selected) number then [(number, .resumed)]
          else []) ∧
      ∀ other < maxChannels, hasChannel mask other =
        (hasChannel machine.pausedChannels other &&
          !(hasChannel selected other && decide (number = other))) := by
  rw [resumeIfPaused_apply selected tracked]
  split
  next chosen =>
    refine ⟨_, _, _, rfl, ⟨rfl, rfl, by simp [Event.interferes]⟩, ?_⟩
    intro other otherTracked
    rw [hasChannel_and_not_channelBit tracked otherTracked]
    by_cases same : number = other
    · subst same
      simp only [hasChannel_and, Bool.and_eq_true] at chosen
      simp [chosen]
    · simp [same]
  next spared =>
    refine ⟨machine.pausedChannels, machine.hardware, [], rfl, accounts_nil, ?_⟩
    intro other _
    by_cases same : number = other
    · subst same
      simpa using spared
    · simp [same]

/-- Pausing the channels from `number` on pauses the ones that it answers with, and only
channels that were not paused before. -/
theorem pauseAll_spec (channels : List (Channel σ)) (machine : Machine σ)
    (tracked : number + channels.length ≤ maxChannels) :
    ∃ bits hardware events,
      pauseAll number channels machine =
        ⟨.ok bits, events,
          { machine with hardware, pausedChannels := machine.pausedChannels ||| bits }⟩ ∧
      Accounts events [] (switches .paused number channels.length bits) ∧
      ∀ other < maxChannels, hasChannel bits other = true →
        number ≤ other ∧ other < number + channels.length ∧
          hasChannel machine.pausedChannels other = false := by
  induction channels generalizing number machine with
  | nil =>
      refine ⟨0, machine.hardware, [], ?_, accounts_nil, by simp⟩
      simp [pauseAll]
  | cons channel rest ih =>
      have later : number + 1 + rest.length ≤ maxChannels := by
        rw [List.length_cons] at tracked
        omega
      have here : number < maxChannels := by omega
      obtain ⟨first, hardware, events, stepped, accounts, bits⟩ :=
        pauseIfActive_spec here channel machine
      obtain ⟨others, hardwareRest, eventsRest, steppedRest, accountsRest, bitsRest⟩ :=
        ih { machine with hardware, pausedChannels := machine.pausedChannels ||| first } later
      refine ⟨first ||| others, hardwareRest, events ++ eventsRest, ?_, ?_, ?_⟩
      · rw [pauseAll, bind_apply, stepped]
        simp only [bind_apply, steppedRest, pure_apply, List.append_nil, UInt32.or_assoc]
      · have before : hasChannel others number = false := by
          cases member : hasChannel others number with
          | false => rfl
          | true =>
              have beyond := (bitsRest number here member).1
              omega
        have after : switches .paused (number + 1) rest.length (first ||| others) =
            switches .paused (number + 1) rest.length others := by
          apply switches_congr
          intro other low high
          cases member : hasChannel first other with
          | false => simp [member]
          | true =>
              have earlier := (bits other (by omega) member).1
              omega
        rw [List.length_cons, switches_succ, hasChannel_or, before, Bool.or_false, after]
        exact accounts.append accountsRest
      · intro other otherTracked member
        rw [hasChannel_or, Bool.or_eq_true] at member
        rw [List.length_cons]
        rcases member with member | member
        · obtain ⟨rfl, fresh⟩ := bits other otherTracked member
          exact ⟨by omega, by omega, fresh⟩
        · obtain ⟨low, high, fresh⟩ := bitsRest other otherTracked member
          simp only [hasChannel_or, Bool.or_eq_false_iff] at fresh
          exact ⟨by omega, by omega, fresh.1⟩

/-- Resuming the selected channels from `number` on removes those from the paused ones that
were among them. -/
theorem resumeAll_spec (selected : UInt32) (channels : List (Channel σ))
    (machine : Machine σ) (tracked : number + channels.length ≤ maxChannels) :
    ∃ mask hardware events,
      resumeAll selected number channels machine =
        ⟨.ok (), events, { machine with hardware, pausedChannels := mask }⟩ ∧
      Accounts events []
        (switches .resumed number channels.length (machine.pausedChannels &&& selected)) ∧
      ∀ other < maxChannels, hasChannel mask other =
        (hasChannel machine.pausedChannels other &&
          !(hasChannel selected other &&
            decide (number ≤ other ∧ other < number + channels.length))) := by
  induction channels generalizing number machine with
  | nil =>
      refine ⟨machine.pausedChannels, machine.hardware, [], rfl, accounts_nil, ?_⟩
      intro other _
      simp
      omega
  | cons channel rest ih =>
      have later : number + 1 + rest.length ≤ maxChannels := by
        rw [List.length_cons] at tracked
        omega
      have here : number < maxChannels := by omega
      obtain ⟨mask, hardware, events, stepped, accounts, bits⟩ :=
        resumeIfPaused_spec selected here channel machine
      obtain ⟨maskRest, hardwareRest, eventsRest, steppedRest, accountsRest, bitsRest⟩ :=
        ih { machine with hardware, pausedChannels := mask } later
      refine ⟨maskRest, hardwareRest, events ++ eventsRest, ?_, ?_, ?_⟩
      · rw [resumeAll, bind_apply, stepped]
        simp only [steppedRest]
      · have others : switches .resumed (number + 1) rest.length (mask &&& selected) =
            switches .resumed (number + 1) rest.length (machine.pausedChannels &&& selected) := by
          apply switches_congr
          intro other low high
          have different : number ≠ other := by omega
          simp [bits other (by omega), different]
        rw [List.length_cons, switches_succ, ← others]
        exact accounts.append accountsRest
      · intro other otherTracked
        rw [bitsRest other otherTracked, bits other otherTracked]
        by_cases same : number = other
        · subst same
          simp
        · have shifted : decide (number + 1 ≤ other ∧ other < number + 1 + rest.length) =
              decide (number ≤ other ∧ other < number + (rest.length + 1)) :=
            decide_eq_decide.mpr (by omega)
          rw [List.length_cons, shifted]
          simp only [same, decide_false, Bool.and_false, Bool.not_false, Bool.and_true]

end Channel

namespace Device

theorem trackedChannels_length (device : Device σ) :
    device.trackedChannels.length ≤ maxChannels := by
  rw [trackedChannels, List.length_take]
  omega

/-- Resuming never fails, and changes nothing but the hardware and the record of paused
channels. -/
theorem resumeChannels_spec (device : Device σ) (selected : UInt32) (machine : Machine σ) :
    ∃ mask hardware events,
      device.resumeChannels selected machine =
        ⟨.ok (), events, { machine with hardware, pausedChannels := mask }⟩ ∧
      Accounts events [] (switches .resumed 0 device.trackedChannels.length
        (machine.pausedChannels &&& selected)) ∧
      ∀ other < maxChannels, hasChannel mask other =
        (hasChannel machine.pausedChannels other &&
          !(hasChannel selected other && decide (other < device.trackedChannels.length))) := by
  have tracked : 0 + device.trackedChannels.length ≤ maxChannels := by
    simpa using device.trackedChannels_length
  obtain ⟨mask, hardware, events, swept, accounts, bits⟩ :=
    Channel.resumeAll_spec selected device.trackedChannels machine tracked
  refine ⟨mask, hardware, events, swept, accounts, ?_⟩
  intro other bound
  simpa using bits other bound

end Device

end DevicePower
