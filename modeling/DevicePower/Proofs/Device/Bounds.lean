import DevicePower.Proofs.Condition
import DevicePower.Proofs.Device.Channels
import DevicePower.Proofs.Device.Creation
import DevicePower.Proofs.Table.Lookups
import DevicePower.Proofs.Timer

/-!
# Devices that were not checked

A device may be driven before its context is created, and then its description was not checked. Its
tables may name any slots, its conditions may go round in circles, and it may have any number of
channels. Still nothing goes out of bounds: the slots stay within the storage, a slot that does not
exist is reported and not accessed, every channel that is dealt with has a bit, and no number is
too large for its type.
-/

namespace DevicePower

open DeviceM TableM Traced

variable {σ : Type}

/-! ## Contexts and tables -/

/-- A context that lives in this storage takes no slice of it that is longer, and reports the slots
that it does not have. -/
structure Context.InBounds (storage : List UInt32) (context : Context) : Prop where
  /-- The slots are a slice of the storage. -/
  sliced : context.length ≤ context.storage.length
  empty : context.populated = false → context.length = 0
  /-- A template is copied only if the storage can hold it. -/
  copied : ∀ template after, context.populate template = .ok after →
    template.length ≤ context.storage.length ∧ after.LivesIn storage
  get_eq_error : ∀ index reason, context.get index = .error reason ↔
    context.length ≤ index ∧ .indexOutOfRange index = reason
  set_eq_error : ∀ index value reason, context.set index value = .error reason ↔
    context.length ≤ index ∧ .indexOutOfRange index = reason
  /-- A condition that comes to look up a slot which does not exist fails, even if its nodes go
  round in circles. -/
  eval_eq_missing : ∀ (condition : Condition) index,
    condition.eval context = .error (.indexOutOfRange index) ↔
      condition.Consults context index Condition.maxLevels condition.root ∧
        context.length ≤ index

theorem Context.LivesIn.inBounds {storage : List UInt32} {context : Context}
    (lives : context.LivesIn storage) : context.InBounds storage where
  sliced := lives.stored.symm ▸ lives.fits
  empty := lives.empty
  copied template after done := ⟨(populate_eq_ok_iff.mp done).2.1, lives.of_populate done⟩
  get_eq_error index reason := by rw [get_eq_error_iff, lives.values_length]
  set_eq_error index value reason := by rw [set_eq_error_iff, lives.values_length]
  eval_eq_missing condition index := by
    rw [Condition.eval, Condition.evalFrom_eq_missing_iff, lives.values_length]

/-- A port that runs tables on a context in this storage leaves it there. A table goes no further
than an entry that uses a slot which does not exist, and reports that slot. -/
structure Port.InBounds (storage : List UInt32) (port : Port σ) (workspace : Workspace σ) :
    Prop where
  kept : ∀ table, (Table.run port table workspace).state.context.LivesIn storage
  stops : ∀ before entry after index,
    entry.missing workspace.context.length = some index →
      Table.run port (before ++ entry :: after) workspace =
        (do
          Table.run port before
          entry.lead port
          fail (.noSlot index)) workspace
  differs_stops : ∀ before entry after, workspace.context.length ≤ entry.slot →
    Table.differs port (before ++ entry :: after) workspace =
      (do
        if ← Table.differs port before then
          return true
        else
          let _ ← port.read entry.offset
          fail (.noSlot entry.slot)) workspace
  /-- Only slots that are used and do not exist are reported. -/
  names : ∀ table index,
    (Table.run port table workspace).result = .error (.noSlot index) →
      ∃ entry ∈ table, index ∈ entry.uses ∧ workspace.context.length ≤ index

theorem Context.LivesIn.port_inBounds {storage : List UInt32} {workspace : Workspace σ}
    (lives : workspace.context.LivesIn storage) (port : Port σ) :
    port.InBounds storage workspace where
  kept table :=
    (Device.keeps_table (Device.contextProof_livesIn storage).set port table [] workspace lives).1
  stops before entry after index missing :=
    Table.run_of_missing before after (lives.values_length ▸ missing)
  differs_stops before entry after missing :=
    Table.differs_of_missing before after (lives.values_length ▸ missing)
  names table index failed := by
    rw [← lives.values_length]
    exact (table.keeps_length port _ [] workspace rfl).2 _ failed index rfl

/-! ## Conversions -/

/-- A duration is converted into ticks without overflow: the product fits, and so does the number
of ticks unless the counter is too short for it. -/
structure ExactTicks (frequency duration : UInt32) : Prop where
  product : (duration.toUInt64 * frequency.toUInt64).toNat = duration.toNat * frequency.toNat
  micros : (microsToTicks frequency duration).toNat =
    min (duration.toNat * frequency.toNat / 1000000) maxTicks.toNat
  millis : (millisToTicks frequency duration).toNat =
    min (duration.toNat * frequency.toNat / 1000) maxTicks.toNat

theorem exactTicks (frequency duration : UInt32) : ExactTicks frequency duration where
  product := toNat_product frequency duration
  micros := toNat_microsToTicks frequency duration
  millis := toNat_millisToTicks frequency duration

namespace Channel

/-- A sweep that pauses channels deals with each of them under its number. -/
theorem pauseAll_eq_mapM (number : Nat) (channels : List (Channel σ)) :
    pauseAll number channels = (do
      let bits ← (channels.zipIdx number).mapM fun (channel, number) =>
        channel.pauseIfActive number
      return bits.foldr (· ||| ·) 0) := by
  induction channels generalizing number with
  | nil => simp [pauseAll]
  | cons channel rest ih => simp [pauseAll, ih, List.zipIdx_cons, List.mapM_cons]

theorem resumeAll_eq_forM (selected : UInt32) (number : Nat) (channels : List (Channel σ)) :
    resumeAll selected number channels =
      (channels.zipIdx number).forM fun (channel, number) =>
        channel.resumeIfPaused selected number := by
  induction channels generalizing number with
  | nil => rfl
  | cons channel rest ih => simp [resumeAll, ih, List.zipIdx_cons, List.forM_cons]

end Channel

/-- The bit of a channel that is kept track of is not shifted out of the word. -/
theorem toNat_channelBit {number : Nat} (tracked : number < maxChannels) :
    (channelBit number).toNat = 2 ^ number := by
  have bound : number < 32 := tracked
  have wide : number < 2 ^ 32 := by omega
  have fits : 2 ^ number < 2 ^ 32 := Nat.pow_lt_pow_right (by omega) bound
  rw [channelBit, UInt32.toNat_shiftLeft, UInt32.toNat_ofNat', Nat.mod_eq_of_lt wide,
    Nat.mod_eq_of_lt bound, UInt32.toNat_one, Nat.one_shiftLeft, Nat.mod_eq_of_lt fits]

namespace Device

/-- The channels that are dealt with are numbered, and there is a bit for every number, however many
channels the device has. -/
structure NumbersChannels (device : Device σ) : Prop where
  pauses : device.pauseChannels =
    if device.driver.flags.dma then do
      let bits ← device.trackedChannels.zipIdx.mapM fun (channel, number) =>
        channel.pauseIfActive number
      return bits.foldr (· ||| ·) 0
    else
      return 0
  resumes : ∀ selected, device.resumeChannels selected =
    device.trackedChannels.zipIdx.forM fun (channel, number) =>
      channel.resumeIfPaused selected number
  bounded : ∀ channel number, (channel, number) ∈ device.trackedChannels.zipIdx →
    number < 32 ∧ (channelBit number).toNat = 2 ^ number

theorem numbersChannels (device : Device σ) : device.NumbersChannels where
  pauses := by rw [pauseChannels, Channel.pauseAll_eq_mapM]
  resumes selected := Channel.resumeAll_eq_forM selected 0 device.trackedChannels
  bounded channel number member := by
    have found := List.mem_zipIdx_iff_getElem?.mp member
    have known : number < device.trackedChannels.length := (List.getElem?_eq_some_iff.mp found).1
    have tracked : number < maxChannels :=
      Nat.lt_of_lt_of_le known (List.length_take_le maxChannels device.channels)
    exact ⟨tracked, toNat_channelBit tracked⟩

/-! ## Losses -/

/-- The count of losses stops at its largest value. -/
theorem toNat_countLoss (losses : UInt32) :
    (countLoss losses).toNat = min (losses.toNat + 1) (2 ^ 32 - 1) := by
  have bound := losses.toNat_lt
  rw [countLoss]
  split
  next largest =>
    subst largest
    rfl
  next less =>
    have below : losses.toNat ≠ 2 ^ 32 - 1 := fun same => less (UInt32.toNat_inj.mp same)
    rw [UInt32.toNat_add, UInt32.toNat_one, Nat.mod_eq_of_lt (by omega)]
    omega

theorem le_countLoss (losses : UInt32) : losses ≤ countLoss losses := by
  have bound := losses.toNat_lt
  rw [UInt32.le_iff_toNat_le, toNat_countLoss]
  omega

/-- The count of losses is no part of the workspace. -/
theorem keeps_losses {α : Type} {count : UInt32} {machine : Machine σ}
    (computation : TableM σ α) :
    Keeps
      (Workspace.Kept fun workspace =>
        count ≤ { machine with toWorkspace := workspace }.contextLosses)
      (fun _ => True) computation :=
  fun _ _ holds => ⟨holds, fun _ _ => trivial⟩

/-- The count of losses never decreases. -/
theorem lasting_losses (device : Device σ) (count : UInt32) :
    Lasting device (Throughout (fun _ => True) fun machine => count ≤ machine.contextLosses)
      (fun _ => True) := by
  -- A loss that is recorded is the only step that changes the count.
  have upkeep : Upkeep device (fun _ => True) (fun _ => True) (fun _ => True)
      (fun machine => count ≤ machine.contextLosses) (fun _ => True) := {
    run := fun _ _ _ _ _ => keeps_losses _
    differs := fun _ _ _ => keeps_losses _
    status := fun _ _ _ _ _ => keeps_losses _
    program := fun _ _ _ _ _ _ _ => keeps_losses _
    lost := fun machine holds => UInt32.le_trans holds (le_countLoss machine.contextLosses) }
  apply Lasting.of_enter upkeep.steady
  case enter => exact fun _ => keeps_update fun _ _ holds => holds
  case started => exact keeps_update fun _ _ holds => holds
  case create =>
    intro template
    apply (keeps_query _).bind
    intro context
    split
    · exact keeps_update fun _ _ holds => holds
    · exact keeps_fail trivial
  case serve => exact fun _ => Upkeep.keeps_working (fun _ => trivial) fun _ _ => keeps_losses _
  case read => exact fun _ => Upkeep.keeps_working (fun _ => trivial) fun _ _ => keeps_losses _
  case write => exact fun _ _ => Upkeep.keeps_working (fun _ => trivial) fun _ _ => keeps_losses _

/-- The count of losses goes up by one with each, as far as it can, and never starts over. -/
structure CountsLosses (device : Device σ) (machine : Machine σ) : Prop where
  records : (device.recordLoss machine).state.contextLosses.toNat =
    min (machine.contextLosses.toNat + 1) (2 ^ 32 - 1)
  grows : ∀ later, machine.contextLosses ≤ (device.history later machine).state.contextLosses

theorem countsLosses (device : Device σ) (machine : Machine σ) : device.CountsLosses machine where
  records := toNat_countLoss machine.contextLosses
  grows later := by
    have kept := (device.lasting_losses machine.contextLosses).history (fun _ _ _ holds => holds)
      (fun _ _ _ holds => holds) later
    obtain ⟨⟨-, grown⟩, -⟩ := kept [] machine ⟨by simp, UInt32.le_refl _⟩
    exact grown

/-! ## Devices -/

/-- Pins that depend on a slot which does not exist are left alone, and the slot is told. -/
theorem selectPins_of_missing {device : Device σ} {machine : Machine σ}
    {controller : PinController σ} {action : Action} {condition : Condition} {yes no : PinState}
    {index : Nat} (present : device.pins = some controller)
    (chosen : device.driver.pins.selection action = .choose condition yes no)
    (missing : condition.eval machine.context = .error (.indexOutOfRange index)) :
    device.selectPins action machine =
      ⟨.ok (), [.note (.device device.name (.noPinState action (.noSlot index)))], machine⟩ := by
  have unresolved : (device.driver.pins.selection action).resolve machine.context =
      .error (.indexOutOfRange index) := by
    rw [chosen, PinSelection.resolve, missing]
    rfl
  simp only [selectPins, present, query_bind_apply, unresolved, tell_apply]

/-- Whatever a callback does to a context, its slots are in the front of some storage. -/
theorem contextProof_lives :
    ContextProof (fun _ => True) fun context => ∃ storage, context.LivesIn storage where
  set _ _ _ _ := fun ⟨storage, lives⟩ done => ⟨storage, lives.of_set done⟩
  populate _ _ _ _ := fun ⟨storage, lives⟩ done => ⟨storage, lives.of_populate done⟩
  replace storage _ := ⟨storage, .new storage⟩

/-- In this state nothing goes out of bounds, and nothing ever will, whether the device was checked
or not. -/
structure InBounds (device : Device σ) (machine : Machine σ) : Prop where
  lives : ∃ storage, machine.context.LivesIn storage
  /-- Every step of a transition leaves the context in a storage, so that the next one finds it
  there. -/
  steady : Steady device (fun _ => True) (fun _ => True)
    (fun _ machine => ∃ storage, machine.context.LivesIn storage) (fun _ => True)
  contexts : ∀ storage context, Context.LivesIn storage context → context.InBounds storage
  ports : ∀ storage (port : Port σ) workspace, workspace.context.LivesIn storage →
    port.InBounds storage workspace
  pins : ∀ controller action condition yes no index, device.pins = some controller →
    device.driver.pins.selection action = .choose condition yes no →
      condition.Consults machine.context index Condition.maxLevels condition.root →
        machine.context.length ≤ index →
          device.selectPins action machine =
            ⟨.ok (), [.note (.device device.name (.noPinState action (.noSlot index)))], machine⟩
  channels : device.NumbersChannels
  ticks : ∀ frequency duration, ExactTicks frequency duration
  losses : device.CountsLosses machine

/-- The context lives in this storage, and no step of a transition takes it anywhere else. -/
structure StaysIn (device : Device σ) (storage : List UInt32) (machine : Machine σ) : Prop where
  lives : machine.context.LivesIn storage
  steady : Steady device (fun _ => True) (fun _ => True)
    (fun _ machine => machine.context.LivesIn storage) (fun _ => True)

/-- Whatever happens, the context lives in some storage. -/
theorem lives (device : Device σ) (hardware : σ) (storage : List UInt32)
    (happenings : List (Happening σ)) :
    ∃ held, (device.history happenings (.initial hardware storage)).state.context.LivesIn held := by
  have kept := keeps_history_of_contextProof device.hooks.only_anything contextProof_lives
    (fun _ _ _ => fun ⟨held, lives⟩ done => ⟨held, livesIn_of_newContext lives done⟩) happenings
  exact (kept [] (.initial hardware storage) ⟨storage, .new storage⟩).1

/-- Nothing goes out of bounds, whatever a device is like and whatever happens to it. If no callback
replaces the context, it stays in the storage that the device was given. -/
theorem stays_in_bounds (device : Device σ) (hardware : σ) (storage : List UInt32)
    (happenings : List (Happening σ)) :
    let reached := (device.history happenings (.initial hardware storage)).state
    device.InBounds reached ∧ (device.hooks.KeepContext → device.StaysIn storage reached) := by
  intro reached
  have lives := device.lives hardware storage happenings
  have upkeep := upkeep_of_contextProof device.hooks.only_anything contextProof_lives
  refine ⟨?_, fun callbacks => ?_⟩
  · constructor
    case lives => exact lives
    case steady => simpa only [throughout_true] using upkeep.steady
    case contexts => exact fun _ _ lives => lives.inBounds
    case ports => exact fun _ port _ lives => lives.port_inBounds port
    case pins =>
      intro controller action condition yes no index present chosen consults missing
      apply selectPins_of_missing present chosen
      obtain ⟨held, livesHeld⟩ := lives
      exact (livesHeld.inBounds.eval_eq_missing condition index).mpr ⟨consults, missing⟩
    case channels => exact device.numbersChannels
    case ticks => exact exactTicks
    case losses => exact device.countsLosses _
  · have staying := upkeep_of_contextProof callbacks (contextProof_livesIn storage)
    constructor
    · exact livesIn callbacks hardware storage happenings
    · simpa only [throughout_true] using staying.steady

/-- The serial port runs a table before its context is created. The first entry needs no slot; the
second reads its register, for which there is no slot, and the third is never reached. -/
theorem uart_stays_in_bounds :
    let fresh := Machine.initial Bench.Uart.board [0, 0]
    let table : Table :=
      [⟨.flushRead, 0, 9, .none, none⟩, ⟨.read, 4, 1, .none, none⟩, ⟨.write, 8, 0, .none, none⟩]
    let asked := Bench.Uart.device.runTable table fresh
    asked.result = .error (.noSlot 1) ∧ asked.state.context = fresh.context := by
  intro fresh table asked
  obtain ⟨bounds, stays⟩ := Bench.Uart.device.stays_in_bounds Bench.Uart.board [0, 0] []
  have lives : fresh.context.LivesIn [0, 0] :=
    (stays (Bench.makeNoContext_device _).keepContext).lives
  have stops := (bounds.ports [0, 0] Bench.Uart.device.port fresh.toWorkspace lives).stops
    [⟨.flushRead, 0, 9, .none, none⟩] ⟨.read, 4, 1, .none, none⟩ [⟨.write, 8, 0, .none, none⟩] 1
    (by decide)
  simp only [asked, table, runTable, working_apply, List.singleton_append] at stops ⊢
  rw [stops]
  decide +kernel

end Device

end DevicePower
