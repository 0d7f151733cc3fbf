import DevicePower.Bench.Cells
import DevicePower.Proofs.Device.PowerCycle
import DevicePower.Proofs.Device.Steps
import DevicePower.Proofs.Table.Words

/-!
# From suspend to resume and back

A device that saves some registers when it is suspended brings them back when it is resumed,
whatever happened to them in between. Suspend and resume are different operations with many
steps of their own, and a resume may have to be tried again and again: what carries the
values through all of this is that nothing but the save table writes the slots of the context
that hold them, and that nothing disturbs the registers once they were restored.

Runtime suspend and system sleep restore at different points. A runtime resume that fails
starts all over, while a system resume that fails late does not restore again.
-/

namespace DevicePower

open DeviceM TableM Traced

variable {σ : Type}

/-- The register and the slot that an entry is about. -/
def Entry.pair (entry : Entry) : UInt32 × Nat :=
  (entry.offset, entry.slot)

namespace Driver

/-- The register at this offset is saved. -/
def Saves (driver : Driver) (offset : UInt32) : Prop :=
  ∃ entry ∈ driver.tables .save, entry.offset = offset

/-- This slot holds a saved register. -/
def SavedIn (driver : Driver) (slot : Nat) : Prop :=
  ∃ entry ∈ driver.tables .save, entry.slot = slot

/-- The restore table writes back exactly what the save table reads, in any order, and no
other table reads into the slots in between. If registers are compared first, all of the
saved ones are. -/
structure RoundTrips (driver : Driver) : Prop where
  reads : ∀ entry ∈ driver.tables .save, entry.operation = .read
  distinct : ((driver.tables .save).map Entry.slot).Nodup
  writes : ∀ entry ∈ driver.tables .restore,
    entry.operation = .write ∨ entry.operation = .writeThenRead
  pairs : ∀ pair, pair ∈ (driver.tables .restore).map Entry.pair ↔
    pair ∈ (driver.tables .save).map Entry.pair
  everyTime : driver.flags.saveOnce = false
  alone : ∀ kind, kind ≠ .save → kind ≠ .contextCheck → ∀ entry ∈ driver.tables kind,
    entry.operation = .read → ¬driver.SavedIn entry.slot
  compares : driver.flags.checkContextLoss = true →
    ∀ pair ∈ (driver.tables .save).map Entry.pair,
      pair ∈ (driver.tables .contextCheck).map Entry.pair

/-- Neither ungating the clocks nor unmasking interrupts writes a saved register. -/
def WakesQuietly (driver : Driver) : Prop :=
  ∀ kind, kind = .clockEnable ∨ kind = .irqEnable → ∀ entry ∈ driver.tables kind,
    entry.operation.writes = true → ¬driver.Saves entry.offset

/-- The context holds these words for the saved registers. -/
def Stored (driver : Driver) (words : UInt32 → UInt32) (context : Context) : Prop :=
  ∀ entry ∈ driver.tables .save, context.get entry.slot = .ok (words entry.offset)

theorem stored_frame {driver : Driver} {words : UInt32 → UInt32} (context after : Context)
    (slot : Nat) (value : UInt32) (free : ¬driver.SavedIn slot)
    (done : context.set slot value = .ok after) (stored : driver.Stored words context) :
    driver.Stored words after := by
  intro entry member
  have different : slot ≠ entry.slot := by
    rintro rfl
    exact free ⟨entry, member, rfl⟩
  rw [Context.get_of_set_ne done different]
  exact stored entry member

/-- If no slot is saved in, then every context holds the words. -/
theorem stored_of_free {driver : Driver} (words : UInt32 → UInt32) (context : Context)
    (free : ∀ slot, ¬driver.SavedIn slot) : driver.Stored words context :=
  fun entry member => absurd ⟨entry, member, rfl⟩ (free entry.slot)

end Driver

namespace Device

/-- The saved registers of a device are like memory. Clocks, channels, pins and the timer
leave them alone, and callbacks write neither them nor their slots. -/
structure Undisturbed (device : Device σ) (word : UInt32 → σ → UInt32) : Prop where
  port : device.port.Remembers word device.driver.Saves
  clocks : ∀ isRunning enable disable, .gate isRunning enable disable ∈ device.clocks →
    Leaves word device.driver.Saves enable
  channels : ∀ channel ∈ device.channels, Leaves word device.driver.Saves channel.pause ∧
    Leaves word device.driver.Saves channel.resume
  pins : ∀ controller, device.pins = some controller → ∀ state,
    Leaves word device.driver.Saves fun hardware => (controller.select state hardware).2
  hooks : ∀ stage hook, device.hooks.hook stage = some hook →
    (Leaves word device.driver.Saves fun hardware => (hook hardware).2) ∧
      ∀ hardware, (hook hardware).1.Only
        (Callback.Step.Spares device.driver.Saves device.driver.SavedIn)

variable {device : Device σ} {word : UInt32 → σ → UInt32} {words : UInt32 → UInt32}

/-! ## What keeps the slots, and what keeps the registers -/

/-- Nothing but the save table overwrites a saved word. -/
theorem steady_stored (driver : device.driver.RoundTrips) (undisturbed : device.Undisturbed word)
    (words : UInt32 → UInt32) :
    Steady device (fun kind => kind ≠ .save) (fun _ => True)
      (Throughout (fun _ => True) fun machine => device.driver.Stored words machine.context)
      (fun _ => True) := by
  have upkeep : Upkeep device (fun kind => kind ≠ .save) (fun _ => True) (fun _ => True)
      (fun machine => device.driver.Stored words machine.context) (fun _ => True) := {
    run := fun kind other runs _ _ => Table.keeps_run fun entry member =>
      Entry.steps_stored Driver.stored_frame device.port entry
        (driver.alone kind other runs entry member)
    differs := fun _ _ _ => Table.keeps_differs
      (fun _ _ => Port.keeps_read (fun _ stored => stored) trivial)
      fun _ _ => Entry.keeps_fetch fun _ _ _ _ => trivial
    status := fun _ _ _ _ _ => Port.keeps_read (fun _ stored => stored) trivial
    program := fun stage hook _ present _ hardware _ =>
      Callback.keeps_run ((undisturbed.hooks stage hook present).2 hardware)
        (fun _ => keeps_readAccess fun _ stored => stored)
        (fun _ _ _ => keeps_writeAccess fun _ stored => stored)
        (fun _ _ free => keeps_store fun workspace after stored done =>
          Driver.stored_frame workspace.context after _ _ free done stored)
        (fun _ free => keeps_populate fun _ after _ _ => Driver.stored_of_free words after free)
        (fun _ free => keeps_replace fun _ _ => Driver.stored_of_free words _ free) }
  exact upkeep.steady

/-- What writes no saved register and stops no clock leaves the saved registers alone. -/
theorem steady_holds (undisturbed : device.Undisturbed word) (words : UInt32 → UInt32)
    (tables : TableKind → Prop) (running : ¬tables .clockDisable)
    (free : ∀ kind, tables kind → kind ≠ .contextCheck → ∀ entry ∈ device.driver.tables kind,
      entry.operation.writes = true → ¬device.driver.Saves entry.offset) :
    Steady device tables (fun _ => True)
      (Throughout (fun _ => True) fun machine =>
        Holds word device.driver.Saves words machine.hardware)
      (fun _ => True) := by
  have remembers := undisturbed.port
  have upkeep : Upkeep device tables (fun _ => True) (fun _ => True)
      (fun machine => Holds word device.driver.Saves words machine.hardware) (fun _ => True) := {
    run := fun kind used runs _ _ => Table.keeps_run fun entry member =>
      entry.steps_holds remembers (free kind used runs entry member)
    differs := fun _ _ _ => Table.keeps_differs
      (fun _ _ => Port.keeps_read (fun _ holds => holds.of_read remembers.transport _) trivial)
      fun _ _ => Entry.keeps_fetch fun _ _ _ _ => trivial
    status := fun _ _ _ _ _ =>
      Port.keeps_read (fun _ holds => holds.of_read remembers.transport _) trivial
    program := fun stage hook _ present _ hardware _ =>
      Callback.keeps_run_of_accesses ((undisturbed.hooks stage hook present).2 hardware)
        (fun _ _ holds => holds)
        (fun _ => keeps_readAccess fun _ holds => holds.of_read remembers.transport _)
        (fun _ value free => keeps_writeAccess fun _ holds =>
          holds.of_write remembers.transport free value)
    prepared := fun stage hook _ present _ holds =>
      holds.of_change (undisturbed.hooks stage hook present).1
    ticked := fun timer present _ holds => holds.of_change (remembers.timer timer present)
    enabled := fun isRunning enable disable owned _ holds =>
      holds.of_change (undisturbed.clocks isRunning enable disable owned)
    disabled := fun stopped => absurd stopped running
    paused := fun channel owned _ holds => holds.of_change (undisturbed.channels channel owned).1
    resumed := fun channel owned _ holds => holds.of_change (undisturbed.channels channel owned).2
    selected := fun controller present state _ holds =>
      holds.of_change (undisturbed.pins controller present state) }
  exact upkeep.steady

/-! ## Saving and restoring -/

/-- A save brings the registers into their slots. -/
theorem save_stores (driver : device.driver.RoundTrips) (undisturbed : device.Undisturbed word)
    {machine : Machine σ} (start : Holds word device.driver.Saves words machine.hardware)
    (saved : (device.save machine).result = .ok ()) :
    device.driver.Stored words (device.save machine).state.context := by
  rw [save, bind_apply] at saved ⊢
  simp only [query_apply, driver.everyTime, Bool.false_and, Bool.false_eq_true, if_false]
    at saved ⊢
  obtain ⟨⟨⟩, ran, -⟩ := bind_succeeds_iff.mp saved
  rw [bind_of_ok ran]
  rw [runDriverTable_apply] at ran
  have stored := Table.run_reads undisturbed.port driver.reads
    (fun entry member => ⟨entry, member, rfl⟩) driver.distinct start ran
  intro entry member
  simpa [runDriverTable_apply] using stored.1 entry member

theorem holds_of_pairs {table : Table} {hardware : σ}
    (covers : ∀ pair ∈ (device.driver.tables .save).map Entry.pair,
      pair ∈ table.map Entry.pair)
    (right : ∀ entry ∈ table, entry.pair ∈ (device.driver.tables .save).map Entry.pair →
      word entry.offset hardware = words entry.offset) :
    Holds word device.driver.Saves words hardware := by
  rintro offset ⟨entry, member, rfl⟩
  obtain ⟨other, otherMember, same⟩ :=
    List.mem_map.mp (covers entry.pair (List.mem_map_of_mem member))
  have offsets : other.offset = entry.offset := congrArg Prod.fst same
  rw [← offsets]
  apply right other otherMember
  rw [same]
  exact List.mem_map_of_mem member

/-- An entry of a table that mentions saved pairs only finds the saved word in its slot. -/
theorem Stored.of_pair {driver : Driver} {context : Context}
    (stored : driver.Stored words context) {entry : Entry}
    (listed : entry.pair ∈ (driver.tables .save).map Entry.pair) :
    context.get entry.slot = .ok (words entry.offset) := by
  obtain ⟨saver, member, same⟩ := List.mem_map.mp listed
  have offsets : saver.offset = entry.offset := congrArg Prod.fst same
  have slots : saver.slot = entry.slot := congrArg Prod.snd same
  rw [← offsets, ← slots]
  exact stored saver member

/-- Writing back brings the registers back from their slots. -/
theorem writeBack_holds (driver : device.driver.RoundTrips)
    (undisturbed : device.Undisturbed word) {machine : Machine σ}
    (stored : device.driver.Stored words machine.context)
    (written : (device.writeBack machine).result = .ok ()) :
    Holds word device.driver.Saves words (device.writeBack machine).state.hardware := by
  have listed : ∀ entry ∈ device.driver.tables .restore,
      entry.pair ∈ (device.driver.tables .save).map Entry.pair :=
    fun entry member => (driver.pairs entry.pair).mp (List.mem_map_of_mem member)
  have kept : ∀ entry ∈ device.driver.tables .restore, device.driver.Saves entry.offset := by
    intro entry member
    obtain ⟨saver, saves, same⟩ := List.mem_map.mp (listed entry member)
    exact ⟨saver, saves, congrArg Prod.fst same⟩
  obtain ⟨⟨⟩, ran, -⟩ := bind_succeeds_iff.mp written
  rw [writeBack, bind_of_ok ran]
  rw [runDriverTable_apply] at ran
  obtain ⟨restored, -⟩ := Table.run_writes undisturbed.port driver.writes kept
    (fun entry member => Stored.of_pair stored (listed entry member)) ran
  have holds : Holds word device.driver.Saves words
      (device.runDriverTable .restore machine).state.hardware := by
    apply holds_of_pairs (fun pair member => (driver.pairs pair).mpr member)
    intro entry member _
    simpa [runDriverTable_apply] using restored entry member
  have steady := steady_holds undisturbed words (fun _ => False) (fun stopped => stopped) nofun
  exact state_of_keeps (steady.callback .restore trivial) holds

/-- A restore that succeeds leaves the saved words in their registers, whether it wrote them
back or found them there. -/
theorem restore_holds (driver : device.driver.RoundTrips) (undisturbed : device.Undisturbed word)
    {machine : Machine σ} (stored : device.driver.Stored words machine.context)
    (restored : (device.restore machine).result = .ok ()) :
    Holds word device.driver.Saves words (device.restore machine).state.hardware := by
  rw [restore] at restored ⊢
  split
  next checks =>
    rw [if_pos checks] at restored
    obtain ⟨differs, found, rest⟩ := bind_succeeds_iff.mp restored
    rw [bind_of_ok found]
    have steady := steady_stored driver undisturbed words
    have storedStill : device.driver.Stored words (device.lostContext machine).state.context :=
      state_of_keeps (steady.comparison (by simp)) stored
    cases differs with
    | true =>
        obtain ⟨⟨⟩, recorded, written⟩ := bind_succeeds_iff.mp rest
        rw [if_pos rfl, bind_of_ok recorded]
        exact writeBack_holds driver undisturbed (state_of_keeps steady.recordLoss storedStill)
          written
    | false =>
        have unmoved : Holds word device.driver.Saves (fun offset => word offset machine.hardware)
            (device.lostContext machine).state.hardware := by
          have comparing := steady_holds undisturbed (fun offset => word offset machine.hardware)
            (fun kind => kind = .contextCheck) (by simp) fun kind same runs => absurd same runs
          exact state_of_keeps (comparing.comparison rfl) fun _ _ => rfl
        rw [lostContext_apply] at found
        have agree := Table.differs_false undisturbed.port found
        apply holds_of_pairs (driver.compares checks)
        intro entry member listed
        obtain ⟨saver, saves, same⟩ := List.mem_map.mp listed
        have kept : device.driver.Saves entry.offset := ⟨saver, saves, congrArg Prod.fst same⟩
        have saved := Stored.of_pair stored listed
        rw [agree entry member kept] at saved
        apply (unmoved entry.offset kept).trans
        exact Except.ok.inj saved
  next unchecked =>
    rw [if_neg unchecked] at restored
    exact writeBack_holds driver undisturbed stored restored

/-! ## Runtime suspend -/

theorem concludeSuspend_succeeds {paused : UInt32} {result : Except Error Unit}
    {machine : Machine σ}
    (done : (device.concludeSuspend paused result machine).result = .ok ()) : result = .ok () := by
  rw [concludeSuspend.eq_def] at done
  split at done
  · rfl
  · obtain ⟨_, -, impossible⟩ := bind_succeeds_iff.mp done
    cases impossible
  · cases done

/-- A runtime suspend that succeeds consists of its two parts. -/
theorem suspendActive_succeeds {action : Action} {machine : Machine σ}
    (done : (device.suspendActive action machine).result = .ok ()) :
    ∃ paused, (device.prepareSuspend machine).result = .ok paused ∧
      (device.suspendActive action machine).state =
        { (device.quiesce action (device.prepareSuspend machine).state).state with
          power := .runtimeSuspended } := by
  rw [suspendActive, attempt_bind_apply] at done ⊢
  cases prepared : (device.prepareSuspend machine).result with
  | error error =>
      simp only [prepared] at done
      cases concludeSuspend_succeeds done
  | ok paused =>
      simp only [prepared, attempt_bind_apply] at done ⊢
      refine ⟨paused, rfl, ?_⟩
      rw [concludeSuspend_succeeds done]
      rfl

/-- The device sleeps at run time with the saved words in its context. -/
structure Resting (device : Device σ) (words : UInt32 → UInt32) (machine : Machine σ) :
    Prop where
  stored : device.driver.Stored words machine.context
  power : machine.power = .runtimeSuspended
  begun : machine.firstResumeDone = true

theorem resting_of_runtimeSuspend (driver : device.driver.RoundTrips)
    (undisturbed : device.Undisturbed word) {machine : Machine σ}
    (active : machine.power = .active) (begun : machine.firstResumeDone = true)
    (suspended : (device.runtimeSuspend machine).result = .ok ()) :
    device.Resting (fun offset => word offset machine.hardware)
      (device.runtimeSuspend machine).state := by
  let words : UInt32 → UInt32 := fun offset => word offset machine.hardware
  have same : device.runtimeSuspend machine = device.suspendActive .suspend machine := by
    rw [runtimeSuspend, runtimeSuspendFor, query_bind_apply, if_pos active]
  rw [same] at suspended ⊢
  obtain ⟨paused, prepared, state⟩ := suspendActive_succeeds suspended
  obtain ⟨⟨⟩, saved, -⟩ := bind_succeeds_iff.mp prepared
  have steady := steady_stored driver undisturbed words
  have record := device.steady_record fun _ done => done = true
  have storedBefore : device.driver.Stored words (device.prepareSuspend machine).state.context := by
    rw [prepareSuspend, bind_of_ok saved]
    exact state_of_keeps steady.pauseChannels
      (save_stores driver undisturbed (fun _ _ => rfl) saved)
  have begunBefore : (device.prepareSuspend machine).state.firstResumeDone = true :=
    state_of_keeps (record.prepareSuspend trivial) begun
  rw [state]
  refine ⟨?_, rfl, ?_⟩
  · exact state_of_keeps
      (steady.quiesce .suspend (by simp) (by simp) (by simp) trivial) storedBefore
  · exact state_of_keeps (record.quiesce .suspend trivial trivial trivial trivial) begunBefore

theorem runtimeResume_of_asleep {machine : Machine σ} (begun : machine.firstResumeDone = true)
    (asleep : machine.power = .runtimeSuspended) :
    device.runtimeResume machine =
      (device.wakeUp.attempt >>= device.concludeResume) machine := by
  rw [runtimeResume, query_bind_apply, if_pos begun, if_neg (by simp [asleep])]

/-- A runtime resume that fails leaves the saved words where they are. -/
theorem Resting.of_failure (driver : device.driver.RoundTrips)
    (undisturbed : device.Undisturbed word) {machine : Machine σ}
    (resting : device.Resting words machine)
    (failed : (device.runtimeResume machine).result ≠ .ok ()) :
    device.Resting words (device.runtimeResume machine).state := by
  have steady := steady_stored driver undisturbed words
  have record := device.steady_record fun power done => power = .runtimeSuspended ∧ done = true
  rw [runtimeResume_of_asleep resting.begun resting.power, attempt_bind_apply] at failed ⊢
  cases ended : (device.wakeUp machine).result with
  | ok done =>
      rw [ended] at failed
      exact absurd rfl failed
  | error error =>
      obtain ⟨power, begun⟩ := state_of_keeps
        (record.wakeUp trivial trivial trivial trivial trivial trivial)
        ⟨resting.power, resting.begun⟩
      refine ⟨?_, power, begun⟩
      exact state_of_keeps (steady.wakeUp (by simp) (by simp) (by simp) (by simp) trivial trivial)
        resting.stored

/-- A runtime resume that succeeds leaves the saved words in their registers. -/
theorem Resting.holds_of_success (driver : device.driver.RoundTrips)
    (undisturbed : device.Undisturbed word)
    (quiet : device.driver.WakesQuietly) {machine : Machine σ}
    (resting : device.Resting words machine)
    (resumed : (device.runtimeResume machine).result = .ok ()) :
    Holds word device.driver.Saves words (device.runtimeResume machine).state.hardware := by
  rw [runtimeResume_of_asleep resting.begun resting.power, attempt_bind_apply] at resumed ⊢
  cases ended : (device.wakeUp machine).result with
  | error error =>
      rw [ended] at resumed
      cases resumed
  | ok done =>
      rw [wakeUp_eq] at ended
      obtain ⟨⟨⟩, restored, -⟩ := bind_succeeds_iff.mp ended
      have steady := steady_holds undisturbed words
        (fun kind => kind = .clockEnable ∨ kind = .irqEnable) (by simp)
        (fun kind used _ => quiet kind used)
      have holds : Holds word device.driver.Saves words (device.wakeUp machine).state.hardware := by
        rw [wakeUp_eq, bind_of_ok restored]
        exact state_of_keeps (steady.bringUp (.inl rfl) (.inr rfl) trivial)
          (restore_holds driver undisturbed resting.stored restored)
      exact holds

/-! ## System sleep -/

/-- The device is asleep with the saved words in its context, or it is awake again with the
saved words in its registers as well. -/
structure Asleep (device : Device σ) (word : UInt32 → σ → UInt32) (words : UInt32 → UInt32)
    (machine : Machine σ) : Prop where
  stored : device.driver.Stored words machine.context
  power : machine.power = .systemSuspended ∨
    machine.power = .active ∧ Holds word device.driver.Saves words machine.hardware

theorem asleep_of_suspend (driver : device.driver.RoundTrips)
    (undisturbed : device.Undisturbed word)
    (systemContext : device.driver.flags.systemContext = true) {machine : Machine σ}
    (active : machine.power = .active)
    (suspended : (device.suspend machine).result = .ok ()) :
    (device.suspend machine).state.power = .systemSuspended ∧
      device.Asleep word (fun offset => word offset machine.hardware)
        (device.suspend machine).state := by
  let words : UInt32 → UInt32 := fun offset => word offset machine.hardware
  have steady := steady_stored driver undisturbed words
  have calm := steady_holds undisturbed words (fun _ => False) (fun stopped => stopped) nofun
  have awake : device.wakeBeforeSleep machine = ⟨.ok (), [], machine⟩ := by
    rw [wakeBeforeSleep, query_bind_apply, if_neg (by simp [active]), pure_apply]
  have shape : device.suspend machine =
      (device.callback .suspend >>= fun _ => device.sleepWithContext >>= fun _ => do
        let power ← query fun machine => machine.power
        device.tell (.suspended power)) machine := by
    rw [suspend, query_bind_apply, if_neg (by simp [active]), bind_apply, awake, sleep,
      if_pos systemContext]
    simp
  rw [shape] at suspended ⊢
  obtain ⟨⟨⟩, called, rest⟩ := bind_succeeds_iff.mp suspended
  rw [bind_of_ok called]
  obtain ⟨⟨⟩, slept, -⟩ := bind_succeeds_iff.mp rest
  rw [bind_of_ok slept]
  let before := (device.callback .suspend machine).state
  have start : Holds word device.driver.Saves words before.hardware :=
    state_of_keeps (calm.callback .suspend trivial) fun _ _ => rfl
  obtain ⟨⟨⟩, saved, others⟩ := bind_succeeds_iff.mp slept
  have stored := save_stores driver undisturbed start saved
  obtain ⟨⟨⟩, selected, others⟩ := bind_succeeds_iff.mp others
  obtain ⟨⟨⟩, gated, -⟩ := bind_succeeds_iff.mp others
  have state : (device.sleepWithContext before).state =
      { (device.gateClocks (device.selectPins .suspend (device.save before).state).state).state with
        power := .systemSuspended } := by
    rw [sleepWithContext, bind_of_ok saved, bind_of_ok selected, bind_of_ok gated]
    rfl
  have entered : (device.sleepWithContext before).state.power = .systemSuspended := by
    rw [state]
  have kept : device.driver.Stored words (device.sleepWithContext before).state.context := by
    rw [state]
    exact state_of_keeps (steady.gateClocks (by simp))
      (state_of_keeps (steady.pins .suspend) stored)
  exact ⟨entered, kept, .inl entered⟩

/-- A device that is asleep stays so, or wakes up with the saved words in its registers. -/
theorem Asleep.wakeFrom (driver : device.driver.RoundTrips)
    (undisturbed : device.Undisturbed word) {machine : Machine σ}
    (asleep : device.Asleep word words machine) :
    device.Asleep word words (device.wakeFrom machine.power machine).state ∧
      ((device.wakeFrom machine.power machine).result = .ok () →
        (device.wakeFrom machine.power machine).state.power = .active) := by
  have stored := steady_stored driver undisturbed words
  have record := device.steady_record fun power _ => power = .systemSuspended
  have calm := steady_holds undisturbed words (fun _ => False) (fun stopped => stopped) nofun
  rcases asleep.power with suspended | ⟨active, holds⟩
  · rw [suspended, Device.wakeFrom, wakeWithContext]
    have ungated := state_of_keeps ((stored.ungateClocks (by simp)).throughout_and
      (record.ungateClocks trivial)) ⟨asleep.stored, suspended⟩
    have restored := state_of_keeps ((stored.restore (by simp) (by simp) trivial).throughout_and
      (record.restore trivial trivial trivial)) ungated
    have selected := state_of_keeps ((stored.pins .resume).throughout_and
      (record.pins .resume)) restored
    constructor
    · apply bind_state ⟨ungated.1, .inl ungated.2⟩
      intro _ _
      apply bind_state ⟨restored.1, .inl restored.2⟩
      intro _ done
      apply bind_state ⟨selected.1, .inl selected.2⟩
      intro _ _
      refine ⟨selected.1, .inr ⟨rfl, ?_⟩⟩
      exact state_of_keeps (calm.pins .resume)
        (restore_holds driver undisturbed ungated.1 done)
    · intro woken
      obtain ⟨⟨⟩, ungatedOk, woken⟩ := bind_succeeds_iff.mp woken
      obtain ⟨⟨⟩, restoredOk, woken⟩ := bind_succeeds_iff.mp woken
      obtain ⟨⟨⟩, selectedOk, -⟩ := bind_succeeds_iff.mp woken
      rw [bind_of_ok ungatedOk, bind_of_ok restoredOk, bind_of_ok selectedOk]
      rfl
  · rw [active]
    exact ⟨⟨asleep.stored, .inr ⟨active, holds⟩⟩, fun _ => active⟩

/-- The same holds of a resume, which wakes the device up and tells everybody. -/
theorem Asleep.resume (driver : device.driver.RoundTrips)
    (undisturbed : device.Undisturbed word) {machine : Machine σ}
    (asleep : device.Asleep word words machine) :
    device.Asleep word words (device.resume machine).state ∧
      ((device.resume machine).result = .ok () →
        Holds word device.driver.Saves words (device.resume machine).state.hardware) := by
  obtain ⟨woken, active⟩ := asleep.wakeFrom driver undisturbed
  have finished {tables : TableKind → Prop} {invariant : List Event → Machine σ → Prop}
      (steady : Steady device tables (fun _ => True) invariant fun _ => True) :
      Keeps invariant (fun _ => True) (do
        device.callback .resume
        device.markBusy
        device.tell .resumed) :=
    (steady.callback .resume trivial).bind fun _ =>
      steady.markBusy.bind fun _ => steady.news _ (by simp)
  have stored := finished (steady_stored driver undisturbed words)
  have holds := finished
    (steady_holds undisturbed words (fun _ => False) (fun stopped => stopped) nofun)
  have record := finished (device.steady_record fun power _ => power = .active)
  rw [Device.resume, query_bind_apply]
  constructor
  · apply bind_state woken
    intro _ done
    have awake := active done
    have words := woken.power.resolve_left (by simp [awake])
    exact ⟨state_of_keeps stored woken.stored,
      .inr ⟨state_of_keeps record awake, state_of_keeps holds words.2⟩⟩
  · intro done
    obtain ⟨⟨⟩, wokenOk, -⟩ := bind_succeeds_iff.mp done
    have words := woken.power.resolve_left (by simp [active wokenOk])
    rw [bind_of_ok wokenOk]
    exact state_of_keeps holds words.2

/-! ## Trying again and again -/

/-- Any number of calls, all of which fail, with changes of the hardware in between. -/
inductive Fails (call : DeviceM σ Unit) (may : Machine σ → σ → Prop) (first : Machine σ) :
    Machine σ → Prop where
  | start : Fails call may first first
  | changed (machine : Machine σ) (hardware : σ) : Fails call may first machine →
      may machine hardware → Fails call may first { machine with hardware }
  | failed (machine : Machine σ) : Fails call may first machine →
      (call machine).result ≠ .ok () → Fails call may first (call machine).state

/-- Neither failing to resume nor any change of the hardware wakes up a device that rests. -/
theorem Resting.of_fails (driver : device.driver.RoundTrips)
    (undisturbed : device.Undisturbed word) {first last : Machine σ}
    {may : Machine σ → σ → Prop} (resting : device.Resting words first)
    (tried : Fails device.runtimeResume may first last) : device.Resting words last := by
  induction tried with
  | start => exact resting
  | changed machine hardware _ _ ih => exact ⟨ih.stored, ih.power, ih.begun⟩
  | failed machine _ failed ih => exact ih.of_failure driver undisturbed failed

/-- The saved registers hold the same words in both states of the hardware. -/
def SameWords (device : Device σ) (word : UInt32 → σ → UInt32) (before after : σ) : Prop :=
  ∀ offset, device.driver.Saves offset → word offset after = word offset before

/-- The hardware may change in any way while the device is asleep. Once it is awake again,
its saved registers stay as they are. -/
def MayChange (device : Device σ) (word : UInt32 → σ → UInt32) (machine : Machine σ)
    (hardware : σ) : Prop :=
  machine.power = .systemSuspended ∨ device.SameWords word machine.hardware hardware

theorem Asleep.of_fails (driver : device.driver.RoundTrips)
    (undisturbed : device.Undisturbed word) {first last : Machine σ}
    (asleep : device.Asleep word words first)
    (tried : Fails device.resume (device.MayChange word) first last) :
    device.Asleep word words last := by
  induction tried with
  | start => exact asleep
  | changed machine hardware _ may ih =>
      refine ⟨ih.stored, ?_⟩
      rcases may with suspended | same
      · exact .inl suspended
      rcases ih.power with suspended | ⟨active, holds⟩
      · exact .inl suspended
      · exact .inr ⟨active, fun offset kept => (same offset kept).trans (holds offset kept)⟩
  | failed machine _ _ ih => exact (ih.resume driver undisturbed).1

/-- What a device saves when it is suspended is back in its registers once it is resumed,
whatever happened to the registers meanwhile and however often the resume failed before. At
run time this needs that nothing which follows the restore writes a saved register. -/
theorem saved_registers_return (driver : device.driver.RoundTrips)
    (undisturbed : device.Undisturbed word) {machine : Machine σ}
    (reachable : device.Reachable machine) (active : machine.power = .active) :
    (device.driver.WakesQuietly → (device.runtimeSuspend machine).result = .ok () →
        ∀ last, Fails device.runtimeResume (fun _ _ => True)
            (device.runtimeSuspend machine).state last →
          (device.runtimeResume last).result = .ok () →
          device.SameWords word machine.hardware (device.runtimeResume last).state.hardware) ∧
      (device.driver.flags.systemContext = true → (device.suspend machine).result = .ok () →
        (device.suspend machine).state.power = .systemSuspended ∧
          ∀ last, Fails device.resume (device.MayChange word)
              (device.suspend machine).state last →
            (device.resume last).result = .ok () →
            device.SameWords word machine.hardware (device.resume last).state.hardware) := by
  constructor
  · intro quiet suspended last tried resumed
    have begun : machine.firstResumeDone = true :=
      (device.begun_of_reachable reachable).resolve_right (by simp [active])
    have resting := resting_of_runtimeSuspend driver undisturbed active begun suspended
    exact (resting.of_fails driver undisturbed tried).holds_of_success driver undisturbed quiet
      resumed
  · intro systemContext suspended
    obtain ⟨power, asleep⟩ :=
      asleep_of_suspend driver undisturbed systemContext active suspended
    refine ⟨power, ?_⟩
    intro last tried resumed
    exact ((asleep.of_fails driver undisturbed tried).resume driver undisturbed).2 resumed

/-! ## A port on plain memory -/

open Bench

theorem cells_remember (held : UInt32 → Prop) :
    Cells.bank.transport.Remembers Cells.word held where
  read_answer offset hardware value _ done := by
    simp only [Bank.transport, Cells.bank] at done
    split at done
    · cases done
    · exact (Except.ok.inj done).symm
  read_keeps _ _ _ _ := rfl
  write_self offset value hardware _ done := by
    simp only [Bank.transport, Cells.bank] at done ⊢
    split at done
    · cases done
    · simp_all [Cells.word, Cells.next, Cells.put]
  write_other offset value hardware other _ different := by
    simp only [Bank.transport, Cells.bank]
    split
    · rfl
    · simp [Cells.word, Cells.next, Cells.put, different]

theorem cells_roundTrips : Cells.port.driver.RoundTrips where
  reads := by decide
  distinct := by decide
  writes := by decide
  pairs pair := by simp [Cells.port, Uart.driver, Entry.pair, or_comm]
  everyTime := rfl
  alone := by
    have writes : ∀ kind, kind ≠ .save → kind ≠ .contextCheck →
        ∀ entry ∈ Cells.port.driver.tables kind, entry.operation ≠ .read := by
      intro kind
      cases kind <;> decide
    intro kind notSave notCheck entry member reads
    exact absurd reads (writes kind notSave notCheck entry member)
  compares _ := by decide

theorem cells_undisturbed : Cells.port.Undisturbed Cells.word where
  port := ⟨cells_remember _, nofun⟩
  clocks := nofun
  channels := nofun
  pins := nofun
  hooks stage hook present := by
    cases stage <;> cases present
    exact ⟨fun _ _ _ => rfl, fun _ => trivial⟩

/-- The port on plain memory gets its registers back at run time and after system sleep. Both
times the memory is erased meanwhile, and the first resume stops midway. -/
theorem cells_return :
    let asleep := (Cells.port.runtimeSuspend Cells.active).state
    let stopped := Cells.port.runtimeResume { asleep with hardware := Cells.erased }
    let sleeping := (Cells.port.suspend Cells.active).state
    let halted := Cells.port.resume { sleeping with hardware := Cells.erased }
    (stopped.result ≠ .ok () ∧ stopped.state.hardware.word 0 = 0 ∧
        (Cells.port.runtimeResume stopped.state).state.hardware.word 0 = 1) ∧
      halted.result ≠ .ok () ∧ halted.state.hardware.word 0 = 0 ∧
        (Cells.port.resume halted.state).state.hardware.word 0 = 1 := by
  intro asleep stopped sleeping halted
  have reachable : Cells.port.Reachable Cells.active :=
    ⟨Cells.filled, [0, 0, 0, 0], [.asked (.createContext Uart.template), .asked .runtimeResume],
      rfl⟩
  have saved : Cells.port.driver.Saves 0 := ⟨⟨.read, 0, 0, .none, none⟩, by decide, rfl⟩
  have quiet : Cells.port.driver.WakesQuietly := by
    rintro kind (rfl | rfl) <;> simp [Cells.port, Uart.driver, Driver.Saves]
  have stops : stopped.result ≠ .ok () := by decide +kernel
  have halts : halted.result ≠ .ok () := by decide +kernel
  obtain ⟨atRunTime, inSleep⟩ :=
    saved_registers_return cells_roundTrips cells_undisturbed reachable (by decide +kernel)
  have resumed := atRunTime quiet (by decide +kernel) stopped.state
    (.failed _ (.changed _ _ .start trivial) stops) (by decide +kernel)
  obtain ⟨power, restored⟩ := inSleep rfl (by decide +kernel)
  have woken := restored halted.state (.failed _ (.changed _ _ .start (.inl power)) halts)
    (by decide +kernel)
  exact ⟨⟨stops, by decide +kernel, resumed 0 saved⟩, halts, by decide +kernel, woken 0 saved⟩

end Device

end DevicePower
