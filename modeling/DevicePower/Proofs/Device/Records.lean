import DevicePower.Proofs.Device.Resistance

/-!
# Records that most steps leave alone

Beside the hardware and the context, a machine holds a few records. Most of them are made on the
way of every transition, but two are not: the count of lost contexts, which only a restore
changes, and the last use of the device. A view of the machine that sees nothing but such
records shows the same before and after every other step. The invariants of `Steady` cannot say
so, since they have to survive both records.

Whatever marks the device as used along with other things is said to leave a view alone that
does not see the last use either, and whatever comes to a restore step, one that does not see the
losses.
-/

namespace DevicePower

open DeviceM TableM Traced

variable {σ α β : Type}

/-- What is asked for may come to a restore step. -/
def Request.restores : Request → Bool
  | .restore | .runtimeResume | .suspend | .resume => true
  | _ => false

/-- What is asked for may mark the device as used. -/
def Request.marks : Request → Bool
  | .markBusy | .runtimeSuspend | .autosuspend | .suspend | .resume => true
  | _ => false

/-- The view sees neither the hardware nor the context, and none of the records that transitions
make on their way. -/
structure Machine.Apart (view : Machine σ → α) : Prop where
  workspace : ∀ machine workspace, view { machine with toWorkspace := workspace } = view machine
  held : ∀ machine irqHeld, view { machine with irqHeld } = view machine
  tracked : ∀ machine pausedChannels, view { machine with pausedChannels } = view machine
  saved : ∀ machine, view { machine with contextSaved := true } = view machine
  entered : ∀ machine power, view { machine with power } = view machine
  started : ∀ machine,
    view { machine with firstResumeDone := true, power := .active } = view machine

/-- The view shows a value, whatever was reported. -/
abbrev Machine.Shows (view : Machine σ → α) (value : α) : List Event → Machine σ → Prop :=
  fun _ machine => view machine = value

theorem Machine.keeps_report {view : Machine σ → α} {value : α} (event : Event) :
    Keeps (Machine.Shows view value) (fun _ => True) (emit event : DeviceM σ Unit) :=
  keeps_emit fun _ _ shows => shows

/-- What shows every value that it showed before shows the same. -/
theorem Traced.Keeps.shown {view : Machine σ → α} {allowed : Error → Prop}
    {computation : DeviceM σ β}
    (kept : ∀ value, Keeps (Machine.Shows view value) allowed computation) (machine : Machine σ) :
    view (computation machine).state = view machine :=
  (kept (view machine) [] machine rfl).1

/-- What comes after a step that is not seen leaves the view as the step left it. -/
theorem Traced.bind_unseen {γ : Type} {view : Machine σ → α} {first : DeviceM σ β}
    {next : β → DeviceM σ γ}
    (unseen : ∀ value machine, view (next value machine).state = view machine)
    (machine : Machine σ) :
    view ((first >>= next) machine).state = view (first machine).state := by
  cases ended : (first machine).result with
  | error error => rw [bind_of_error ended]
  | ok value =>
      rw [bind_of_ok ended]
      exact unseen value _

namespace Machine.Apart

variable {view : Machine σ → α} {value : α} (apart : Machine.Apart view) (device : Device σ)

include apart

/-! ## Single steps -/

theorem hardware (machine : Machine σ) (hardware : σ) :
    view { machine with hardware } = view machine :=
  apart.workspace machine { machine.toWorkspace with hardware }

theorem keeps_working (origin : Origin) (computation : TableM σ β) :
    Keeps (Shows view value) (fun _ => True) (working origin computation) := by
  intro _ machine shows
  exact ⟨(apart.workspace machine _).trans shows, fun _ _ => trivial⟩

theorem keeps_onHardware (change : σ → β × σ) :
    Keeps (Shows view value) (fun _ => True) (onHardware change) :=
  keeps_act fun _ machine shows => (apart.hardware machine _).trans shows

theorem keeps_change (change : σ → σ) :
    Keeps (Shows view value) (fun _ => True) (DeviceM.change change) :=
  apart.keeps_onHardware _

theorem keeps_runDriverTable (kind : TableKind) :
    Keeps (Shows view value) (fun _ => True) (device.runDriverTable kind) :=
  (apart.keeps_working _ _).attempt_bind fun _ _ =>
    (keeps_report _).bind fun _ => keeps_ofExcept fun _ _ => trivial

theorem keeps_lostContext : Keeps (Shows view value) (fun _ => True) device.lostContext :=
  (apart.keeps_working _ _).attempt_bind fun _ _ =>
    (keeps_report _).bind fun _ => keeps_ofExcept fun _ _ => trivial

theorem keeps_callback (stage : Stage) :
    Keeps (Shows view value) (fun _ => True) (device.callback stage) := by
  intro _ machine shows
  refine ⟨?_, fun _ _ => trivial⟩
  cases present : device.hooks.hook stage with
  | none => simpa [Device.callback, present] using shows
  | some hook =>
      rw [device.callback_apply machine present]
      exact (apart.workspace machine _).trans shows

theorem keeps_selectPins (action : Action) :
    Keeps (Shows view value) (fun _ => True) (device.selectPins action) := by
  intro _ machine shows
  refine ⟨?_, fun _ _ => trivial⟩
  obtain ⟨events, hardware, selected, -⟩ := device.selectPins_spec (fun _ _ => True)
    (fun _ => trivial) (fun _ _ _ _ => trivial) action machine
  rw [selected]
  exact (apart.hardware machine hardware).trans shows

theorem keeps_enter (power : PowerState) :
    Keeps (Shows view value) (fun _ => True) (Device.enter power : DeviceM σ Unit) :=
  keeps_update fun _ machine shows => (apart.entered machine power).trans shows

/-! ## Clocks and channels -/

theorem keeps_gateClocks : Keeps (Shows view value) (fun _ => True) device.gateClocks := by
  apply (apart.keeps_runDriverTable device .clockDisable).bind
  intro _
  exact Device.keeps_sweep (fun _ => rfl) (fun _ _ _ => rfl) 0 fun index clock _ =>
    Device.keeps_stop (fun _ _ _ shows => shows)
      fun _ _ _ _ _ machine shows => (apart.hardware machine _).trans shows

theorem keeps_ungateClocks : Keeps (Shows view value) (fun _ => True) device.ungateClocks := by
  refine Keeps.bind ?_ fun _ => apart.keeps_runDriverTable device .clockEnable
  exact Device.keeps_sweep (fun _ => rfl) (fun _ _ _ => rfl) 0 fun index clock _ =>
    Device.keeps_start (fun _ _ _ shows => shows)
      fun _ _ _ _ _ machine shows => (apart.hardware machine _).trans shows

theorem keeps_pauseAll (number : Nat) (channels : List (Channel σ)) :
    Keeps (Shows view value) (fun _ => True) (Channel.pauseAll number channels) := by
  induction channels generalizing number with
  | nil => exact keeps_pure 0
  | cons channel rest ih =>
      have paused : Keeps (Shows view value) (fun _ => True) (channel.pauseIfActive number) :=
        Device.keeps_pauseIfActive (fun _ _ _ shows => shows)
          (fun _ machine shows => (apart.hardware machine _).trans shows)
          fun _ _ machine shows => (apart.tracked machine _).trans shows
      exact paused.bind fun _ => (ih (number + 1)).bind fun _ => keeps_pure _

theorem keeps_pauseChannels : Keeps (Shows view value) (fun _ => True) device.pauseChannels := by
  rw [Device.pauseChannels]
  split
  · exact apart.keeps_pauseAll 0 _
  · exact keeps_pure 0

theorem keeps_resumeChannels (selected : UInt32) :
    Keeps (Shows view value) (fun _ => True) (device.resumeChannels selected) :=
  Device.keeps_sweep (fun _ => rfl) (fun _ _ _ => rfl) 0 fun _ _ _ =>
    Device.keeps_resumeIfPaused selected (fun _ _ _ shows => shows)
      (fun _ machine shows => (apart.hardware machine _).trans shows)
      fun _ _ machine shows => (apart.tracked machine _).trans shows

/-! ## Sequences of steps -/

theorem keeps_withIrqLock {computation : DeviceM σ β}
    (kept : Keeps (Shows view value) (fun _ => True) computation) :
    Keeps (Shows view value) (fun _ => True) (device.withIrqLock computation) := by
  intro _ machine shows
  refine ⟨?_, fun _ _ => trivial⟩
  rw [Device.withIrqLock_apply]
  have locked : view (device.locked machine) = value := (apart.held machine _).trans shows
  exact (apart.held _ _).trans (kept [] _ locked).1

theorem keeps_save : Keeps (Shows view value) (fun _ => True) device.save := by
  apply (keeps_query _).bind
  intro saved
  split
  · exact keeps_pure ()
  · exact (apart.keeps_runDriverTable device .save).bind fun _ =>
      keeps_update fun _ machine shows => (apart.saved machine).trans shows

theorem keeps_maskInterrupts :
    Keeps (Shows view value) (fun _ => True) device.maskInterrupts := by
  rw [Device.maskInterrupts]
  split
  · exact keeps_pure ()
  · apply (apart.keeps_runDriverTable device .irqDisable).attempt_bind
    intro masked _
    split
    next check _ =>
      apply (apart.keeps_working _ _).attempt_bind
      intro answer _
      cases answer with
      | ok status =>
          simp only
          split
          · exact (keeps_report _).bind fun _ => keeps_fail trivial
          · exact keeps_ofExcept fun _ _ => trivial
      | error error =>
          cases masked with
          | ok done => exact keeps_fail trivial
          | error first => exact keeps_fail trivial
    next => exact keeps_ofExcept fun _ _ => trivial

theorem keeps_callbackInside (stage : Stage) :
    Keeps (Shows view value) (fun _ => True) (device.callbackInside stage) := by
  rw [Device.callbackInside]
  split
  · exact apart.keeps_callback device stage
  · exact keeps_pure ()

theorem keeps_callbackOutside (stage : Stage) :
    Keeps (Shows view value) (fun _ => True) (device.callbackOutside stage) := by
  rw [Device.callbackOutside]
  split
  · exact keeps_pure ()
  · exact apart.keeps_callback device stage

theorem keeps_quiesce (action : Action) :
    Keeps (Shows view value) (fun _ => True) (device.quiesce action) := by
  have locked : Keeps (Shows view value) (fun _ => True) (do
      device.maskInterrupts
      device.selectPins action
      device.callbackInside .runtimeSuspend) :=
    (apart.keeps_maskInterrupts device).bind fun _ =>
      (apart.keeps_selectPins device action).bind fun _ => apart.keeps_callbackInside device _
  exact (apart.keeps_withIrqLock device locked).bind fun _ =>
    (apart.keeps_callbackOutside device _).bind fun _ =>
      (apart.keeps_runDriverTable device .wakeup).bind fun _ => apart.keeps_gateClocks device

/-- What a resume does after the context was restored. -/
theorem keeps_bringUp : Keeps (Shows view value) (fun _ => True) device.bringUp := by
  have locked : Keeps (Shows view value) (fun _ => True) (do
      device.unmaskInterrupts
      device.callbackInside .runtimeResume) :=
    (apart.keeps_runDriverTable device .irqEnable).bind fun _ =>
      apart.keeps_callbackInside device _
  have powered : Keeps (Shows view value) (fun _ => True) device.powerUp :=
    (apart.keeps_ungateClocks device).bind fun _ =>
      (apart.keeps_selectPins device .resume).bind fun _ =>
        (apart.keeps_withIrqLock device locked).bind fun _ => apart.keeps_callbackOutside device _
  exact powered.bind fun _ =>
    (keeps_query _).bind fun paused => apart.keeps_resumeChannels device paused

theorem keeps_concludeResume (result : Except Error Unit) :
    Keeps (Shows view value) (fun _ => True) (device.concludeResume result) := by
  cases result with
  | ok done => exact (apart.keeps_enter .active).bind fun _ => keeps_report _
  | error error => exact (keeps_report _).bind fun _ => keeps_fail trivial

theorem keeps_firstResume : Keeps (Shows view value) (fun _ => True) device.firstResume :=
  (apart.keeps_callback device .firstResume).bind fun _ =>
    keeps_update fun _ machine shows => (apart.started machine).trans shows

theorem keeps_createContext (template : List UInt32) :
    Keeps (Shows view value) (fun _ => True) (device.createContext template) := by
  apply (keeps_query _).bind
  intro context
  split
  · exact keeps_update fun _ machine shows =>
      (apart.workspace machine { machine.toWorkspace with context := _ }).trans shows
  · exact keeps_fail trivial

/-- A request that neither marks the device as used nor comes to a restore step is not seen. -/
theorem keeps_perform_plain {request : Request} (unmarked : request.marks = false)
    (unrestored : request.restores = false) :
    Keeps (Shows view value) (fun _ => True) (device.perform request) := by
  cases request with
  | markBusy | runtimeSuspend | autosuspend | suspend | resume => cases unmarked
  | restore | runtimeResume => cases unrestored
  | createContext template =>
      exact Device.keeps_answering (apart.keeps_createContext device template)
  | save => exact Device.keeps_answering (apart.keeps_save device)
  | maskInterrupts => exact Device.keeps_answering (apart.keeps_maskInterrupts device)
  | unmaskInterrupts => exact Device.keeps_answering (apart.keeps_runDriverTable device .irqEnable)
  | gateClocks => exact Device.keeps_answering (apart.keeps_gateClocks device)
  | ungateClocks => exact Device.keeps_answering (apart.keeps_ungateClocks device)
  | readRegister offset => exact (apart.keeps_working _ _).bind fun _ => keeps_pure _
  | writeRegister offset value => exact Device.keeps_answering (apart.keeps_working _ _)
  | runTable table => exact Device.keeps_answering (apart.keeps_working _ _)
  | selectPins action => exact Device.keeps_answering (apart.keeps_selectPins device action)

theorem keeps_usedRecently : Keeps (Shows view value) (fun _ => True) device.usedRecently :=
  device.keeps_usedRecently (fun timer _ => apart.keeps_onHardware timer.now) fun _ =>
    keeps_report _

/-! ## Steps that may count a loss -/

section Lost

variable (lost : ∀ machine contextLosses, view { machine with contextLosses } = view machine)

include lost

theorem keeps_restore : Keeps (Shows view value) (fun _ => True) device.restore := by
  have recorded : Keeps (Shows view value) (fun _ => True) device.recordLoss := by
    refine Keeps.bind (keeps_update ?_) fun _ => (keeps_query _).bind fun _ => keeps_report _
    exact fun _ machine shows => (lost machine _).trans shows
  have written : Keeps (Shows view value) (fun _ => True) device.writeBack :=
    (apart.keeps_runDriverTable device .restore).bind fun _ => apart.keeps_callback device .restore
  rw [Device.restore]
  split
  · apply (apart.keeps_lostContext device).bind
    intro differs
    split
    · exact recorded.bind fun _ => written
    · exact keeps_pure ()
  · exact written

theorem keeps_runtimeResume :
    Keeps (Shows view value) (fun _ => True) device.runtimeResume := by
  have woken : Keeps (Shows view value) (fun _ => True) device.wakeUp := by
    rw [Device.wakeUp_eq]
    exact (apart.keeps_restore device lost).bind fun _ => apart.keeps_bringUp device
  apply (keeps_query _).bind
  intro machine
  split
  · split
    · exact keeps_pure ()
    · exact woken.attempt_bind fun result _ => apart.keeps_concludeResume device result
  · exact apart.keeps_firstResume device

theorem keeps_wakeFrom (power : PowerState) :
    Keeps (Shows view value) (fun _ => True) (device.wakeFrom power) := by
  cases power with
  | active => exact keeps_pure ()
  | runtimeSuspended => exact apart.keeps_runtimeResume device lost
  | systemSuspended =>
      exact (apart.keeps_ungateClocks device).bind fun _ =>
        (apart.keeps_restore device lost).bind fun _ =>
          (apart.keeps_selectPins device .resume).bind fun _ => apart.keeps_enter .active

end Lost

/-! ## Steps that may mark the device as used -/

section Used

variable (used : ∀ machine lastBusy, view { machine with lastBusy } = view machine)

include used

theorem keeps_markBusy : Keeps (Shows view value) (fun _ => True) device.markBusy := by
  have looked : Keeps (Shows view value) (fun _ => True) device.now := by
    rw [Device.now]
    split
    · exact keeps_pure none
    next timer _ =>
      exact (apart.keeps_onHardware timer.now).bind fun _ =>
        (keeps_report _).bind fun _ => keeps_pure _
  exact looked.bind fun now =>
    keeps_update fun _ machine shows => (used machine now).trans shows

theorem keeps_abortSuspend (paused : UInt32) :
    Keeps (Shows view value) (fun _ => True) (device.abortSuspend paused) := by
  apply (keeps_report _).bind
  intro _
  refine (apart.keeps_withIrqLock device ?_).bind fun _ =>
    (apart.keeps_resumeChannels device paused).bind fun _ => apart.keeps_markBusy device used
  apply (apart.keeps_runDriverTable device .irqEnable).attempt_bind
  intro result _
  cases result with
  | ok done => exact keeps_pure ()
  | error error => exact keeps_report _

theorem keeps_concludeSuspend (paused : UInt32) (result : Except Error Unit) :
    Keeps (Shows view value) (fun _ => True) (device.concludeSuspend paused result) := by
  rw [Device.concludeSuspend.eq_def]
  split
  · exact (apart.keeps_enter .runtimeSuspended).bind fun _ => keeps_report _
  · exact (apart.keeps_abortSuspend device used paused).bind fun _ => keeps_fail trivial
  · exact (keeps_report _).bind fun _ => keeps_fail trivial

theorem keeps_runtimeSuspendFor (action : Action) :
    Keeps (Shows view value) (fun _ => True) (device.runtimeSuspendFor action) := by
  have prepared : Keeps (Shows view value) (fun _ => True) device.prepareSuspend :=
    (apart.keeps_save device).bind fun _ => apart.keeps_pauseChannels device
  apply (keeps_query _).bind
  intro power
  split
  · apply prepared.attempt_bind
    intro ready _
    cases ready with
    | ok paused =>
        exact (apart.keeps_quiesce device action).attempt_bind fun result _ =>
          apart.keeps_concludeSuspend device used paused result
    | error error => exact apart.keeps_concludeSuspend device used 0 _
  · exact keeps_pure ()

theorem keeps_autosuspend : Keeps (Shows view value) (fun _ => True) device.autosuspend := by
  apply (apart.keeps_usedRecently device).bind
  intro recent
  split
  · exact keeps_fail trivial
  · exact apart.keeps_runtimeSuspendFor device used .autosuspend

theorem keeps_sleep : Keeps (Shows view value) (fun _ => True) device.sleep := by
  rw [Device.sleep]
  split
  · exact (apart.keeps_save device).bind fun _ =>
      (apart.keeps_selectPins device .suspend).bind fun _ =>
        (apart.keeps_gateClocks device).bind fun _ => apart.keeps_enter _
  · split
    · exact apart.keeps_runtimeSuspendFor device used .suspend
    · exact keeps_pure ()

/-! ## Requests -/

/-- A request without a restore step is not seen. -/
theorem keeps_perform {request : Request} (other : request.restores = false) :
    Keeps (Shows view value) (fun _ => True) (device.perform request) := by
  cases request with
  | restore | runtimeResume | suspend | resume => cases other
  | runtimeSuspend =>
      exact Device.keeps_answering (apart.keeps_runtimeSuspendFor device used .suspend)
  | autosuspend => exact Device.keeps_answering (apart.keeps_autosuspend device used)
  | markBusy => exact Device.keeps_answering (apart.keeps_markBusy device used)
  | _ => exact apart.keeps_perform_plain device rfl rfl

end Used

end Machine.Apart

end DevicePower
