import DevicePower.Bench.Uart
import DevicePower.Proofs.Device.Channels
import DevicePower.Proofs.Device.Following
import DevicePower.Proofs.Device.Phases
import DevicePower.Proofs.Device.PowerStates

/-!
# Pairs of callbacks

A runtime suspend that its callback has passed is owed a runtime resume. The callback for the
resume is called for no other reason, with one exception: a device that was put to sleep with its
context and is then resumed at run time goes through the runtime resume as well, though there was
no runtime suspend. System resume does not, and a system suspend only resumes what was suspended
at run time.
-/

namespace DevicePower

open DeviceM Traced

variable {σ : Type}

/-- A runtime suspend is owed a runtime resume from the moment its callback has passed until the
callback for the resume has. Nothing is owed after the first resume. -/
def Event.owes (before : Bool) : Event → Bool
  | .stageEnded .runtimeSuspend (.ok ()) => true
  | .stageEnded .runtimeResume (.ok ()) | .stageEnded .firstResume (.ok ()) => false
  | _ => before

/-- A runtime resume is owed after these events. -/
def owed (events : List Event) : Bool :=
  events.foldl Event.owes false

/-- The callback for a runtime resume is called only if it is owed after the past and the events
since, or for an excuse. -/
def ResumeOwed (past : List Event) (excuse : Prop) (before : List Event) (event : Event) : Prop :=
  event.stage = some .runtimeResume → owed (past ++ before) = true ∨ excuse

/-- Every runtime resume was owed or excused, and another one is owed in the power states given. -/
structure Paired (past : List Event) (excuse : Prop) (owing : PowerState → Bool → Prop)
    (seen : List Event) (machine : Machine σ) : Prop where
  guarded : Guarded (ResumeOwed past excuse) seen
  owes : owing machine.power machine.firstResumeDone → owed (past ++ seen) = true

/-- The same of a device that is in certain power states, before or after its first resume. -/
abbrev PairedWhile (past : List Event) (excuse : Prop) (owing sound : PowerState → Bool → Prop)
    (seen : List Event) (machine : Machine σ) : Prop :=
  Paired past excuse owing seen machine ∧ sound machine.power machine.firstResumeDone

/-- The device is active after its first resume. -/
def Running (power : PowerState) (done : Bool) : Prop :=
  power = .active ∧ done = true

/-- A device that was resumed before is suspended at run time. -/
def AfterRuntimeSuspend (power : PowerState) (done : Bool) : Prop :=
  power = .runtimeSuspended ∧ done = true

/-- A device that was resumed before is on its way back from a runtime suspend, or from system
sleep for an excuse. -/
def OnWayBack (excuse : Prop) (power : PowerState) (done : Bool) : Prop :=
  done = true ∧ power ≠ .active ∧ (power = .systemSuspended → excuse)

theorem owed_concat (events : List Event) (event : Event) :
    owed (events ++ [event]) = event.owes (owed events) := by
  simp [owed]

theorem Event.owes_of_ne {event : Event} {before : Bool}
    (resumes : event ≠ .stageEnded .runtimeResume (.ok ()))
    (first : event ≠ .stageEnded .firstResume (.ok ())) (owing : before = true) :
    event.owes before = true := by
  unfold owes
  split <;> simp_all

namespace Paired

variable {past : List Event} {excuse : Prop} {owing : PowerState → Bool → Prop}
variable {seen : List Event} {machine : Machine σ}

/-- A callback that passes adds to the pairs what it owes, or settles what was owed. -/
theorem passed {owing' : PowerState → Bool → Prop} {machine' : Machine σ} {stage : Stage}
    (paired : Paired past excuse owing seen machine)
    (due : stage = .runtimeResume → owed (past ++ seen) = true ∨ excuse)
    (owes : owing' machine'.power machine'.firstResumeDone →
      (Event.stageEnded stage (.ok ())).owes (owed (past ++ seen)) = true) :
    Paired past excuse owing' (seen ++ [.stageEnded stage (.ok ())]) machine' where
  guarded := by
    refine guarded_concat_iff.mpr ⟨paired.guarded, fun belongs => due ?_⟩
    simpa [Event.stage] using belongs
  owes here := by
    rw [← List.append_assoc, owed_concat]
    exact owes here

/-- What is no callback changes nothing about what is owed. -/
theorem other (paired : Paired past excuse owing seen machine) {event : Event}
    (unrelated : event.stage = none) : Paired past excuse owing (seen ++ [event]) machine where
  guarded := guarded_concat_iff.mpr ⟨paired.guarded, fun belongs => by simp [unrelated] at belongs⟩
  owes here := by
    rw [← List.append_assoc, owed_concat]
    apply Event.owes_of_ne _ _ (paired.owes here)
    · intro same
      simp [same, Event.stage] at unrelated
    · intro same
      simp [same, Event.stage] at unrelated

end Paired

namespace Device

/-- Callbacks keep the pairs if the one for a runtime resume is called only where it is owed or
excused, and passes only where nothing is owed any more. -/
theorem follows_paired {device : Device σ} {past : List Event} {excuse : Prop}
    {owing sound : PowerState → Bool → Prop} {calls passes : Stage → Prop}
    (calling : calls .runtimeResume → ∀ power done, sound power done → owing power done ∨ excuse)
    (passing : ∀ stage, passes stage → calls stage ∧ (stage = .runtimeResume ∨
      stage = .firstResume → ∀ power done, sound power done → ¬owing power done)) :
    Follows device calls passes (PairedWhile past excuse owing sound) where
  reported event seen machine occurs holds := by
    obtain ⟨paired, here⟩ := holds
    have called {stage : Stage} (belongs : event.stage = some stage) : calls stage :=
      occurs.calls (fun stage passed => (passing stage passed).1) belongs
    refine ⟨⟨guarded_concat_iff.mpr ⟨paired.guarded, ?_⟩, ?_⟩, here⟩
    · intro belongs
      exact (calling (called belongs) _ _ here).imp_left paired.owes
    · intro owing
      rw [← List.append_assoc, owed_concat]
      apply Event.owes_of_ne _ _ (paired.owes owing)
      · intro same
        subst same
        exact (passing .runtimeResume occurs).2 (.inl rfl) _ _ here owing
      · intro same
        subst same
        exact (passing .firstResume occurs).2 (.inr rfl) _ _ here owing
  alike seen machine other same holds := by
    rw [PairedWhile, same.power, same.firstResumeDone]
    refine ⟨⟨holds.1.guarded, ?_⟩, holds.2⟩
    rw [same.power, same.firstResumeDone]
    exact holds.1.owes
  held _ _ _ _ holds := ⟨⟨holds.1.guarded, holds.1.owes⟩, holds.2⟩

section Phases

variable (device : Device σ) (past : List Event) (excuse : Prop)

/-- An active device owes nothing, and calls no callback for a runtime resume. -/
theorem follows_paired_up :
    Follows device (fun stage => stage ≠ .runtimeResume) (fun stage => stage ≠ .runtimeResume)
      (PairedWhile past excuse AfterRuntimeSuspend Running) := by
  apply follows_paired
  · exact fun calling => absurd rfl calling
  · intro stage passed
    refine ⟨passed, fun _ power done up asleep => ?_⟩
    simp [up.1, AfterRuntimeSuspend] at asleep

/-- Restoring is no business of the pairs. -/
theorem follows_paired_restoring (sound : PowerState → Bool → Prop) :
    Follows device (fun stage => stage = .restore) (fun stage => stage = .restore)
      (PairedWhile past excuse AfterRuntimeSuspend sound) := by
  apply follows_paired
  · exact nofun
  · intro stage restores
    subst restores
    exact ⟨rfl, by simp⟩

/-- Once the callback for a runtime suspend has passed, a runtime resume is owed, even while the
device is still active. -/
theorem ends_quiesce_paired (action : Action) :
    Ends (PairedWhile past excuse AfterRuntimeSuspend Running)
      (fun _ seen machine =>
        Paired past excuse AfterRuntimeSuspend seen { machine with power := .runtimeSuspended })
      (fun _ => PairedWhile past excuse AfterRuntimeSuspend Running) (device.quiesce action) := by
  have up := device.follows_paired_up past excuse
  -- Between the callback and the end of the sequence, a resume is owed in every power state.
  have owing : Follows device (fun _ => False) (fun _ => False)
      (PairedWhile past excuse (fun _ _ => True) Running) :=
    follows_paired (fun called => called.elim) fun _ passed => passed.elim
  have steady : Steady device (fun _ => True) (fun _ => False)
      (PairedWhile past excuse AfterRuntimeSuspend Running) (fun _ => True) :=
    up.steady fun _ called => called.elim
  have steadyOwing : Steady device (fun _ => True) (fun _ => False)
      (PairedWhile past excuse (fun _ _ => True) Running) (fun _ => True) :=
    owing.steady fun _ called => called.elim
  have masked : Keeps (PairedWhile past excuse AfterRuntimeSuspend Running)
      (fun _ => True) (do device.maskInterrupts; device.selectPins action) :=
    (steady.maskInterrupts trivial).bind fun _ => steady.pins action
  have called := up.ends_callback .runtimeSuspend
    (PairedWhile past excuse (fun _ _ => True) Running) nofun
    fun seen machine before => ⟨before.1.passed nofun fun _ => rfl, before.2⟩
  have silenced := up.ends_callbackEither owing masked called
  have gated : Keeps (PairedWhile past excuse (fun _ _ => True) Running)
      (fun _ => True) (do device.runDriverTable .wakeup; device.gateClocks) :=
    (steadyOwing.table .wakeup trivial nofun).bind fun _ => steadyOwing.gateClocks trivial
  have owed (seen : List Event) (machine : Machine σ)
      (paired : Paired past excuse (fun _ _ => True) seen machine) (power : PowerState) :
      Paired past excuse AfterRuntimeSuspend seen { machine with power } :=
    ⟨paired.guarded, fun _ => paired.owes trivial⟩
  have sequence : device.quiesce action = (do
      (do
        device.withIrqLock do
          (do device.maskInterrupts; device.selectPins action)
          device.callbackInside .runtimeSuspend
        device.callbackOutside .runtimeSuspend)
      (do device.runDriverTable .wakeup; device.gateClocks)) := by
    simp only [quiesce, bind_assoc]
  rw [sequence]
  apply silenced.bind
  intro _
  apply gated.ends.weaken (fun _ _ before => before)
  · exact fun _ seen machine after => owed seen machine after.1 .runtimeSuspended
  · exact fun _ seen machine stopped => ⟨owed seen machine stopped.1 machine.power, stopped.2⟩

/-- A device on its way back may call the callback for a runtime resume. -/
theorem follows_paired_down :
    Follows device (fun stage => stage = .restore ∨ stage = .runtimeResume)
      (fun stage => stage = .restore)
      (PairedWhile past excuse AfterRuntimeSuspend (OnWayBack excuse)) := by
  apply follows_paired
  · intro _ power done back
    cases power with
    | active => exact absurd rfl back.2.1
    | runtimeSuspended => exact .inl ⟨rfl, back.1⟩
    | systemSuspended => exact .inr (back.2.2 rfl)
  · intro stage restores
    subst restores
    exact ⟨.inl rfl, by simp⟩

/-- Once that callback has passed, no other is called on the way. -/
theorem follows_paired_settled :
    Follows device (fun _ => False) (fun _ => False)
      (PairedWhile past excuse (fun _ _ => False) (OnWayBack excuse)) :=
  follows_paired (fun called => called.elim) fun _ passed => passed.elim

/-- Nothing is owed after the callback for the runtime resume, even while the device still counts
as suspended. -/
theorem ends_activate_paired :
    Ends (PairedWhile past excuse AfterRuntimeSuspend (OnWayBack excuse))
      (fun _ => PairedWhile past excuse (fun _ _ => False) (OnWayBack excuse))
      (fun _ => PairedWhile past excuse AfterRuntimeSuspend (OnWayBack excuse))
      device.activate := by
  have down := device.follows_paired_down past excuse
  have steady : Steady device (fun _ => True) (fun _ => False)
      (PairedWhile past excuse AfterRuntimeSuspend (OnWayBack excuse)) (fun _ => True) :=
    down.steady fun _ called => called.elim
  have called := down.ends_callback .runtimeResume
    (PairedWhile past excuse (fun _ _ => False) (OnWayBack excuse)) (.inr rfl)
    fun seen machine before => by
      refine ⟨before.1.passed (fun _ => ?_) nofun, before.2⟩
      cases power : machine.power with
      | active => exact absurd power before.2.2.1
      | runtimeSuspended => exact .inl (before.1.owes ⟨power, before.2.1⟩)
      | systemSuspended => exact .inr (before.2.2.2 power)
  exact (steady.pins .resume).ends.bind fun _ =>
    down.ends_callbackEither (device.follows_paired_settled past excuse)
      (steady.unmaskInterrupts trivial) called

/-- Resuming the channels cannot fail, so nothing that can fail comes after the callback. -/
theorem ends_resumeChannels_paired :
    Ends (PairedWhile past excuse (fun _ _ => False) (OnWayBack excuse))
      (fun _ => PairedWhile past excuse (fun _ _ => False) (OnWayBack excuse))
      (fun _ => PairedWhile past excuse AfterRuntimeSuspend (OnWayBack excuse)) (do
        let paused ← Traced.query fun machine => machine.pausedChannels
        device.resumeChannels paused) := by
  have steady : Steady device (fun _ => True) (fun _ => False)
      (PairedWhile past excuse (fun _ _ => False) (OnWayBack excuse)) (fun _ => True) :=
    (device.follows_paired_settled past excuse).steady fun _ called => called.elim
  apply ends_query_bind
  intro paused
  have succeeds (machine : Machine σ) :
      ∃ value, (device.resumeChannels paused machine).result = .ok value := by
    obtain ⟨_, _, _, swept, -⟩ := device.resumeChannels_spec paused machine
    exact ⟨(), by rw [swept]⟩
  apply ((steady.resumeChannels paused).ends_always succeeds).given
  exact fun _ _ before => before.1

/-- A device on its way back calls the callback for the runtime resume that is owed, or has an
excuse for it. -/
theorem ends_wakeUp_paired :
    Ends (PairedWhile past excuse AfterRuntimeSuspend (OnWayBack excuse))
      (fun _ seen machine =>
        Paired past excuse AfterRuntimeSuspend seen { machine with power := .active })
      (fun _ => PairedWhile past excuse AfterRuntimeSuspend (OnWayBack excuse)) device.wakeUp := by
  have steady : Steady device (fun _ => True) (fun stage => stage = .restore)
      (PairedWhile past excuse AfterRuntimeSuspend (OnWayBack excuse)) (fun _ => True) :=
    (device.follows_paired_down past excuse).steady fun _ restores => ⟨.inl restores, restores⟩
  have restored := (steady.restore trivial trivial rfl).ends
  have ungated := (steady.ungateClocks trivial).ends
  have activated := device.ends_activate_paired past excuse
  have woken := restored.bind fun _ => (ungated.bind fun _ => activated).bind fun _ =>
    device.ends_resumeChannels_paired past excuse
  rw [wakeUp_eq]
  apply woken.weaken (fun _ _ before => before)
  · exact fun _ _ _ after => ⟨after.1.guarded, fun asleep => by cases asleep.1⟩
  · exact fun _ _ _ stopped => stopped

/-- Nothing is owed after the first resume, since the device is active then. -/
theorem ends_firstResume_paired :
    Ends
      (fun seen machine => Paired past excuse AfterRuntimeSuspend seen machine ∧
        machine.firstResumeDone = false ∧ machine.power = .runtimeSuspended)
      (fun _ seen machine => Paired past excuse AfterRuntimeSuspend seen
        { machine with firstResumeDone := true, power := .active })
      (fun _ => Paired past excuse AfterRuntimeSuspend) (device.callback .firstResume) := by
  have follows : Follows device (fun stage => stage = .firstResume) (fun _ => False)
      (PairedWhile past excuse AfterRuntimeSuspend fun power done =>
        done = false ∧ power = .runtimeSuspended) :=
    follows_paired nofun fun _ passed => passed.elim
  have called := follows.ends_callback .firstResume
    (fun seen machine => Paired past excuse AfterRuntimeSuspend seen
      { machine with firstResumeDone := true, power := .active }) rfl
    fun _ _ before => before.1.passed nofun fun asleep => by cases asleep.1
  exact called.failing fun _ _ _ stopped => stopped.1

/-- A request that is no transition calls no callback but that after restoring. -/
theorem keeps_paired_plain {request : Request} (plain : request.isTransition = false) :
    Keeps (PairedWhile past excuse AfterRuntimeSuspend fun _ _ => True) (fun _ => True)
      (device.perform request) :=
  (device.follows_paired_restoring past excuse fun _ _ => True).keeps_plain ⟨rfl, rfl⟩ plain

/-- No transition calls the callback for a runtime resume that is not owed, but to wake a device
from system sleep at run time. -/
theorem phases_paired :
    Phases device (fun power => power = .systemSuspended → excuse)
      (Paired past excuse AfterRuntimeSuspend) (Paired past excuse AfterRuntimeSuspend) := by
  have up : Steady device (fun _ => True) (fun stage => stage ≠ .runtimeResume)
      (PairedWhile past excuse AfterRuntimeSuspend Running) (fun _ => True) :=
    (device.follows_paired_up past excuse).steady fun _ called => ⟨called, called⟩
  have restoring (sound : PowerState → Bool → Prop) :
      Steady device (fun _ => True) (fun stage => stage = .restore)
        (PairedWhile past excuse AfterRuntimeSuspend sound) (fun _ => True) :=
    (device.follows_paired_restoring past excuse sound).steady fun _ called => ⟨called, called⟩
  have moved {seen : List Event} {machine : Machine σ} (power : PowerState)
      (left : power ≠ .runtimeSuspended)
      (paired : Paired past excuse AfterRuntimeSuspend seen machine) :
      Paired past excuse AfterRuntimeSuspend seen { machine with power } :=
    ⟨paired.guarded, fun asleep => absurd asleep.1 left⟩
  have getUp (sound : PowerState → Bool → Prop) :=
    ((restoring sound).getUp trivial trivial trivial rfl).ends
  exact {
    stopped := fun _ _ paired => paired
    told := fun _ _ _ paired => paired.other rfl
    toldFailed := fun _ _ _ paired => paired.other rfl
    begun := device.ends_firstResume_paired past excuse
    prepared := up.prepareSuspend trivial
    quieted := device.ends_quiesce_paired past excuse
    undone := up.abortSuspend trivial
    slept := (up.layDown trivial trivial).ends.weaken (fun _ _ before => before)
      (fun _ _ _ after => moved _ nofun after.1) fun _ _ _ stopped => stopped.1
    called := fun stage either => by
      apply up.callback
      cases either with
      | inl suspends => simp [suspends]
      | inr resumes => simp [resumes]
    used := up.markBusy
    woken := (device.ends_wakeUp_paired past excuse).weaken
      (fun _ _ before => before) (fun _ _ _ after => after) fun _ _ _ stopped => stopped.1
    risen := (getUp fun _ _ => True).weaken (fun _ _ before => ⟨before.1, trivial⟩)
      (fun _ _ _ after => moved _ nofun after.1) fun _ _ _ stopped => stopped.1
    looked := device.keeps_usedRecently
      (fun timer _ => keeps_act fun _ _ paired => ⟨paired.guarded, paired.owes⟩)
      fun _ => keeps_emit fun _ _ paired => paired.other rfl }

end Phases

/-! ## Every run -/

section Runs

variable (device : Device σ)

/-- What is owed at the end of a request is known at the beginning of the next. -/
theorem paired_history (happenings : List (Happening σ)) :
    Keeps (fun seen machine => Paired [] True AfterRuntimeSuspend seen machine ∧
      device.Reachable machine) (fun _ => False) (device.history happenings) := by
  apply Reachable.keeps_history
  · intro request seen machine reachable paired
    apply (device.phases_paired [] True).after_perform request seen
      (device.begun_of_reachable reachable) _ (fun _ _ => trivial) paired
    intro plain
    exact (device.keeps_paired_plain [] True plain seen machine ⟨paired, trivial⟩).1.1
  · exact fun _ _ _ paired => ⟨paired.guarded, paired.owes⟩
  · exact fun _ _ _ paired => ⟨paired.guarded, paired.owes⟩

/-- In every run, the callback for a runtime resume is called only if a runtime suspend that its
callback has passed is owed it. The one exception is a runtime resume that is asked for while a
device with a system context sleeps. -/
theorem runtimeResume_owed (hardware : σ) (storage : List UInt32)
    (earlier : List (Happening σ)) (request : Request) :
    let past := device.history earlier (.initial hardware storage)
    Guarded
      (ResumeOwed past.events (request = .runtimeResume ∧ past.state.power = .systemSuspended ∧
        device.driver.flags.systemContext = true))
      (device.perform request past.state).events := by
  intro past
  have reachable : device.Reachable past.state := ⟨hardware, storage, earlier, rfl⟩
  have untouched : Paired [] True AfterRuntimeSuspend [] (.initial hardware storage : Machine σ) :=
    ⟨guarded_nil, fun asleep => by cases asleep.2⟩
  have paired : Paired [] True AfterRuntimeSuspend past.events past.state :=
    (device.paired_history earlier [] _ ⟨untouched, hardware, storage, [], rfl⟩).1.1
  have begins : Paired past.events (request = .runtimeResume ∧
      past.state.power = .systemSuspended ∧ device.driver.flags.systemContext = true)
      AfterRuntimeSuspend [] past.state :=
    ⟨guarded_nil, fun asleep => by simpa using paired.owes asleep⟩
  have excused (resumes : request.ResumesFrom past.state.power)
      (asleep : past.state.power = .systemSuspended) :
      request = .runtimeResume ∧ past.state.power = .systemSuspended ∧
        device.driver.flags.systemContext = true := by
    refine ⟨?_, asleep, device.sleepsInContext_of_reachable reachable asleep⟩
    rw [asleep] at resumes
    cases request with
    | runtimeResume => rfl
    | _ => cases resumes
  have after := (device.phases_paired past.events _).after_perform request []
    (device.begun_of_reachable reachable)
    (fun plain => (device.keeps_paired_plain past.events _ plain [] _ ⟨begins, trivial⟩).1.1)
    excused begins
  exact after.guarded

/-- The serial port with a context of its own is put to sleep, and asked to resume at run time.
The callback for the runtime resume is called, though there never was a runtime suspend. -/
theorem sleeper_resumed_unpaired :
    let port := Bench.Uart.sleeper
    let past := port.history
      [.asked (.createContext Bench.Uart.template), .asked .runtimeResume, .asked .suspend]
      (.initial Bench.Uart.board [0, 0, 0, 0])
    let outcome := port.perform .runtimeResume past.state
    outcome.result = .ok .done ∧
      .callbackCalled .runtimeResume false .systemSuspended ∈ outcome.events ∧
      ∀ event ∈ past.events ++ outcome.events, event.stage ≠ some .runtimeSuspend := by
  decide +kernel

end Runs

end Device

end DevicePower
