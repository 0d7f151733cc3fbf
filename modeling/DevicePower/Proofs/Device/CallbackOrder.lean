import DevicePower.Bench.Uart
import DevicePower.Proofs.Device.Continuation
import DevicePower.Proofs.Device.Following
import DevicePower.Proofs.Device.Phases

/-!
# The order of callbacks

The first resume opens the life of a device: its callback is called until it succeeds, and never
again. All other callbacks of transitions wait for it, and each is called in certain power states
only. Nothing enforces this but the tests of the power state with which transitions begin, so it
is shown together with the fact that the record of the first resume agrees with the journal.
-/

namespace DevicePower

open DeviceM Traced

variable {σ : Type}

/-- The first resume of the device has succeeded by then. -/
def BroughtUp (events : List Event) : Prop :=
  .stageEnded .firstResume (.ok ()) ∈ events

/-- The power states in which the callback of a stage may be called. -/
def Stage.CalledIn : Stage → PowerState → Prop
  | .runtimeSuspend, power | .suspend, power | .resume, power => power = .active
  | .runtimeResume, power => power ≠ .active
  | .firstResume, power => power = .runtimeSuspended
  | .restore, _ => True

/-- The stage is not passed before the first resume. Restoring may be asked for at any time. -/
def Stage.IsLater (stage : Stage) : Prop :=
  stage ≠ .firstResume ∧ stage ≠ .restore

/-- What is about a callback comes in its turn. -/
structure InOrder (before : List Event) (event : Event) : Prop where
  once : event.stage = some .firstResume → ¬BroughtUp before
  later : ∀ stage, event.stage = some stage → stage.IsLater → BroughtUp before
  power : ∀ stage irqHeld power, event = .callbackCalled stage irqHeld power →
    stage.CalledIn power ∧ (BroughtUp before ∨ power = .runtimeSuspended)

/-- All callbacks were called in their turn, and the record of the first resume agrees with the
journal. -/
structure Ordered (seen : List Event) (machine : Machine σ) : Prop where
  guarded : Guarded InOrder seen
  recorded : machine.firstResumeDone = true ↔ BroughtUp seen

/-- The stage may be passed by a device in this power state, with or without its first resume
behind it. -/
structure Stage.Due (stage : Stage) (power : PowerState) (done : Bool) : Prop where
  calledIn : stage.CalledIn power
  once : stage = .firstResume → done = false
  later : stage.IsLater → done = true

theorem broughtUp_concat {events : List Event} {event : Event}
    (other : event ≠ .stageEnded .firstResume (.ok ())) :
    BroughtUp (events ++ [event]) ↔ BroughtUp events := by
  simp [BroughtUp, other.symm]

/-- What is not about a callback is in order at any time. -/
theorem Ordered.other {seen : List Event} {machine : Machine σ} {event : Event}
    (ordered : Ordered seen machine) (unrelated : event.stage = none) :
    Ordered (seen ++ [event]) machine where
  guarded := guarded_concat_iff.mpr ⟨ordered.guarded, {
    once := fun belongs => by simp [unrelated] at belongs
    later := fun _ belongs => by simp [unrelated] at belongs
    power := fun _ _ _ same => by simp [same, Event.stage] at unrelated }⟩
  recorded := by
    rw [broughtUp_concat]
    · exact ordered.recorded
    · intro same
      simp [same, Event.stage] at unrelated

namespace Device

/-- The order is kept as long as only stages are passed that are due. -/
theorem follows_ordered {device : Device σ} {calls passes : Stage → Prop}
    (sound : PowerState → Bool → Prop)
    (begun : ∀ power done, sound power done → done = true ∨ power = .runtimeSuspended)
    (due : ∀ stage, calls stage → ∀ power done, sound power done → stage.Due power done)
    (passing : ∀ stage, passes stage → calls stage ∧ stage ≠ .firstResume) :
    Follows device calls passes fun seen machine =>
      Ordered seen machine ∧ sound machine.power machine.firstResumeDone where
  reported event seen machine occurs holds := by
    obtain ⟨ordered, here⟩ := holds
    have called {stage : Stage} (belongs : event.stage = some stage) :
        stage.Due machine.power machine.firstResumeDone :=
      due stage (occurs.calls (fun stage passed => (passing stage passed).1) belongs) _ _ here
    have other : event ≠ .stageEnded .firstResume (.ok ()) := by
      intro same
      subst same
      exact (passing .firstResume occurs).2 rfl
    have inOrder : InOrder seen event := {
      once := fun belongs up => by
        have fresh := (called belongs).once rfl
        simp [ordered.recorded.mpr up] at fresh
      later := fun stage belongs later => ordered.recorded.mp ((called belongs).later later)
      power := fun stage irqHeld power same => by
        subst same
        obtain ⟨-, -, rfl⟩ := occurs
        exact ⟨(called rfl).calledIn, (begun _ _ here).imp_left ordered.recorded.mp⟩ }
    exact ⟨⟨guarded_concat_iff.mpr ⟨ordered.guarded, inOrder⟩,
      ordered.recorded.trans (broughtUp_concat other).symm⟩, here⟩
  alike seen machine other same holds := by
    rw [same.power, same.firstResumeDone]
    exact ⟨⟨holds.1.guarded, same.firstResumeDone ▸ holds.1.recorded⟩, holds.2⟩
  held _ _ _ _ holds := ⟨⟨holds.1.guarded, holds.1.recorded⟩, holds.2⟩

section Phases

variable (device : Device σ)

/-- Restoring may be asked for at any time. -/
theorem follows_begun :
    Follows device (fun stage => stage = .restore) (fun stage => stage = .restore)
      fun seen machine => Ordered seen machine ∧ Begun machine := by
  apply follows_ordered fun power done => done = true ∨ power = .runtimeSuspended
  · exact fun _ _ begun => begun
  · intro stage restores power done _
    subst restores
    exact ⟨trivial, nofun, fun later => absurd rfl later.2⟩
  · intro stage restores
    subst restores
    exact ⟨rfl, nofun⟩

/-- An active device may call every callback but those of a resume at run time. -/
theorem steady_ordered_up :
    Steady device (fun _ => True) (fun stage => stage ≠ .firstResume ∧ stage ≠ .runtimeResume)
      (fun seen machine => Ordered seen machine ∧ Up machine) (fun _ => True) := by
  have follows : Follows device (fun stage => stage ≠ .firstResume ∧ stage ≠ .runtimeResume)
      (fun stage => stage ≠ .firstResume ∧ stage ≠ .runtimeResume)
      fun seen machine => Ordered seen machine ∧ Up machine := by
    apply follows_ordered fun power done => power = .active ∧ done = true
    · exact fun _ _ up => .inl up.2
    · intro stage called power done up
      obtain ⟨rfl, rfl⟩ := up
      cases stage with
      | firstResume => exact absurd rfl called.1
      | runtimeResume => exact absurd rfl called.2
      | _ => exact ⟨by simp [Stage.CalledIn], nofun, fun _ => rfl⟩
    · exact fun stage called => ⟨called, called.1⟩
  exact follows.steady fun stage called => ⟨called, called⟩

/-- A device on its way back from a suspend calls the other callbacks. -/
theorem steady_ordered_down :
    Steady device (fun _ => True) (fun stage => stage = .restore ∨ stage = .runtimeResume)
      (fun seen machine => Ordered seen machine ∧
        machine.power ≠ .active ∧ machine.firstResumeDone = true) (fun _ => True) := by
  have follows : Follows device (fun stage => stage = .restore ∨ stage = .runtimeResume)
      (fun stage => stage = .restore ∨ stage = .runtimeResume)
      fun seen machine => Ordered seen machine ∧
        machine.power ≠ .active ∧ machine.firstResumeDone = true := by
    apply follows_ordered fun power done => power ≠ .active ∧ done = true
    · exact fun _ _ down => .inl down.2
    · intro stage called power done down
      cases called with
      | inl restores =>
          subst restores
          exact ⟨trivial, nofun, fun _ => down.2⟩
      | inr resumes =>
          subst resumes
          exact ⟨down.1, nofun, fun _ => down.2⟩
    · intro stage called
      refine ⟨called, ?_⟩
      intro first
      subst first
      simp at called
  exact follows.steady fun stage called => ⟨called, called⟩

/-- The first resume is over once its callback has passed. -/
theorem ends_firstResume_ordered :
    Ends
      (fun seen machine => Ordered seen machine ∧ machine.firstResumeDone = false ∧
        machine.power = .runtimeSuspended)
      (fun _ seen machine =>
        Ordered seen { machine with firstResumeDone := true, power := .active })
      (fun _ => Ordered) (device.callback .firstResume) := by
  have follows : Follows device (fun stage => stage = .firstResume) (fun _ => False)
      fun seen machine => Ordered seen machine ∧ machine.firstResumeDone = false ∧
        machine.power = .runtimeSuspended := by
    apply follows_ordered fun power done => done = false ∧ power = .runtimeSuspended
    · exact fun _ _ fresh => .inr fresh.2
    · intro stage called power done fresh
      subst called
      exact ⟨fresh.2, fun _ => fresh.1, fun later => absurd rfl later.1⟩
    · exact fun _ passed => passed.elim
  have passed (seen : List Event) (machine : Machine σ)
      (before : Ordered seen machine ∧ machine.firstResumeDone = false ∧
        machine.power = .runtimeSuspended) :
      Ordered (seen ++ [.stageEnded .firstResume (.ok ())])
        { machine with firstResumeDone := true, power := .active } := by
    have inOrder : InOrder seen (.stageEnded .firstResume (.ok ())) := {
      once := fun _ up => by simp [before.1.recorded.mpr up] at before
      later := fun stage belongs later => by
        cases belongs
        exact absurd rfl later.1
      power := nofun }
    exact ⟨guarded_concat_iff.mpr ⟨before.1.guarded, inOrder⟩, by simp [BroughtUp]⟩
  have called := follows.ends_callback .firstResume
    (fun seen machine => Ordered seen { machine with firstResumeDone := true, power := .active })
    rfl passed
  exact called.failing fun _ _ _ stopped => stopped.1

/-- No transition calls a callback out of its turn. -/
theorem phases_ordered : Phases device (fun _ => True) Ordered Ordered := by
  have up := device.steady_ordered_up
  have down := device.steady_ordered_down
  have moved {seen : List Event} {machine : Machine σ} (power : PowerState)
      (ordered : Ordered seen machine) : Ordered seen { machine with power } :=
    ⟨ordered.guarded, ordered.recorded⟩
  have quieted (action : Action) := (up.quiesce action trivial trivial trivial (by simp)).ends
  have woken := (down.wakeUp trivial trivial trivial trivial (.inl rfl) (.inr rfl)).ends
  have risen := (down.getUp trivial trivial trivial (.inl rfl)).ends
  exact {
    stopped := fun _ _ ordered => ordered
    told := fun _ _ _ ordered => ordered.other rfl
    toldFailed := fun _ _ _ ordered => ordered.other rfl
    begun := device.ends_firstResume_ordered
    prepared := up.prepareSuspend trivial
    quieted := fun action => (quieted action).weaken (fun _ _ before => before)
      (fun _ _ _ after => moved _ after.1) fun _ _ _ stopped => stopped
    undone := up.abortSuspend trivial
    slept := (up.layDown trivial trivial).ends.weaken (fun _ _ before => before)
      (fun _ _ _ after => moved _ after.1) fun _ _ _ stopped => stopped.1
    called := fun stage either => by
      apply up.callback
      cases either with
      | inl suspends => simp [suspends]
      | inr resumes => simp [resumes]
    used := up.markBusy
    woken := woken.weaken (fun _ _ before => ⟨before.1, before.2.2.1, before.2.1⟩)
      (fun _ _ _ after => moved _ after.1) fun _ _ _ stopped => stopped.1
    risen := risen.weaken (fun _ _ before => ⟨before.1, by simp [before.2.2], before.2.1⟩)
      (fun _ _ _ after => moved _ after.1) fun _ _ _ stopped => stopped.1
    looked := device.keeps_usedRecently
      (fun timer _ => keeps_act fun _ _ ordered => ⟨ordered.guarded, ordered.recorded⟩)
      fun _ => keeps_emit fun _ _ ordered => ordered.other rfl }

end Phases

/-! ## Every run -/

section Runs

variable (device : Device σ)

/-- No request calls a callback out of its turn. -/
theorem ordered_history (happenings : List (Happening σ)) :
    Keeps (fun seen machine => Ordered seen machine ∧ device.Reachable machine)
      (fun _ => False) (device.history happenings) := by
  apply Reachable.keeps_history
  · intro request seen machine reachable ordered
    have begun := device.begun_of_reachable reachable
    apply device.phases_ordered.after_perform request seen begun _ (fun _ => trivial) ordered
    intro plain
    exact (device.follows_begun.keeps_plain ⟨rfl, rfl⟩ plain seen machine ⟨ordered, begun⟩).1.1
  · exact fun _ _ _ ordered => ⟨ordered.guarded, ordered.recorded⟩
  · exact fun _ _ _ ordered => ⟨ordered.guarded, ordered.recorded⟩

/-- A saved context is never forgotten. -/
theorem lasting_saved :
    Lasting device (fun _ machine => machine.contextSaved = true) (fun _ => True) := by
  have resists : Resists device (fun _ => True) (fun _ => True)
      fun _ machine => machine.contextSaved = true := {
    saved := fun _ _ _ => rfl
    reported := fun _ _ _ _ saved => saved
    unresolved := fun _ _ _ _ saved => saved }
  have steady : Steady device (fun _ => True) (fun _ => True)
      (fun _ machine => machine.contextSaved = true) (fun _ => True) := by
    apply resists.maintains.steady
    · exact fun _ _ _ _ => keeps_stop (fun _ _ _ saved => saved) fun _ _ _ _ _ _ saved => saved
    · exact fun _ _ _ => keeps_start (fun _ _ _ saved => saved) fun _ _ _ _ _ _ saved => saved
    · exact fun _ _ _ _ => keeps_pauseIfActive (fun _ _ _ saved => saved) (fun _ _ saved => saved)
        fun _ _ _ saved => saved
    · exact fun selected _ _ _ => keeps_resumeIfPaused selected (fun _ _ _ saved => saved)
        (fun _ _ saved => saved) fun _ _ _ saved => saved
  exact resists.lasting (fun _ _ _ saved => saved) steady
    (fun _ => keeps_update fun _ _ saved => saved) (keeps_update fun _ _ saved => saved)

/-- In every run, whatever is asked of a device and whatever its callbacks answer, every callback
comes in its turn: the first resume until it succeeds and never again, all others of a transition
after that and in the right power state. Until then the device is in its initial power state
without a channel paused, and neither the first resume nor a saved context is ever forgotten. -/
theorem callbacks_in_order (hardware : σ) (storage : List UInt32)
    (happenings : List (Happening σ)) :
    let outcome := device.history happenings (.initial hardware storage)
    Guarded InOrder outcome.events ∧
      (outcome.state.firstResumeDone = true ↔ BroughtUp outcome.events) ∧
      (outcome.state.firstResumeDone = false →
        outcome.state.power = .runtimeSuspended ∧ outcome.state.pausedChannels = 0) ∧
      ∀ later, let after := device.history later outcome.state
        (outcome.state.firstResumeDone = true → after.state.firstResumeDone = true) ∧
          (outcome.state.contextSaved = true → after.state.contextSaved = true) := by
  intro outcome
  have reachable : device.Reachable outcome.state := ⟨hardware, storage, happenings, rfl⟩
  have untouched : Ordered [] (.initial hardware storage : Machine σ) :=
    ⟨guarded_nil, by simp [BroughtUp, Machine.initial]⟩
  have ordered : Ordered outcome.events outcome.state :=
    (device.ordered_history happenings [] _ ⟨untouched, hardware, storage, [], rfl⟩).1.1
  refine ⟨ordered.guarded, ordered.recorded, device.fresh_of_reachable reachable, ?_⟩
  intro later after
  have remembered := device.lasting_firstResume.history (fun _ _ _ done => done)
    (fun _ _ _ done => done) later
  have kept := device.lasting_saved.history (fun _ _ _ saved => saved)
    (fun _ _ _ saved => saved) later
  exact ⟨state_of_keeps remembered, fun saved => (kept [] outcome.state saved).1⟩

end Runs

end Device

end DevicePower
