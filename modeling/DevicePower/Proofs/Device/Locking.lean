import DevicePower.Proofs.Device.Following
import DevicePower.Proofs.Device.Phases

/-!
# What holds while the interrupt lock is held

The interrupt lock is taken in three places: while interrupts are masked for a suspend, while
they are unmasked for a resume, and while a refused suspend is undone. None of these lies within
another, and each gives the lock back however it ends. An invariant that is different while the
lock is held comes in two parts, therefore. `Locking` says that each part is kept by the steps
that belong to it, and that taking the lock and giving it back lead from one part to the other;
every transition then keeps the part for a free lock.

The steps between taking the lock and giving it back do not deal with the lock themselves. They
are the steps of a device whose driver does without it.
-/

namespace DevicePower

open DeviceM Traced

variable {σ : Type}

/-! ## The lock in the journal -/

/-- Whether the lock is held after the event, if it was held before or not. -/
def Event.holds (before : Bool) : Event → Bool
  | .irqTaken _ => true
  | .irqReleased => false
  | _ => before

/-- The lock was taken in these events and not given back. -/
def heldAfter (events : List Event) : Bool :=
  events.foldl Event.holds false

theorem heldAfter_concat (events : List Event) (event : Event) :
    heldAfter (events ++ [event]) = event.holds (heldAfter events) := by
  simp [heldAfter]

/-- The table masks or unmasks interrupts. -/
def TableKind.masks : TableKind → Bool
  | .irqDisable | .irqEnable => true
  | _ => false

namespace Device

/-- The device of a driver that does without the lock. Steps that do not deal with the lock are
the same for it, and report nothing about the lock. -/
def lockless (device : Device σ) : Device σ :=
  { device with
    driver := { device.driver with
      flags := { device.driver.flags with irqSublock := false } } }

/-- A request that is no transition has nothing to do with the lock. -/
theorem perform_lockless (device : Device σ) {request : Request}
    (plain : request.isTransition = false) :
    device.lockless.perform request = device.perform request := by
  cases request with
  | runtimeSuspend | runtimeResume | autosuspend | suspend | resume => cases plain
  | _ => rfl

/-- One invariant is kept while the lock is free, and another one while the steps are taken that
the lock is for. The stages are those whose callbacks may be called meanwhile. Tables that mask
or unmask interrupts are run in the second case only. -/
structure Locking (device : Device σ) (stagesFree stagesHeld : Stage → Prop)
    (free held : List Event → Machine σ → Prop) : Prop where
  outside : Steady device.lockless (fun kind => kind.masks = false) stagesFree free (fun _ => True)
  inside : Steady device.lockless (fun _ => True) stagesHeld held (fun _ => True)
  taken : ∀ seen machine, free seen machine →
    held (seen ++ device.lockTaken machine) (device.locked machine)
  released : ∀ seen machine, held seen machine →
    free (seen ++ device.lockReleased) (device.unlocked machine)
  told : ∀ news seen machine, free seen machine →
    free (seen ++ [.note (.device device.name news)]) machine
  moved : ∀ power done seen machine, free seen machine →
    free seen { machine with power, firstResumeDone := done }
  calledFree : ∀ stage, stage ≠ .runtimeSuspend ∧ stage ≠ .runtimeResume ∨
    device.driver.flags.callbackInIrqLock = false → stagesFree stage
  calledHeld : device.driver.flags.callbackInIrqLock = true →
    stagesHeld .runtimeSuspend ∧ stagesHeld .runtimeResume

namespace Locking

variable {device : Device σ} {stagesFree stagesHeld : Stage → Prop}
variable {free held : List Event → Machine σ → Prop}

/-- The lock is taken before a computation and given back after it, however it ends. -/
theorem keeps_withIrqLock (locking : Locking device stagesFree stagesHeld free held)
    {computation : DeviceM σ Unit} (kept : Keeps held (fun _ => True) computation) :
    Keeps free (fun _ => True) (device.withIrqLock computation) := by
  intro seen machine holds
  have within := (kept _ _ (locking.taken _ _ holds)).1
  rw [withIrqLock_apply, ← List.append_assoc, ← List.append_assoc]
  exact ⟨locking.released _ _ within, fun _ _ => trivial⟩

theorem keeps_callbackInside (locking : Locking device stagesFree stagesHeld free held)
    {stage : Stage} (either : stage = .runtimeSuspend ∨ stage = .runtimeResume) :
    Keeps held (fun _ => True) (device.callbackInside stage) := by
  rw [callbackInside]
  split
  next asked =>
    obtain ⟨suspends, resumes⟩ := locking.calledHeld asked
    cases either with
    | inl same => exact locking.inside.callback stage (same ▸ suspends)
    | inr same => exact locking.inside.callback stage (same ▸ resumes)
  next => exact keeps_pure ()

theorem keeps_callbackOutside (locking : Locking device stagesFree stagesHeld free held)
    (stage : Stage) : Keeps free (fun _ => True) (device.callbackOutside stage) := by
  rw [callbackOutside]
  split
  · exact keeps_pure ()
  next unasked =>
    exact locking.outside.callback stage (locking.calledFree stage (.inr (by simpa using unasked)))

theorem keeps_quiesce (locking : Locking device stagesFree stagesHeld free held)
    (action : Action) : Keeps free (fun _ => True) (device.quiesce action) := by
  have masked := (locking.inside.maskInterrupts trivial).bind fun _ =>
    (locking.inside.pins action).bind fun _ => locking.keeps_callbackInside (.inl rfl)
  exact (locking.keeps_withIrqLock masked).bind fun _ =>
    (locking.keeps_callbackOutside .runtimeSuspend).bind fun _ =>
      (locking.outside.table .wakeup rfl nofun).bind fun _ => locking.outside.gateClocks rfl

/-- Undoing a refused suspend takes the lock anew, after the attempt gave it back. -/
theorem keeps_abortSuspend (locking : Locking device stagesFree stagesHeld free held)
    (paused : UInt32) : Keeps free (fun _ => True) (device.abortSuspend paused) := by
  refine (locking.outside.news _ (by simp)).bind fun _ => (locking.keeps_withIrqLock ?_).bind
    fun _ => (locking.outside.resumeChannels paused).bind fun _ => locking.outside.markBusy
  apply (locking.inside.unmaskInterrupts trivial).attempt_bind
  intro result _
  cases result with
  | ok done => exact keeps_pure ()
  | error error => exact locking.inside.news _ (by simp)

theorem keeps_wakeUp (locking : Locking device stagesFree stagesHeld free held) :
    Keeps free (fun _ => True) device.wakeUp := by
  have unmasked := (locking.inside.unmaskInterrupts trivial).bind fun _ =>
    locking.keeps_callbackInside (.inr rfl)
  have restoring : stagesFree .restore := locking.calledFree _ (.inl (by decide))
  exact (locking.outside.restore rfl rfl restoring).bind fun _ =>
    (locking.outside.ungateClocks rfl).bind fun _ => (locking.outside.pins .resume).bind fun _ =>
      (locking.keeps_withIrqLock unmasked).bind fun _ =>
        (locking.keeps_callbackOutside .runtimeResume).bind fun _ =>
          (keeps_query _).bind fun paused => locking.outside.resumeChannels paused

/-- Every transition keeps the invariant for a free lock. -/
theorem phases (locking : Locking device stagesFree stagesHeld free held) :
    Phases device (fun _ => True) free free := by
  have outside := locking.outside
  have up := device.steady_up
  have called (stage : Stage) (other : stage ≠ .runtimeSuspend ∧ stage ≠ .runtimeResume) :
      stagesFree stage :=
    locking.calledFree stage (.inl other)
  have first := (outside.callback .firstResume (called _ (by decide))).ends
  have sleeping := (outside.layDown rfl rfl).ends
  have waking := (outside.getUp rfl rfl rfl (called _ (by decide))).ends
  exact {
    stopped := fun _ _ holds => holds
    told := locking.told
    toldFailed := locking.told
    begun := first.weaken (fun _ _ before => before.1)
      (fun _ _ _ after => locking.moved _ _ _ _ after) fun _ _ _ stopped => stopped
    prepared := (outside.prepareSuspend rfl).and (up.prepareSuspend trivial)
    quieted := fun action =>
      ((locking.keeps_quiesce action).and
        (up.quiesce action trivial trivial trivial trivial)).ends.weaken (fun _ _ before => before)
        (fun _ _ _ after => locking.moved _ _ _ _ after.1) fun _ _ _ stopped => stopped
    undone := fun paused =>
      (locking.keeps_abortSuspend paused).and (up.abortSuspend trivial paused)
    slept := sleeping.weaken (fun _ _ before => before.1)
      (fun _ _ _ after => locking.moved _ _ _ _ after) fun _ _ _ stopped => stopped
    called := fun stage either => by
      apply (outside.callback stage (called stage _)).and (up.callback stage trivial)
      cases either with
      | inl suspends => simp [suspends]
      | inr resumes => simp [resumes]
    used := outside.markBusy.and up.markBusy
    woken := locking.keeps_wakeUp.ends.weaken (fun _ _ before => before.1)
      (fun _ _ _ after => locking.moved _ _ _ _ after) fun _ _ _ stopped => stopped
    risen := waking.weaken (fun _ _ before => before.1)
      (fun _ _ _ after => locking.moved _ _ _ _ after) fun _ _ _ stopped => stopped
    looked := outside.usedRecently }

end Locking

end Device

end DevicePower
