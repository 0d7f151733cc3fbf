import DevicePower.Proofs.Device.Attempts
import DevicePower.Proofs.Device.Busy
import DevicePower.Proofs.Device.Records

/-!
# When a device was in use

A device counts as in use when a caller says so, when it has come back from system sleep, and when
an attempt to suspend it was undone because an interrupt is pending. Each of these takes a reading
of the timer. `markStart` says for every request whether it takes such a reading, and in which
machine; the reading that the device remembers is the last one of its history. Nothing else that
happens to a device touches it.
-/

namespace DevicePower

open DeviceM Traced

variable {σ : Type}

/-- What comes after a step and changes nothing leaves what the step left. -/
theorem Traced.state_bind_of_idle {ε η α β : Type} {first : Traced ε η σ α}
    {next : α → Traced ε η σ β} (idle : ∀ value state, (next value state).state = state)
    (state : σ) : ((first >>= next) state).state = (first state).state := by
  cases ended : (first state).result with
  | error error => rw [bind_of_error ended]
  | ok value => rw [bind_of_ok ended, idle]

namespace Device

variable (device : Device σ)

/-! ## Where the device is marked -/

/-- Undo an attempt to suspend, as far as that goes before the device is marked as in use. -/
def undoSuspend (paused : UInt32) : DeviceM σ Unit := do
  device.tell .suspendDeferred
  device.withIrqLock device.tellUnmask
  device.resumeChannels paused

/-- The machine in which an attempt to suspend marks the device as in use: it does if an interrupt
is pending, once everything is undone. -/
def abortStart (action : Action) (start : Machine σ) : Option (Machine σ) :=
  let prepared := device.prepareSuspend start
  match prepared.result with
  | .ok paused =>
      let quieted := device.quiesce action prepared.state
      match quieted.result with
      | .error .busy => some (device.undoSuspend paused quieted.state).state
      | _ => none
  | .error _ => none

/-- What a system resume does before it marks the device as in use. -/
def comeBack (power : PowerState) : DeviceM σ Unit := do
  device.wakeFrom power
  device.callback .resume

/-- The machine in which a request takes the reading that marks the device as in use, if the
request comes to that. -/
def markStart : Request → Machine σ → Option (Machine σ)
  | .markBusy, machine => some machine
  | .resume, machine =>
      match (device.comeBack machine.power machine).result with
      | .ok () => some (device.comeBack machine.power machine).state
      | .error _ => none
  | request, machine =>
      (device.suspendStart request machine).bind fun attempt =>
        device.abortStart attempt.1 attempt.2

/-- The machine in which what happens marks the device as in use, if it does. -/
def markBy : Happening σ → Machine σ → Option (Machine σ)
  | .asked request, machine => device.markStart request machine
  | _, _ => none

/-- The machines in which a history marks the device as in use, one after the other. -/
def marks : List (Happening σ) → Machine σ → List (Machine σ)
  | [], _ => []
  | happening :: rest, machine =>
      (device.markBy happening machine).toList ++
        marks rest (device.undergo happening machine).state

/-- The last use that is on record, if the device was marked in the given machine or not at all. -/
def lastBusyAfter : Option (Machine σ) → Option UInt32 → Option UInt32
  | some mark, _ => (device.markBusy mark).state.lastBusy
  | none, before => before

/-- What was done has ended by marking the device in the given machine, or has left the record of
the last use alone. -/
def EndsMarked : Option (Machine σ) → Machine σ → Machine σ → Prop
  | some mark, _, after => after = (device.markBusy mark).state
  | none, before, after => after.lastBusy = before.lastBusy

/-! ## What a mark says about the request -/

/-- The request marks the device as in use, by what it is and how it ends: an attempt to suspend is
refused, and not because the device was used lately, or a system resume succeeds. -/
def Marks : Request → Machine σ → Prop
  | .markBusy, _ => True
  | .resume, machine => (device.resume machine).result = .ok ()
  | .runtimeSuspend, machine => (device.runtimeSuspend machine).result = .error .busy
  | .autosuspend, machine =>
      (device.autosuspend machine).result = .error .busy ∧ ¬device.UsedLately machine
  | .suspend, machine => (device.suspend machine).result = .error .busy
  | _, _ => False

theorem markBusy_succeeds (machine : Machine σ) :
    (device.markBusy machine).result = .ok () := by
  obtain ⟨hardware, lastBusy, events, marked, -⟩ := device.markBusy_spec machine
  rw [marked]

theorem resume_apply (machine : Machine σ) :
    device.resume machine =
      (device.comeBack machine.power >>= fun _ => do
        device.markBusy
        device.tell .resumed) machine := by
  rw [resume, query_bind_apply, comeBack, bind_assoc]

/-- An attempt to suspend marks the device exactly if it is refused. -/
theorem abortStart_isSome_iff (action : Action) (start : Machine σ) :
    (device.abortStart action start).isSome ↔
      (device.suspendActive action start).result = .error .busy := by
  rw [suspendActive, attempt_bind_apply, abortStart]
  cases prepared : (device.prepareSuspend start).result with
  | error error =>
      have other : error ≠ .busy := by
        rintro rfl
        exact ne_busy_of_keeps (device.steady_ne_busy.prepareSuspend (by simp)) start prepared
      simp [concludeSuspend_busy_iff, other]
  | ok paused =>
      simp only [attempt_bind_apply, concludeSuspend_busy_iff]
      split
      next refused => simp [refused]
      next other => simpa using other

/-- So does a runtime suspend. -/
theorem abortStart_attemptFor_iff (action : Action) (machine : Machine σ) :
    ((attemptFor action machine).bind fun attempt =>
      device.abortStart attempt.1 attempt.2).isSome ↔
      (device.runtimeSuspendFor action machine).result = .error .busy := by
  rw [runtimeSuspendFor_apply]
  cases attempt : attemptFor action machine with
  | none => simp
  | some start => simp [abortStart_isSome_iff]

theorem markStart_isSome_iff (request : Request) (machine : Machine σ) :
    (device.markStart request machine).isSome ↔ device.Marks request machine := by
  cases request with
  | markBusy => simp [markStart, Marks]
  | resume =>
      have marked (machine : Machine σ) :
          ((do
            device.markBusy
            device.tell .resumed : DeviceM σ Unit) machine).result = .ok () := by
        rw [bind_of_ok (device.markBusy_succeeds machine), tell_apply]
      rw [Marks, resume_apply, markStart]
      cases woken : (device.comeBack machine.power machine).result with
      | error error => simp [bind_of_error woken]
      | ok done => simp [bind_of_ok woken, marked]
  | runtimeSuspend => exact device.abortStart_attemptFor_iff .suspend machine
  | autosuspend =>
      obtain ⟨recent, looked, lately⟩ := device.usedRecently_result machine
      simp only [markStart, suspendStart, looked, Marks, ← lately]
      cases recent with
      | true => simp
      | false =>
          rw [device.abortStart_attemptFor_iff, autosuspend, bind_of_ok looked]
          simp
  | suspend =>
      rw [Marks, suspend_busy_iff, markStart, suspendStart]
      · by_cases asleep : machine.power = .systemSuspended
        · simp [asleep]
        · cases opened : (device.beforeSleep machine).result with
          | error error => simp [asleep]
          | ok done =>
              have attempt := (device.abortStart_attemptFor_iff .suspend
                (device.beforeSleep machine).state).trans (device.runtimeSuspendFor_busy_iff _ _)
              cases inContext : device.driver.flags.systemContext with
              | true => simp [asleep]
              | false =>
                  cases managed : device.driver.flags.runtimePm with
                  | false => simp [asleep]
                  | true => simpa [asleep] using attempt
      · rintro ⟨⟩
      · rintro ⟨⟩
  | _ => simp [markStart, suspendStart, Marks]

/-! ## The record of the last use -/

theorem apart_lastBusy : Machine.Apart (Machine.lastBusy (σ := σ)) where
  workspace _ _ := rfl
  held _ _ := rfl
  tracked _ _ := rfl
  saved _ := rfl
  entered _ _ := rfl
  started _ := rfl

theorem lost_lastBusy (machine : Machine σ) (contextLosses : UInt32) :
    { machine with contextLosses }.lastBusy = machine.lastBusy := rfl

theorem abortSuspend_eq_undo (paused : UInt32) :
    device.abortSuspend paused = (do device.undoSuspend paused; device.markBusy) := by
  simp only [abortSuspend_eq, undoSuspend, bind_assoc]

theorem undoSuspend_succeeds (paused : UInt32) (machine : Machine σ) :
    (device.undoSuspend paused machine).result = .ok () := by
  obtain ⟨before, after, state, undone, -⟩ := device.abortSuspend_spec paused machine
  have succeeded : (device.abortSuspend paused machine).result = .ok () := by rw [undone]
  rw [abortSuspend_eq_undo] at succeeded
  obtain ⟨⟨⟩, first, -⟩ := bind_succeeds_iff.mp succeeded
  exact first

/-- An attempt that is not refused leaves the record alone. -/
theorem lastBusy_concludeSuspend {result : Except Error Unit} (other : result ≠ .error .busy)
    (paused : UInt32) (machine : Machine σ) :
    (device.concludeSuspend paused result machine).state.lastBusy = machine.lastBusy := by
  cases result with
  | ok done => rfl
  | error error =>
      rw [concludeSuspend]
      · rfl
      · rintro rfl
        exact other rfl

/-- Where the record came from does not matter to what ends marked. -/
theorem EndsMarked.of_lastBusy {device : Device σ} {mark : Option (Machine σ)}
    {before start after : Machine σ} (ends : device.EndsMarked mark start after)
    (same : start.lastBusy = before.lastBusy) : device.EndsMarked mark before after := by
  cases mark with
  | some mark => exact ends
  | none => exact Eq.trans ends same

theorem EndsMarked.lastBusy_eq {device : Device σ} {mark : Option (Machine σ)}
    {before after : Machine σ} (ends : device.EndsMarked mark before after) :
    after.lastBusy = device.lastBusyAfter mark before.lastBusy := by
  cases mark with
  | some mark => exact congrArg Machine.lastBusy ends
  | none => exact ends

/-- An attempt to suspend marks the device if it is refused. -/
theorem endsMarked_suspendActive (action : Action) (start : Machine σ) :
    device.EndsMarked (device.abortStart action start) start
      (device.suspendActive action start).state := by
  have prepares : Keeps (Machine.Shows Machine.lastBusy start.lastBusy) (fun _ => True)
      device.prepareSuspend :=
    (apart_lastBusy.keeps_save device).bind fun _ => apart_lastBusy.keeps_pauseChannels device
  have ready := (prepares [] start rfl).1
  have quiet := Keeps.shown (fun _ => apart_lastBusy.keeps_quiesce device action)
    (device.prepareSuspend start).state
  rw [suspendActive, attempt_bind_apply, abortStart]
  cases prepared : (device.prepareSuspend start).result with
  | error error =>
      have other : Except.error error ≠ (.error .busy : Except Error Unit) := by
        rintro ⟨⟩
        exact ne_busy_of_keeps (device.steady_ne_busy.prepareSuspend (by simp)) start prepared
      exact (device.lastBusy_concludeSuspend other _ _).trans ready
  | ok paused =>
      simp only [attempt_bind_apply]
      split
      next refused =>
        rw [refused, concludeSuspend_busy_apply, abortSuspend_eq_undo,
          bind_of_ok (device.undoSuspend_succeeds paused _)]
        rfl
      next other =>
        exact (device.lastBusy_concludeSuspend other _ _).trans (quiet.trans ready)

theorem endsMarked_runtimeSuspendFor (action : Action) (machine : Machine σ) :
    device.EndsMarked
      ((attemptFor action machine).bind fun attempt => device.abortStart attempt.1 attempt.2)
      machine (device.runtimeSuspendFor action machine).state := by
  rw [runtimeSuspendFor, query_bind_apply, attemptFor]
  split
  · exact device.endsMarked_suspendActive action machine
  · exact Eq.refl machine.lastBusy

theorem endsMarked_autosuspend (machine : Machine σ) :
    device.EndsMarked (device.markStart .autosuspend machine) machine
      (device.autosuspend machine).state := by
  obtain ⟨recent, looked, -⟩ := device.usedRecently_result machine
  have kept := Keeps.shown (fun _ => apart_lastBusy.keeps_usedRecently device) machine
  rw [autosuspend, bind_of_ok looked]
  simp only [markStart, suspendStart, looked]
  cases recent with
  | true => exact kept
  | false => exact (device.endsMarked_runtimeSuspendFor .autosuspend _).of_lastBusy kept

/-- A system suspend marks the device if the runtime suspend in it does. -/
theorem endsMarked_suspend (machine : Machine σ) :
    device.EndsMarked (device.markStart .suspend machine) machine
      (device.suspend machine).state := by
  by_cases asleep : machine.power = .systemSuspended
  · rw [device.suspend_of_asleep asleep, markStart, suspendStart, if_pos asleep]
    · exact Eq.refl machine.lastBusy
    · rintro ⟨⟩
    · rintro ⟨⟩
  have entered : (device.beforeSleep machine).state.lastBusy = machine.lastBusy := by
    have kept (last : Option UInt32) :
        Keeps (Machine.Shows Machine.lastBusy last) (fun _ => True) device.beforeSleep := by
      refine Keeps.bind ?_ fun _ => apart_lastBusy.keeps_callback device .suspend
      apply (keeps_query _).bind
      intro power
      split
      · exact apart_lastBusy.keeps_runtimeResume device lost_lastBusy
      · exact keeps_pure ()
    exact Keeps.shown kept machine
  have laid (last : Option UInt32) :
      Keeps (Machine.Shows Machine.lastBusy last) (fun _ => True) device.sleepWithContext :=
    (apart_lastBusy.keeps_save device).bind fun _ =>
      (apart_lastBusy.keeps_selectPins device .suspend).bind fun _ =>
        (apart_lastBusy.keeps_gateClocks device).bind fun _ => apart_lastBusy.keeps_enter _
  -- What is told in the end changes nothing.
  have told : ∀ machine, ((device.sleep >>= fun _ => device.tellAsleep) machine).state =
      (device.sleep machine).state := state_bind_of_idle fun _ _ => rfl
  rw [device.suspend_of_awake asleep, markStart, suspendStart, if_neg asleep]
  · cases opened : (device.beforeSleep machine).result with
    | error error =>
        rw [bind_of_error opened]
        exact entered
    | ok done =>
        rw [bind_of_ok opened, told, sleep]
        refine EndsMarked.of_lastBusy ?_ entered
        cases inContext : device.driver.flags.systemContext with
        | true => exact Keeps.shown laid _
        | false =>
            cases managed : device.driver.flags.runtimePm with
            | true => exact device.endsMarked_runtimeSuspendFor .suspend _
            | false => exact Eq.refl (device.beforeSleep machine).state.lastBusy
  · rintro ⟨⟩
  · rintro ⟨⟩

/-- A system resume marks the device once it has come back. -/
theorem endsMarked_resume (machine : Machine σ) :
    device.EndsMarked (device.markStart .resume machine) machine
      (device.resume machine).state := by
  have kept (last : Option UInt32) :
      Keeps (Machine.Shows Machine.lastBusy last) (fun _ => True)
        (device.comeBack machine.power) :=
    (apart_lastBusy.keeps_wakeFrom device lost_lastBusy machine.power).bind fun _ =>
      apart_lastBusy.keeps_callback device .resume
  have told : ∀ machine, ((device.markBusy >>= fun _ => device.tell .resumed) machine).state =
      (device.markBusy machine).state := state_bind_of_idle fun _ _ => rfl
  rw [resume_apply, markStart]
  cases woken : (device.comeBack machine.power machine).result with
  | error error =>
      rw [bind_of_error woken]
      exact Keeps.shown kept machine
  | ok done =>
      rw [bind_of_ok woken]
      exact told _

/-- A request that marks the device ends with that, and any other leaves the record alone. -/
theorem endsMarked_perform (request : Request) (machine : Machine σ) :
    device.EndsMarked (device.markStart request machine) machine
      (device.perform request machine).state := by
  have answered (computation : DeviceM σ Unit) :
      (answering computation machine).state = (computation machine).state :=
    state_bind_of_idle (fun _ _ => rfl) machine
  have plain (unmarked : request.marks = false) (unrestored : request.restores = false) :
      (device.perform request machine).state.lastBusy = machine.lastBusy :=
    Keeps.shown (fun _ => apart_lastBusy.keeps_perform_plain device unmarked unrestored) machine
  cases request with
  | markBusy => exact answered _
  | resume => exact answered _ ▸ device.endsMarked_resume machine
  | runtimeSuspend => exact answered _ ▸ device.endsMarked_runtimeSuspendFor .suspend machine
  | autosuspend => exact answered _ ▸ device.endsMarked_autosuspend machine
  | suspend => exact answered _ ▸ device.endsMarked_suspend machine
  | restore =>
      have kept := Keeps.shown (fun _ => apart_lastBusy.keeps_restore device lost_lastBusy) machine
      exact (congrArg Machine.lastBusy (answered _)).trans kept
  | runtimeResume =>
      have kept := Keeps.shown
        (fun _ => apart_lastBusy.keeps_runtimeResume device lost_lastBusy) machine
      exact (congrArg Machine.lastBusy (answered _)).trans kept
  | _ => exact plain rfl rfl

theorem lastBusy_undergo (happening : Happening σ) (machine : Machine σ) :
    (device.undergo happening machine).state.lastBusy =
      device.lastBusyAfter (device.markBy happening machine) machine.lastBusy := by
  cases happening with
  | asked request => exact (device.endsMarked_perform request machine).lastBusy_eq
  | changed hardware => rfl
  | handler holds => rfl

/-- Whatever happens, the record of the last use is the reading of the last mark. -/
theorem lastBusy_history (happenings : List (Happening σ)) (machine : Machine σ) :
    (device.history happenings machine).state.lastBusy =
      device.lastBusyAfter (device.marks happenings machine).getLast? machine.lastBusy := by
  induction happenings generalizing machine with
  | nil => rfl
  | cons happening rest ih =>
      rw [history, bind_of_ok (device.undergo_succeeds happening machine), ih,
        device.lastBusy_undergo, marks, List.getLast?_append]
      cases (device.marks rest (device.undergo happening machine).state).getLast? with
      | some mark => rfl
      | none => cases device.markBy happening machine <;> rfl

end Device

end DevicePower
