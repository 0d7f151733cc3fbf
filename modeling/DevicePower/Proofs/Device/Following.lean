import DevicePower.Proofs.Device.Resistance
import DevicePower.Proofs.Device.Transitions

/-!
# Invariants of the journal

Some invariants are about the order in which things are reported: which callback may be called
when, and when the interrupt lock may be taken. Of the machine, they look at nothing but the
power state, the record of the first resume and the lock, and no step touches these apart from
the lock. `Follows` asks of such an invariant only which events it survives. A callback that
succeeds often marks the point where another invariant takes over, so the events of a callback
are told apart from the event that it has passed.
-/

namespace DevicePower

open DeviceM Traced

variable {σ : Type}

/-- A step can report the event in this state if it calls the callbacks of the first stages
only, and lets only those of the second stages pass. -/
def Event.Occurs (device : Device σ) (machine : Machine σ) (calls passes : Stage → Prop) :
    Event → Prop
  | .activity (.callback stage) _ | .stageEnded stage (.error _) => calls stage
  | .callbackCalled stage irqHeld power =>
      calls stage ∧ irqHeld = machine.irqHeld ∧ power = machine.power
  | .stageEnded stage (.ok ()) => passes stage
  | .irqTaken contended =>
      device.driver.flags.irqSublock = true ∧ contended = machine.irqHeld
  | .irqReleased => device.driver.flags.irqSublock = true
  | _ => True

/-- The stage that the event belongs to, if it is about a callback. -/
def Event.stage : Event → Option Stage
  | .activity (.callback stage) _ | .callbackCalled stage _ _ | .stageEnded stage _ => some stage
  | _ => none

/-- Only the callbacks that are called report anything. -/
theorem Event.Occurs.calls {device : Device σ} {machine : Machine σ}
    {calls passes : Stage → Prop} {event : Event}
    (occurs : event.Occurs device machine calls passes)
    (called : ∀ stage, passes stage → calls stage) {stage : Stage}
    (belongs : event.stage = some stage) : calls stage := by
  cases event with
  | activity origin activity =>
      cases origin with
      | callback other =>
          cases belongs
          exact occurs
      | _ => cases belongs
  | callbackCalled other irqHeld power =>
      cases belongs
      exact occurs.1
  | stageEnded other result =>
      cases belongs
      cases result with
      | ok done => exact called stage occurs
      | error error => exact occurs
  | _ => cases belongs

/-- The machines differ in nothing that the journal is compared with. -/
structure Machine.Alike (machine other : Machine σ) : Prop where
  power : other.power = machine.power
  firstResumeDone : other.firstResumeDone = machine.firstResumeDone
  irqHeld : other.irqHeld = machine.irqHeld

namespace Device

/-- The invariant looks at the journal, and survives what is reported by steps that call and
pass these stages. -/
structure Follows (device : Device σ) (calls passes : Stage → Prop)
    (invariant : List Event → Machine σ → Prop) : Prop where
  reported : ∀ event seen machine, event.Occurs device machine calls passes →
    invariant seen machine → invariant (seen ++ [event]) machine
  alike : ∀ seen machine other, machine.Alike other → invariant seen machine →
    invariant seen other
  held : device.driver.flags.irqSublock = true → ∀ irqHeld seen machine,
    invariant seen machine → invariant seen { machine with irqHeld } := by
      intros; assumption

variable {device : Device σ} {calls passes : Stage → Prop}
variable {invariant : List Event → Machine σ → Prop}

/-- Whatever a step with these tables and stages reports occurs. -/
theorem occurs_of_within {tables : TableKind → Prop} {stages : Stage → Prop} {event : Event}
    {machine : Machine σ} (called : ∀ stage, stages stage → calls stage ∧ passes stage)
    (within : event.Within device machine tables stages) :
    event.Occurs device machine calls passes := by
  cases event with
  | activity origin activity =>
      cases origin with
      | callback stage => exact (called stage within).1
      | _ => trivial
  | callbackCalled stage irqHeld power => exact ⟨(called stage within.1).1, within.2⟩
  | stageEnded stage result =>
      cases result with
      | ok done => exact (called stage within).2
      | error error => exact (called stage within).1
  | irqTaken contended => exact within
  | irqReleased => exact within
  | _ => trivial

namespace Follows

variable {tables : TableKind → Prop} {stages : Stage → Prop}

theorem resists (follows : Follows device calls passes invariant)
    (called : ∀ stage, stages stage → calls stage ∧ passes stage) :
    Resists device tables stages invariant where
  read _ seen machine := follows.alike seen machine _ ⟨rfl, rfl, rfl⟩
  write _ _ seen machine := follows.alike seen machine _ ⟨rfl, rfl, rfl⟩
  context _ seen machine := follows.alike seen machine _ ⟨rfl, rfl, rfl⟩
  prepared _ _ _ _ seen machine := follows.alike seen machine _ ⟨rfl, rfl, rfl⟩
  ticked _ _ seen machine := follows.alike seen machine _ ⟨rfl, rfl, rfl⟩
  selected _ _ _ seen machine := follows.alike seen machine _ ⟨rfl, rfl, rfl⟩
  held := follows.held
  saved seen machine := follows.alike seen machine _ ⟨rfl, rfl, rfl⟩
  lost seen machine := follows.alike seen machine _ ⟨rfl, rfl, rfl⟩
  used _ seen machine := follows.alike seen machine _ ⟨rfl, rfl, rfl⟩
  reported event seen machine within :=
    follows.reported event seen machine (occurs_of_within called within)
  unresolved _ _ seen machine := follows.reported _ seen machine trivial

/-- Every step keeps an invariant of the journal that survives what the step reports. -/
theorem steady (follows : Follows device calls passes invariant)
    (called : ∀ stage, stages stage → calls stage ∧ passes stage) :
    Steady device tables stages invariant (fun _ => True) := by
  have moved {change : σ → σ} (seen : List Event) (machine : Machine σ)
      (holds : invariant seen machine) :
      invariant seen { machine with hardware := change machine.hardware } :=
    follows.alike seen machine _ ⟨rfl, rfl, rfl⟩ holds
  apply (follows.resists called).maintains.steady
  · intro _ number clock _
    exact keeps_stop (fun action seen machine => follows.reported _ seen machine trivial)
      fun _ _ _ _ => moved
  · intro number clock _
    exact keeps_start (fun action seen machine => follows.reported _ seen machine trivial)
      fun _ _ _ _ => moved
  · intro _ number channel _
    exact keeps_pauseIfActive (fun action seen machine => follows.reported _ seen machine trivial)
      moved fun _ seen machine => follows.alike seen machine _ ⟨rfl, rfl, rfl⟩
  · intro selected number channel _
    exact keeps_resumeIfPaused selected
      (fun action seen machine => follows.reported _ seen machine trivial)
      moved fun _ seen machine => follows.alike seen machine _ ⟨rfl, rfl, rfl⟩

/-- A request that is no transition calls no callback but the one of the restore step. -/
theorem keeps_plain (follows : Follows device calls passes invariant)
    (restoring : calls .restore ∧ passes .restore) {request : Request}
    (plain : request.isTransition = false) :
    Keeps invariant (fun _ => True) (device.perform request) := by
  have called (stage : Stage) (restores : stage = .restore) : calls stage ∧ passes stage := by
    rw [restores]
    exact restoring
  have resists : Resists device (fun _ => True) (fun stage => stage = .restore) invariant :=
    follows.resists called
  have steady : Steady device (fun _ => True) (fun stage => stage = .restore) invariant
      (fun _ => True) :=
    follows.steady called
  have requested (activity : Activity) (seen : List Event) (machine : Machine σ) :
      invariant seen machine → invariant (seen ++ [.activity .request activity]) machine :=
    follows.reported _ seen machine trivial
  cases request with
  | createContext template => exact keeps_answering (resists.keeps_createContext template)
  | runTable table => exact keeps_answering (resists.keeps_runTable requested table)
  | runtimeSuspend | runtimeResume | autosuspend | suspend | resume => cases plain
  | _ =>
      exact steady.perform_step (resists.keeps_readRegister requested)
        (resists.keeps_writeRegister requested) (fun _ _ => trivial) rfl (fun _ => trivial) rfl

/-- The invariant holds during a callback, and after one that fails. Where the callback passes,
whatever follows from that takes over. -/
theorem ends_callback (follows : Follows device calls passes invariant) (stage : Stage)
    (after : List Event → Machine σ → Prop) (calling : calls stage)
    (passed : ∀ seen machine, invariant seen machine →
      after (seen ++ [.stageEnded stage (.ok ())]) machine) :
    Ends invariant (fun _ => after) (fun _ => invariant) (device.callback stage) := by
  intro seen machine holds
  cases present : device.hooks.hook stage with
  | none =>
      rw [callback, present]
      exact passed seen machine holds
  | some hook =>
      rw [device.callback_apply machine present]
      generalize (hook machine.hardware).1.run device.transport
        { machine.toWorkspace with hardware := (hook machine.hardware).2 } = run
      have begun := follows.reported (.callbackCalled stage machine.irqHeld machine.power) seen
        machine ⟨calling, rfl, rfl⟩ holds
      have worked : invariant
          (seen ++ [.callbackCalled stage machine.irqHeld machine.power] ++
            run.events.map (.activity (.callback stage)))
          { machine with toWorkspace := run.state } :=
        follows.alike _ machine _ ⟨rfl, rfl, rfl⟩ (activities_reported
          (fun activity seen machine =>
            follows.reported (.activity (.callback stage) activity) seen machine calling)
          _ _ machine begun)
      cases ended : run.result with
      | ok done => simpa [callbackNews, ended] using passed _ _ worked
      | error error =>
          have told := follows.reported (.stageEnded stage (.error error)) _ _ calling worked
          have blamed := follows.reported
            (.note (.device device.name (.callbackFailed stage error))) _ _ trivial told
          simpa [callbackNews, ended] using blamed

/-! ## The interrupt lock

An invariant that does not mind who holds the lock survives that it is taken and released. -/

theorem taken (follows : Follows device calls passes invariant) (seen : List Event)
    (machine : Machine σ) (holds : invariant seen machine) :
    invariant (seen ++ device.lockTaken machine) (device.locked machine) := by
  rw [lockTaken, locked]
  split
  next sublock =>
    exact follows.held sublock _ _ _
      (follows.reported (.irqTaken machine.irqHeld) seen machine ⟨sublock, rfl⟩ holds)
  next sublock =>
    rw [List.append_nil]
    exact follows.alike seen machine _ ⟨rfl, rfl, by simp [sublock]⟩ holds

theorem released (follows : Follows device calls passes invariant) (seen : List Event)
    (machine : Machine σ) (holds : invariant seen machine) :
    invariant (seen ++ device.lockReleased) (device.unlocked machine) := by
  rw [lockReleased, unlocked]
  split
  next sublock =>
    exact follows.held sublock _ _ _
      (follows.reported .irqReleased seen machine sublock holds)
  next sublock =>
    rw [List.append_nil]
    exact follows.alike seen machine _ ⟨rfl, rfl, by simp [sublock]⟩ holds

/-- A callback that is called once, either inside the interrupt lock or outside, marks the same
point in both places. -/
theorem ends_callbackEither (follows : Follows device calls passes invariant)
    {callsAfter passesAfter : Stage → Prop} {after : List Event → Machine σ → Prop}
    (followsAfter : Follows device callsAfter passesAfter after) {prelude : DeviceM σ Unit}
    (kept : Keeps invariant (fun _ => True) prelude) {stage : Stage}
    (called : Ends invariant (fun _ => after) (fun _ => invariant) (device.callback stage)) :
    Ends invariant (fun _ => after) (fun _ => invariant) (do
      device.withIrqLock do
        prelude
        device.callbackInside stage
      device.callbackOutside stage) := by
  cases inside : device.driver.flags.callbackInIrqLock with
  | true =>
      have locked : Ends invariant (fun _ => after) (fun _ => invariant)
          (device.withIrqLock do prelude; device.callbackInside stage) := by
        apply ends_withIrqLock follows.taken
        · rw [callbackInside, if_pos inside]
          exact kept.ends.bind fun _ => called
        · exact fun _ => followsAfter.released
        · exact fun _ => follows.released
      rw [callbackOutside, if_pos inside]
      exact locked.bind fun _ => ends_pure fun _ _ holds => holds
  | false =>
      have waiting : Keeps invariant (fun _ => True) (do prelude; device.callbackInside stage) := by
        rw [callbackInside, if_neg (by simp [inside])]
        exact kept.bind fun _ => keeps_pure _
      have locked : Ends invariant (fun _ => invariant) (fun _ => invariant)
          (device.withIrqLock do prelude; device.callbackInside stage) :=
        ends_withIrqLock follows.taken waiting.ends (fun _ => follows.released)
          fun _ => follows.released
      rw [callbackOutside, if_neg (by simp [inside])]
      exact locked.bind fun _ => called

end Follows

end Device

end DevicePower
