import DevicePower.Proofs.Device.Keeping
import DevicePower.Proofs.Device.Storage
import DevicePower.Proofs.Device.Validation

/-!
# The creation of a context

The creation of a context succeeds exactly if there is none yet, the device was described well and
the storage can hold the template; otherwise the device stays as it is, so that it can be tried
again. The words of the storage behind the slots are never read.

A callback is handed the context and may put another one in its place, which can then be created
once more. As long as no callback does, a context is created at most once, the number of its slots
never changes, and the words behind them are not changed either, whatever is done to the device.
-/

namespace DevicePower

open DeviceM Traced

variable {σ : Type}

namespace Device

variable {device : Device σ} {template : List UInt32} {machine : Machine σ}

/-! ## What a template must be like -/

/-- What it takes to create a context from a template, in storage for `capacity` words. -/
structure Suits (device : Device σ) (capacity : Nat) (template : List UInt32) : Prop where
  valid : device.driver.validate template.length = .ok ()
  /-- A table that waits for a register to settle, and a delay before an autosuspend, need a
  timer. -/
  timed : ((∃ kind, ∃ entry ∈ device.driver.tables kind, entry.poll.isSome = true) ∨
    device.driver.autosuspendMillis.isSome = true) → device.timer.isSome = true
  tracked : device.driver.flags.dma = true → device.channels.length ≤ maxChannels
  stored : template.length ≤ capacity

theorem needsTimer_iff {driver : Driver} :
    driver.needsTimer = true ↔
      ∃ kind, ∃ entry ∈ driver.tables kind, entry.poll.isSome = true := by
  simp only [Driver.needsTimer, Table.polls, List.any_eq_true]
  constructor
  · rintro ⟨kind, -, entry, member, polls⟩
    exact ⟨kind, entry, member, polls⟩
  · rintro ⟨kind, entry, member, polls⟩
    exact ⟨kind, kind.mem_all, entry, member, polls⟩

theorem validate_eq_ok_iff {length : Nat} :
    device.validate length = .ok () ↔
      device.driver.validate length = .ok () ∧
        ((device.driver.needsTimer = true ∨ device.driver.autosuspendMillis.isSome = true) →
          device.timer.isSome = true) ∧
        (device.driver.flags.dma = true → device.channels.length ≤ maxChannels) := by
  have timed : ((device.timer.isNone &&
      (device.driver.needsTimer || device.driver.autosuspendMillis.isSome)) = true) ↔
        ¬((device.driver.needsTimer = true ∨ device.driver.autosuspendMillis.isSome = true) →
          device.timer.isSome = true) := by
    rw [Bool.and_eq_true, Bool.or_eq_true, Classical.not_imp, and_comm]
    simp
  have tracked : ((device.driver.flags.dma &&
      decide (maxChannels < device.channels.length)) = true) ↔
        ¬(device.driver.flags.dma = true → device.channels.length ≤ maxChannels) := by
    simp
  cases checked : device.driver.validate length with
  | error reason => simp [validate, checked, bind, Except.bind]
  | ok done =>
      simp only [validate, checked, timed, tracked, true_and]
      split
      next untimed => exact ⟨nofun, fun passed => absurd passed.1 untimed⟩
      next inTime =>
        split
        next untracked => exact ⟨nofun, fun passed => absurd passed.2 untracked⟩
        next inTrack => exact ⟨fun _ => ⟨not_not.mp inTime, not_not.mp inTrack⟩, fun _ => rfl⟩

/-- A new context is made exactly if there is none and the template suits the device, and then it
has the words of the template in its slots. -/
theorem newContext_eq_ok_iff {context after : Context} :
    device.newContext template context = .ok after ↔
      context.populated = false ∧ device.Suits context.storage.length template ∧
        ⟨template ++ context.storage.drop template.length, template.length, true⟩ = after := by
  cases populated : context.populated with
  | true => simp [newContext, populated]
  | false =>
      rw [newContext, if_neg (by simp [populated]), passes_bind_iff]
      constructor
      · rintro ⟨⟨⟩, passed, done⟩
        obtain ⟨valid, timed, tracked⟩ := validate_eq_ok_iff.mp passed
        obtain ⟨-, stored, copied⟩ := Context.populate_eq_ok_iff.mp done
        exact ⟨rfl, ⟨valid, by rwa [needsTimer_iff] at timed, tracked, stored⟩, copied⟩
      · rintro ⟨-, suits, copied⟩
        have timed := suits.timed
        rw [← needsTimer_iff] at timed
        exact ⟨(), validate_eq_ok_iff.mpr ⟨suits.valid, timed, suits.tracked⟩,
          Context.populate_eq_ok_iff.mpr ⟨populated, suits.stored, copied⟩⟩

/-- A context is created exactly if there is none and the template suits the device. -/
theorem createContext_eq_ok_iff :
    (device.createContext template machine).result = .ok () ↔
      machine.context.populated = false ∧
        device.Suits machine.context.storage.length template := by
  rw [createContext, query_bind_apply]
  cases done : device.newContext template machine.context with
  | ok after =>
      obtain ⟨absent, suits, -⟩ := newContext_eq_ok_iff.mp done
      simp [absent, suits]
  | error reason =>
      have refused : ¬(machine.context.populated = false ∧
          device.Suits machine.context.storage.length template) := by
        rintro ⟨absent, suits⟩
        rw [newContext_eq_ok_iff.mpr ⟨absent, suits, rfl⟩] at done
        cases done
      simp [refused]

/-- A context that cannot be created leaves the device as it is. -/
theorem createContext_state_of_error {error : Error}
    (failed : (device.createContext template machine).result = .error error) :
    (device.createContext template machine).state = machine := by
  rw [createContext, query_bind_apply] at failed ⊢
  cases done : device.newContext template machine.context with
  | ok after => simp [done] at failed
  | error reason => simp

/-- The words of the template are the slots of the context that is created. -/
theorem createContext_values (created : (device.createContext template machine).result = .ok ()) :
    (device.createContext template machine).state.context.values = template := by
  rw [createContext, query_bind_apply] at created ⊢
  cases done : device.newContext template machine.context with
  | error reason => simp [done] at created
  | ok after =>
      obtain ⟨-, -, rfl⟩ := newContext_eq_ok_iff.mp done
      simp [Context.values]

/-! ## Once and for all -/

/-- A context that exists is never created again. -/
theorem createContext_of_populated (populated : machine.context.populated = true)
    (template : List UInt32) :
    (device.createContext template machine).result =
      .error (.configuration .contextExists) := by
  simp [createContext, query_bind_apply, newContext, populated]

/-- The number of slots of a context that exists is kept by every history. -/
theorem keeps_hasSlots (callbacks : device.hooks.KeepContext) (length : Nat)
    (happenings : List (Happening σ)) :
    Keeps (fun _ machine => machine.context.HasSlots length) (fun _ => False)
      (device.history happenings) :=
  keeps_history_of_populated (fun context => context.HasSlots length) callbacks
    (fun _ slots => slots.populated)
    (fun _ _ _ _ slots done => slots.of_set done) happenings

/-- Some request of the history created the context. -/
def Created (device : Device σ) (machine : Machine σ) (happenings : List (Happening σ)) : Prop :=
  ∃ earlier template later, happenings = earlier ++ .asked (.createContext template) :: later ∧
    (device.createContext template (device.history earlier machine).state).result = .ok ()

/-- A history goes on from where its first happening leads to. -/
theorem history_cons_state (device : Device σ) (happening : Happening σ)
    (rest : List (Happening σ)) (machine : Machine σ) :
    (device.history (happening :: rest) machine).state =
      (device.history rest (device.undergo happening machine).state).state := by
  rw [history, bind_of_ok (device.undergo_succeeds happening machine)]

theorem history_append_state (device : Device σ) (earlier later : List (Happening σ))
    (machine : Machine σ) :
    (device.history (earlier ++ later) machine).state =
      (device.history later (device.history earlier machine).state).state := by
  rw [history_append, bind_of_ok (device.history_succeeds earlier machine)]

/-- To ask for a context is to create it, as far as the machine is concerned. -/
theorem undergo_createContext (device : Device σ) (template : List UInt32)
    (machine : Machine σ) :
    (device.undergo (.asked (.createContext template)) machine).state =
      (device.createContext template machine).state := by
  have performed : (device.undergo (.asked (.createContext template)) machine).state =
      (answering (device.createContext template) machine).state := rfl
  rw [performed, answering]
  cases ended : (device.createContext template machine).result with
  | ok done => rw [bind_of_ok ended, pure_apply]
  | error error => rw [bind_of_error ended]

/-- A context that does not exist is made by no step that makes none. -/
theorem contextProof_of_absent :
    ContextProof Callback.Step.MakesNoContext fun context => context.populated = false where
  set _ _ _ _ absent done := by
    obtain ⟨-, rfl⟩ := Context.set_eq_ok_iff.mp done
    exact absent
  populate _ makes := makes.elim
  replace _ makes := makes.elim

/-- A context that comes to exist was created by some request, if callbacks make none. -/
theorem created_of_populated (callbacks : device.hooks.MakeNoContext)
    (absent : machine.context.populated = false)
    {happenings : List (Happening σ)}
    (populated : (device.history happenings machine).state.context.populated = true) :
    device.Created machine happenings := by
  induction happenings generalizing machine with
  | nil =>
      rw [history, pure_apply, absent] at populated
      cases populated
  | cons happening rest ih =>
      rw [history_cons_state] at populated
      cases still : (device.undergo happening machine).state.context.populated with
      | false =>
          obtain ⟨earlier, template, later, rfl, created⟩ := ih still populated
          exact ⟨happening :: earlier, template, later, rfl, by rwa [history_cons_state]⟩
      | true =>
          cases happening with
          | changed hardware => exact absurd still (by simp [undergo, absent])
          | handler holds => exact absurd still (by simp [undergo, absent])
          | asked request =>
              by_cases creating : ∃ template, request = .createContext template
              · obtain ⟨template, rfl⟩ := creating
                cases ended : (device.createContext template machine).result with
                | ok done => exact ⟨[], template, rest, rfl, ended⟩
                | error error =>
                    rw [undergo_createContext, createContext_state_of_error ended, absent] at still
                    cases still
              · have kept := keeps_perform callbacks contextProof_of_absent
                  (fun template same => creating ⟨template, same⟩) [] machine absent
                have performed : (device.perform request machine).state.context.populated = true :=
                  still
                rw [kept.1] at performed
                cases performed

/-- A context that was created is there for good, with as many slots. -/
theorem hasSlots_of_created (callbacks : device.hooks.KeepContext)
    (created : (device.createContext template machine).result = .ok ())
    (later : List (Happening σ)) :
    (device.history later (device.createContext template machine).state).state.context.HasSlots
      template.length :=
  (keeps_hasSlots callbacks template.length later [] _ (createContext_eq_ok created).2).1

/-- There is a context exactly if some request created one, if callbacks make none. -/
theorem populated_iff_created (callbacks : device.hooks.MakeNoContext)
    (absent : machine.context.populated = false)
    (happenings : List (Happening σ)) :
    (device.history happenings machine).state.context.populated = true ↔
      device.Created machine happenings := by
  constructor
  · exact created_of_populated callbacks absent
  · rintro ⟨earlier, template, later, rfl, created⟩
    rw [history_append_state, history_cons_state, undergo_createContext]
    exact (hasSlots_of_created callbacks.keepContext created later).populated

/-! ## Storage -/

/-- A context that is not replaced stays in its storage. -/
theorem contextProof_livesIn (storage : List UInt32) :
    ContextProof Callback.Step.KeepsContext fun context => context.LivesIn storage where
  set _ _ _ _ lives done := lives.of_set done
  populate _ _ _ _ lives done := lives.of_populate done
  replace _ kept := kept.elim

/-- A new context lives in the storage of the context before. -/
theorem livesIn_of_newContext {storage : List UInt32} {context after : Context}
    (lives : context.LivesIn storage) (done : device.newContext template context = .ok after) :
    after.LivesIn storage := by
  obtain ⟨absent, suits, copied⟩ := newContext_eq_ok_iff.mp done
  exact lives.of_populate (Context.populate_eq_ok_iff.mpr ⟨absent, suits.stored, copied⟩)

/-- Whatever happens, the context lives in the storage that the device was given. -/
theorem livesIn (callbacks : device.hooks.KeepContext) (hardware : σ) (storage : List UInt32)
    (happenings : List (Happening σ)) :
    (device.history happenings (.initial hardware storage)).state.context.LivesIn storage := by
  have kept := keeps_history_of_contextProof callbacks (contextProof_livesIn storage)
    (fun _ _ _ lives done => livesIn_of_newContext lives done) happenings
  exact (kept [] (.initial hardware storage) (.new storage)).1

/-- A device that is given other storage of the same length does the same, but for what it leaves
behind its slots. -/
theorem agrees_of_storage (device : Device σ) (hardware : σ) {storage other : List UInt32}
    (stored : other.length = storage.length) (happenings : List (Happening σ)) :
    (device.history happenings (.initial hardware storage)).Agrees (fun _ => true)
      (Machine.Beside Workspace.SameSlots)
      (device.history happenings (.initial hardware other)) := by
  apply device.inStep_history happenings
  exact ⟨⟨hardware, .new other⟩, ⟨rfl, rfl, rfl, rfl, stored⟩, rfl⟩

/-- How a context is created, in some state of a device. -/
structure Creates (device : Device σ) (machine : Machine σ) : Prop where
  ok_iff : ∀ template, (device.createContext template machine).result = .ok () ↔
    machine.context.populated = false ∧ device.Suits machine.context.storage.length template
  values : ∀ template, (device.createContext template machine).result = .ok () →
    (device.createContext template machine).state.context.values = template
  /-- A creation that fails changes nothing. -/
  unchanged : ∀ template error, (device.createContext template machine).result = .error error →
    (device.createContext template machine).state = machine
  /-- As long as there is no context, a template that suits the device is still accepted after
  others were not. -/
  retried : ∀ template error good, (device.createContext template machine).result = .error error →
    machine.context.populated = false → device.Suits machine.context.storage.length good →
      (device.createContext good (device.createContext template machine).state).result = .ok ()

/-- What becomes of a context that is created in some state of a device. -/
structure CreatesOnce (device : Device σ) (machine : Machine σ) : Prop where
  /-- The number of slots never changes again. -/
  length : ∀ template, (device.createContext template machine).result = .ok () → ∀ later,
    let kept := (device.history later (device.createContext template machine).state).state
    kept.context.values.length = template.length
  /-- No other context is created. -/
  refused : ∀ template, (device.createContext template machine).result = .ok () → ∀ later other,
    let kept := (device.history later (device.createContext template machine).state).state
    (device.createContext other kept).result = .error (.configuration .contextExists)

/-- The outcomes differ in nothing but the words behind the slots, and whatever is asked for next
is answered in the same way. -/
structure SameButStorage (device : Device σ) (outcome twin : Outcome Error Event (Machine σ) Unit) :
    Prop where
  events : twin.events = outcome.events
  state : twin.state = { outcome.state with context := twin.state.context }
  values : twin.state.context.values = outcome.state.context.values
  results : ∀ request, (device.perform request twin.state).result =
    (device.perform request outcome.state).result
  reports : ∀ request, (device.perform request twin.state).events =
    (device.perform request outcome.state).events

theorem creates (device : Device σ) (machine : Machine σ) : device.Creates machine where
  ok_iff _ := createContext_eq_ok_iff
  values _ := createContext_values
  unchanged _ _ := createContext_state_of_error
  retried template error good failed absent suits := by
    rw [createContext_state_of_error failed, createContext_eq_ok_iff]
    exact ⟨absent, suits⟩

theorem createsOnce (callbacks : device.hooks.KeepContext) (machine : Machine σ) :
    device.CreatesOnce machine where
  length _ created later := (hasSlots_of_created callbacks created later).values_length
  refused _ created later :=
    createContext_of_populated (hasSlots_of_created callbacks created later).populated

theorem sameButStorage (device : Device σ) (hardware : σ) {storage other : List UInt32}
    (stored : other.length = storage.length) (happenings : List (Happening σ)) :
    device.SameButStorage (device.history happenings (.initial hardware storage))
      (device.history happenings (.initial hardware other)) := by
  have agrees := device.agrees_of_storage hardware stored happenings
  obtain ⟨workspace, same, left⟩ := agrees.state
  have whole (events : List Event) : events.filter (fun _ => true) = events :=
    List.filter_eq_self.mpr fun _ _ => rfl
  have next (request : Request) := device.inStep_perform request _ _ agrees.state
  constructor
  · simpa only [whole] using agrees.events
  · rw [left]
    cases workspace with
    | mk hardware context =>
        obtain rfl := same.hardware
        rfl
  · rw [left]
    exact same.context.values
  · exact fun request => (next request).result
  · intro request
    simpa only [whole] using (next request).events

/-- The creation of a context in any state that a device can be in. It succeeds exactly if there is
no context and the template suits the device. If it succeeds, the slots are the words of the
template; if it fails, nothing changes, so that a template that suits the device is still accepted
as long as there is no context. Nothing that a device does or answers depends on the words of the
storage behind the slots.

If no callback replaces the context, then it is created only once, the number of slots never
changes, and the words behind the slots stay as they are. If the callbacks do not populate it
either, then there is a context exactly if one was created. -/
theorem created_once (device : Device σ) (hardware : σ) (storage : List UInt32)
    (happenings : List (Happening σ)) :
    let outcome := device.history happenings (.initial hardware storage)
    device.Creates outcome.state ∧
      (∀ other : List UInt32, other.length = storage.length →
        device.SameButStorage outcome (device.history happenings (.initial hardware other))) ∧
      (device.hooks.KeepContext →
        device.CreatesOnce outcome.state ∧ outcome.state.context.LivesIn storage) ∧
      (device.hooks.MakeNoContext →
        (outcome.state.context.populated = true ↔
          device.Created (.initial hardware storage) happenings)) := by
  intro outcome
  refine ⟨device.creates outcome.state, ?_, ?_, ?_⟩
  · exact fun other stored => device.sameButStorage hardware stored happenings
  · intro callbacks
    exact ⟨createsOnce callbacks outcome.state, livesIn callbacks hardware storage happenings⟩
  · exact fun callbacks => populated_iff_created callbacks rfl happenings

/-- The serial port with storage for six words refuses a template of seven. Then it accepts one of
four, which are its slots from then on, and the last two words are left alone. -/
theorem uart_created_once :
    let port := Bench.Uart.device
    let fresh := Machine.initial Bench.Uart.board [0, 0, 0, 0, 7, 8]
    let refused := port.createContext [0, 0, 0, 0, 0, 0, 0] fresh
    let created := port.createContext Bench.Uart.template refused.state
    let resumed := (port.history [.asked .runtimeResume] created.state).state
    refused.result = .error (.configuration .contextStorage) ∧
      created.result = .ok () ∧
      resumed.context.values.length = 4 ∧
      (port.createContext [] resumed).result = .error (.configuration .contextExists) ∧
      resumed.context.storage.drop 4 = [7, 8] := by
  intro port fresh refused created resumed
  have failed : refused.result = .error (.configuration .contextStorage) := by decide +kernel
  obtain ⟨creates, -, keeps, -⟩ := port.created_once Bench.Uart.board [0, 0, 0, 0, 7, 8] []
  obtain ⟨once, -⟩ := keeps (Bench.makeNoContext_device _).keepContext
  have accepted : (port.createContext Bench.Uart.template fresh).result = .ok () := by
    decide +kernel
  have suits := ((creates.ok_iff Bench.Uart.template).mp accepted).2
  have unchanged : refused.state = fresh := creates.unchanged _ _ failed
  have succeeded : created.result = .ok () := creates.retried _ _ _ failed rfl suits
  refine ⟨failed, succeeded, ?_, ?_, ?_⟩
  · simp only [resumed, created, unchanged]
    exact once.length Bench.Uart.template accepted [.asked .runtimeResume]
  · simp only [resumed, created, unchanged]
    exact once.refused Bench.Uart.template accepted [.asked .runtimeResume] []
  · decide +kernel

/-- A port that replaces its context in its first resume loses the slots of the context that was
created, and another context is created with another number of slots. A port that does not replace
its context never accepts a template again, not even one that it has accepted before. -/
theorem forgetful_created_twice :
    let port := Bench.Uart.forgetful
    let created := port.createContext Bench.Uart.template (.initial Bench.Uart.board [0, 0, 0, 0])
    let resumed := port.runtimeResume created.state
    let again := port.createContext [0, 0, 0, 5, 9] resumed.state
    let refused := Bench.Uart.device.createContext Bench.Uart.template Bench.Uart.created
    (created.result = .ok () ∧ created.state.context.values.length = 4 ∧
      resumed.result = .ok () ∧ resumed.state.context.values.length = 0 ∧
      again.result = .ok () ∧ again.state.context.values.length = 5) ∧
    refused.result = .error (.configuration .contextExists) ∧
      (Bench.Uart.device.createContext Bench.Uart.template refused.state).result =
        .error (.configuration .contextExists) := by
  decide +kernel

end Device

end DevicePower
