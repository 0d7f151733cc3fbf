import DevicePower.Traced

/-!
# What a computation keeps

An invariant of a traced computation speaks about the events reported so far and
about the present state. `Traced.Keeps` says that a computation keeps such an
invariant whether it succeeds or fails, and that it fails with certain errors only.
The rules below follow the operations from which computations are built, so that
the invariant of a long computation comes down to that of its single steps.

`Throughout` is the invariant needed most often: no event is of a forbidden kind,
and the state is sound. Where it matters what an event comes after, `Guarded` says so.
-/

namespace DevicePower

section Renaming

variable {ε ε' α : Type}

@[simp] theorem mapError_ok (rename : ε → ε') (value : α) :
    (Except.ok value : Except ε α).mapError rename = .ok value := rfl

@[simp] theorem mapError_error (rename : ε → ε') (error : ε) :
    (Except.error error : Except ε α).mapError rename = .error (rename error) := rfl

/-- A result whose error was renamed is a success only if it was one before. -/
theorem mapError_eq_ok_iff {rename : ε → ε'} {result : Except ε α} {value : α} :
    result.mapError rename = .ok value ↔ result = .ok value := by
  cases result with
  | ok value => simp
  | error error => simp

end Renaming

namespace Traced

variable {ε ε' η σ α β : Type}
variable {invariant : List η → σ → Prop} {allowed : ε → Prop}

/-! ## Sequences that begin with a look or an attempt -/

theorem query_bind_apply (view : σ → α) (next : α → Traced ε η σ β) (state : σ) :
    (query view >>= next) state = next (view state) state := rfl

theorem attempt_bind_apply (computation : Traced ε η σ α)
    (next : Except ε α → Traced ε' η σ β) (state : σ) :
    (computation.attempt >>= next) state =
      ⟨(next (computation state).result (computation state).state).result,
        (computation state).events ++
          (next (computation state).result (computation state).state).events,
        (next (computation state).result (computation state).state).state⟩ := rfl

/-! ## Keeping an invariant -/

/-- The computation keeps the invariant, however it ends, and every error it ends
in is allowed. -/
def Keeps (invariant : List η → σ → Prop) (allowed : ε → Prop)
    (computation : Traced ε η σ α) : Prop :=
  ∀ seen state, invariant seen state →
    invariant (seen ++ (computation state).events) (computation state).state ∧
      ∀ error, (computation state).result = .error error → allowed error

theorem keeps_pure (value : α) :
    Keeps invariant allowed (pure value : Traced ε η σ α) := by
  intro seen state holds
  simpa using holds

theorem keeps_fail {error : ε} (permitted : allowed error) :
    Keeps invariant allowed (fail error : Traced ε η σ α) := by
  intro seen state holds
  simpa using And.intro holds permitted

theorem keeps_ofExcept {result : Except ε α}
    (permitted : ∀ error, result = .error error → allowed error) :
    Keeps invariant allowed (ofExcept result : Traced ε η σ α) := by
  intro seen state holds
  exact ⟨by simpa using holds, permitted⟩

theorem keeps_emit {event : η}
    (reported : ∀ seen state, invariant seen state → invariant (seen ++ [event]) state) :
    Keeps invariant allowed (emit event : Traced ε η σ Unit) := by
  intro seen state holds
  simpa using reported seen state holds

theorem keeps_query (view : σ → α) :
    Keeps invariant allowed (query view : Traced ε η σ α) := by
  intro seen state holds
  simpa using holds

theorem keeps_update {change : σ → σ}
    (changed : ∀ seen state, invariant seen state → invariant seen (change state)) :
    Keeps invariant allowed (update change : Traced ε η σ Unit) := by
  intro seen state holds
  simpa using changed seen state holds

theorem keeps_act {change : σ → α × σ}
    (changed : ∀ seen state, invariant seen state → invariant seen (change state).2) :
    Keeps invariant allowed (act change : Traced ε η σ α) := by
  intro seen state holds
  simpa using changed seen state holds

/-- What is known about the value of the first part may be used for the second. -/
theorem Keeps.bind_knowing (known : α → Prop) {first : Traced ε η σ α}
    {next : α → Traced ε η σ β} (kept : Keeps invariant allowed first)
    (known_of_ok : ∀ state value, (first state).result = .ok value → known value)
    (keptNext : ∀ value, known value → Keeps invariant allowed (next value)) :
    Keeps invariant allowed (first >>= next) := by
  intro seen state holds
  obtain ⟨between, permitted⟩ := kept seen state holds
  cases ended : (first state).result with
  | error error =>
      rw [bind_of_error ended]
      refine ⟨between, ?_⟩
      intro other same
      cases same
      exact permitted error ended
  | ok value =>
      rw [bind_of_ok ended]
      have after := keptNext value (known_of_ok state value ended) _ _ between
      rw [List.append_assoc] at after
      exact after

/-- A sequence keeps what both of its parts keep. -/
theorem Keeps.bind {first : Traced ε η σ α} {next : α → Traced ε η σ β}
    (kept : Keeps invariant allowed first)
    (keptNext : ∀ value, Keeps invariant allowed (next value)) :
    Keeps invariant allowed (first >>= next) :=
  kept.bind_knowing (fun _ => True) (fun _ _ _ => trivial) fun value _ => keptNext value

/-- What follows a look at the state may rely on the invariant of the state that was
looked at. -/
theorem keeps_query_bind {view : σ → α} {next : α → Traced ε η σ β}
    (kept : ∀ seen state, invariant seen state →
      Keeps invariant allowed (next (view state))) :
    Keeps invariant allowed (query view >>= next) := by
  intro seen state holds
  rw [query_bind_apply]
  exact kept seen state holds seen state holds

/-- An event that tells of the state is reported in the state it tells of. -/
theorem keeps_report_bind {view : σ → α} {event : α → η} {next : Traced ε η σ β}
    (reported : ∀ seen state, invariant seen state →
      invariant (seen ++ [event (view state)]) state)
    (keptNext : Keeps invariant allowed next) :
    Keeps invariant allowed (query view >>= fun value => emit (event value) >>= fun _ => next) := by
  intro seen state holds
  have after := keptNext _ _ (reported seen state holds)
  rw [List.append_assoc] at after
  exact after

/-- The result of an attempt is at hand afterwards, and if it is an error, it is an
allowed one. -/
theorem Keeps.attempt_bind {allowed' : ε' → Prop} {computation : Traced ε η σ α}
    {next : Except ε α → Traced ε' η σ β}
    (kept : Keeps invariant allowed computation)
    (keptNext : ∀ result, (∀ error, result = .error error → allowed error) →
      Keeps invariant allowed' (next result)) :
    Keeps invariant allowed' (computation.attempt >>= next) := by
  intro seen state holds
  obtain ⟨between, permitted⟩ := kept seen state holds
  rw [attempt_bind_apply]
  have after := keptNext _ permitted _ _ between
  rw [List.append_assoc] at after
  exact after

/-- What is kept by itself is kept together. -/
theorem Keeps.and {other : List η → σ → Prop} {computation : Traced ε η σ α}
    (kept : Keeps invariant allowed computation) (keptOther : Keeps other allowed computation) :
    Keeps (fun seen state => invariant seen state ∧ other seen state) allowed computation := by
  rintro seen state ⟨holds, holdsOther⟩
  obtain ⟨after, permitted⟩ := kept seen state holds
  exact ⟨⟨after, (keptOther seen state holdsOther).1⟩, permitted⟩

/-- A longer list of allowed errors allows no less. -/
theorem Keeps.allow {allowed' : ε → Prop} {computation : Traced ε η σ α}
    (kept : Keeps invariant allowed computation)
    (weaker : ∀ error, allowed error → allowed' error) :
    Keeps invariant allowed' computation := by
  intro seen state holds
  obtain ⟨after, permitted⟩ := kept seen state holds
  exact ⟨after, fun error failed => weaker error (permitted error failed)⟩

/-! ## Harmless events and sound states -/

/-- Every event so far is harmless, and the state is sound. -/
def Throughout (harmless : η → Prop) (sound : σ → Prop) (seen : List η) (state : σ) :
    Prop :=
  (∀ event ∈ seen, harmless event) ∧ sound state

section Throughout

variable {harmless : η → Prop} {sound : σ → Prop}

/-- What is sound is kept sound together. -/
theorem Keeps.throughout_and {other : σ → Prop} {computation : Traced ε η σ α}
    (kept : Keeps (Throughout harmless sound) allowed computation)
    (keptOther : Keeps (Throughout harmless other) allowed computation) :
    Keeps (Throughout harmless fun state => sound state ∧ other state) allowed computation := by
  rintro seen state ⟨quiet, holds, holdsOther⟩
  obtain ⟨⟨events, after⟩, permitted⟩ := kept seen state ⟨quiet, holds⟩
  exact ⟨⟨events, after, (keptOther seen state ⟨quiet, holdsOther⟩).1.2⟩, permitted⟩

/-- Where every event is harmless, only the state matters. -/
theorem throughout_true :
    Throughout (fun _ : η => True) sound = fun _ state => sound state := by
  funext seen state
  simp [Throughout]

/-- Events of the past do not matter to what a computation keeps throughout. -/
theorem keeps_throughout_iff {computation : Traced ε η σ α} :
    Keeps (Throughout harmless sound) allowed computation ↔
      ∀ state, sound state →
        (∀ event ∈ (computation state).events, harmless event) ∧
          sound (computation state).state ∧
          ∀ error, (computation state).result = .error error → allowed error := by
  constructor
  · intro kept state holds
    obtain ⟨⟨events, after⟩, permitted⟩ := kept [] state ⟨by simp, holds⟩
    exact ⟨by simpa using events, after, permitted⟩
  · intro kept seen state holds
    obtain ⟨events, after, permitted⟩ := kept state holds.2
    refine ⟨⟨?_, after⟩, permitted⟩
    intro event member
    rcases List.mem_append.mp member with old | new
    · exact holds.1 event old
    · exact events event new

theorem throughout_emit {event : η} (innocent : harmless event) (seen : List η)
    (state : σ) (holds : Throughout harmless sound seen state) :
    Throughout harmless sound (seen ++ [event]) state := by
  refine ⟨?_, holds.2⟩
  intro other member
  rcases List.mem_append.mp member with old | new
  · exact holds.1 other old
  · rw [List.mem_singleton.mp new]
    exact innocent

end Throughout

/-! ## What comes before an event -/

/-- Every event is guarded by the events that came before it. -/
def Guarded (guard : List η → η → Prop) (events : List η) : Prop :=
  ∀ before event after, events = before ++ event :: after → guard before event

theorem guarded_nil {guard : List η → η → Prop} : Guarded guard [] := by
  intro before event after same
  simp at same

/-- One more event has to be guarded by all others. -/
theorem guarded_concat_iff {guard : List η → η → Prop} {events : List η} {event : η} :
    Guarded guard (events ++ [event]) ↔ Guarded guard events ∧ guard events event := by
  constructor
  · intro guarded
    constructor
    · intro before other after same
      exact guarded before other (after ++ [event]) (by simp [same])
    · exact guarded events event [] rfl
  · rintro ⟨guarded, last⟩ before other after same
    rcases List.eq_nil_or_concat after with rfl | ⟨earlier, final, rfl⟩
    · obtain ⟨rfl, ends⟩ := List.append_inj' same rfl
      cases ends
      exact last
    · rw [List.concat_eq_append, ← List.cons_append, ← List.append_assoc] at same
      exact guarded before other earlier (List.append_inj' same rfl).1

/-! ## How sequences end -/

/-- A sequence succeeds if its first part does and the rest does from there. -/
theorem bind_succeeds_iff {first : Traced ε η σ α} {next : α → Traced ε η σ β} {state : σ}
    {value : β} :
    ((first >>= next) state).result = .ok value ↔
      ∃ middle, (first state).result = .ok middle ∧
        (next middle (first state).state).result = .ok value := by
  cases ended : (first state).result with
  | error error => simp [bind_of_error ended]
  | ok middle => simp [bind_of_ok ended]

/-- A sequence fails with an error if its first part does, or if the rest does from there. -/
theorem bind_fails_iff {first : Traced ε η σ α} {next : α → Traced ε η σ β} {state : σ}
    {error : ε} :
    ((first >>= next) state).result = .error error ↔
      (first state).result = .error error ∨
        ∃ middle, (first state).result = .ok middle ∧
          (next middle (first state).state).result = .error error := by
  cases ended : (first state).result with
  | error other => simp [bind_of_error ended]
  | ok middle => simp [bind_of_ok ended]

/-- A sequence reports everything that its first part does. -/
theorem mem_events_bind {first : Traced ε η σ α} {next : α → Traced ε η σ β} {state : σ}
    {event : η} (member : event ∈ (first state).events) :
    event ∈ ((first >>= next) state).events := by
  cases ended : (first state).result with
  | error error =>
      rw [bind_of_error ended]
      exact member
  | ok value =>
      rw [bind_of_ok ended]
      exact List.mem_append_left _ member

/-- What holds after the first part of a sequence if the sequence stops there, and after the
rest otherwise, holds after the sequence. -/
theorem bind_state {first : Traced ε η σ α} {next : α → Traced ε η σ β} {state : σ}
    {property : σ → Prop} (stopped : property (first state).state)
    (went : ∀ value, (first state).result = .ok value →
      property (next value (first state).state).state) :
    property ((first >>= next) state).state := by
  cases ended : (first state).result with
  | error error =>
      rw [bind_of_error ended]
      exact stopped
  | ok value =>
      rw [bind_of_ok ended]
      exact went value ended

/-- A sequence that fails with an error that nothing but its first part can end in has
stopped there. -/
theorem bind_stops {first : Traced ε η σ α} {next : α → Traced ε η σ β} {state : σ} {error : ε}
    (later : ∀ value state, (next value state).result ≠ .error error)
    (failed : ((first >>= next) state).result = .error error) :
    (first state).result = .error error ∧
      (first >>= next) state = ⟨.error error, (first state).events, (first state).state⟩ := by
  cases ended : (first state).result with
  | error other =>
      rw [bind_of_error ended] at failed ⊢
      cases failed
      exact ⟨rfl, rfl⟩
  | ok middle =>
      rw [bind_of_ok ended] at failed
      exact absurd failed (later middle _)

end Traced

end DevicePower
