/-!
# Traced computations

Everything this library does to a device is a computation that may fail, that
reports what it does while it does it, and that leaves a state behind whether it
fails or not. Nothing is rolled back: a failed computation keeps the events and
the state of the steps that it did complete.

Events are collected outside the state, so no computation can read them. What
is reported therefore never influences what happens.
-/

namespace DevicePower

/-- How a computation ended: its result, the events it reported in order, and
the state it left. -/
structure Outcome (ε η σ α : Type) where
  result : Except ε α
  events : List η
  state : σ

/-- A computation over states `σ` that reports events `η` and fails with `ε`. -/
def Traced (ε η σ α : Type) : Type :=
  σ → Outcome ε η σ α

namespace Traced

variable {ε ε' η θ σ τ α β : Type}

/-- Return a value, doing nothing. -/
protected def pure (value : α) : Traced ε η σ α :=
  fun state => ⟨.ok value, [], state⟩

/-- Run `next` on the value of `first`, in the state that `first` left. If
`first` fails, so does the whole, and `next` never starts. -/
protected def bind (first : Traced ε η σ α) (next : α → Traced ε η σ β) :
    Traced ε η σ β :=
  fun state =>
    let before := first state
    match before.result with
    | .error error => ⟨.error error, before.events, before.state⟩
    | .ok value =>
        let after := next value before.state
        ⟨after.result, before.events ++ after.events, after.state⟩

instance : Monad (Traced ε η σ) where
  pure := Traced.pure
  bind := Traced.bind

/-- Stop with an error. -/
def fail (error : ε) : Traced ε η σ α :=
  fun state => ⟨.error error, [], state⟩

/-- Continue with a result that is already known. -/
def ofExcept (result : Except ε α) : Traced ε η σ α :=
  fun state => ⟨result, [], state⟩

/-- Report one event. -/
def emit (event : η) : Traced ε η σ Unit :=
  fun state => ⟨.ok (), [event], state⟩

/-- Look at the state. -/
def query (view : σ → α) : Traced ε η σ α :=
  fun state => ⟨.ok (view state), [], state⟩

/-- Change the state. -/
def update (change : σ → σ) : Traced ε η σ Unit :=
  fun state => ⟨.ok (), [], change state⟩

/-- Change the state and learn something from it. -/
def act (change : σ → α × σ) : Traced ε η σ α :=
  fun state => ⟨.ok (change state).1, [], (change state).2⟩

/-- Run a computation to its end and hand its result on, so that the caller
decides what a failure means. -/
def attempt (computation : Traced ε η σ α) : Traced ε' η σ (Except ε α) :=
  fun state =>
    let outcome := computation state
    ⟨.ok outcome.result, outcome.events, outcome.state⟩

/-- Report every event of a computation under another name. -/
def relabel (rename : η → θ) (computation : Traced ε η σ α) : Traced ε θ σ α :=
  fun state =>
    let outcome := computation state
    ⟨outcome.result, outcome.events.map rename, outcome.state⟩

/-- Run a computation on a part of the state and put the changed part back. -/
def within (part : σ → τ) (replace : τ → σ → σ) (computation : Traced ε η τ α) :
    Traced ε η σ α :=
  fun state =>
    let outcome := computation (part state)
    ⟨outcome.result, outcome.events, replace outcome.state state⟩

/-! ## What each operation does -/

@[simp] theorem pure_apply (value : α) (state : σ) :
    (pure value : Traced ε η σ α) state = ⟨.ok value, [], state⟩ := rfl

theorem bind_apply (first : Traced ε η σ α) (next : α → Traced ε η σ β) (state : σ) :
    (first >>= next) state =
      match (first state).result with
      | .error error => ⟨.error error, (first state).events, (first state).state⟩
      | .ok value =>
          ⟨(next value (first state).state).result,
            (first state).events ++ (next value (first state).state).events,
            (next value (first state).state).state⟩ := rfl

theorem bind_of_ok {first : Traced ε η σ α} {next : α → Traced ε η σ β} {state : σ}
    {value : α} (succeeded : (first state).result = .ok value) :
    (first >>= next) state =
      ⟨(next value (first state).state).result,
        (first state).events ++ (next value (first state).state).events,
        (next value (first state).state).state⟩ := by
  rw [bind_apply, succeeded]

theorem bind_of_error {first : Traced ε η σ α} {next : α → Traced ε η σ β} {state : σ}
    {error : ε} (failed : (first state).result = .error error) :
    (first >>= next) state =
      ⟨.error error, (first state).events, (first state).state⟩ := by
  rw [bind_apply, failed]

@[simp] theorem fail_apply (error : ε) (state : σ) :
    (fail error : Traced ε η σ α) state = ⟨.error error, [], state⟩ := rfl

@[simp] theorem ofExcept_apply (result : Except ε α) (state : σ) :
    (ofExcept result : Traced ε η σ α) state = ⟨result, [], state⟩ := rfl

@[simp] theorem emit_apply (event : η) (state : σ) :
    (emit event : Traced ε η σ Unit) state = ⟨.ok (), [event], state⟩ := rfl

@[simp] theorem query_apply (view : σ → α) (state : σ) :
    (query view : Traced ε η σ α) state = ⟨.ok (view state), [], state⟩ := rfl

@[simp] theorem update_apply (change : σ → σ) (state : σ) :
    (update change : Traced ε η σ Unit) state = ⟨.ok (), [], change state⟩ := rfl

@[simp] theorem act_apply (change : σ → α × σ) (state : σ) :
    (act change : Traced ε η σ α) state =
      ⟨.ok (change state).1, [], (change state).2⟩ := rfl

@[simp] theorem attempt_apply (computation : Traced ε η σ α) (state : σ) :
    (attempt computation : Traced ε' η σ (Except ε α)) state =
      ⟨.ok (computation state).result, (computation state).events,
        (computation state).state⟩ := rfl

@[simp] theorem relabel_apply (rename : η → θ) (computation : Traced ε η σ α)
    (state : σ) :
    relabel rename computation state =
      ⟨(computation state).result, (computation state).events.map rename,
        (computation state).state⟩ := rfl

@[simp] theorem within_apply (part : σ → τ) (replace : τ → σ → σ)
    (computation : Traced ε η τ α) (state : σ) :
    within part replace computation state =
      ⟨(computation (part state)).result, (computation (part state)).events,
        replace (computation (part state)).state state⟩ := rfl

instance : LawfulMonad (Traced ε η σ) := LawfulMonad.mk' (Traced ε η σ)
  (by
    intro α computation
    funext state
    simp only [Functor.map, Traced.bind, Function.comp, Traced.pure]
    cases ended : computation state with
    | mk result events after => cases result <;> simp)
  (by
    intro α β value next
    funext state
    simp [bind, Traced.bind, pure, Traced.pure])
  (by
    intro α β γ first second third
    funext state
    simp only [bind, Traced.bind]
    cases ended : first state with
    | mk result events after =>
      cases result with
      | error error => rfl
      | ok value =>
        simp only
        cases endedNext : second value after with
        | mk result events after =>
          cases result with
          | error error => rfl
          | ok value => simp [List.append_assoc])

end Traced

end DevicePower
