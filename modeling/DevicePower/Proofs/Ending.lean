import DevicePower.Proofs.Keeping

/-!
# How a computation ends

What a computation keeps is the same before and after it, and whether it succeeds or fails.
A transition is made to change something, and what it changes depends on how it ends.
`Traced.Ends` says what holds afterwards if the computation succeeds, and what holds if it
fails. Its rules follow the operations from which computations are built, and what is merely
kept on the way enters through `Keeps.ends`.
-/

namespace DevicePower

namespace Traced

variable {ε ε' η σ α β : Type}
variable {before : List η → σ → Prop} {failed : ε → List η → σ → Prop}

/-- Begun where `before` holds, the computation leaves `after` if it succeeds and `failed` if
it fails. Both speak about all events so far and the state that is left. -/
def Ends (before : List η → σ → Prop) (after : α → List η → σ → Prop)
    (failed : ε → List η → σ → Prop) (computation : Traced ε η σ α) : Prop :=
  ∀ seen state, before seen state →
    match (computation state).result with
    | .ok value => after value (seen ++ (computation state).events) (computation state).state
    | .error error =>
        failed error (seen ++ (computation state).events) (computation state).state

variable {after : α → List η → σ → Prop}

/-- What a computation keeps holds however it ends. -/
theorem Keeps.ends {invariant : List η → σ → Prop} {allowed : ε → Prop}
    {computation : Traced ε η σ α} (kept : Keeps invariant allowed computation) :
    Ends invariant (fun _ => invariant) (fun _ => invariant) computation := by
  intro seen state holds
  have still := (kept seen state holds).1
  split <;> exact still

/-- What is kept by a computation that never fails holds when it succeeds. -/
theorem Keeps.ends_always {invariant : List η → σ → Prop} {allowed : ε → Prop}
    {computation : Traced ε η σ α} (kept : Keeps invariant allowed computation)
    (succeeds : ∀ state, ∃ value, (computation state).result = .ok value) :
    Ends invariant (fun _ => invariant) failed computation := by
  intro seen state holds
  obtain ⟨value, succeeded⟩ := succeeds state
  have still := (kept seen state holds).1
  rw [succeeded]
  exact still

/-- What is kept throughout holds of the state, however a computation ends. -/
theorem Keeps.ends_sound {sound : σ → Prop} {allowed : ε → Prop} {computation : Traced ε η σ α}
    (kept : Keeps (Throughout (fun _ => True) sound) allowed computation) :
    Ends (fun _ state => sound state) (fun _ _ state => sound state)
      (fun _ _ state => sound state) computation := by
  intro seen state holds
  have still := (kept seen state ⟨fun _ _ => trivial, holds⟩).1.2
  split <;> exact still

/-- Less may be assumed afterwards, and more may be required before. -/
theorem Ends.weaken {before' : List η → σ → Prop} {after' : α → List η → σ → Prop}
    {failed' : ε → List η → σ → Prop} {computation : Traced ε η σ α}
    (ends : Ends before after failed computation)
    (stronger : ∀ seen state, before' seen state → before seen state)
    (weaker : ∀ value seen state, after value seen state → after' value seen state)
    (weakerFailed : ∀ error seen state, failed error seen state → failed' error seen state) :
    Ends before' after' failed' computation := by
  intro seen state holds
  have ended := ends seen state (stronger seen state holds)
  split at ended
  · exact weaker _ _ _ ended
  · exact weakerFailed _ _ _ ended

/-- What is shown of the same computation by itself holds together. -/
theorem Ends.and {before' : List η → σ → Prop} {after' : α → List η → σ → Prop}
    {failed' : ε → List η → σ → Prop} {computation : Traced ε η σ α}
    (ends : Ends before after failed computation)
    (endsToo : Ends before' after' failed' computation) :
    Ends (fun seen state => before seen state ∧ before' seen state)
      (fun value seen state => after value seen state ∧ after' value seen state)
      (fun error seen state => failed error seen state ∧ failed' error seen state)
      computation := by
  rintro seen state ⟨holds, holdsToo⟩
  have ended := ends seen state holds
  have endedToo := endsToo seen state holdsToo
  cases result : (computation state).result with
  | ok value =>
      rw [result] at ended endedToo
      exact ⟨ended, endedToo⟩
  | error error =>
      rw [result] at ended endedToo
      exact ⟨ended, endedToo⟩

/-- More may be required before. -/
theorem Ends.given {before' : List η → σ → Prop} {computation : Traced ε η σ α}
    (ends : Ends before after failed computation)
    (stronger : ∀ seen state, before' seen state → before seen state) :
    Ends before' after failed computation :=
  ends.weaken stronger (fun _ _ _ holds => holds) fun _ _ _ holds => holds

/-- Less may be assumed after a failure. -/
theorem Ends.failing {failed' : ε → List η → σ → Prop} {computation : Traced ε η σ α}
    (ends : Ends before after failed computation)
    (weaker : ∀ error seen state, failed error seen state → failed' error seen state) :
    Ends before after failed' computation :=
  ends.weaken (fun _ _ holds => holds) (fun _ _ _ holds => holds) weaker

/-- What follows from the beginning may be used to show how a computation ends. -/
theorem ends_knowing (fact : Prop) {computation : Traced ε η σ α}
    (known : ∀ seen state, before seen state → fact)
    (ends : fact → Ends before after failed computation) :
    Ends before after failed computation := by
  intro seen state holds
  exact ends (known seen state holds) seen state holds

theorem ends_pure {value : α} (now : ∀ seen state, before seen state → after value seen state) :
    Ends before after failed (pure value : Traced ε η σ α) := by
  intro seen state holds
  simpa using now seen state holds

theorem ends_fail {error : ε} (now : ∀ seen state, before seen state → failed error seen state) :
    Ends before after failed (fail error : Traced ε η σ α) := by
  intro seen state holds
  simpa using now seen state holds

theorem ends_update {change : σ → σ} {after : Unit → List η → σ → Prop}
    (changed : ∀ seen state, before seen state → after () seen (change state)) :
    Ends before after failed (update change : Traced ε η σ Unit) := by
  intro seen state holds
  simpa using changed seen state holds

/-- The second part of a sequence begins where the first succeeds. -/
theorem Ends.bind {middle : α → List η → σ → Prop} {after : β → List η → σ → Prop}
    {first : Traced ε η σ α} {next : α → Traced ε η σ β}
    (ends : Ends before middle failed first)
    (endsNext : ∀ value, Ends (middle value) after failed (next value)) :
    Ends before after failed (first >>= next) := by
  intro seen state holds
  have ended := ends seen state holds
  cases result : (first state).result with
  | error error =>
      rw [result] at ended
      rw [bind_of_error result]
      exact ended
  | ok value =>
      rw [result] at ended
      have endedNext := endsNext value _ _ ended
      rw [List.append_assoc] at endedNext
      rw [bind_of_ok result]
      exact endedNext

/-- What follows a look at the state knows what was seen, and the state it was seen in. -/
theorem ends_query_bind {view : σ → α} {next : α → Traced ε η σ β}
    {after : β → List η → σ → Prop}
    (ends : ∀ value, Ends (fun seen state => before seen state ∧ view state = value) after failed
      (next value)) :
    Ends before after failed (query view >>= next) := by
  intro seen state holds
  rw [query_bind_apply]
  exact ends (view state) seen state ⟨holds, rfl⟩

/-- A look at the state may find nothing but what is known before. -/
theorem ends_query_bind_of {view : σ → α} {next : α → Traced ε η σ β} {value : α}
    {after : β → List η → σ → Prop}
    (determined : ∀ seen state, before seen state → view state = value)
    (ends : Ends before after failed (next value)) :
    Ends before after failed (query view >>= next) := by
  intro seen state holds
  rw [query_bind_apply, determined seen state holds]
  exact ends seen state holds

/-- What follows an attempt begins where the attempt ended, in either way. -/
theorem Ends.attempt_bind {middle : α → List η → σ → Prop} {stopped : ε → List η → σ → Prop}
    {failed : ε' → List η → σ → Prop} {after : β → List η → σ → Prop}
    {computation : Traced ε η σ α} {next : Except ε α → Traced ε' η σ β}
    (ends : Ends before middle stopped computation)
    (succeeded : ∀ value, Ends (middle value) after failed (next (.ok value)))
    (failedNext : ∀ error, Ends (stopped error) after failed (next (.error error))) :
    Ends before after failed (computation.attempt >>= next) := by
  intro seen state holds
  have ended := ends seen state holds
  rw [attempt_bind_apply, ← List.append_assoc]
  cases result : (computation state).result with
  | ok value =>
      rw [result] at ended
      exact succeeded value _ _ ended
  | error error =>
      rw [result] at ended
      exact failedNext error _ _ ended

/-- A success and its consequences. -/
theorem Ends.of_ok {computation : Traced ε η σ α} (ends : Ends before after failed computation)
    (seen : List η) {state : σ} {value : α} (holds : before seen state)
    (done : (computation state).result = .ok value) :
    after value (seen ++ (computation state).events) (computation state).state := by
  have ended := ends seen state holds
  rwa [done] at ended

/-- A failure and its consequences. -/
theorem Ends.of_error {computation : Traced ε η σ α}
    (ends : Ends before after failed computation) (seen : List η) {state : σ} {error : ε}
    (holds : before seen state) (stopped : (computation state).result = .error error) :
    failed error (seen ++ (computation state).events) (computation state).state := by
  have ended := ends seen state holds
  rwa [stopped] at ended

end Traced

end DevicePower
