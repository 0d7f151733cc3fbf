import DevicePower.Proofs.Keeping

/-!
# Computations that match

Two computations match if an observer cannot tell them apart: started in related states they end
in the same result, they report the same visible events in the same order, and they leave
related states. What is hidden from the observer is up to the relation between the states and to
the choice of the visible events.

The rules below follow the operations from which computations are built, as those for
invariants do. Computations that are built alike from parts that match do match.
-/

namespace DevicePower

/-- The outcomes differ in nothing that is visible. -/
structure Outcome.Agrees {ε η σ τ α : Type} (visible : η → Bool) (related : σ → τ → Prop)
    (first : Outcome ε η σ α) (second : Outcome ε η τ α) : Prop where
  result : second.result = first.result
  events : second.events.filter visible = first.events.filter visible
  state : related first.state second.state

namespace Traced

variable {ε ε' η θ σ τ α β : Type}

/-- Started in related states, the computations have outcomes that agree. -/
def Matches (visible : η → Bool) (related : σ → τ → Prop) (first : Traced ε η σ α)
    (second : Traced ε η τ α) : Prop :=
  ∀ state other, related state other → (first state).Agrees visible related (second other)

variable {visible : η → Bool} {related : σ → τ → Prop}

theorem matches_pure (value : α) :
    Matches visible related (pure value : Traced ε η σ α) (pure value : Traced ε η τ α) :=
  fun _ _ holds => ⟨rfl, rfl, holds⟩

theorem matches_fail (error : ε) :
    Matches visible related (fail error : Traced ε η σ α) (fail error : Traced ε η τ α) :=
  fun _ _ holds => ⟨rfl, rfl, holds⟩

theorem matches_ofExcept (result : Except ε α) :
    Matches visible related (ofExcept result : Traced ε η σ α)
      (ofExcept result : Traced ε η τ α) :=
  fun _ _ holds => ⟨rfl, rfl, holds⟩

theorem matches_emit (event : η) :
    Matches visible related (emit event : Traced ε η σ Unit) (emit event : Traced ε η τ Unit) :=
  fun _ _ holds => ⟨rfl, rfl, holds⟩

theorem matches_update {change : σ → σ} {changeOther : τ → τ}
    (changed : ∀ state other, related state other → related (change state) (changeOther other)) :
    Matches visible related (update change : Traced ε η σ Unit)
      (update changeOther : Traced ε η τ Unit) :=
  fun state other holds => ⟨rfl, rfl, changed state other holds⟩

theorem matches_act {change : σ → α × σ} {changeOther : τ → α × τ}
    (answered : ∀ state other, related state other →
      (changeOther other).1 = (change state).1)
    (changed : ∀ state other, related state other →
      related (change state).2 (changeOther other).2) :
    Matches visible related (act change : Traced ε η σ α) (act changeOther : Traced ε η τ α) :=
  fun state other holds =>
    ⟨congrArg Except.ok (answered state other holds), rfl, changed state other holds⟩

/-- Sequences match if their first parts do, and what follows each value does as well. -/
theorem Matches.bind {first : Traced ε η σ α} {second : Traced ε η τ α}
    {next : α → Traced ε η σ β} {nextOther : α → Traced ε η τ β}
    (matched : Matches visible related first second)
    (matchedNext : ∀ value, Matches visible related (next value) (nextOther value)) :
    Matches visible related (first >>= next) (second >>= nextOther) := by
  intro state other holds
  have before := matched state other holds
  cases ended : (first state).result with
  | error error =>
      rw [bind_of_error ended, bind_of_error (before.result.trans ended)]
      exact ⟨rfl, before.events, before.state⟩
  | ok value =>
      have after := matchedNext value _ _ before.state
      rw [bind_of_ok ended, bind_of_ok (before.result.trans ended)]
      exact ⟨after.result, by simp only [List.filter_append, before.events, after.events],
        after.state⟩

/-- What follows looks at related states may rely on their being related. -/
theorem matches_query_bind {view : σ → α} {viewOther : τ → α} {next : α → Traced ε η σ β}
    {nextOther : α → Traced ε η τ β}
    (matched : ∀ state other, related state other →
      Matches visible related (next (view state)) (nextOther (viewOther other))) :
    Matches visible related (query view >>= next) (query viewOther >>= nextOther) :=
  fun state other holds => matched state other holds state other holds

/-- Looks that see the same in related states match. -/
theorem matches_query {view : σ → α} {viewOther : τ → α}
    (seen : ∀ state other, related state other → viewOther other = view state) :
    Matches visible related (query view : Traced ε η σ α)
      (query viewOther : Traced ε η τ α) :=
  fun state other holds => ⟨congrArg Except.ok (seen state other holds), rfl, holds⟩

/-- Attempts have the same result at hand. -/
theorem Matches.attempt {first : Traced ε η σ α} {second : Traced ε η τ α}
    (matched : Matches visible related first second) :
    Matches visible related (first.attempt : Traced ε' η σ (Except ε α))
      (second.attempt : Traced ε' η τ (Except ε α)) := by
  intro state other holds
  have ended := matched state other holds
  exact ⟨congrArg Except.ok ended.result, ended.events, ended.state⟩

/-- A decision that is the same on both sides leaves two computations that have to match. -/
theorem matches_ite {condition : Prop} [Decidable condition] {yes no : Traced ε η σ α}
    {yesOther noOther : Traced ε η τ α}
    (holds : condition → Matches visible related yes yesOther)
    (fails : ¬condition → Matches visible related no noOther) :
    Matches visible related (if condition then yes else no)
      (if condition then yesOther else noOther) := by
  by_cases decided : condition
  · rw [if_pos decided, if_pos decided]
    exact holds decided
  · rw [if_neg decided, if_neg decided]
    exact fails decided

/-- Work on a part of the state, every event of which is visible under its other name or hidden
for both sides alike, matches if the work on the parts does. -/
theorem Matches.within {σ' τ' : Type} {partly : σ' → τ' → Prop}
    {rename : θ → η} {part : σ → σ'} {partOther : τ → τ'} {replace : σ' → σ → σ}
    {replaceOther : τ' → τ → τ} {first : Traced ε θ σ' α} {second : Traced ε θ τ' α}
    (matched : Matches (fun _ => true) partly first second)
    (opened : ∀ state other, related state other → partly (part state) (partOther other))
    (closed : ∀ state other inner innerOther, related state other → partly inner innerOther →
      related (replace inner state) (replaceOther innerOther other)) :
    Matches visible related ((first.relabel rename).within part replace)
      ((second.relabel rename).within partOther replaceOther) := by
  intro state other holds
  have ended := matched _ _ (opened state other holds)
  have whole (events : List θ) : events.filter (fun _ => true) = events :=
    List.filter_eq_self.mpr fun _ _ => rfl
  have same : (second (partOther other)).events = (first (part state)).events := by
    rw [← whole (second (partOther other)).events, ended.events, whole]
  exact ⟨ended.result, by simp [same], closed _ _ _ _ holds ended.state⟩

end Traced

end DevicePower
