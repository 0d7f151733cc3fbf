import DevicePower.Proofs.Validation

/-!
# Slots that a condition looks up

Which slots a condition looks up depends on the context, since the second operand of a connective
is evaluated only if it matters. `Condition.Consults` follows the evaluation. A condition fails for
want of a slot exactly if it comes to look up one that the context does not have, and the error
names that slot.
-/

namespace DevicePower

namespace Operand

variable {context : Context}

theorem value_eq_missing_iff {operand : Operand} {index : Nat} :
    operand.value context = .error (.indexOutOfRange index) ↔
      operand = .slot index ∧ context.values.length ≤ index := by
  cases operand with
  | slot slot =>
      rw [value, Context.get_eq_error_iff]
      constructor
      · rintro ⟨absent, ⟨⟩⟩
        exact ⟨rfl, absent⟩
      · rintro ⟨⟨⟩, absent⟩
        exact ⟨absent, rfl⟩
  | constant value => simp [Operand.value]

end Operand

namespace Condition

variable {condition : Condition} {context : Context}

/-- An evaluation that starts at a node and follows at most `levels` nodes comes to look up the
slot. -/
def Consults (condition : Condition) (context : Context) (index : Nat) :
    Nat → Fin condition.size → Prop
  | 0, _ => False
  | levels + 1, node =>
      match condition.nodes.get node with
      | .nonzero operand => operand = .slot index
      | .compare _ left right =>
          left = .slot index ∨ (∃ word, left.value context = .ok word) ∧ right = .slot index
      | .and left right =>
          condition.Consults context index levels left ∨
            condition.evalFrom context levels left = .ok true ∧
              condition.Consults context index levels right
      | .or left right =>
          condition.Consults context index levels left ∨
            condition.evalFrom context levels left = .ok false ∧
              condition.Consults context index levels right
      | .not inner => condition.Consults context index levels inner

/-- An evaluation fails for want of a slot exactly if it comes to look up a slot that the context
does not have. -/
theorem evalFrom_eq_missing_iff {levels index : Nat} {node : Fin condition.size} :
    condition.evalFrom context levels node = .error (.indexOutOfRange index) ↔
      condition.Consults context index levels node ∧ context.values.length ≤ index := by
  have decided (answer : Bool) :
      (pure answer : Except ConfigError Bool) ≠ .error (.indexOutOfRange index) := nofun
  induction levels generalizing node with
  | zero => simp [evalFrom, Consults]
  | succ levels ih =>
      have same : condition.nodes[node] = condition.nodes.get node := rfl
      rw [evalFrom, Consults, same]
      cases shape : condition.nodes.get node with
      | nonzero operand =>
          simp only [refuses_bind_iff, Operand.value_eq_missing_iff, decided, and_false,
            exists_false, or_false]
      | compare comparison left right =>
          simp only [refuses_bind_iff, Operand.value_eq_missing_iff, decided, and_false,
            exists_false, or_false, exists_and_right, or_and_right, and_assoc]
      | and left right =>
          simp [refuses_bind_iff, ih, Bool.exists_bool, decided, or_and_right, and_assoc]
      | or left right =>
          simp [refuses_bind_iff, ih, Bool.exists_bool, decided, or_and_right, and_assoc]
      | not inner =>
          simp only [refuses_bind_iff, ih, decided, and_false, exists_false, or_false]

end Condition

end DevicePower
