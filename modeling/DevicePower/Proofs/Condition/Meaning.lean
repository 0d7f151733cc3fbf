import DevicePower.Proofs.Validation
import Mathlib.Data.List.Chain
import Mathlib.Logic.Relation

/-!
# What a condition means

The nodes of a condition form a graph, in which nodes may be shared and may reach themselves. A
`Formula` is a condition that is written out as a tree. It has a plain meaning, in which every
test is made and the connectives are those of logic. A node unfolds into at most one formula, and
into none if it reaches a cycle.

The check of a condition is exact: it passes if and only if no path goes through more connectives
than are allowed and every slot that is reached exists. A condition that passed is evaluated to
the meaning of its formula. Where an evaluation stops with an error, the error says why.
-/

namespace DevicePower

open Relation

/-! ## Tests -/

/-- What a test says about two words. -/
def Comparison.Says : Comparison → UInt32 → UInt32 → Prop
  | .less, left, right => left.toNat < right.toNat
  | .greater, left, right => right.toNat < left.toNat
  | .lessOrEqual, left, right => left.toNat ≤ right.toNat
  | .greaterOrEqual, left, right => right.toNat ≤ left.toNat
  | .equal, left, right => left.toNat = right.toNat
  | .commonBit, left, right => ∃ bit, left.toNat.testBit bit ∧ right.toNat.testBit bit
  | .anyBit, left, right => ∃ bit, left.toNat.testBit bit ∨ right.toNat.testBit bit

/-- A number is not zero if it has a bit. -/
theorem ne_zero_iff_testBit {number : Nat} : number ≠ 0 ↔ ∃ bit, number.testBit bit = true :=
  ⟨Nat.exists_testBit_of_ne_zero, fun ⟨bit, set⟩ zero => by simp [zero] at set⟩

theorem Comparison.holds_iff (comparison : Comparison) (left right : UInt32) :
    comparison.holds left right = true ↔ comparison.Says left right := by
  cases comparison with
  | less => simp [holds, Says, UInt32.lt_iff_toNat_lt]
  | greater => simp [holds, Says, UInt32.lt_iff_toNat_lt]
  | lessOrEqual => simp [holds, Says, UInt32.le_iff_toNat_le]
  | greaterOrEqual => simp [holds, Says, UInt32.le_iff_toNat_le]
  | equal => simp [holds, Says, UInt32.toNat_inj]
  | commonBit =>
      simp [holds, Says, ← UInt32.toNat_inj, ne_zero_iff_testBit, Nat.testBit_and]
  | anyBit =>
      have joined : left ||| right ≠ 0 ↔ left.toNat ||| right.toNat ≠ 0 := by
        rw [← UInt32.toNat_or, Ne, Ne, ← UInt32.toNat_inj, UInt32.toNat_zero]
      rw [holds, bne_iff_ne, joined, ne_zero_iff_testBit]
      simp [Says, Nat.testBit_or]

namespace Operand

variable {operand : Operand} {length : Nat} {context : Context}

/-- The word that an operand stands for, where its slot exists. -/
def word (words : List UInt32) : Operand → UInt32
  | .slot index => words.getD index 0
  | .constant value => value

theorem validate_eq_ok_iff :
    operand.validate length = .ok () ↔ ∀ index, operand = .slot index → index < length := by
  cases operand with
  | constant value => simp [validate]
  | slot index => simp [validate, requireSlot_eq_ok_iff]

/-- In a context that is long enough, an operand that passed its check stands for a word. -/
theorem value_eq_word (passed : operand.validate length = .ok ())
    (long : length ≤ context.values.length) :
    operand.value context = .ok (operand.word context.values) := by
  cases operand with
  | constant value => rfl
  | slot index =>
      have within : index < context.values.length :=
        (validate_eq_ok_iff.mp passed index rfl).trans_le long
      simp [value, Context.get, word, within]

end Operand

/-! ## Graphs -/

namespace Condition

namespace Node

variable {size : Nat}

/-- The nodes that a connective joins. A test joins none. -/
def children : Node size → List (Fin size)
  | .nonzero _ | .compare _ _ _ => []
  | .and left right | .or left right => [left, right]
  | .not node => [node]

/-- What a test looks at. A connective looks at nothing itself. -/
def operands : Node size → List Operand
  | .nonzero operand => [operand]
  | .compare _ left right => [left, right]
  | .and _ _ | .or _ _ | .not _ => []

/-- Whether the node joins others. -/
def isConnective : Node size → Bool
  | .nonzero _ | .compare _ _ _ => false
  | .and _ _ | .or _ _ | .not _ => true

theorem isConnective_iff (node : Node size) :
    node.isConnective = true ↔ ∃ child, child ∈ node.children := by
  cases node <;> simp [isConnective, children]

end Node

variable {condition : Condition} {levels length index : Nat} {node child other : Fin condition.size}

/-- The first node joins the second. -/
def Leads (condition : Condition) (node child : Fin condition.size) : Prop :=
  child ∈ (condition.nodes.get node).children

/-- The number of connectives on a path. -/
def connectives (condition : Condition) (path : List (Fin condition.size)) : Nat :=
  path.countP fun node => (condition.nodes.get node).isConnective

/-- The node looks at the slot. -/
def Names (condition : Condition) (node : Fin condition.size) (index : Nat) : Prop :=
  .slot index ∈ (condition.nodes.get node).operands

/-! ## Depth -/

/-- Every path from the node goes through fewer connectives than there are levels. -/
def Shallow (condition : Condition) (levels : Nat) (node : Fin condition.size) : Prop :=
  ∀ path, (node :: path).IsChain condition.Leads → condition.connectives (node :: path) < levels

theorem not_shallow_zero : ¬condition.Shallow 0 node := by
  intro shallow
  exact absurd (shallow [] (.singleton node)) (Nat.not_lt_zero _)

theorem connectives_cons_of_leads (leads : condition.Leads node child)
    (path : List (Fin condition.size)) :
    condition.connectives (node :: path) = condition.connectives path + 1 := by
  have joins : (condition.nodes.get node).isConnective = true :=
    (Node.isConnective_iff _).mpr ⟨child, leads⟩
  rw [connectives, List.countP_cons, if_pos joins, connectives]

/-- A path spends one level on every connective. -/
theorem shallow_succ_iff :
    condition.Shallow (levels + 1) node ↔
      ∀ child, condition.Leads node child → condition.Shallow levels child := by
  constructor
  · intro shallow child leads path chain
    have longer := shallow (child :: path) (.cons_cons leads chain)
    rw [connectives_cons_of_leads leads] at longer
    exact Nat.lt_of_succ_lt_succ longer
  · intro shallow path chain
    cases path with
    | cons child path =>
        obtain ⟨leads, chain⟩ := List.isChain_cons_cons.mp chain
        rw [connectives_cons_of_leads leads]
        exact Nat.succ_lt_succ (shallow child leads path chain)
    | nil =>
        by_cases joins : ∃ child, condition.Leads node child
        · obtain ⟨child, leads⟩ := joins
          rw [connectives_cons_of_leads leads]
          have shorter := shallow child leads [] (.singleton child)
          exact Nat.succ_lt_succ (Nat.zero_lt_of_lt shorter)
        · have test : ¬(condition.nodes.get node).isConnective = true := by
            rw [Node.isConnective_iff]
            exact joins
          rw [connectives, List.countP_cons, if_neg test]
          exact Nat.succ_pos levels

/-- A node that reaches a cycle has paths of any length. -/
theorem not_shallow_of_cycle (reaches : ReflTransGen condition.Leads node other)
    (cycle : TransGen condition.Leads other other) : ¬condition.Shallow levels node := by
  induction levels generalizing node with
  | zero => exact not_shallow_zero
  | succ levels ih =>
      intro shallow
      rw [shallow_succ_iff] at shallow
      rcases ReflTransGen.cases_head reaches with rfl | ⟨child, leads, reaches⟩
      · obtain ⟨child, leads, back⟩ := TransGen.head'_iff.mp cycle
        exact ih back (shallow child leads)
      · exact ih reaches (shallow child leads)

/-! ## Slots -/

/-- Every slot that is reached from the node is one of `length` slots. -/
def Stored (condition : Condition) (length : Nat) (node : Fin condition.size) : Prop :=
  ∀ other, ReflTransGen condition.Leads node other →
    ∀ index, condition.Names other index → index < length

theorem stored_iff :
    condition.Stored length node ↔
      (∀ index, condition.Names node index → index < length) ∧
        ∀ child, condition.Leads node child → condition.Stored length child := by
  constructor
  · intro stored
    exact ⟨stored node .refl, fun child leads other reaches =>
      stored other (.head leads reaches)⟩
  · rintro ⟨here, below⟩ other reaches
    rcases ReflTransGen.cases_head reaches with rfl | ⟨child, leads, reaches⟩
    · exact here
    · exact below child leads other reaches

/-! ## The check -/

/-- A node passes if its operands do, and the nodes that it joins at one level less. -/
theorem validateFrom_succ_eq_ok_iff :
    condition.validateFrom length (levels + 1) node = .ok () ↔
      (∀ operand ∈ (condition.nodes.get node).operands, operand.validate length = .ok ()) ∧
        ∀ child, condition.Leads node child →
          condition.validateFrom length levels child = .ok () := by
  have same : condition.nodes[node] = condition.nodes.get node := rfl
  rw [validateFrom, same]
  unfold Leads
  cases condition.nodes.get node with
  | nonzero operand => simp [Node.operands, Node.children]
  | compare comparison left right => simp [Node.operands, Node.children, passes_both_iff]
  | and left right => simp [Node.operands, Node.children, passes_both_iff]
  | or left right => simp [Node.operands, Node.children, passes_both_iff]
  | not inner => simp [Node.operands, Node.children]

/-- What a node that passed consists of. -/
theorem parts_of_validateFrom (passed : condition.validateFrom length levels node = .ok ()) :
    ∃ below, levels = below + 1 ∧
      (∀ operand ∈ (condition.nodes.get node).operands, operand.validate length = .ok ()) ∧
        ∀ child, condition.Leads node child →
          condition.validateFrom length below child = .ok () := by
  cases levels with
  | zero => cases passed
  | succ below => exact ⟨below, rfl, validateFrom_succ_eq_ok_iff.mp passed⟩

/-- The check passes exactly if the condition is not too deep and every slot exists. -/
theorem validateFrom_eq_ok_iff :
    condition.validateFrom length levels node = .ok () ↔
      condition.Shallow levels node ∧ condition.Stored length node := by
  induction levels generalizing node with
  | zero => simp [validateFrom, not_shallow_zero]
  | succ levels ih =>
      have own :
          (∀ operand ∈ (condition.nodes.get node).operands, operand.validate length = .ok ()) ↔
            ∀ index, condition.Names node index → index < length := by
        simp only [Operand.validate_eq_ok_iff, Names]
        exact ⟨fun passed index names => passed _ names index rfl,
          fun stored operand member index same => stored index (same ▸ member)⟩
      rw [validateFrom_succ_eq_ok_iff, shallow_succ_iff, stored_iff, own]
      simp only [ih]
      constructor
      · rintro ⟨here, below⟩
        exact ⟨fun child leads => (below child leads).1, here,
          fun child leads => (below child leads).2⟩
      · rintro ⟨shallow, here, stored⟩
        exact ⟨here, fun child leads => ⟨shallow child leads, stored child leads⟩⟩

/-! ## Meaning -/

end Condition

/-- A condition that is written out as a tree. -/
inductive Formula where
  | nonzero (operand : Operand)
  | compare (comparison : Comparison) (left right : Operand)
  | and (left right : Formula)
  | or (left right : Formula)
  | not (formula : Formula)

/-- The plain meaning of a formula. -/
def Formula.Holds (words : List UInt32) : Formula → Prop
  | .nonzero operand => operand.word words ≠ 0
  | .compare comparison left right => comparison.Says (left.word words) (right.word words)
  | .and left right => left.Holds words ∧ right.Holds words
  | .or left right => left.Holds words ∨ right.Holds words
  | .not formula => ¬formula.Holds words

namespace Condition

variable {condition : Condition} {levels length : Nat} {node : Fin condition.size}
variable {formula : Formula} {context : Context}

/-- Written out from a node, the condition is this formula. -/
inductive Unfolds (condition : Condition) : Fin condition.size → Formula → Prop where
  | nonzero {node : Fin condition.size} {operand : Operand}
      (shape : condition.nodes.get node = .nonzero operand) :
      Unfolds condition node (.nonzero operand)
  | compare {node : Fin condition.size} {comparison : Comparison} {left right : Operand}
      (shape : condition.nodes.get node = .compare comparison left right) :
      Unfolds condition node (.compare comparison left right)
  | and {node left right : Fin condition.size} {first second : Formula}
      (shape : condition.nodes.get node = .and left right)
      (unfoldsLeft : Unfolds condition left first)
      (unfoldsRight : Unfolds condition right second) :
      Unfolds condition node (.and first second)
  | or {node left right : Fin condition.size} {first second : Formula}
      (shape : condition.nodes.get node = .or left right)
      (unfoldsLeft : Unfolds condition left first)
      (unfoldsRight : Unfolds condition right second) :
      Unfolds condition node (.or first second)
  | not {node inner : Fin condition.size} {formula : Formula}
      (shape : condition.nodes.get node = .not inner)
      (unfolds : Unfolds condition inner formula) :
      Unfolds condition node (.not formula)

/-- A node unfolds into at most one formula. -/
theorem Unfolds.unique {other : Formula} (unfolds : condition.Unfolds node formula)
    (unfoldsOther : condition.Unfolds node other) : formula = other := by
  induction unfolds generalizing other with
  | nonzero shape => cases unfoldsOther <;> simp_all
  | compare shape => cases unfoldsOther <;> simp_all
  | and shape _ _ ihLeft ihRight =>
      cases unfoldsOther with
      | and shapeOther unfoldsLeft unfoldsRight =>
          obtain ⟨rfl, rfl⟩ : _ ∧ _ := by simpa [shape] using shapeOther
          rw [ihLeft unfoldsLeft, ihRight unfoldsRight]
      | _ shapeOther => simp [shape] at shapeOther
  | or shape _ _ ihLeft ihRight =>
      cases unfoldsOther with
      | or shapeOther unfoldsLeft unfoldsRight =>
          obtain ⟨rfl, rfl⟩ : _ ∧ _ := by simpa [shape] using shapeOther
          rw [ihLeft unfoldsLeft, ihRight unfoldsRight]
      | _ shapeOther => simp [shape] at shapeOther
  | not shape _ ih =>
      cases unfoldsOther with
      | not shapeOther unfolds =>
          obtain rfl : _ = _ := by simpa [shape] using shapeOther
          rw [ih unfolds]
      | _ shapeOther => simp [shape] at shapeOther

/-- A node whose paths are bounded can be written out. -/
theorem Shallow.unfolds (shallow : condition.Shallow levels node) :
    ∃ formula, condition.Unfolds node formula := by
  induction levels generalizing node with
  | zero => exact absurd shallow not_shallow_zero
  | succ levels ih =>
      have below (child : Fin condition.size)
          (joined : child ∈ (condition.nodes.get node).children) :
          ∃ formula, condition.Unfolds child formula :=
        ih (shallow_succ_iff.mp shallow child joined)
      cases shape : condition.nodes.get node with
      | nonzero operand => exact ⟨_, .nonzero shape⟩
      | compare comparison left right => exact ⟨_, .compare shape⟩
      | and left right =>
          obtain ⟨first, unfoldsLeft⟩ := below left (by simp [shape, Node.children])
          obtain ⟨second, unfoldsRight⟩ := below right (by simp [shape, Node.children])
          exact ⟨_, .and shape unfoldsLeft unfoldsRight⟩
      | or left right =>
          obtain ⟨first, unfoldsLeft⟩ := below left (by simp [shape, Node.children])
          obtain ⟨second, unfoldsRight⟩ := below right (by simp [shape, Node.children])
          exact ⟨_, .or shape unfoldsLeft unfoldsRight⟩
      | not inner =>
          obtain ⟨formula, unfolds⟩ := below inner (by simp [shape, Node.children])
          exact ⟨_, .not shape unfolds⟩

/-! ## Evaluation -/

/-- The evaluation from a node ends with an answer, which is yes exactly if the statement is
true. -/
def Answers (condition : Condition) (context : Context) (levels : Nat)
    (node : Fin condition.size) (statement : Prop) : Prop :=
  ∃ answer, condition.evalFrom context levels node = .ok answer ∧ (answer = true ↔ statement)

section Answers

variable {left right inner : Fin condition.size} {first second : Prop}

theorem answers_nonzero {operand : Operand} {word : UInt32}
    (shape : condition.nodes.get node = .nonzero operand)
    (found : operand.value context = .ok word) :
    condition.Answers context (levels + 1) node (word ≠ 0) := by
  refine ⟨word != 0, ?_, bne_iff_ne⟩
  have here : condition.nodes[node] = .nonzero operand := shape
  rw [evalFrom]
  simp only [here, found]
  rfl

theorem answers_compare {comparison : Comparison} {one other : Operand} {word wordOther : UInt32}
    (shape : condition.nodes.get node = .compare comparison one other)
    (found : one.value context = .ok word) (foundOther : other.value context = .ok wordOther) :
    condition.Answers context (levels + 1) node (comparison.Says word wordOther) := by
  refine ⟨comparison.holds word wordOther, ?_, comparison.holds_iff _ _⟩
  have here : condition.nodes[node] = .compare comparison one other := shape
  rw [evalFrom]
  simp only [here, found, foundOther]
  rfl

/-- If the left node does not hold, the right one is not evaluated, and would not matter. -/
theorem answers_and (shape : condition.nodes.get node = .and left right)
    (answersLeft : condition.Answers context levels left first)
    (answersRight : condition.Answers context levels right second) :
    condition.Answers context (levels + 1) node (first ∧ second) := by
  obtain ⟨holds, found, means⟩ := answersLeft
  obtain ⟨holdsRight, foundRight, meansRight⟩ := answersRight
  refine ⟨holds && holdsRight, ?_, by rw [Bool.and_eq_true, means, meansRight]⟩
  have here : condition.nodes[node] = .and left right := shape
  rw [evalFrom]
  simp only [here, found, foundRight]
  cases holds <;> rfl

/-- If the left node holds, the right one is not evaluated, and would not matter. -/
theorem answers_or (shape : condition.nodes.get node = .or left right)
    (answersLeft : condition.Answers context levels left first)
    (answersRight : condition.Answers context levels right second) :
    condition.Answers context (levels + 1) node (first ∨ second) := by
  obtain ⟨holds, found, means⟩ := answersLeft
  obtain ⟨holdsRight, foundRight, meansRight⟩ := answersRight
  refine ⟨holds || holdsRight, ?_, by rw [Bool.or_eq_true, means, meansRight]⟩
  have here : condition.nodes[node] = .or left right := shape
  rw [evalFrom]
  simp only [here, found, foundRight]
  cases holds <;> rfl

theorem answers_not (shape : condition.nodes.get node = .not inner)
    (answers : condition.Answers context levels inner first) :
    condition.Answers context (levels + 1) node (¬first) := by
  obtain ⟨holds, found, means⟩ := answers
  refine ⟨!holds, ?_, by rw [Bool.not_eq_true', ← means, Bool.not_eq_true]⟩
  have here : condition.nodes[node] = .not inner := shape
  rw [evalFrom]
  simp only [here, found]
  rfl

end Answers

/-- A node that passed its check is evaluated to the meaning of its formula. -/
theorem Unfolds.answers (unfolds : condition.Unfolds node formula)
    (passed : condition.validateFrom length levels node = .ok ())
    (long : length ≤ context.values.length) :
    condition.Answers context levels node (formula.Holds context.values) := by
  induction unfolds generalizing levels with
  | @nonzero _ operand shape =>
      obtain ⟨levels, rfl, here, -⟩ := parts_of_validateFrom passed
      rw [shape] at here
      exact answers_nonzero shape
        (Operand.value_eq_word (here operand (by simp [Node.operands])) long)
  | @compare _ _ one other shape =>
      obtain ⟨levels, rfl, here, -⟩ := parts_of_validateFrom passed
      rw [shape] at here
      exact answers_compare shape
        (Operand.value_eq_word (here one (by simp [Node.operands])) long)
        (Operand.value_eq_word (here other (by simp [Node.operands])) long)
  | @and _ left right _ _ shape _ _ ihLeft ihRight =>
      obtain ⟨levels, rfl, -, below⟩ := parts_of_validateFrom passed
      exact answers_and shape (ihLeft (below left (by simp [Leads, shape, Node.children])))
        (ihRight (below right (by simp [Leads, shape, Node.children])))
  | @or _ left right _ _ shape _ _ ihLeft ihRight =>
      obtain ⟨levels, rfl, -, below⟩ := parts_of_validateFrom passed
      exact answers_or shape (ihLeft (below left (by simp [Leads, shape, Node.children])))
        (ihRight (below right (by simp [Leads, shape, Node.children])))
  | @not _ inner _ shape _ ih =>
      obtain ⟨levels, rfl, -, below⟩ := parts_of_validateFrom passed
      exact answers_not shape (ih (below inner (by simp [Leads, shape, Node.children])))

/-! ## Errors -/

/-- An error that an evaluation from the node may end in: there are too many levels, or a slot that
is reached does not exist. -/
def Explains (condition : Condition) (context : Context) (node : Fin condition.size)
    (error : ConfigError) : Prop :=
  error = .conditionTooDeep ∨
    ∃ other index, ReflTransGen condition.Leads node other ∧ condition.Names other index ∧
      context.values.length ≤ index ∧ error = .indexOutOfRange index

theorem Explains.of_child {child : Fin condition.size} {error : ConfigError}
    (leads : condition.Leads node child) (explains : condition.Explains context child error) :
    condition.Explains context node error := by
  rcases explains with deep | ⟨other, index, reaches, rest⟩
  · exact .inl deep
  · exact .inr ⟨other, index, .head leads reaches, rest⟩

theorem explains_of_value {operand : Operand} {error : ConfigError}
    (looked : operand ∈ (condition.nodes.get node).operands)
    (failed : operand.value context = .error error) :
    condition.Explains context node error := by
  cases operand with
  | constant value => cases failed
  | slot index =>
      obtain ⟨absent, rfl⟩ := Context.get_eq_error_iff.mp failed
      exact .inr ⟨node, index, .refl, looked, absent, rfl⟩

/-- An evaluation fails only for these reasons. -/
theorem explains_of_evalFrom {error : ConfigError}
    (failed : condition.evalFrom context levels node = .error error) :
    condition.Explains context node error := by
  induction levels generalizing node with
  | zero =>
      cases failed
      exact .inl rfl
  | succ levels ih =>
      have below (child : Fin condition.size) (joined : child ∈ (condition.nodes.get node).children)
          (failed : condition.evalFrom context levels child = .error error) :=
        Explains.of_child joined (ih failed)
      have looked {operand : Operand} (member : operand ∈ (condition.nodes.get node).operands)
          (failed : operand.value context = .error error) :=
        explains_of_value member failed
      have same : condition.nodes[node] = condition.nodes.get node := rfl
      rw [evalFrom, same] at failed
      cases shape : condition.nodes.get node with
      | nonzero operand =>
          rw [shape] at looked
          simp only [shape] at failed
          rcases refuses_bind_iff.mp failed with failed | ⟨_, _, ⟨⟩⟩
          exact looked (by simp [Node.operands]) failed
      | compare comparison left right =>
          rw [shape] at looked
          simp only [shape] at failed
          rcases refuses_bind_iff.mp failed with failed | ⟨_, _, failed⟩
          · exact looked (by simp [Node.operands]) failed
          rcases refuses_bind_iff.mp failed with failed | ⟨_, _, ⟨⟩⟩
          exact looked (by simp [Node.operands]) failed
      | and left right =>
          rw [shape] at below
          simp only [shape] at failed
          rcases refuses_bind_iff.mp failed with failed | ⟨holds, _, failed⟩
          · exact below left (by simp [Node.children]) failed
          cases holds with
          | true => exact below right (by simp [Node.children]) failed
          | false => cases failed
      | or left right =>
          rw [shape] at below
          simp only [shape] at failed
          rcases refuses_bind_iff.mp failed with failed | ⟨holds, _, failed⟩
          · exact below left (by simp [Node.children]) failed
          cases holds with
          | true => cases failed
          | false => exact below right (by simp [Node.children]) failed
      | not inner =>
          rw [shape] at below
          simp only [shape] at failed
          rcases refuses_bind_iff.mp failed with failed | ⟨_, _, ⟨⟩⟩
          exact below inner (by simp [Node.children]) failed

/-! ## The whole condition -/

/-- The check of a condition passes if and only if no path from its root goes through more than 16
connectives and every slot that is reached exists; so it never passes if the root reaches a cycle.
A condition that passed stands for one formula, and in every context that is long enough it is
evaluated to the meaning of that formula. Whether it passed or not, an evaluation ends, and if it
ends in an error, then there are too many levels or a slot that is reached does not exist. -/
theorem validate_exact (condition : Condition) (length : Nat) :
    (condition.validate length = .ok () ↔
      (∀ path, (condition.root :: path).IsChain condition.Leads →
        condition.connectives (condition.root :: path) ≤ 16) ∧
      ∀ node, ReflTransGen condition.Leads condition.root node →
        ∀ index, condition.Names node index → index < length) ∧
    (∀ node, ReflTransGen condition.Leads condition.root node →
      TransGen condition.Leads node node → condition.validate length ≠ .ok ()) ∧
    (condition.validate length = .ok () →
      ∃ formula, (∀ other, condition.Unfolds condition.root other ↔ other = formula) ∧
        ∀ context : Context, length ≤ context.values.length →
          ∃ answer, condition.eval context = .ok answer ∧
            (answer = true ↔ formula.Holds context.values)) ∧
    ∀ context : Context, (∃ answer, condition.eval context = .ok answer) ∨
      condition.eval context = .error .conditionTooDeep ∨
      ∃ node index, ReflTransGen condition.Leads condition.root node ∧
        condition.Names node index ∧ context.values.length ≤ index ∧
        condition.eval context = .error (.indexOutOfRange index) := by
  have exactly : condition.validate length = .ok () ↔
      condition.Shallow maxLevels condition.root ∧ condition.Stored length condition.root :=
    validateFrom_eq_ok_iff
  refine ⟨?passes, ?acyclic, ?means, ?errors⟩
  case passes =>
    rw [exactly]
    simp only [Shallow, maxLevels, maxDepth, Nat.lt_succ_iff, Stored]
  case acyclic =>
    intro node reaches cycle passed
    exact not_shallow_of_cycle reaches cycle (exactly.mp passed).1
  case means =>
    intro passed
    obtain ⟨formula, unfolds⟩ := (exactly.mp passed).1.unfolds
    refine ⟨formula, ?_, fun context long => unfolds.answers passed long⟩
    exact fun other => ⟨fun unfoldsOther => unfoldsOther.unique unfolds, fun same => same ▸ unfolds⟩
  case errors =>
    intro context
    cases ended : condition.eval context with
    | ok answer => exact .inl ⟨answer, rfl⟩
    | error error =>
        rcases explains_of_evalFrom ended with rfl | ⟨node, index, reaches, names, absent, rfl⟩
        · exact .inr (.inl rfl)
        · exact .inr (.inr ⟨node, index, reaches, names, absent, rfl⟩)

end Condition

/-! ## Conditions at the limit -/

namespace Bench

/-- So many connectives, each nested in the one before. All of them share one test. -/
def nested (depth : Nat) : Condition where
  size := depth + 1
  nodes := Vector.ofFn fun node =>
    if inner : node.val < depth then .and ⟨node.val + 1, Nat.succ_lt_succ inner⟩ (Fin.last depth)
    else .nonzero (.slot 0)
  root := 0

/-- A condition that denies itself. -/
def liar : Condition where
  size := 1
  nodes := #v[.not (Fin.last 0)]
  root := Fin.last 0

/-- Sixteen connectives may be nested, and are evaluated to what they mean. A condition that
denies itself never passes. -/
theorem nested_means :
    (nested 16).validate 1 = .ok () ∧
      (∃ formula, (nested 16).Unfolds (nested 16).root formula ∧
        ∀ word, ∃ answer, (nested 16).eval ⟨[word], 1, true⟩ = .ok answer ∧
          (answer = true ↔ formula.Holds [word])) ∧
      liar.validate 1 ≠ .ok () := by
  have passed : (nested 16).validate 1 = .ok () := by decide
  obtain ⟨-, -, means, -⟩ := Condition.validate_exact (nested 16) 1
  obtain ⟨formula, unfolds, answers⟩ := means passed
  obtain ⟨-, acyclic, -⟩ := Condition.validate_exact liar 1
  have denies : liar.Leads liar.root liar.root := List.mem_singleton.mpr rfl
  exact ⟨passed, ⟨formula, (unfolds formula).mpr rfl, fun word => answers ⟨[word], 1, true⟩ le_rfl⟩,
    acyclic liar.root .refl (.single denies)⟩

example : (nested 17).validate 1 = .error .conditionTooDeep := by decide

end Bench

end DevicePower
