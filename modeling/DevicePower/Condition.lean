import DevicePower.Context

/-!
# Conditions over a context

A condition is a Boolean expression over the slots of a context. Its nodes form a
graph: a node may be shared, and nothing prevents it from reaching itself. Both
evaluation and validation therefore count the nodes they pass through and give up
below `Condition.maxDepth` nested connectives, which turns a cycle into an error.
-/

namespace DevicePower

/-- A leaf of a condition. -/
inductive Operand where
  /-- The value of a context slot. -/
  | slot (index : Nat)
  /-- A constant. -/
  | constant (value : UInt32)
  deriving DecidableEq, Repr

namespace Operand

/-- The word an operand stands for. -/
def value (context : Context) : Operand → Except ConfigError UInt32
  | .slot index => context.get index
  | .constant value => .ok value

/-- Require that the slot of an operand exists in a context of `length` slots. -/
def validate (length : Nat) : Operand → Except ConfigError Unit
  | .slot index => requireSlot length index
  | .constant _ => .ok ()

end Operand

/-- A test of two words. -/
inductive Comparison where
  | less
  | greater
  | lessOrEqual
  | greaterOrEqual
  | equal
  /-- The words have a bit in common. -/
  | commonBit
  /-- One of the words has a bit set. -/
  | anyBit
  deriving DecidableEq, Repr

/-- Whether two words pass a test. -/
def Comparison.holds : Comparison → UInt32 → UInt32 → Bool
  | .less, left, right => left < right
  | .greater, left, right => left > right
  | .lessOrEqual, left, right => left ≤ right
  | .greaterOrEqual, left, right => left ≥ right
  | .equal, left, right => left == right
  | .commonBit, left, right => left &&& right != 0
  | .anyBit, left, right => left ||| right != 0

/-- A node of a condition graph with `size` nodes. -/
inductive Condition.Node (size : Nat) where
  /-- The operand is not zero. -/
  | nonzero (operand : Operand)
  /-- The operands pass a test. -/
  | compare (comparison : Comparison) (left right : Operand)
  /-- Both nodes hold. -/
  | and (left right : Fin size)
  /-- At least one of the nodes holds. -/
  | or (left right : Fin size)
  /-- The node does not hold. -/
  | not (node : Fin size)
  deriving DecidableEq, Repr

/-- A condition: a graph of nodes and the node it starts at. -/
structure Condition where
  size : Nat
  nodes : Vector (Condition.Node size) size
  root : Fin size

namespace Condition

/-- The deepest nesting of connectives that a condition may use. -/
def maxDepth : Nat := 16

/-- The number of nodes on the longest path that is followed: `maxDepth` nested
connectives and the comparison they end in. -/
def maxLevels : Nat := maxDepth + 1

/-- Evaluate the condition that starts at `node`, following at most `levels`
nodes. The second operand of a connective is evaluated only if it can still
change the outcome. -/
def evalFrom (condition : Condition) (context : Context) :
    Nat → Fin condition.size → Except ConfigError Bool
  | 0, _ => .error .conditionTooDeep
  | levels + 1, node =>
      match condition.nodes[node] with
      | .nonzero operand => do
          let word ← operand.value context
          return word != 0
      | .compare comparison left right => do
          let left ← left.value context
          let right ← right.value context
          return comparison.holds left right
      | .and left right => do
          if ← condition.evalFrom context levels left then
            condition.evalFrom context levels right
          else
            return false
      | .or left right => do
          if ← condition.evalFrom context levels left then
            return true
          else
            condition.evalFrom context levels right
      | .not node => do
          let holds ← condition.evalFrom context levels node
          return !holds

/-- Whether the condition holds in a context. -/
def eval (condition : Condition) (context : Context) : Except ConfigError Bool :=
  condition.evalFrom context maxLevels condition.root

/-- Check everything that can be reached from `node` within `levels` nodes. -/
def validateFrom (condition : Condition) (length : Nat) :
    Nat → Fin condition.size → Except ConfigError Unit
  | 0, _ => .error .conditionTooDeep
  | levels + 1, node =>
      match condition.nodes[node] with
      | .nonzero operand => operand.validate length
      | .compare _ left right => do
          left.validate length
          right.validate length
      | .and left right | .or left right => do
          condition.validateFrom length levels left
          condition.validateFrom length levels right
      | .not node => condition.validateFrom length levels node

/-- Check the depth of a condition and every slot it names against a context of
`length` slots. -/
def validate (condition : Condition) (length : Nat) : Except ConfigError Unit :=
  condition.validateFrom length maxLevels condition.root

end Condition

end DevicePower
