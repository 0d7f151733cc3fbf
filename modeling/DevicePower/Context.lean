import DevicePower.Error

/-!
# Register contexts

A context holds the words that a device's register tables read into and write
from. It lives in storage that is handed in from outside. Its length is fixed
once, when a template is copied into the front of the storage; before that it has
no slots at all. Words of the storage behind the length are never looked at.
-/

namespace DevicePower

/-- The saved register values of one device. -/
structure Context where
  storage : List UInt32
  length : Nat
  populated : Bool
  deriving DecidableEq, Repr

namespace Context

/-- A context without slots, backed by `storage`. -/
def new (storage : List UInt32) : Context :=
  ⟨storage, 0, false⟩

/-- The slots of a context. -/
def values (context : Context) : List UInt32 :=
  context.storage.take context.length

/-- Copy a template into the context and fix its length. This succeeds at most
once, and only if the storage can hold the template. -/
def populate (context : Context) (template : List UInt32) :
    Except ConfigError Context :=
  if context.populated then
    .error .contextExists
  else if context.storage.length < template.length then
    .error .contextStorage
  else
    .ok {
      storage := template ++ context.storage.drop template.length
      length := template.length
      populated := true
    }

/-- The value of a slot. -/
def get (context : Context) (index : Nat) : Except ConfigError UInt32 :=
  match context.values[index]? with
  | some value => .ok value
  | none => .error (.indexOutOfRange index)

/-- The context with one slot overwritten. -/
def set (context : Context) (index : Nat) (value : UInt32) :
    Except ConfigError Context :=
  if index < context.values.length then
    .ok { context with storage := context.storage.set index value }
  else
    .error (.indexOutOfRange index)

/-- One line that shows the slots of a context. -/
def text (context : Context) : String :=
  "RegisterContext \x7b values: [" ++
    ", ".intercalate (context.values.map fun value => toString value.toNat) ++ "] \x7d"

end Context

/-- Require that a slot exists in a context of `length` slots. -/
def requireSlot (length index : Nat) : Except ConfigError Unit :=
  if index < length then .ok () else .error (.indexOutOfRange index)

end DevicePower
