import DevicePower.Context
import DevicePower.Table.Entry

/-!
# Checking register tables

A table is checked against the length of a context before it is ever run. An
entry passes if every slot it uses exists, if it has an augment exactly when its
operation takes one, and if it polls only after a write. The first entry that does
not pass decides what is reported.
-/

namespace DevicePower

namespace Entry

/-- Require that the slot of an entry exists. Flushing reads use none. -/
def checkSlot (entry : Entry) (length : Nat) : Except ConfigError Unit :=
  if entry.operation = .flushRead then .ok () else requireSlot length entry.slot

/-- Require an augment on augmented writes, with slots that exist, and none
elsewhere. -/
def checkAugment (entry : Entry) (kind : TableKind) (length : Nat) :
    Except ConfigError Unit :=
  match entry.operation.augmented, entry.augment with
  | true, .none => .error (.invalidEntry kind)
  | true, .constant _ => .ok ()
  | true, .combine left _ right => do
      requireSlot length left
      requireSlot length right
  | false, .none => .ok ()
  | false, _ => .error (.invalidEntry kind)

/-- Require that only writing entries poll. -/
def checkPoll (entry : Entry) (kind : TableKind) : Except ConfigError Unit :=
  if entry.poll.isSome && !entry.operation.writes then
    .error (.invalidEntry kind)
  else
    .ok ()

/-- Check one entry of a table of this kind against a context of `length` slots. -/
def validate (entry : Entry) (kind : TableKind) (length : Nat) :
    Except ConfigError Unit := do
  entry.checkSlot length
  entry.checkAugment kind length
  entry.checkPoll kind

end Entry

/-- Check every entry of a table, front to back. -/
def Table.validate (kind : TableKind) (length : Nat) : Table → Except ConfigError Unit
  | [] => .ok ()
  | entry :: rest => do
      entry.validate kind length
      Table.validate kind length rest

end DevicePower
