import DevicePower.Register.Transport

/-!
# Password protected registers

Some chips accept a write to certain registers only right after a matching
password was written to a password register. `Transport.protect` issues these
passwords, so that nothing above it has to know which registers are protected.
Reads need no password.
-/

namespace DevicePower

/-- What it takes to write a register. -/
inductive Unlock where
  /-- The register is written directly. -/
  | never
  /-- The password and the value are written once. -/
  | once
  /-- The password and the value are written twice in a row. -/
  | twice
  deriving DecidableEq, Repr

/-- The protection scheme of a chip. -/
structure Protection where
  /-- The register that takes passwords. -/
  password : UInt32
  /-- The password for a register is its offset combined with this key. -/
  key : UInt32
  /-- The protected registers. The first entry for an offset counts. -/
  levels : List (UInt32 × Unlock)

/-- What it takes to write the register at `offset`. -/
def Protection.level (protection : Protection) (offset : UInt32) : Unlock :=
  (protection.levels.lookup offset).getD .never

namespace Transport

variable {σ : Type}

/-- Write the password for a register, then the register itself. -/
def unlockedWrite (transport : Transport σ) (protection : Protection)
    (offset value : UInt32) : BusM σ Unit := do
  transport.write protection.password (offset ^^^ protection.key)
  transport.write offset value

/-- Put every write of a protected register behind its password. -/
def protect (inner : Transport σ) (protection : Protection) : Transport σ where
  read := inner.read
  write offset value :=
    match protection.level offset with
    | .never => inner.write offset value
    | .once => inner.unlockedWrite protection offset value
    | .twice => do
        inner.unlockedWrite protection offset value
        inner.unlockedWrite protection offset value

end Transport

end DevicePower
