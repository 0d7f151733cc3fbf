import DevicePower.Register.Transport

/-!
# Banks of words

A memory mapped bank of 32-bit registers: the register at byte offset `4 * n` is
word `n`. Every other offset is refused and changes nothing. An offset that is no
multiple of four is reported as misaligned even when it also lies outside the
bank.
-/

namespace DevicePower

/-- The words of a memory mapped bank, in the order of their offsets. -/
structure WordBank where
  words : List UInt32
  deriving DecidableEq, Repr

namespace WordBank

/-- The word that a byte offset stands for. -/
def index (bank : WordBank) (offset : UInt32) : Except BusError Nat :=
  if offset % 4 ≠ 0 then
    .error .misaligned
  else if (offset / 4).toNat < bank.words.length then
    .ok (offset / 4).toNat
  else
    .error .outOfRange

/-- Replace one word, whichever offset it is reached by. -/
def put (bank : WordBank) (index : Nat) (value : UInt32) : WordBank :=
  ⟨bank.words.set index value⟩

/-- The word at a byte offset. -/
def read (bank : WordBank) (offset : UInt32) : Except BusError UInt32 :=
  (bank.index offset).map fun index => bank.words.getD index 0

/-- The bank after a write at a byte offset. -/
def write (bank : WordBank) (offset value : UInt32) : Except BusError WordBank :=
  (bank.index offset).map fun index => bank.put index value

/-- Word banks as registers at the far end of a bus. -/
def registers : Bank WordBank where
  read offset bank := (bank.read offset, bank)
  write offset value bank :=
    match bank.write offset value with
    | .ok after => (.ok (), after)
    | .error error => (.error error, bank)

end WordBank

end DevicePower
