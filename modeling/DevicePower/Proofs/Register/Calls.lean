import DevicePower.Proofs.Matching
import DevicePower.Register.Protection

/-!
# Calls to a transport

Whoever uses a transport reads, writes and updates registers, and goes on when a call fails.
`Transport.serve` answers any list of such calls. What reaches a transport through a layer above
it is seen by tapping it: `Transport.tapped` reports every call that is made to a transport in
place of what the transport spends on it, and answers like the transport.
-/

namespace DevicePower

open Traced

namespace Transport

variable {σ : Type}

/-- A call to a transport. -/
inductive Call where
  | read (offset : UInt32)
  | write (offset value : UInt32)
  | update (offset mask value : UInt32)
  deriving DecidableEq, Repr

/-- Answer a call. Only a read is answered with a value. -/
def answer (transport : Transport σ) : Call → BusM σ (Option UInt32)
  | .read offset => do
      let value ← transport.read offset
      return some value
  | .write offset value => do
      transport.write offset value
      return none
  | .update offset mask value => do
      transport.updateBits offset mask value
      return none

/-- Answer one call after the other, whether they succeed or not. -/
def serve (transport : Transport σ) :
    List Call → BusM σ (List (Except BusError (Option UInt32)))
  | [] => return []
  | call :: rest => do
      let reply ← (transport.answer call).attempt
      let replies ← transport.serve rest
      return reply :: replies

section Update

variable {transport : Transport σ} {hardware : σ} {offset mask value : UInt32}

/-- An update writes the value that was read with some of its bits replaced. -/
theorem updateBits_of_ok {old : UInt32}
    (answered : (transport.read offset hardware).result = .ok old) :
    transport.updateBits offset mask value hardware =
      let write := transport.write offset (mergeBits old mask value)
        (transport.read offset hardware).state
      ⟨write.result, (transport.read offset hardware).events ++ write.events, write.state⟩ := by
  rw [updateBits, bind_of_ok answered]

/-- An update that cannot read the register does not write it. -/
theorem updateBits_of_error {error : BusError}
    (failed : (transport.read offset hardware).result = .error error) :
    transport.updateBits offset mask value hardware =
      ⟨.error error, (transport.read offset hardware).events,
        (transport.read offset hardware).state⟩ := by
  rw [updateBits, bind_of_error failed]

end Update

/-- The transport as it is seen from above: every call is reported with its answer, and nothing
else. -/
def tapped (transport : Transport σ) : Transport σ where
  read offset := fun hardware =>
    let outcome := transport.read offset hardware
    ⟨outcome.result, [.read offset outcome.result], outcome.state⟩
  write offset value := fun hardware =>
    let outcome := transport.write offset value hardware
    ⟨outcome.result, [.write offset value outcome.result], outcome.state⟩

@[simp] theorem tapped_read_apply (transport : Transport σ) (offset : UInt32) (hardware : σ) :
    transport.tapped.read offset hardware =
      let outcome := transport.read offset hardware
      ⟨outcome.result, [.read offset outcome.result], outcome.state⟩ := rfl

@[simp] theorem tapped_write_apply (transport : Transport σ) (offset value : UInt32)
    (hardware : σ) :
    transport.tapped.write offset value hardware =
      let outcome := transport.write offset value hardware
      ⟨outcome.result, [.write offset value outcome.result], outcome.state⟩ := rfl

/-! ## Transports that answer alike -/

/-- Both transports answer every access alike and leave the hardware alike, whatever they report. -/
structure Imitates (transport other : Transport σ) : Prop where
  read : ∀ offset, Matches (fun _ => false) Eq (transport.read offset) (other.read offset)
  write : ∀ offset value,
    Matches (fun _ => false) Eq (transport.write offset value) (other.write offset value)

theorem imitates_tapped (transport : Transport σ) : transport.Imitates transport.tapped := by
  have nothing (events : List Access) : events.filter (fun _ => false) = [] :=
    List.filter_eq_nil_iff.mpr nofun
  constructor
  case read =>
    rintro offset hardware _ rfl
    exact ⟨rfl, (nothing _).trans (nothing _).symm, rfl⟩
  case write =>
    rintro offset value hardware _ rfl
    exact ⟨rfl, (nothing _).trans (nothing _).symm, rfl⟩

namespace Imitates

variable {transport other : Transport σ}

theorem unlockedWrite (imitates : transport.Imitates other) (protection : Protection)
    (offset value : UInt32) :
    Matches (fun _ => false) Eq (transport.unlockedWrite protection offset value)
      (other.unlockedWrite protection offset value) :=
  (imitates.write _ _).bind fun _ => imitates.write _ _

/-- Protection on top makes no difference. -/
theorem protect (imitates : transport.Imitates other) (protection : Protection) :
    (transport.protect protection).Imitates (other.protect protection) where
  read := imitates.read
  write offset value := by
    simp only [Transport.protect]
    cases protection.level offset with
    | never => exact imitates.write offset value
    | once => exact imitates.unlockedWrite protection offset value
    | twice =>
        exact (imitates.unlockedWrite protection offset value).bind fun _ =>
          imitates.unlockedWrite protection offset value

theorem updateBits (imitates : transport.Imitates other) (offset mask value : UInt32) :
    Matches (fun _ => false) Eq (transport.updateBits offset mask value)
      (other.updateBits offset mask value) :=
  (imitates.read offset).bind fun _ => imitates.write offset _

theorem answer (imitates : transport.Imitates other) (call : Call) :
    Matches (fun _ => false) Eq (transport.answer call) (other.answer call) := by
  cases call with
  | read offset => exact (imitates.read offset).bind fun _ => matches_pure _
  | write offset value => exact (imitates.write offset value).bind fun _ => matches_pure _
  | update offset mask value =>
      exact (imitates.updateBits offset mask value).bind fun _ => matches_pure _

theorem serve (imitates : transport.Imitates other) (calls : List Call) :
    Matches (fun _ => false) Eq (transport.serve calls) (other.serve calls) := by
  induction calls with
  | nil => exact matches_pure []
  | cons call rest ih =>
      exact (imitates.answer call).attempt.bind fun _ => ih.bind fun _ => matches_pure _

end Imitates

/-! ## What every call keeps -/

/-- What reads and writes keep is kept by any calls. -/
theorem keeps_serve {transport : Transport σ} {invariant : List Access → σ → Prop}
    {allowed : BusError → Prop}
    (read : ∀ offset, Keeps invariant allowed (transport.read offset))
    (write : ∀ offset value, Keeps invariant allowed (transport.write offset value))
    (calls : List Call) : Keeps invariant allowed (transport.serve calls) := by
  have answered (call : Call) : Keeps invariant allowed (transport.answer call) := by
    cases call with
    | read offset => exact (read offset).bind fun _ => keeps_pure _
    | write offset value => exact (write offset value).bind fun _ => keeps_pure _
    | update offset mask value =>
        exact ((read offset).bind fun _ => write offset _).bind fun _ => keeps_pure _
  induction calls with
  | nil => exact keeps_pure []
  | cons call rest ih =>
      exact (answered call).attempt_bind fun _ _ => ih.bind fun _ => keeps_pure _

end Transport

end DevicePower
