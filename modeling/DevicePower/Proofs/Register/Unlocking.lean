import DevicePower.Bench.Cells
import DevicePower.Proofs.Register.Calls

/-!
# Writes behind a password

What a protected transport hands to the transport below it is seen by tapping that one. A write is
turned into the list of writes that its protection asks for, and these are handed on up to the
first that is refused. So no write of a protected register ever reaches the chip without its
password right before it, whatever is called and whatever fails.
-/

namespace DevicePower

open Traced Transport

namespace Protection

variable {protection : Protection} {offset value : UInt32} {unlock : Unlock}

/-- What a list of entries asks for a register: the first entry for its offset counts, and a
register without an entry is written directly. -/
inductive Asks (offset : UInt32) : List (UInt32 × Unlock) → Unlock → Prop where
  | unlisted : Asks offset [] .never
  | listed (unlock : Unlock) (rest : List (UInt32 × Unlock)) :
      Asks offset ((offset, unlock) :: rest) unlock
  | later {other : UInt32} {unlock wanted : Unlock} {rest : List (UInt32 × Unlock)}
      (different : other ≠ offset) (asks : Asks offset rest wanted) :
      Asks offset ((other, unlock) :: rest) wanted

theorem asks_lookup (offset : UInt32) (levels : List (UInt32 × Unlock)) :
    Asks offset levels ((levels.lookup offset).getD .never) := by
  induction levels with
  | nil => exact .unlisted
  | cons entry rest ih =>
      obtain ⟨other, unlock⟩ := entry
      by_cases same : other = offset
      · subst same
        simpa using Asks.listed unlock rest
      · rw [List.lookup_cons, beq_false_of_ne (Ne.symm same)]
        exact .later same ih

/-- A list of entries asks for one thing only. -/
theorem Asks.unique {levels : List (UInt32 × Unlock)} {other : Unlock}
    (asks : Asks offset levels unlock) (asksOther : Asks offset levels other) : unlock = other := by
  induction asks with
  | unlisted =>
      cases asksOther
      rfl
  | listed unlock rest =>
      cases asksOther with
      | listed => rfl
      | later different => exact absurd rfl different
  | later different asks ih =>
      cases asksOther with
      | listed => exact absurd rfl different
      | later _ asksOther => exact ih asksOther

/-- What it takes to write a register is what the entries ask for. -/
theorem asks_iff : Asks offset protection.levels unlock ↔ unlock = protection.level offset := by
  have asks : Asks offset protection.levels (protection.level offset) :=
    asks_lookup offset protection.levels
  exact ⟨fun other => other.unique asks, fun same => same ▸ asks⟩

/-- The password for a register and a write of it. -/
def unlocked (protection : Protection) (offset value : UInt32) : List (UInt32 × UInt32) :=
  [(protection.password, offset ^^^ protection.key), (offset, value)]

/-- The writes that stand for a write of a register. -/
def writes (protection : Protection) (offset value : UInt32) : Unlock → List (UInt32 × UInt32)
  | .never => [(offset, value)]
  | .once => protection.unlocked offset value
  | .twice => protection.unlocked offset value ++ protection.unlocked offset value

end Protection

namespace Transport

variable {σ : Type} {inner : Transport σ} {protection : Protection} {hardware : σ}
variable {offset value : UInt32} {unlock : Unlock}

/-! ## What is handed on -/

/-- A write that was carried out. -/
def accepted (write : UInt32 × UInt32) : Access :=
  .write write.1 write.2 (.ok ())

/-- The writes were made one after the other. Either all of them were carried out, or they were made
up to the first that was refused, and its error is the result. -/
def HandsOn (writes : List (UInt32 × UInt32)) (outcome : Outcome BusError Access σ Unit) : Prop :=
  match outcome.result with
  | .ok () => outcome.events = writes.map accepted
  | .error error => ∃ before last after, writes = before ++ last :: after ∧
      outcome.events = before.map accepted ++ [.write last.1 last.2 (.error error)]

theorem handsOn_write (transport : Transport σ) (offset value : UInt32) (hardware : σ) :
    HandsOn [(offset, value)] (transport.tapped.write offset value hardware) := by
  cases answer : (transport.write offset value hardware).result with
  | ok done => simp [HandsOn, answer, accepted]
  | error error =>
      simp only [HandsOn, tapped_write_apply, answer]
      exact ⟨[], (offset, value), [], rfl, rfl⟩

/-- The writes of a sequence are handed on if those of its parts are. -/
theorem HandsOn.bind {writes more : List (UInt32 × UInt32)} {first next : BusM σ Unit}
    (handed : HandsOn writes (first hardware))
    (handedNext : ∀ hardware, HandsOn more (next hardware)) :
    HandsOn (writes ++ more) ((first >>= fun _ => next) hardware) := by
  rw [HandsOn] at handed ⊢
  cases ended : (first hardware).result with
  | error error =>
      rw [ended] at handed
      obtain ⟨before, last, after, rfl, events⟩ := handed
      rw [bind_of_error ended]
      exact ⟨before, last, after ++ more, by simp, events⟩
  | ok done =>
      rw [ended] at handed
      have later := handedNext (first hardware).state
      rw [HandsOn] at later
      rw [bind_of_ok ended]
      cases endedNext : (next (first hardware).state).result with
      | ok done =>
          rw [endedNext] at later
          simp only [handed, later, List.map_append]
      | error error =>
          rw [endedNext] at later
          obtain ⟨before, last, after, rfl, events⟩ := later
          simp only [handed, events]
          exact ⟨writes ++ before, last, after, by simp, by simp⟩

/-- All writes were handed on and carried out exactly if the result is a success. -/
theorem HandsOn.succeeds_iff {writes : List (UInt32 × UInt32)}
    {outcome : Outcome BusError Access σ Unit} (handed : HandsOn writes outcome) :
    outcome.result = .ok () ↔ outcome.events = writes.map accepted := by
  rw [HandsOn] at handed
  cases ended : outcome.result with
  | ok done => simpa [ended] using handed
  | error error =>
      rw [ended] at handed
      obtain ⟨before, last, after, rfl, events⟩ := handed
      simp [events, accepted]

theorem handsOn_unlockedWrite (transport : Transport σ) (protection : Protection)
    (offset value : UInt32) (hardware : σ) :
    HandsOn (protection.unlocked offset value)
      (transport.tapped.unlockedWrite protection offset value hardware) :=
  (handsOn_write transport _ _ hardware).bind fun hardware => handsOn_write transport _ _ hardware

/-- A write hands on the writes that the protection asks for. -/
theorem handsOn_protect (transport : Transport σ) (protection : Protection)
    (offset value : UInt32) (hardware : σ) :
    HandsOn (protection.writes offset value (protection.level offset))
      ((transport.tapped.protect protection).write offset value hardware) := by
  simp only [protect]
  cases protection.level offset with
  | never => exact handsOn_write transport offset value hardware
  | once => exact handsOn_unlockedWrite transport protection offset value hardware
  | twice =>
      exact (handsOn_unlockedWrite transport protection offset value hardware).bind fun hardware =>
        handsOn_unlockedWrite transport protection offset value hardware

/-! ## Passwords come first -/

/-- A write of a protected register comes right after its password was written. What is written to
the password register itself needs none. -/
def Unlocks (protection : Protection) (before : List Access) : Access → Prop
  | .read _ _ => True
  | .write offset _ _ =>
      offset ≠ protection.password →
        (Protection.Asks offset protection.levels .once ∨
          Protection.Asks offset protection.levels .twice) →
        ∃ earlier, before = earlier ++ [accepted (protection.password, offset ^^^ protection.key)]

theorem keeps_protect_read (transport : Transport σ) (protection : Protection) (offset : UInt32) :
    Keeps (fun seen _ => Guarded (Unlocks protection) seen) (fun _ => True)
      ((transport.tapped.protect protection).read offset) := by
  intro seen hardware guarded
  exact ⟨guarded_concat_iff.mpr ⟨guarded, trivial⟩, fun _ _ => trivial⟩

/-- The password is written first, and the register only if the password was accepted. -/
theorem keeps_unlockedWrite (transport : Transport σ) (protection : Protection)
    (offset value : UInt32) :
    Keeps (fun seen _ => Guarded (Unlocks protection) seen) (fun _ => True)
      (transport.tapped.unlockedWrite protection offset value) := by
  intro seen hardware guarded
  refine ⟨?_, fun _ _ => trivial⟩
  have free (answer : Except BusError Unit) : Guarded (Unlocks protection)
      (seen ++ [.write protection.password (offset ^^^ protection.key) answer]) :=
    guarded_concat_iff.mpr ⟨guarded, fun other => absurd rfl other⟩
  have told : (transport.tapped.write protection.password (offset ^^^ protection.key)
      hardware).events = [.write protection.password (offset ^^^ protection.key)
        (transport.tapped.write protection.password (offset ^^^ protection.key) hardware).result] :=
    rfl
  cases answer : (transport.tapped.write protection.password (offset ^^^ protection.key)
      hardware).result with
  | error error =>
      rw [answer] at told
      rw [unlockedWrite, bind_of_error answer, told]
      exact free (.error error)
  | ok done =>
      rw [answer] at told
      rw [unlockedWrite, bind_of_ok answer, told, tapped_write_apply, ← List.append_assoc]
      exact guarded_concat_iff.mpr ⟨free (.ok ()), fun _ _ => ⟨seen, rfl⟩⟩

theorem keeps_protect_write (transport : Transport σ) (protection : Protection)
    (offset value : UInt32) :
    Keeps (fun seen _ => Guarded (Unlocks protection) seen) (fun _ => True)
      ((transport.tapped.protect protection).write offset value) := by
  simp only [protect]
  cases level : protection.level offset with
  | once => exact keeps_unlockedWrite transport protection offset value
  | twice =>
      exact (keeps_unlockedWrite transport protection offset value).bind fun _ =>
        keeps_unlockedWrite transport protection offset value
  | never =>
      intro seen hardware guarded
      refine ⟨guarded_concat_iff.mpr ⟨guarded, ?_⟩, fun _ _ => trivial⟩
      rintro - (asks | asks)
      · cases (Protection.asks_iff.mp asks).trans level
      · cases (Protection.asks_iff.mp asks).trans level

/-! ## Any calls -/

/-- Whatever is called, passwords come first. -/
theorem guarded_serve (inner : Transport σ) (protection : Protection) (calls : List Call)
    (hardware : σ) :
    Guarded (Unlocks protection)
      ((inner.tapped.protect protection).serve calls hardware).events := by
  have kept : Keeps (fun seen _ => Guarded (Unlocks protection) seen) (fun _ => True)
      ((inner.tapped.protect protection).serve calls) :=
    keeps_serve (keeps_protect_read inner protection) (keeps_protect_write inner protection) calls
  exact (kept [] hardware guarded_nil).1

/-- A protected transport hands the transport below it exactly the writes that its protection asks
for, up to the first that is refused, whose error it returns. Reads pass as they are. An update is
one read and, if it succeeds, such a write of the merged value. Whatever is called and whatever
fails, no protected register is written but right after its password was. The transport below
answers the same whether or not it is tapped. -/
theorem protect_exact (inner : Transport σ) (protection : Protection) :
    let layer := inner.tapped.protect protection
    (∀ calls hardware,
      (layer.serve calls hardware).result =
          ((inner.protect protection).serve calls hardware).result ∧
        (layer.serve calls hardware).state =
          ((inner.protect protection).serve calls hardware).state) ∧
    (∀ offset, ∃ unlock,
      (∀ other, Protection.Asks offset protection.levels other ↔ other = unlock) ∧
      ∀ value hardware,
        let writes := protection.writes offset value unlock
        let call := layer.write offset value hardware
        HandsOn writes call ∧ (call.result = .ok () ↔ call.events = writes.map accepted)) ∧
    (∀ offset hardware,
      let read := inner.read offset hardware
      layer.read offset hardware = ⟨read.result, [.read offset read.result], read.state⟩) ∧
    (∀ offset mask value hardware,
      let read := inner.read offset hardware
      let call := layer.updateBits offset mask value hardware
      (∀ old, read.result = .ok old →
        let write := layer.write offset ((old &&& ~~~mask) ||| (value &&& mask)) read.state
        call = ⟨write.result, .read offset (.ok old) :: write.events, write.state⟩) ∧
      ∀ error, read.result = .error error →
        call = ⟨.error error, [.read offset (.error error)], read.state⟩) ∧
    ∀ calls hardware, Guarded (Unlocks protection) (layer.serve calls hardware).events := by
  intro layer
  refine ⟨?alike, ?writes, ?reads, ?updates, ?guarded⟩
  case alike =>
    intro calls hardware
    have agrees := ((imitates_tapped inner).protect protection).serve calls hardware hardware rfl
    exact ⟨agrees.result, agrees.state.symm⟩
  case writes =>
    intro offset
    refine ⟨protection.level offset, fun other => Protection.asks_iff, ?_⟩
    intro value hardware writes call
    have handed : HandsOn writes call := handsOn_protect inner protection offset value hardware
    exact ⟨handed, handed.succeeds_iff⟩
  case reads => exact fun _ _ => rfl
  case updates =>
    intro offset mask value hardware
    constructor
    · intro old answered
      have read : (layer.read offset hardware).result = .ok old := answered
      have told : (layer.read offset hardware).events = [.read offset (.ok old)] :=
        congrArg (fun result => [Access.read offset result]) answered
      intro write
      rw [updateBits_of_ok read, told]
      rfl
    · intro error failed
      have read : (layer.read offset hardware).result = .error error := failed
      have told : (layer.read offset hardware).events = [.read offset (.error error)] :=
        congrArg (fun result => [Access.read offset result]) failed
      rw [updateBits_of_error read, told]
      rfl
  case guarded => exact guarded_serve inner protection

end Transport

/-! ## A protected chip -/

namespace Bench

/-- A chip with a register that takes passwords, one that needs a password, and one that needs it
twice. The last entry comes too late to count. -/
def locked : Protection where
  password := 0x0b
  key := 0x7d
  levels := [(0x10, .once), (0x11, .twice), (0x10, .never)]

/-- On a bus that drops the third access, a write that takes two passwords stops at the second of
them. None of the writes before or after it is made without its password. -/
theorem locked_stops_at_password :
    let layer := Cells.bank.transport.tapped.protect locked
    let call := layer.write 0x11 0xcc { dropped := [false, false, true] }
    Protection.Asks 0x11 locked.levels .twice ∧
      HandsOn (locked.writes 0x11 0xcc .twice) call ∧ call.result = .error .nack ∧
      call.events = [.write 0x0b 0x6c (.ok ()), .write 0x11 0xcc (.ok ()),
        .write 0x0b 0x6c (.error .nack)] ∧
      Guarded (Unlocks locked)
        (layer.serve [.write 0x10 0xbb, .update 0x11 0xff 0xcc, .read 0x10]
          { dropped := [false, false, true] }).events := by
  intro layer call
  obtain ⟨-, writes, -, -, guarded⟩ := protect_exact Cells.bank.transport locked
  have asks : Protection.Asks 0x11 locked.levels .twice := .later (by decide) (.listed _ _)
  obtain ⟨unlock, only, handed⟩ := writes 0x11
  obtain rfl := (only .twice).mp asks
  exact ⟨asks, (handed 0xcc _).1, rfl, rfl, guarded _ _⟩

end Bench

end DevicePower
