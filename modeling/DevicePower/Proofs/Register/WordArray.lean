import DevicePower.Proofs.Register.Calls
import DevicePower.Register.WordBank
import Mathlib.Data.List.Pairwise

/-!
# Banks of words as arrays

A memory mapped bank is an array of words: the byte offset `4 * n` is word `n`, and a call to any
other offset is refused and changes nothing. `Transport.Call.reply` and `Transport.Call.effect` say
what an array answers to a call and what the call makes of it, and a bank answers any calls in the
same way.

Updates that take no bit in common may be carried out in any order, since each bit of a word is
taken from the one update that selects it.
-/

namespace DevicePower

open Traced

/-! ## Merged words -/

section Merging

variable {old mask other value otherValue : UInt32}

/-- Taking the same bits once more changes nothing. -/
theorem mergeBits_mergeBits (old mask value : UInt32) :
    mergeBits (mergeBits old mask value) mask value = mergeBits old mask value := by
  apply eq_of_testBit
  intro bit
  simp only [testBit_mergeBits]
  split <;> rfl

/-- Which bits are taken first makes no difference if none is taken twice. -/
theorem mergeBits_comm (apart : mask &&& other = 0) :
    mergeBits (mergeBits old mask value) other otherValue =
      mergeBits (mergeBits old other otherValue) mask value := by
  apply eq_of_testBit
  intro bit
  have never : (mask.toNat.testBit bit && other.toNat.testBit bit) = false := by
    rw [← Nat.testBit_and, ← UInt32.toNat_and, apart]
    exact Nat.zero_testBit bit
  simp only [testBit_mergeBits]
  cases selected : mask.toNat.testBit bit with
  | false => simp
  | true =>
      rw [selected, Bool.true_and] at never
      simp [never]

end Merging

/-! ## An array of words -/

namespace Transport.Call

/-- The byte offset that a call is about. -/
def offset : Call → UInt32
  | .read offset | .write offset _ | .update offset _ _ => offset

/-- The number of the word at this offset. -/
def number (call : Call) : Nat :=
  call.offset.toNat / 4

/-- The offset of a call is the beginning of one of so many words. -/
def Present (size : Nat) (call : Call) : Prop :=
  call.offset.toNat % 4 = 0 ∧ call.number < size

/-- The value that a call returns, where it finds this word. -/
def shown (word : UInt32) : Call → Option UInt32
  | .read _ => some word
  | .write _ _ | .update _ _ _ => none

/-- The word that a call leaves, where it finds this word. -/
def left (word : UInt32) : Call → UInt32
  | .read _ => word
  | .write _ value => value
  | .update _ mask value => (word &&& ~~~mask) ||| (value &&& mask)

/-- What an array of words answers to a call. -/
def reply (words : List UInt32) (call : Call) : Except BusError (Option UInt32) :=
  if call.offset.toNat % 4 = 0 then
    match words[call.number]? with
    | some word => .ok (call.shown word)
    | none => .error .outOfRange
  else
    .error .misaligned

/-- What a call makes of an array of words. -/
def effect (words : List UInt32) (call : Call) : List UInt32 :=
  if call.offset.toNat % 4 = 0 then
    words.modify call.number fun word => call.left word
  else
    words

/-- What an array of words answers to one call after the other. -/
def replies (words : List UInt32) : List Call → List (Except BusError (Option UInt32))
  | [] => []
  | call :: rest => call.reply words :: replies (call.effect words) rest

section Array

variable {words : List UInt32} {call : Call}

theorem length_effect (words : List UInt32) (call : Call) :
    (call.effect words).length = words.length := by
  rw [effect]
  split
  · exact List.length_modify _ _ _
  · rfl

/-- A call changes no word but its own. -/
theorem getElem?_effect_ne {number : Nat} (different : number ≠ call.number) :
    (call.effect words)[number]? = words[number]? := by
  rw [effect]
  split
  · exact List.getElem?_modify_ne _ _ different.symm
  · rfl

/-- Calls for the same word have the same offset. -/
theorem offset_eq {other : Call} (aligned : call.offset.toNat % 4 = 0)
    (alignedOther : other.offset.toNat % 4 = 0) (same : call.number = other.number) :
    call.offset = other.offset := by
  rw [number, number] at same
  apply UInt32.toNat_inj.mp
  omega

theorem reply_of_misaligned (misaligned : call.offset.toNat % 4 ≠ 0) :
    call.reply words = .error .misaligned :=
  if_neg misaligned

theorem reply_of_outside (aligned : call.offset.toNat % 4 = 0)
    (outside : words.length ≤ call.number) : call.reply words = .error .outOfRange := by
  rw [reply, if_pos aligned, List.getElem?_eq_none outside]

/-- A call whose word is there finds it. -/
theorem Present.found (present : call.Present words.length) :
    ∃ word, words[call.number]? = some word ∧ call.reply words = .ok (call.shown word) ∧
      (call.effect words)[call.number]? = some (call.left word) := by
  have inside : call.number < words.length := present.2
  have found : words[call.number]? = some words[call.number] := List.getElem?_eq_getElem inside
  refine ⟨_, found, ?_, ?_⟩
  · rw [reply, if_pos present.1, found]
  · rw [effect, if_pos present.1, List.getElem?_modify_eq, found]
    rfl

/-- A call is refused exactly if its word is not there. -/
theorem reply_eq_ok_iff : (∃ value, call.reply words = .ok value) ↔ call.Present words.length := by
  constructor
  · rintro ⟨value, replied⟩
    by_contra absent
    by_cases aligned : call.offset.toNat % 4 = 0
    · have outside : words.length ≤ call.number :=
        Nat.le_of_not_lt fun inside => absent ⟨aligned, inside⟩
      rw [reply_of_outside aligned outside] at replied
      cases replied
    · rw [reply_of_misaligned aligned] at replied
      cases replied
  · intro present
    obtain ⟨word, -, replied, -⟩ := present.found
    exact ⟨_, replied⟩

theorem effect_of_misaligned (misaligned : call.offset.toNat % 4 ≠ 0) :
    call.effect words = words :=
  if_neg misaligned

theorem effect_of_absent (absent : ¬ call.Present words.length) : call.effect words = words := by
  rw [effect]
  split
  next aligned =>
    exact List.modify_eq_self (Nat.le_of_not_lt fun inside => absent ⟨aligned, inside⟩)
  next => rfl

end Array

end Transport.Call

/-! ## Updates -/

namespace Transport

/-- An update of some bits of a register. -/
structure Update where
  offset : UInt32
  mask : UInt32
  value : UInt32

namespace Update

variable {update other : Update} {words : List UInt32}

def call (update : Update) : Call :=
  .update update.offset update.mask update.value

/-- The updates take different bits, if they are updates of the same register. -/
def Apart (update other : Update) : Prop :=
  update.offset = other.offset → update.mask &&& other.mask = 0

instance (update other : Update) : Decidable (update.Apart other) :=
  inferInstanceAs (Decidable (_ → _))

/-- The answer to an update does not depend on what the words are. -/
theorem reply_call {after : List UInt32} (same : after.length = words.length) :
    update.call.reply after = update.call.reply words := by
  by_cases aligned : update.call.offset.toNat % 4 = 0
  case neg => rw [Call.reply_of_misaligned aligned, Call.reply_of_misaligned aligned]
  case pos =>
    by_cases inside : update.call.number < words.length
    case neg =>
      have outside : words.length ≤ update.call.number := Nat.le_of_not_lt inside
      rw [Call.reply_of_outside aligned (same ▸ outside), Call.reply_of_outside aligned outside]
    case pos =>
      have present : update.call.Present words.length := ⟨aligned, inside⟩
      obtain ⟨word, -, replied, -⟩ := present.found
      obtain ⟨wordAfter, -, repliedAfter, -⟩ := (same ▸ present).found
      rw [repliedAfter, replied]
      rfl

/-- An update that is carried out once more changes nothing. -/
theorem effect_effect (update : Update) (words : List UInt32) :
    update.call.effect (update.call.effect words) = update.call.effect words := by
  rw [Call.effect]
  split
  next aligned =>
    rw [Call.effect, if_pos aligned, List.modify_modify_eq]
    congr 1
    funext word
    exact mergeBits_mergeBits word update.mask update.value
  next => rfl

/-- Updates that are apart may be carried out in any order. -/
theorem effect_comm (apart : update.Apart other) (words : List UInt32) :
    other.call.effect (update.call.effect words) =
      update.call.effect (other.call.effect words) := by
  by_cases aligned : update.call.offset.toNat % 4 = 0
  case neg => rw [Call.effect_of_misaligned aligned, Call.effect_of_misaligned aligned]
  case pos =>
    by_cases alignedOther : other.call.offset.toNat % 4 = 0
    case neg => rw [Call.effect_of_misaligned alignedOther, Call.effect_of_misaligned alignedOther]
    case pos =>
      simp only [Call.effect, if_pos aligned, if_pos alignedOther]
      by_cases same : update.call.number = other.call.number
      case neg => exact List.modify_modify_ne _ _ _ same
      case pos =>
        have disjoint : update.mask &&& other.mask = 0 :=
          apart (Call.offset_eq aligned alignedOther same)
        rw [same, List.modify_modify_eq, List.modify_modify_eq]
        congr 1
        funext word
        exact mergeBits_comm disjoint

/-- Updates of which no two take the same bit may be carried out in any order. -/
theorem foldl_effect_perm {updates reordered : List Update} (perm : updates.Perm reordered)
    (apart : updates.Pairwise Apart) (words : List UInt32) :
    reordered.foldl (fun words update => update.call.effect words) words =
      updates.foldl (fun words update => update.call.effect words) words := by
  have commute : ∀ update ∈ updates, ∀ other ∈ updates, ∀ words,
      other.call.effect (update.call.effect words) =
        update.call.effect (other.call.effect words) :=
    List.Pairwise.forall_of_forall_of_flip (fun _ _ _ => rfl)
      (apart.imp fun apart words => effect_comm apart words)
      (apart.imp fun apart words => (effect_comm apart words).symm)
  exact (perm.foldl_eq' commute words).symm

end Update

end Transport

namespace WordBank

open Transport (Call)

variable {bank : WordBank} {call : Call}

theorem index_eq (bank : WordBank) (offset : UInt32) :
    bank.index offset =
      if offset.toNat % 4 ≠ 0 then .error .misaligned
      else if offset.toNat / 4 < bank.words.length then .ok (offset.toNat / 4)
      else .error .outOfRange := by
  have aligned : offset % 4 = 0 ↔ offset.toNat % 4 = 0 := by simp [← UInt32.toNat_inj]
  have word : (offset / 4).toNat = offset.toNat / 4 := by simp
  simp only [index, word, ne_eq, aligned]

section Accesses

variable {offset value word : UInt32} {index : Nat} {error : BusError}

theorem read_of_error (refused : bank.index offset = .error error) :
    (registers.transport.read offset bank).result = .error error := by
  show bank.read offset = .error error
  rw [read, refused]
  rfl

theorem read_of_ok (found : bank.index offset = .ok index)
    (present : bank.words[index]? = some word) :
    (registers.transport.read offset bank).result = .ok word := by
  show bank.read offset = .ok word
  rw [read, found]
  simp [Except.map, present]

/-- A read leaves the bank as it is, whether it succeeds or not. -/
theorem state_read : (registers.transport.read offset bank).state = bank := rfl

theorem write_of_error (refused : bank.index offset = .error error) :
    registers.write offset value bank = (.error error, bank) := by
  simp [registers, write, refused, Except.map]

theorem write_of_ok (found : bank.index offset = .ok index) :
    registers.write offset value bank = (.ok (), bank.put index value) := by
  simp [registers, write, found, Except.map]

/-- A word that is replaced by itself stays. -/
theorem put_self (present : bank.words[index]? = some word) : bank.put index word = bank := by
  obtain ⟨bound, rfl⟩ := List.getElem?_eq_some_iff.mp present
  rw [put, List.set_getElem_self]

/-- A call that is refused changes nothing. -/
theorem answer_of_error (refused : bank.index call.offset = .error error) :
    (registers.transport.answer call bank).result = .error error ∧
      (registers.transport.answer call bank).state = bank := by
  cases call with
  | read offset =>
      have unread : (registers.transport.read offset bank).result = .error error :=
        read_of_error refused
      rw [Transport.answer, bind_of_error unread]
      exact ⟨rfl, rfl⟩
  | write offset value =>
      have written : registers.write offset value bank = (.error error, bank) :=
        write_of_error refused
      rw [Transport.answer, bind_apply, Bank.transport]
      simp only [written, and_self]
  | update offset mask value =>
      have unread : (registers.transport.read offset bank).result = .error error :=
        read_of_error refused
      rw [Transport.answer, bind_apply, Transport.updateBits_of_error unread]
      exact ⟨rfl, rfl⟩

/-- A call that finds its word shows it, and leaves another in its place. -/
theorem answer_of_ok (found : bank.index call.offset = .ok index)
    (present : bank.words[index]? = some word) :
    (registers.transport.answer call bank).result = .ok (call.shown word) ∧
      (registers.transport.answer call bank).state = bank.put index (call.left word) := by
  cases call with
  | read offset =>
      have answered : (registers.transport.read offset bank).result = .ok word :=
        read_of_ok found present
      rw [Transport.answer, bind_of_ok answered]
      exact ⟨rfl, (put_self present).symm⟩
  | write offset value =>
      have written : registers.write offset value bank = (.ok (), bank.put index value) :=
        write_of_ok found
      rw [Transport.answer, bind_apply, Bank.transport]
      simp only [written]
      exact ⟨rfl, rfl⟩
  | update offset mask value =>
      have answered : (registers.transport.read offset bank).result = .ok word :=
        read_of_ok found present
      have written : registers.write offset (mergeBits word mask value) bank =
          (.ok (), bank.put index (mergeBits word mask value)) :=
        write_of_ok found
      rw [Transport.answer, bind_apply, Transport.updateBits_of_ok answered, state_read,
        Bank.transport]
      simp only [written]
      exact ⟨rfl, rfl⟩

end Accesses

/-- A bank answers a call as an array of words does. -/
theorem answer_apply (bank : WordBank) (call : Call) :
    (registers.transport.answer call bank).result = call.reply bank.words ∧
      (registers.transport.answer call bank).state = ⟨call.effect bank.words⟩ := by
  have index := bank.index_eq call.offset
  rw [← Call.number] at index
  rw [Call.reply, Call.effect]
  by_cases aligned : call.offset.toNat % 4 = 0
  case neg =>
    rw [if_pos aligned] at index
    rw [if_neg aligned, if_neg aligned]
    exact answer_of_error index
  case pos =>
    rw [if_neg (not_not.mpr aligned)] at index
    rw [if_pos aligned, if_pos aligned]
    cases present : bank.words[call.number]? with
    | none =>
        have outside : bank.words.length ≤ call.number := List.getElem?_eq_none_iff.mp present
        rw [if_neg (Nat.not_lt.mpr outside)] at index
        rw [List.modify_eq_self outside]
        exact answer_of_error index
    | some word =>
        obtain ⟨inside, found⟩ := List.getElem?_eq_some_iff.mp present
        rw [if_pos inside] at index
        rw [List.modify_eq_set, present]
        exact answer_of_ok index present

/-- A bank answers any calls as an array of words does. -/
theorem serve_apply (bank : WordBank) (calls : List Call) :
    (registers.transport.serve calls bank).result = .ok (Call.replies bank.words calls) ∧
      (registers.transport.serve calls bank).state = ⟨calls.foldl Call.effect bank.words⟩ := by
  induction calls generalizing bank with
  | nil => exact ⟨rfl, rfl⟩
  | cons call rest ih =>
      obtain ⟨replied, left⟩ := bank.answer_apply call
      obtain ⟨later, last⟩ := ih ⟨call.effect bank.words⟩
      rw [Transport.serve, attempt_bind_apply, replied, left, bind_of_ok later]
      exact ⟨rfl, last⟩

/-- How a call to a bank of words ends. -/
structure Answered (bank : WordBank) (call : Call)
    (outcome : Outcome BusError Access WordBank (Option UInt32)) : Prop where
  ok_iff : (∃ value, outcome.result = .ok value) ↔
    call.offset.toNat % 4 = 0 ∧ call.offset.toNat / 4 < bank.words.length
  misaligned : call.offset.toNat % 4 ≠ 0 → outcome.result = .error .misaligned
  outOfRange : call.offset.toNat % 4 = 0 → bank.words.length ≤ call.offset.toNat / 4 →
    outcome.result = .error .outOfRange
  /-- A call that is refused changes nothing. -/
  refused : ∀ error, outcome.result = .error error → outcome.state = bank
  length : outcome.state.words.length = bank.words.length
  /-- A call changes no word but its own. -/
  others : ∀ number, number ≠ call.offset.toNat / 4 →
    outcome.state.words[number]? = bank.words[number]?

theorem answered (bank : WordBank) (call : Call) :
    bank.Answered call (registers.transport.answer call bank) := by
  obtain ⟨replied, left⟩ := bank.answer_apply call
  constructor
  case ok_iff =>
    rw [replied]
    exact Call.reply_eq_ok_iff
  case misaligned =>
    intro misaligned
    rw [replied]
    exact Call.reply_of_misaligned misaligned
  case outOfRange =>
    intro aligned outside
    rw [replied]
    exact Call.reply_of_outside aligned outside
  case refused =>
    intro error failed
    have absent : ¬ call.Present bank.words.length := by
      intro present
      obtain ⟨value, succeeded⟩ := Call.reply_eq_ok_iff.mpr present
      rw [replied, succeeded] at failed
      cases failed
    rw [left, Call.effect_of_absent absent]
  case length =>
    rw [left]
    exact call.length_effect bank.words
  case others =>
    intro number different
    rw [left]
    exact Call.getElem?_effect_ne different

/-- The bits that an update selects are those of its value, and the others are kept. -/
theorem bits_of_update {update : Transport.Update} {reply : Option UInt32}
    (succeeded : (registers.transport.answer update.call bank).result = .ok reply) :
    ∃ old new, bank.words[update.offset.toNat / 4]? = some old ∧
      (registers.transport.answer update.call bank).state.words[update.offset.toNat / 4]? =
        some new ∧
      ∀ bit, new.toNat.testBit bit =
        if update.mask.toNat.testBit bit then update.value.toNat.testBit bit
        else old.toNat.testBit bit := by
  obtain ⟨replied, left⟩ := bank.answer_apply update.call
  have present : update.call.Present bank.words.length :=
    Call.reply_eq_ok_iff.mp ⟨reply, replied.symm.trans succeeded⟩
  obtain ⟨old, found, -, changed⟩ := present.found
  rw [left]
  exact ⟨old, _, found, changed, testBit_mergeBits old update.mask update.value⟩

theorem update_again (bank : WordBank) (update : Transport.Update) :
    let answer := registers.transport.answer update.call
    (answer (answer bank).state).result = (answer bank).result ∧
      (answer (answer bank).state).state = (answer bank).state := by
  intro answer
  obtain ⟨replied, left⟩ := bank.answer_apply update.call
  obtain ⟨repliedAgain, leftAgain⟩ := (answer bank).state.answer_apply update.call
  constructor
  · rw [repliedAgain, replied, left]
    exact Transport.Update.reply_call (Call.length_effect _ _)
  · rw [leftAgain, left, Transport.Update.effect_effect]

/-- A bank of words answers any calls as an array of words does. A call succeeds exactly if its
offset is that of a word, and changes no other word; any other call is refused and changes nothing.
An update takes the bits that its mask selects from the value and keeps the others, and changes
nothing if it is carried out once more. Updates of which no two take the same bit of a register
leave the same bank in whichever order they are carried out. -/
theorem serves_as_array (bank : WordBank) :
    (∀ calls,
      (registers.transport.serve calls bank).result = .ok (Call.replies bank.words calls) ∧
        (registers.transport.serve calls bank).state = ⟨calls.foldl Call.effect bank.words⟩) ∧
    (∀ call, bank.Answered call (registers.transport.answer call bank)) ∧
    (∀ update : Transport.Update,
      let answer := registers.transport.answer update.call
      (∀ reply, (answer bank).result = .ok reply → ∃ old new,
        bank.words[update.offset.toNat / 4]? = some old ∧
          (answer bank).state.words[update.offset.toNat / 4]? = some new ∧
          ∀ bit, new.toNat.testBit bit =
            if update.mask.toNat.testBit bit then update.value.toNat.testBit bit
            else old.toNat.testBit bit) ∧
      (answer (answer bank).state).result = (answer bank).result ∧
      (answer (answer bank).state).state = (answer bank).state) ∧
    ∀ updates reordered : List Transport.Update, updates.Perm reordered →
      updates.Pairwise Transport.Update.Apart →
        (registers.transport.serve (reordered.map Transport.Update.call) bank).state =
          (registers.transport.serve (updates.map Transport.Update.call) bank).state := by
  refine ⟨bank.serve_apply, bank.answered, ?updates, ?order⟩
  case updates =>
    intro update
    exact ⟨fun reply succeeded => bits_of_update succeeded, bank.update_again update⟩
  case order =>
    intro updates reordered perm apart
    rw [(bank.serve_apply _).2, (bank.serve_apply _).2, List.foldl_map, List.foldl_map,
      Transport.Update.foldl_effect_perm perm apart]

end WordBank

/-- A bank of two words. -/
def Bench.pair : WordBank :=
  ⟨[0xf0f0, 0xdeadbeef]⟩

/-- Updates of both words, the second in two parts, and two updates of words that are not there. -/
def Bench.pairUpdates : List Transport.Update :=
  [⟨4, 0xff, 0x12⟩, ⟨6, 0xff, 0x12⟩, ⟨0, 0xff, 0x1234⟩, ⟨8, 0xff, 0x12⟩, ⟨4, 0xff00, 0x3400⟩]

namespace WordBank

/-- The general statement at updates that are carried out in both directions, and at one of
them. -/
theorem pair_updated_both_ways :
    Bench.pairUpdates.Pairwise Transport.Update.Apart ∧
      (registers.transport.serve (Bench.pairUpdates.map Transport.Update.call) Bench.pair).result =
        .ok [.ok none, .error .misaligned, .ok none, .error .outOfRange, .ok none] ∧
      (registers.transport.serve (Bench.pairUpdates.reverse.map Transport.Update.call)
        Bench.pair).state = ⟨[0xf034, 0xdead3412]⟩ ∧
      (registers.transport.answer (.update 0 0xff 0x1234) Bench.pair).result = .ok none ∧
      ∃ old new, Bench.pair.words[0]? = some old ∧
        (registers.transport.answer (.update 0 0xff 0x1234) Bench.pair).state.words[0]? =
          some new ∧
        ∀ bit, new.toNat.testBit bit =
          if (0xff : UInt32).toNat.testBit bit then (0x1234 : UInt32).toNat.testBit bit
          else old.toNat.testBit bit := by
  obtain ⟨serves, -, updates, order⟩ := serves_as_array Bench.pair
  have apart : Bench.pairUpdates.Pairwise Transport.Update.Apart := by decide
  have succeeded :
      (registers.transport.answer (.update 0 0xff 0x1234) Bench.pair).result = .ok none := rfl
  have reordered := order Bench.pairUpdates Bench.pairUpdates.reverse
    (List.reverse_perm _).symm apart
  exact ⟨apart, (serves _).1, reordered.trans rfl, succeeded,
    (updates ⟨0, 0xff, 0x1234⟩).1 none succeeded⟩

end WordBank

end DevicePower
