import DevicePower.Proofs.Table.Accesses
import Mathlib.Logic.Function.Basic

/-!
# Replaying writes

A table of writes that stops midway leaves some of its registers written and others not. Run
once more from the start, it writes all of them again. What the first attempt wrote is then
gone without a trace, even where a write does not reach every bit: the bits that it does not
reach are the same as ever.

`Plan` is what a computation would write if nothing failed. `Traced.Carries` says that the
computation writes a beginning of its plan, and all of it unless something does fail.
-/

namespace DevicePower

open TableM Traced

variable {σ : Type}

/-! ## Words with read-only bits -/

/-- A register, and the value that is written to it. -/
abbrev Order : Type := UInt32 × UInt32

/-- The words after a write. The read-only bits of the register stay as they were. -/
def imprint (readOnly words : UInt32 → UInt32) (order : Order) : UInt32 → UInt32 :=
  Function.update words order.1 (mergeBits order.2 (readOnly order.1) (words order.1))

/-- The words after one write after the other. -/
def imprintAll (readOnly : UInt32 → UInt32) (orders : List Order) (words : UInt32 → UInt32) :
    UInt32 → UInt32 :=
  orders.foldl (imprint readOnly) words

/-- The bits that are taken from a value are its own afterwards. -/
theorem mergeBits_and_mask (old mask value : UInt32) :
    mergeBits old mask value &&& mask = value &&& mask := by
  apply eq_of_testBit
  intro bit
  simp only [UInt32.toNat_and, Nat.testBit_and, testBit_mergeBits]
  cases mask.toNat.testBit bit <;> simp

/-- Bits that are taken from the value itself change nothing. -/
theorem mergeBits_self (value mask : UInt32) : mergeBits value mask value = value := by
  apply eq_of_testBit
  intro bit
  rw [testBit_mergeBits, ite_self]

section Imprints

variable {readOnly : UInt32 → UInt32}

theorem imprintAll_append (first second : List Order) (words : UInt32 → UInt32) :
    imprintAll readOnly (first ++ second) words =
      imprintAll readOnly second (imprintAll readOnly first words) :=
  List.foldl_append

theorem imprint_readOnly (words : UInt32 → UInt32) (order : Order) (offset : UInt32) :
    imprint readOnly words order offset &&& readOnly offset = words offset &&& readOnly offset := by
  by_cases same : offset = order.1
  · subst same
    rw [imprint, Function.update_self, mergeBits_and_mask]
  · rw [imprint, Function.update_of_ne same]

/-- No write changes a read-only bit. -/
theorem imprintAll_readOnly (orders : List Order) (words : UInt32 → UInt32) (offset : UInt32) :
    imprintAll readOnly orders words offset &&& readOnly offset =
      words offset &&& readOnly offset := by
  induction orders generalizing words with
  | nil => rfl
  | cons order rest ih => exact (ih _).trans (imprint_readOnly words order offset)

/-- A register that is not written stays as it is. -/
theorem imprintAll_other {orders : List Order} {offset : UInt32}
    (other : offset ∉ orders.map Prod.fst) (words : UInt32 → UInt32) :
    imprintAll readOnly orders words offset = words offset := by
  induction orders generalizing words with
  | nil => rfl
  | cons order rest ih =>
      rw [List.map_cons, List.mem_cons, not_or] at other
      exact (ih other.2 _).trans (Function.update_of_ne other.1 _ _)

/-- Of a register that is written, only the read-only bits are seen afterwards. -/
theorem imprintAll_congr {orders : List Order} {first second : UInt32 → UInt32}
    (same : ∀ offset, first offset = second offset ∨ offset ∈ orders.map Prod.fst ∧
      first offset &&& readOnly offset = second offset &&& readOnly offset) :
    imprintAll readOnly orders first = imprintAll readOnly orders second := by
  induction orders generalizing first second with
  | nil =>
      funext offset
      simpa [imprintAll] using same offset
  | cons order rest ih =>
      apply ih
      intro offset
      by_cases written : offset = order.1
      · subst written
        left
        have bits : first order.1 &&& readOnly order.1 = second order.1 &&& readOnly order.1 := by
          rcases same order.1 with equal | ⟨-, bits⟩
          · rw [equal]
          · exact bits
        rw [imprint, imprint, Function.update_self, Function.update_self, mergeBits, mergeBits,
          bits]
      · rw [imprint, imprint, Function.update_of_ne written, Function.update_of_ne written]
        rcases same offset with equal | ⟨member, bits⟩
        · exact .inl equal
        · rw [List.map_cons, List.mem_cons] at member
          exact .inr ⟨member.resolve_left written, bits⟩

/-- Once everything is written, it makes no difference that a beginning of it was written
before. -/
theorem imprintAll_absorbs {done orders : List Order} (part : done <+: orders)
    (words : UInt32 → UInt32) :
    imprintAll readOnly orders (imprintAll readOnly done words) =
      imprintAll readOnly orders words := by
  apply imprintAll_congr
  intro offset
  by_cases written : offset ∈ done.map Prod.fst
  · exact .inr ⟨(part.map Prod.fst).subset written, imprintAll_readOnly done words offset⟩
  · exact .inl (imprintAll_other written words)

/-- To write the value that a register has is to write nothing. -/
theorem imprint_current {words : UInt32 → UInt32} {order : Order}
    (current : words order.1 = order.2) : imprint readOnly words order = words := by
  rw [imprint, ← current, mergeBits_self, Function.update_eq_self]

theorem imprintAll_current {orders : List Order} {words : UInt32 → UInt32}
    (current : ∀ order ∈ orders, words order.1 = order.2) :
    imprintAll readOnly orders words = words := by
  induction orders with
  | nil => rfl
  | cons order rest ih =>
      obtain ⟨first, others⟩ := List.forall_mem_cons.mp current
      rw [imprintAll, List.foldl_cons, imprint_current first]
      exact ih others

end Imprints

/-! ## Plans -/

/-- What is to be written, in order, and how it ends if nothing fails on the way. -/
structure Plan where
  orders : List Order
  verdict : Except Error Unit

namespace Plan

/-- To write nothing at all. -/
def nothing : Plan :=
  ⟨[], .ok ()⟩

/-- To write one register. -/
def one (order : Order) : Plan :=
  ⟨[order], .ok ()⟩

/-- One plan after the other. A plan that ends in an error ends everything. -/
def followedBy (first second : Plan) : Plan :=
  match first.verdict with
  | .ok () => ⟨first.orders ++ second.orders, second.verdict⟩
  | .error _ => first

theorem followedBy_of_ok {first : Plan} (passes : first.verdict = .ok ()) (second : Plan) :
    first.followedBy second = ⟨first.orders ++ second.orders, second.verdict⟩ := by
  rw [followedBy, passes]

theorem followedBy_of_error {first : Plan} {error : Error} (fails : first.verdict = .error error)
    (second : Plan) : first.followedBy second = first := by
  rw [followedBy, fails]

@[simp] theorem nothing_followedBy (plan : Plan) : nothing.followedBy plan = plan := rfl

@[simp] theorem followedBy_nothing (plan : Plan) : plan.followedBy nothing = plan := by
  cases verdict : plan.verdict with
  | ok done => rw [followedBy_of_ok verdict, nothing, List.append_nil, ← verdict]
  | error error => rw [followedBy_of_error verdict]

theorem orders_prefix (first second : Plan) :
    first.orders <+: (first.followedBy second).orders := by
  cases verdict : first.verdict with
  | ok done =>
      rw [followedBy_of_ok verdict]
      exact List.prefix_append _ _
  | error error => simp [followedBy_of_error verdict]

theorem mem_followedBy {first second : Plan} {order : Order}
    (member : order ∈ (first.followedBy second).orders) :
    order ∈ first.orders ∨ order ∈ second.orders := by
  cases verdict : first.verdict with
  | ok done =>
      rw [followedBy_of_ok verdict] at member
      exact List.mem_append.mp member
  | error error =>
      rw [followedBy_of_error verdict] at member
      exact .inl member

end Plan

/-- How the registers are found in a state, which of their bits are read-only, and which
events tell of a fault. -/
structure Setting (η σ : Type) where
  words : σ → UInt32 → UInt32
  readOnly : UInt32 → UInt32
  faulty : η → Bool

/-- None of the events tells of a fault. -/
def Setting.Faultless {η : Type} (setting : Setting η σ) (events : List η) : Prop :=
  ∀ event ∈ events, setting.faulty event = false

namespace Traced

variable {η : Type} {setting : Setting η σ} {sound : σ → Prop}

/-- The computation carries out a plan: it writes a beginning of it, and if it succeeds or
meets no fault, all of it. Without a fault it ends as planned. Sound states stay sound. -/
def Carries (setting : Setting η σ) (sound : σ → Prop) (plan : Plan)
    (computation : Traced Error η σ Unit) : Prop :=
  ∀ state, sound state →
    sound (computation state).state ∧ ∃ done, done <+: plan.orders ∧
      setting.words (computation state).state =
        imprintAll setting.readOnly done (setting.words state) ∧
      ((computation state).result = .ok () ∨ setting.Faultless (computation state).events →
        done = plan.orders ∧ (computation state).result = plan.verdict)

theorem carries_nothing {computation : Traced Error η σ Unit}
    (kept : ∀ state, sound state → sound (computation state).state ∧
      setting.words (computation state).state = setting.words state)
    (passes : ∀ state, setting.Faultless (computation state).events →
      (computation state).result = .ok ()) :
    Carries setting sound .nothing computation := by
  intro state holds
  obtain ⟨after, words⟩ := kept state holds
  refine ⟨after, [], List.prefix_rfl, words, ?_⟩
  rintro (passed | faultless)
  · exact ⟨rfl, passed⟩
  · exact ⟨rfl, passes state faultless⟩

theorem carries_pure : Carries setting sound .nothing (pure () : Traced Error η σ Unit) :=
  carries_nothing (fun _ holds => ⟨holds, rfl⟩) fun _ _ => rfl

theorem carries_emit (event : η) :
    Carries setting sound .nothing (emit event : Traced Error η σ Unit) :=
  carries_nothing (fun _ holds => ⟨holds, rfl⟩) fun _ _ => rfl

/-- An error that is known beforehand is planned for. -/
theorem carries_fail (error : Error) :
    Carries setting sound ⟨[], .error error⟩ (fail error : Traced Error η σ Unit) :=
  fun _ holds => ⟨holds, [], List.prefix_rfl, rfl, fun _ => ⟨rfl, rfl⟩⟩

/-- A sequence carries out the plans of its parts, one after the other. -/
theorem Carries.bind {first second : Traced Error η σ Unit} {plan planNext : Plan}
    (carried : Carries setting sound plan first)
    (carriedNext : Carries setting sound planNext second) :
    Carries setting sound (plan.followedBy planNext) (first >>= fun _ => second) := by
  intro state holds
  obtain ⟨between, done, part, words, whole⟩ := carried state holds
  cases ended : (first state).result with
  | error error =>
      rw [bind_of_error ended]
      refine ⟨between, done, part.trans (plan.orders_prefix planNext), words, ?_⟩
      rintro (impossible | faultless)
      · cases impossible
      · obtain ⟨all, verdict⟩ := whole (.inr faultless)
        rw [ended] at verdict
        rw [Plan.followedBy_of_error verdict.symm]
        exact ⟨all, verdict⟩
  | ok passed =>
      rw [bind_of_ok ended]
      obtain ⟨all, verdict⟩ := whole (.inl ended)
      rw [ended] at verdict
      rw [Plan.followedBy_of_ok verdict.symm]
      subst all
      obtain ⟨after, rest, partNext, wordsNext, wholeNext⟩ := carriedNext _ between
      refine ⟨after, plan.orders ++ rest, ?_, ?_, ?_⟩
      · exact (List.prefix_append_right_inj _).mpr partNext
      · rw [imprintAll_append, ← words]
        exact wordsNext
      · intro passedOrFaultless
        obtain ⟨allNext, verdictNext⟩ := wholeNext <| passedOrFaultless.imp_right fun faultless =>
          (List.forall_mem_append.mp faultless).2
        exact ⟨congrArg (plan.orders ++ ·) allNext, verdictNext⟩

end Traced

/-! ## Tables that command -/

/-- The access failed. -/
def Access.failed : Access → Bool
  | .read _ (.error _) | .write _ _ (.error _) => true
  | _ => false

/-- The activity is an access that failed. -/
def Activity.faulty : Activity → Bool
  | .access dealing => dealing.failed
  | _ => false

/-- The registers hold words, which writes change but for the read-only bits. A write that
fails changes nothing, and neither does a read. -/
structure Transport.StoresWords (transport : Transport σ) (words : σ → UInt32 → UInt32)
    (readOnly : UInt32 → UInt32) : Prop where
  read : ∀ offset hardware, words (transport.read offset hardware).state = words hardware
  written : ∀ offset value hardware, (transport.write offset value hardware).result = .ok () →
    words (transport.write offset value hardware).state =
      imprint readOnly (words hardware) (offset, value)
  refused : ∀ offset value hardware error,
    (transport.write offset value hardware).result = .error error →
      words (transport.write offset value hardware).state = words hardware

/-- The entry writes its slot to its register, or reads the register for nothing, and does not
wait for anything. -/
def Entry.Commands (entry : Entry) : Prop :=
  (entry.operation = .write ∨ entry.operation = .writeThenRead ∨ entry.operation = .flushRead) ∧
    entry.poll = none

/-- What an entry is to write, if its slot exists. -/
def Entry.plan (context : Context) (entry : Entry) : Plan :=
  if entry.operation.writes then
    match context.get entry.slot with
    | .ok value => .one (entry.offset, value)
    | .error reason => ⟨[], .error (.configuration reason)⟩
  else
    .nothing

/-- What a table is to write, up to the first slot that does not exist. -/
def Table.plan (context : Context) : Table → Plan
  | [] => .nothing
  | entry :: rest => (entry.plan context).followedBy (Table.plan context rest)

/-- An entry is to write its slot to its register, if it is to write anything. -/
theorem Entry.mem_plan {context : Context} {entry : Entry} {order : Order}
    (member : order ∈ (entry.plan context).orders) :
    entry.operation.writes = true ∧ entry.offset = order.1 ∧
      context.get entry.slot = .ok order.2 := by
  rw [plan] at member
  split at member
  next writes =>
    cases found : context.get entry.slot with
    | ok value =>
        rw [found] at member
        cases List.mem_singleton.mp member
        exact ⟨writes, rfl, rfl⟩
    | error reason =>
        rw [found] at member
        cases member
  next => cases member

/-- What a table is to write is what one of its entries is to write. -/
theorem Table.mem_plan {context : Context} {table : Table} {order : Order}
    (member : order ∈ (table.plan context).orders) :
    ∃ entry ∈ table, entry.operation.writes = true ∧ entry.offset = order.1 ∧
      context.get entry.slot = .ok order.2 := by
  induction table with
  | nil => cases member
  | cons entry rest ih =>
      rcases Plan.mem_followedBy member with first | later
      · exact ⟨entry, List.mem_cons_self, Entry.mem_plan first⟩
      · obtain ⟨other, others, planned⟩ := ih later
        exact ⟨other, List.mem_cons_of_mem entry others, planned⟩

section Tables

variable {port : Port σ} {words : σ → UInt32 → UInt32} {readOnly : UInt32 → UInt32}
variable {context : Context}

/-- How tables see registers that hold words. -/
abbrev Workspace.setting (words : σ → UInt32 → UInt32) (readOnly : UInt32 → UInt32) :
    Setting Activity (Workspace σ) where
  words workspace := words workspace.hardware
  readOnly := readOnly
  faulty := Activity.faulty

/-- The computation carries out a plan that was made for this context, and keeps the context. -/
abbrev TableM.Carries (words : σ → UInt32 → UInt32) (readOnly : UInt32 → UInt32)
    (context : Context) : Plan → TableM σ Unit → Prop :=
  Traced.Carries (Workspace.setting words readOnly) fun workspace => workspace.context = context

namespace Port

variable (stores : port.transport.StoresWords words readOnly)

include stores

/-- Reading a register first adds nothing to a plan. -/
theorem carries_after_read (offset : UInt32) {plan : Plan} {next : UInt32 → TableM σ Unit}
    (carried : ∀ value, TableM.Carries words readOnly context plan (next value)) :
    TableM.Carries words readOnly context plan (port.read offset >>= next) := by
  intro workspace same
  have between : (port.read offset workspace).state.context = context := by
    rw [read_state]
    exact same
  have unchanged : words (port.read offset workspace).state.hardware =
      words workspace.hardware := by
    rw [read_state]
    exact stores.read offset _
  cases answer : (port.read offset workspace).result with
  | error error =>
      rw [bind_of_error answer]
      refine ⟨between, [], List.nil_prefix, unchanged, ?_⟩
      rintro (impossible | faultless)
      · cases impossible
      · obtain ⟨cause, failed⟩ := failure_of_read answer
        exact absurd (faultless _ failed) (by simp [Activity.faulty, Access.failed])
  | ok value =>
      rw [bind_of_ok answer]
      obtain ⟨after, done, part, wordsAfter, whole⟩ := carried value _ between
      refine ⟨after, done, part, wordsAfter.trans (congrArg _ unchanged), ?_⟩
      exact fun passedOrFaultless => whole <| passedOrFaultless.imp_right fun faultless =>
        (List.forall_mem_append.mp faultless).2

/-- A write carries out its order, or fails with nothing changed. -/
theorem carries_write (offset value : UInt32) :
    TableM.Carries words readOnly context (.one (offset, value)) (port.write offset value) := by
  intro workspace same
  have after : (port.write offset value workspace).state.context = context := by
    rw [write_state]
    exact same
  refine ⟨after, ?_⟩
  cases answer : (port.transport.write offset value workspace.hardware).result with
  | ok done =>
      refine ⟨[(offset, value)], List.prefix_rfl, ?_, fun _ => ⟨rfl, ?_⟩⟩
      · simp only [write_state]
        exact stores.written offset value _ answer
      · rw [write_result, answer]
        rfl
  | error error =>
      refine ⟨[], List.nil_prefix, ?_, ?_⟩
      · simp only [write_state]
        exact stores.refused offset value _ error answer
      · rintro (passed | faultless)
        · rw [write_result, answer] at passed
          cases passed
        · exact absurd (faultless _ (failure_of_write answer))
            (by simp [Activity.faulty, Access.failed])

end Port

namespace Entry

/-- What follows the look at a slot is planned for the value of the slot. -/
theorem carries_after_fetch (slot : Nat) {plan : UInt32 → Plan} {next : UInt32 → TableM σ Unit}
    (carried : ∀ value, TableM.Carries words readOnly context (plan value) (next value)) :
    TableM.Carries words readOnly context
      (match context.get slot with
        | .ok value => plan value
        | .error reason => ⟨[], .error (.configuration reason)⟩)
      (fetch slot >>= next) := by
  rintro workspace rfl
  cases found : workspace.context.get slot with
  | error reason =>
      have missing : (fetch slot >>= next) workspace =
          (fail (.configuration reason) : TableM σ Unit) workspace := by
        simp [bind_apply, found]
      have planned : TableM.Carries words readOnly workspace.context
          ⟨[], .error (.configuration reason)⟩ (fail (.configuration reason)) := carries_fail _
      rw [missing]
      exact planned workspace rfl
  | ok value =>
      have present : (fetch slot >>= next) workspace = next value workspace := by
        simp [bind_apply, found]
      rw [present]
      exact carried value workspace rfl

/-- An entry that commands carries out its plan. -/
theorem carries_run (stores : port.transport.StoresWords words readOnly) {entry : Entry}
    (commands : entry.Commands) :
    TableM.Carries words readOnly context (entry.plan context) (entry.run port) := by
  obtain ⟨operation, unpolled⟩ := commands
  have immediate : entry.run port = entry.transfer port := by simp [run, wait, unpolled]
  have reported (value : UInt32) :
      TableM.Carries words readOnly context .nothing (entry.report value) := carries_emit _
  have written (value : UInt32) {rest : TableM σ Unit}
      (carried : TableM.Carries words readOnly context .nothing rest) :
      TableM.Carries words readOnly context (.one (entry.offset, value))
        (port.write entry.offset value >>= fun _ => rest) :=
    (Port.carries_write stores entry.offset value).bind carried
  rw [immediate]
  rcases operation with writes | writes | flushes
  · simp only [transfer, plan, writes, Operation.writes, if_true]
    exact carries_after_fetch entry.slot fun value => written value (reported value)
  · simp only [transfer, plan, writes, Operation.writes, if_true]
    exact carries_after_fetch entry.slot fun value =>
      written value (Port.carries_after_read stores _ fun _ => reported value)
  · simp only [transfer, plan, flushes, Operation.writes, Bool.false_eq_true, if_false]
    exact Port.carries_after_read stores _ reported

end Entry

/-- A table of such entries carries out the plans of its entries. -/
theorem Table.carries_run (stores : port.transport.StoresWords words readOnly) {table : Table}
    (commands : ∀ entry ∈ table, entry.Commands) :
    TableM.Carries words readOnly context (table.plan context) (table.run port) := by
  induction table with
  | nil => exact carries_pure
  | cons entry rest ih =>
      obtain ⟨first, others⟩ := List.forall_mem_cons.mp commands
      exact (Entry.carries_run stores first).bind (ih others)

end Tables

end DevicePower
