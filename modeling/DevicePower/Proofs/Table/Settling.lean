import DevicePower.Bench.Uart
import DevicePower.Proofs.Table.Accesses
import DevicePower.Proofs.Timer
import Mathlib.Algebra.BigOperators.Group.Finset.Basic
import Mathlib.Algebra.Order.BigOperators.Group.Finset
import Mathlib.Data.Nat.Find
import Mathlib.Order.Bounds.Defs

/-!
# How long a settle poll waits

A settle poll reads its register and the timer in turns. How many reads it makes depends on a
counter that wraps around, possibly while the poll waits. This module counts the ticks that
really pass, without wrapping, and shows that the poll ends exactly as if it could see that
number: it goes on as long as less than its time limit has passed, and the read that comes
before the reading that is late still counts.

The counter can only be trusted for one wrap. That is enough if the last step, from before the
limit to behind it, does not go all the way round.

A port gives a poll up after so many reads. A poll that makes fewer reads does not depend on that
number, and with such a counter no poll makes as many reads as there are words.
-/

namespace DevicePower

open TableM Traced

variable {σ : Type}

/-! ## The limit on reads -/

theorem TableM.reading_apply (timer : Timer σ) (workspace : Workspace σ) :
    reading timer workspace =
      let taken := timer.now workspace.hardware
      ⟨.ok taken.1, [.reading taken.1], { workspace with hardware := taken.2 }⟩ := rfl

namespace Port

variable {port : Port σ} {offset : UInt32} {poll : SettlePoll} {workspace : Workspace σ}

/-- A poll that ended before its reads were used up does the same with more of them. -/
theorem await_of_fewer_reads {timer : Timer σ} {budget start last : UInt32} {reads more limit : Nat}
    (fewer : ((port.await timer offset poll budget start reads last workspace).events.filterMap
      Activity.asked).length < reads) (enough : reads ≤ more) :
    { port with maxReads := limit }.await timer offset poll budget start more last workspace =
      port.await timer offset poll budget start reads last workspace := by
  induction reads generalizing more last workspace with
  | zero => exact absurd fewer (Nat.not_lt_zero _)
  | succ reads ih =>
      obtain ⟨more, rfl⟩ := Nat.exists_eq_add_of_le' (Nat.le_trans (Nat.le_add_left 1 reads) enough)
      have same : { port with maxReads := limit }.read offset workspace =
        port.read offset workspace := rfl
      rw [await] at fewer ⊢
      rw [await]
      cases answered : (port.read offset workspace).result with
      | error error => rw [bind_of_error (same ▸ answered), bind_of_error answered, same]
      | ok value =>
          rw [bind_of_ok answered, List.filterMap_append, port.read_asked] at fewer
          rw [bind_of_ok (same ▸ answered), bind_of_ok answered, same]
          split at fewer
          next accepted => simp only [if_pos accepted]
          next refused =>
            simp only [if_neg refused, bind_apply, reading_apply] at fewer ⊢
            split
            next late => rfl
            next early =>
              simp only [if_neg early] at fewer
              rw [ih ?_ (Nat.le_of_succ_le_succ enough)]
              simpa [List.filterMap_cons, Activity.asked] using fewer

/-- What a poll does that makes fewer reads than it may does not depend on how many these are. -/
theorem settle_of_fewer_reads {limit : Nat}
    (fewer : ((port.settle offset poll workspace).events.filterMap Activity.asked).length <
      port.maxReads) (enough : port.maxReads ≤ limit) :
    { port with maxReads := limit }.settle offset poll workspace =
      port.settle offset poll workspace := by
  rw [settle] at fewer ⊢
  rw [settle]
  cases timed : port.timer with
  | none => rfl
  | some timer =>
      simp only [timed, bind_apply, reading_apply] at fewer ⊢
      rw [List.singleton_append, List.filterMap_cons_none rfl] at fewer
      have same : { port with maxReads := limit }.await timer offset poll _ _ limit 0 _ = _ :=
        await_of_fewer_reads fewer enough
      simp only [timed] at same
      rw [same]

end Port

/-! ## Vigils -/

/-- The ticks that a poll waits: its time limit, rounded down, or the most that a counter can
show. -/
def SettlePoll.budget (poll : SettlePoll) (frequency : UInt32) : Nat :=
  min (poll.timeoutMicros.toNat * frequency.toNat / 1000000) (2 ^ 32 - 1)

/-- How a poll ends when its time is up. -/
def TimeoutPolicy.verdict (policy : TimeoutPolicy) (offset : UInt32) : Except Error Unit :=
  match policy with
  | .fail => .error (.timeout offset)
  | .proceed => .ok ()

/-- A settle poll that is about to start. -/
structure Vigil (σ : Type) where
  port : Port σ
  timer : Timer σ
  timed : port.timer = some timer
  offset : UInt32
  poll : SettlePoll
  /-- The hardware as the poll finds it. -/
  hardware : σ

namespace Vigil

variable (vigil : Vigil σ)

/-- The hardware as the given read finds it, if no read before it ends the poll. Before every
read there is a reading of the timer. -/
def found : Nat → σ
  | 0 => (vigil.timer.now vigil.hardware).2
  | number + 1 =>
      (vigil.timer.now (vigil.port.transport.read vigil.offset (found number)).state).2

/-- What the timer shows before the given read. -/
def shown : Nat → UInt32
  | 0 => (vigil.timer.now vigil.hardware).1
  | number + 1 =>
      (vigil.timer.now (vigil.port.transport.read vigil.offset (vigil.found number)).state).1

/-- What the given read is answered. -/
def answer (number : Nat) : Except BusError UInt32 :=
  (vigil.port.transport.read vigil.offset (vigil.found number)).result

/-- The given read ends the poll: it fails, or the bits that matter have the value that is
waited for. -/
def Decided (number : Nat) : Prop :=
  match vigil.answer number with
  | .ok value => value &&& vigil.poll.mask = vigil.poll.expected
  | .error _ => True

/-- How the poll ends if the given read ends it. -/
def verdict (number : Nat) : Except Error Unit :=
  match vigil.answer number with
  | .ok _ => .ok ()
  | .error _ => .error (.registerAccess vigil.offset)

/-- So many reads from the start. -/
def looks (count : Nat) : List Access :=
  (List.range count).map fun number => .read vigil.offset (vigil.answer number)

/-- The ticks that the poll waits. -/
def budget : Nat :=
  vigil.poll.budget vigil.timer.frequency

/-- The ticks that the poll waits, as it compares them with the counter. -/
def ticks : UInt32 :=
  microsToTicks vigil.timer.frequency vigil.poll.timeoutMicros

/-- The poll as it goes on from the given read. -/
def goOn (context : Context) (reads : Nat) (last : UInt32) (number : Nat) :
    Outcome Error Activity (Workspace σ) Unit :=
  vigil.port.await vigil.timer vigil.offset vigil.poll vigil.ticks (vigil.shown 0) reads last
    ⟨vigil.found number, context⟩

theorem toNat_ticks : vigil.ticks.toNat = vigil.budget :=
  toNat_microsToTicks vigil.timer.frequency vigil.poll.timeoutMicros

theorem length_looks (count : Nat) : (vigil.looks count).length = count := by
  simp [looks]

theorem looks_succ (count : Nat) :
    vigil.looks (count + 1) =
      vigil.looks count ++ [.read vigil.offset (vigil.answer count)] := by
  simp [looks, List.range_succ]

/-! ## Turns of the loop -/

section Turns

variable {vigil} (context : Context) (reads : Nat) (last : UInt32) {number : Nat}

theorem look_result (number : Nat) :
    (vigil.port.read vigil.offset ⟨vigil.found number, context⟩).result =
      (vigil.answer number).mapError fun _ => .registerAccess vigil.offset :=
  Port.read_result _ _ _

theorem look_asked (number : Nat) :
    (vigil.port.read vigil.offset ⟨vigil.found number, context⟩).events.filterMap
        Activity.asked = [.read vigil.offset (vigil.answer number)] :=
  Port.read_asked _ _ _

/-- The read that ends the poll is the last access. -/
theorem goOn_of_decided (decided : vigil.Decided number) :
    (vigil.goOn context (reads + 1) last number).events.filterMap Activity.asked =
        [.read vigil.offset (vigil.answer number)] ∧
      (vigil.goOn context (reads + 1) last number).result = vigil.verdict number := by
  have result := vigil.look_result context number
  rw [goOn, Port.await]
  rw [Decided] at decided
  rw [← vigil.look_asked context number, verdict]
  cases answered : vigil.answer number with
  | error cause =>
      rw [answered, mapError_error] at result
      rw [bind_of_error result]
      exact ⟨rfl, rfl⟩
  | ok value =>
      rw [answered] at decided
      rw [answered, mapError_ok] at result
      have accepted : vigil.poll.accepts value = true := by simpa [SettlePoll.accepts] using decided
      rw [bind_of_ok result, if_pos accepted, pure_apply, List.append_nil]
      exact ⟨rfl, rfl⟩

/-- A read that does not end the poll has an answer, and is followed by a reading. -/
theorem goOn_of_undecided (undecided : ¬vigil.Decided number) :
    ∃ value before,
      before.filterMap Activity.asked = [.read vigil.offset (vigil.answer number)] ∧
      vigil.goOn context (reads + 1) last number =
        let after :=
          if vigil.ticks ≤ elapsed (vigil.shown 0) (vigil.shown (number + 1)) then
            vigil.port.expire vigil.offset vigil.poll value ⟨vigil.found (number + 1), context⟩
          else
            vigil.goOn context reads value (number + 1)
        ⟨after.result, before ++ after.events, after.state⟩ := by
  have result := vigil.look_result context number
  have asked := vigil.look_asked context number
  rw [Decided] at undecided
  cases answered : vigil.answer number with
  | error cause =>
      rw [answered] at undecided
      exact absurd trivial undecided
  | ok value =>
      rw [answered] at undecided
      rw [answered, mapError_ok] at result
      have refused : ¬vigil.poll.accepts value = true := by
        simpa [SettlePoll.accepts] using undecided
      refine ⟨value, (vigil.port.read vigil.offset ⟨vigil.found number, context⟩).events ++
        [.reading (vigil.shown (number + 1))], ?_, ?_⟩
      · rw [List.filterMap_append, asked, answered]
        rfl
      · have taken : reading vigil.timer
            (vigil.port.read vigil.offset ⟨vigil.found number, context⟩).state =
              ⟨.ok (vigil.shown (number + 1)), [.reading (vigil.shown (number + 1))],
                ⟨vigil.found (number + 1), context⟩⟩ := by
          rw [Port.read_state]
          rfl
        rw [goOn, Port.await, bind_of_ok result]
        simp only [if_neg refused, bind_apply, taken, List.append_assoc]
        split
        next late => rfl
        next early => rfl

theorem goOn_of_late (undecided : ¬vigil.Decided number)
    (late : vigil.ticks ≤ elapsed (vigil.shown 0) (vigil.shown (number + 1))) :
    (vigil.goOn context (reads + 1) last number).events.filterMap Activity.asked =
        [.read vigil.offset (vigil.answer number)] ∧
      (vigil.goOn context (reads + 1) last number).result =
        vigil.port.policy.verdict vigil.offset := by
  obtain ⟨value, before, asked, turn⟩ := goOn_of_undecided context reads last undecided
  rw [turn, if_pos late, List.filterMap_append, asked]
  cases policy : vigil.port.policy with
  | fail => simp [Port.expire, policy, bind_apply, TimeoutPolicy.verdict, Activity.asked]
  | proceed => simp [Port.expire, policy, bind_apply, TimeoutPolicy.verdict, Activity.asked]

/-- As long as no read ends the poll and no reading is late, there is turn after turn. -/
theorem goOn_turns (count rest : Nat)
    (ongoing : ∀ number < count, ¬vigil.Decided number ∧
      ¬vigil.ticks ≤ elapsed (vigil.shown 0) (vigil.shown (number + 1))) :
    ∃ value,
      (vigil.goOn context (count + rest) last 0).events.filterMap Activity.asked =
        vigil.looks count ++
          (vigil.goOn context rest value count).events.filterMap Activity.asked ∧
      (vigil.goOn context (count + rest) last 0).result =
        (vigil.goOn context rest value count).result := by
  induction count generalizing rest with
  | zero => exact ⟨last, by simp [looks], by rw [Nat.zero_add]⟩
  | succ count ih =>
      obtain ⟨value, asked, result⟩ :=
        ih (rest + 1) fun number below => ongoing number (Nat.lt_succ_of_lt below)
      obtain ⟨undecided, early⟩ := ongoing count count.lt_succ_self
      obtain ⟨next, before, askedNext, turn⟩ := goOn_of_undecided context rest value undecided
      rw [if_neg early] at turn
      refine ⟨next, ?_, ?_⟩
      · rw [Nat.succ_add_eq_add_succ, asked, turn, looks_succ, List.filterMap_append, askedNext,
          List.append_assoc]
      · rw [Nat.succ_add_eq_add_succ, result, turn]

end Turns

/-- Taking the first reading asks for nothing. -/
theorem settle_apply (context : Context) :
    let run := vigil.port.settle vigil.offset vigil.poll ⟨vigil.hardware, context⟩
    run.events.filterMap Activity.asked =
        (vigil.goOn context vigil.port.maxReads 0 0).events.filterMap Activity.asked ∧
      run.result = (vigil.goOn context vigil.port.maxReads 0 0).result := by
  have begins (reads : Nat) :
      (reading vigil.timer >>= fun start => vigil.port.await vigil.timer vigil.offset vigil.poll
          vigil.ticks start reads 0) ⟨vigil.hardware, context⟩ =
        ⟨(vigil.goOn context reads 0 0).result,
          .reading (vigil.shown 0) :: (vigil.goOn context reads 0 0).events,
          (vigil.goOn context reads 0 0).state⟩ := rfl
  have begun := begins vigil.port.maxReads
  simp only [Port.settle, vigil.timed]
  rw [ticks] at begun
  rw [begun]
  exact ⟨rfl, rfl⟩

/-! ## The passing of time -/

/-- Between one reading that the poll takes and the next, the counter moves on by the given
number of ticks: at least one, and never so many that it could pass the limit and come round
to where it was. -/
structure Paced (advances : Nat → Nat) (most : Nat) : Prop where
  moves : ∀ number, 1 ≤ advances number
  bounded : ∀ number, advances number ≤ most
  fits : vigil.budget + most ≤ 2 ^ 32
  shown : ∀ number, (∀ earlier ≤ number, ¬vigil.Decided earlier) →
    vigil.shown (number + 1) = vigil.shown number + UInt32.ofNat (advances number)

/-- So many reads take the poll to its time limit. -/
def Exhausts (advances : Nat → Nat) (count : Nat) : Prop :=
  1 ≤ count ∧ vigil.budget ≤ ∑ number ∈ Finset.range count, advances number

namespace Paced

variable {vigil} {advances : Nat → Nat} {most count limit : Nat}

theorem elapsed_shown (paced : vigil.Paced advances most)
    (undecided : ∀ number < count, ¬vigil.Decided number) :
    elapsed (vigil.shown 0) (vigil.shown count) =
      UInt32.ofNat (∑ number ∈ Finset.range count, advances number) := by
  induction count with
  | zero => simp [elapsed]
  | succ count ih =>
      have shown := paced.shown count fun earlier atMost =>
        undecided earlier (Nat.lt_succ_of_le atMost)
      have before := ih fun number below => undecided number (Nat.lt_succ_of_lt below)
      rw [elapsed] at before
      rw [elapsed, shown, Finset.sum_range_succ, UInt32.ofNat_add, ← before]
      grind

/-- At least one tick passes with every read. -/
theorem le_sum (paced : vigil.Paced advances most) (count : Nat) :
    count ≤ ∑ number ∈ Finset.range count, advances number := by
  induction count with
  | zero => exact Nat.zero_le _
  | succ count ih =>
      rw [Finset.sum_range_succ]
      exact Nat.add_le_add ih (paced.moves count)

/-- The poll comes to its limit, and makes fewer reads until then than there are words. -/
theorem exists_limit (paced : vigil.Paced advances most) :
    ∃ limit, IsLeast {count | vigil.Exhausts advances count} limit ∧ limit < 2 ^ 32 := by
  classical
  have exhausts : vigil.Exhausts advances (max 1 vigil.budget) :=
    ⟨le_max_left _ _, (le_max_right _ _).trans (paced.le_sum _)⟩
  have reached : ∃ count, vigil.Exhausts advances count := ⟨_, exhausts⟩
  refine ⟨Nat.find reached, ⟨Nat.find_spec reached, ?_⟩, ?_⟩
  · intro count other
    exact Nat.find_min' reached other
  · apply (Nat.find_min' reached exhausts).trans_lt
    have most : vigil.budget ≤ 2 ^ 32 - 1 := min_le_right _ _
    omega

/-- Before the limit is reached, less than the time limit has passed. -/
theorem sum_lt_budget (least : IsLeast {count | vigil.Exhausts advances count} limit)
    (positive : 1 ≤ count) (below : count < limit) :
    ∑ number ∈ Finset.range count, advances number < vigil.budget := by
  by_contra passed
  exact absurd (least.2 ⟨positive, Nat.le_of_not_lt passed⟩) (Nat.not_le_of_lt below)

/-- A reading before the limit is not late. -/
theorem early (paced : vigil.Paced advances most)
    (least : IsLeast {count | vigil.Exhausts advances count} limit)
    (positive : 1 ≤ count) (below : count < limit)
    (undecided : ∀ number < count, ¬vigil.Decided number) :
    ¬vigil.ticks ≤ elapsed (vigil.shown 0) (vigil.shown count) := by
  have within := sum_lt_budget least positive below
  have most : vigil.budget ≤ 2 ^ 32 - 1 := min_le_right _ _
  rw [paced.elapsed_shown undecided, UInt32.le_iff_toNat_le, toNat_ticks, UInt32.toNat_ofNat',
    Nat.mod_eq_of_lt (by omega)]
  exact Nat.not_le_of_lt within

/-- The reading at the limit is late: the step that leads there is too short to go all the way
round. -/
theorem late (paced : vigil.Paced advances most)
    (least : IsLeast {count | vigil.Exhausts advances count} limit)
    (undecided : ∀ number < limit, ¬vigil.Decided number) :
    vigil.ticks ≤ elapsed (vigil.shown 0) (vigil.shown limit) := by
  obtain ⟨positive, passed⟩ := least.1
  rw [paced.elapsed_shown undecided, UInt32.le_iff_toNat_le, toNat_ticks, UInt32.toNat_ofNat']
  rcases Nat.eq_zero_or_pos vigil.budget with nothing | something
  · rw [nothing]
    exact Nat.zero_le _
  · -- The reading before was not late, so that the sum is within one step of the limit.
    obtain ⟨count, rfl⟩ := Nat.exists_eq_add_of_le' positive
    have before : ∑ number ∈ Finset.range count, advances number < vigil.budget := by
      rcases Nat.eq_zero_or_pos count with rfl | later
      · simpa using something
      · exact sum_lt_budget least later count.lt_succ_self
    have step := paced.bounded count
    have fits := paced.fits
    have unwrapped : ∑ number ∈ Finset.range (count + 1), advances number < 2 ^ 32 := by
      rw [Finset.sum_range_succ]
      omega
    rwa [Nat.mod_eq_of_lt unwrapped]

end Paced

/-! ## The whole poll -/

/-- The first read before the limit that ends the poll is its last, and decides how it ends. -/
theorem settle_of_decided {advances : Nat → Nat} {most limit number : Nat} (context : Context)
    (paced : vigil.Paced advances most)
    (least : IsLeast {count | vigil.Exhausts advances count} limit)
    (patient : limit ≤ vigil.port.maxReads) (below : number < limit)
    (decided : vigil.Decided number) (first : ∀ earlier < number, ¬vigil.Decided earlier) :
    let run := vigil.port.settle vigil.offset vigil.poll ⟨vigil.hardware, context⟩
    run.events.filterMap Activity.asked = vigil.looks (number + 1) ∧
      run.result = vigil.verdict number := by
  intro run
  obtain ⟨rest, enough⟩ := Nat.exists_eq_add_of_lt (below.trans_le patient)
  obtain ⟨asked, result⟩ := vigil.settle_apply context
  obtain ⟨value, askedBefore, resultBefore⟩ := goOn_turns context 0 number (rest + 1) (by
    intro earlier before
    refine ⟨first earlier before, ?_⟩
    exact paced.early least (by omega) (by omega) fun other atMost => first other (by omega))
  obtain ⟨askedLast, resultLast⟩ := goOn_of_decided context rest value decided
  rw [enough, Nat.add_assoc] at asked result
  constructor
  · rw [asked, askedBefore, askedLast, looks_succ]
  · rw [result, resultBefore, resultLast]

/-- If no read up to the limit ends the poll, it runs out of time there. -/
theorem settle_of_undecided {advances : Nat → Nat} {most limit : Nat} (context : Context)
    (paced : vigil.Paced advances most)
    (least : IsLeast {count | vigil.Exhausts advances count} limit)
    (patient : limit ≤ vigil.port.maxReads) (undecided : ∀ number < limit, ¬vigil.Decided number) :
    let run := vigil.port.settle vigil.offset vigil.poll ⟨vigil.hardware, context⟩
    run.events.filterMap Activity.asked = vigil.looks limit ∧
      run.result = vigil.port.policy.verdict vigil.offset := by
  intro run
  obtain ⟨last, rfl⟩ := Nat.exists_eq_add_of_le' least.1.1
  obtain ⟨rest, enough⟩ := Nat.exists_eq_add_of_lt patient
  obtain ⟨asked, result⟩ := vigil.settle_apply context
  obtain ⟨value, askedBefore, resultBefore⟩ := goOn_turns context 0 last (rest + 1) (by
    intro earlier before
    refine ⟨undecided earlier (by omega), ?_⟩
    exact paced.early least (by omega) (by omega) fun other atMost => undecided other (by omega))
  obtain ⟨askedLast, resultLast⟩ := goOn_of_late context rest value
    (undecided last last.lt_succ_self) (paced.late least undecided)
  rw [enough, Nat.add_assoc] at asked result
  constructor
  · rw [asked, askedBefore, askedLast, looks_succ]
  · rw [result, resultBefore, resultLast]

/-- A settle poll makes no more reads than its time limit allows for: the number of reads after
which the ticks that passed reach the limit for the first time, which is less than the number of
words. The first of these reads that fails or finds what is waited for ends the poll, the last of
them included. If there is none, all of these reads are made and the time is up. Where the counter
starts, and whether it wraps around meanwhile, makes no difference. -/
theorem settle_exact (context : Context) {advances : Nat → Nat} {most : Nat}
    (paced : vigil.Paced advances most) :
    let run := vigil.port.settle vigil.offset vigil.poll ⟨vigil.hardware, context⟩
    let reads := run.events.filterMap Activity.asked
    ∃ limit, IsLeast {count | vigil.Exhausts advances count} limit ∧ limit < 2 ^ 32 ∧
      (limit ≤ vigil.port.maxReads →
        reads.length ≤ limit ∧
        (∀ number < limit, vigil.Decided number → (∀ earlier < number, ¬vigil.Decided earlier) →
          reads = vigil.looks (number + 1) ∧ run.result = vigil.verdict number) ∧
        ((∀ number < limit, ¬vigil.Decided number) →
          reads = vigil.looks limit ∧ run.result = vigil.port.policy.verdict vigil.offset)) := by
  intro run reads
  obtain ⟨limit, least, bounded⟩ := paced.exists_limit
  refine ⟨limit, least, bounded, fun patient => ?_⟩
  have decides {number : Nat} (below : number < limit) (decided : vigil.Decided number)
      (first : ∀ earlier < number, ¬vigil.Decided earlier) :=
    vigil.settle_of_decided context paced least patient below decided first
  have expires (undecided : ∀ number < limit, ¬vigil.Decided number) :=
    vigil.settle_of_undecided context paced least patient undecided
  refine ⟨?_, fun number => decides, expires⟩
  by_cases some_decided : ∃ number, number < limit ∧ vigil.Decided number
  · classical
    obtain ⟨below, decided⟩ := Nat.find_spec some_decided
    have first : ∀ earlier < Nat.find some_decided, ¬vigil.Decided earlier :=
      fun earlier before ended => Nat.find_min some_decided before ⟨before.trans below, ended⟩
    have made : reads = vigil.looks (Nat.find some_decided + 1) := (decides below decided first).1
    rw [made, length_looks]
    exact below
  · have made : reads = vigil.looks limit :=
      (expires fun number below decided => some_decided ⟨number, below, decided⟩).1
    rw [made, length_looks]

end Vigil

/-- The serial port waits five ticks for an interrupt to show, on a board whose counter is about
to wrap around. -/
def Bench.Uart.waiting : Vigil Bench.Board where
  port := Bench.Uart.device.port
  timer := Bench.Board.timer 1000
  timed := rfl
  offset := 12
  poll := ⟨1, 1, 5000⟩
  hardware := { Bench.Uart.board with time := 0xfffffffd }

/-- Nothing but the time changes while the serial port waits. -/
theorem Bench.Uart.waiting_found (number : Nat) :
    Bench.Uart.waiting.found number =
      { Bench.Uart.board with time := 0xfffffffd + UInt32.ofNat number + 1 } := by
  induction number with
  | zero => rfl
  | succ number ih =>
      rw [Vigil.found, ih, UInt32.ofNat_add, ← UInt32.add_assoc]
      rfl

theorem Bench.Uart.waiting_shown (number : Nat) :
    Bench.Uart.waiting.shown number = 0xfffffffd + UInt32.ofNat number := by
  cases number with
  | zero => rfl
  | succ number =>
      rw [Vigil.shown, waiting_found, UInt32.ofNat_add, ← UInt32.add_assoc]
      rfl

theorem Bench.Uart.waiting_undecided (number : Nat) : ¬Bench.Uart.waiting.Decided number := by
  have answered : waiting.answer number = .ok 0 := by
    rw [Vigil.answer, waiting_found]
    rfl
  rw [Vigil.Decided, answered]
  decide

/-- The serial port gives up after five reads, as the interrupt does not show. -/
theorem uart_gives_up :
    let run := Bench.Uart.waiting.port.settle Bench.Uart.waiting.offset Bench.Uart.waiting.poll
      ⟨Bench.Uart.waiting.hardware, .new []⟩
    Bench.Uart.waiting.Paced (fun _ => 1) 1 ∧
      (run.events.filterMap Activity.asked).length = 5 ∧ run.result = .error (.timeout 12) := by
  intro run
  have paced : Bench.Uart.waiting.Paced (fun _ => 1) 1 := {
    moves := fun _ => le_rfl
    bounded := fun _ => le_rfl
    fits := by decide
    shown := fun number _ => by
      rw [Bench.Uart.waiting_shown, Bench.Uart.waiting_shown, UInt32.ofNat_add, UInt32.add_assoc] }
  obtain ⟨limit, ⟨⟨-, passed⟩, least⟩, bounded, patient⟩ :=
    Bench.Uart.waiting.settle_exact (.new []) paced
  obtain ⟨-, -, expires⟩ := patient (Nat.le_of_lt bounded)
  obtain ⟨reads, result⟩ := expires fun number _ => Bench.Uart.waiting_undecided number
  have budget : Bench.Uart.waiting.budget = 5 := by decide
  have limit_le : limit ≤ 5 := least ⟨by decide, by decide⟩
  have le_limit : 5 ≤ limit := by simpa [budget] using passed
  refine ⟨paced, ?_, result⟩
  rw [reads, Vigil.length_looks]
  exact le_antisymm limit_le le_limit

end DevicePower
