import DevicePower.Bench.Uart
import DevicePower.Fleet
import DevicePower.Proofs.Device.PowerStates

/-!
# Sleep of a whole fleet

A fleet is put to sleep member by member, up to the first that fails, and it is woken up member by
member, whichever of them fail. Members share nothing, so the fleet that is left is described by
what each member does by itself: `Fleet.alone` is one member run by itself, and `Fleet.driven` the
fleet after several were. This module says which members are driven, in which order, and with
which result, and that a fleet that woke up without a failure is awake.
-/

namespace DevicePower

namespace Fleet

variable {size : Nat} {σ α : Type} {fleet : Fleet size σ}

/-! ## Members by themselves -/

/-- The member with this number. -/
def member (fleet : Fleet size σ) (number : Fin size) : Member σ :=
  fleet.members.get number

theorem member_setMember_self {number : Fin size} (member : Member σ) :
    (fleet.setMember number member).member number = member :=
  Vector.getElem_set_self number.isLt

theorem member_setMember_ne {number other : Fin size} (different : number ≠ other)
    (member : Member σ) : (fleet.setMember number member).member other = fleet.member other :=
  Vector.getElem_set_ne number.isLt other.isLt fun same => different (Fin.ext same)

/-- How a computation ends on one member by itself. -/
def alone (fleet : Fleet size σ) (computation : Device σ → DeviceM σ α) (number : Fin size) :
    Outcome Error Event (Machine σ) α :=
  computation (fleet.member number).device (fleet.member number).machine

/-- The computation succeeds on every one of some members, each by itself. -/
def AllSucceed (fleet : Fleet size σ) (computation : Device σ → DeviceM σ Unit)
    (numbers : List (Fin size)) : Prop :=
  ∀ number ∈ numbers, (fleet.alone computation number).result = .ok ()

/-- What one member reports by itself, under its number. -/
def told (fleet : Fleet size σ) (computation : Device σ → DeviceM σ α) (number : Fin size) :
    List FleetEvent :=
  (fleet.alone computation number).events.map (FleetEvent.member number)

/-- The member with this number after a computation was run on it by itself. -/
def memberAfter (fleet : Fleet size σ) (computation : Device σ → DeviceM σ α)
    (number : Fin size) : Member σ :=
  { fleet.member number with machine := (fleet.alone computation number).state }

/-- The fleet after a computation was run on some of its members, on each by itself. -/
def driven (fleet : Fleet size σ) (computation : Device σ → DeviceM σ α)
    (numbers : List (Fin size)) : Fleet size σ :=
  { fleet with
    members := Vector.ofFn fun number =>
      if number ∈ numbers then fleet.memberAfter computation number else fleet.member number }

section Driven

variable {computation : Device σ → DeviceM σ α} {numbers : List (Fin size)} {number : Fin size}

@[simp] theorem registered_driven : (fleet.driven computation numbers).registered =
    fleet.registered := rfl

theorem member_driven_of_mem (reached : number ∈ numbers) :
    (fleet.driven computation numbers).member number = fleet.memberAfter computation number :=
  (Vector.getElem_ofFn number.isLt).trans (if_pos reached)

/-- Members that were not driven are as they were. -/
theorem member_driven_of_not_mem (absent : number ∉ numbers) :
    (fleet.driven computation numbers).member number = fleet.member number :=
  (Vector.getElem_ofFn number.isLt).trans (if_neg absent)

/-- Driving members does not change what devices they are. -/
theorem device_driven : ((fleet.driven computation numbers).member number).device =
    (fleet.member number).device := by
  by_cases reached : number ∈ numbers
  · rw [member_driven_of_mem reached, memberAfter]
  · rw [member_driven_of_not_mem reached]

/-- Other members do not notice. -/
theorem alone_driven {other : Device σ → DeviceM σ α} (absent : number ∉ numbers) :
    (fleet.driven computation numbers).alone other number = fleet.alone other number := by
  rw [alone, member_driven_of_not_mem absent]
  rfl

/-- A fleet with the registry and the members of a driven fleet is the driven fleet. -/
theorem eq_driven {next : Fleet size σ} (registry : next.registry = fleet.registry)
    (reached : ∀ number ∈ numbers, next.member number = fleet.memberAfter computation number)
    (others : ∀ number ∉ numbers, next.member number = fleet.member number) :
    next = fleet.driven computation numbers := by
  have same : next.members = (fleet.driven computation numbers).members := by
    apply Vector.ext
    intro index bound
    by_cases member : ⟨index, bound⟩ ∈ numbers
    · exact (reached _ member).trans (member_driven_of_mem member).symm
    · exact (others _ member).trans (member_driven_of_not_mem member).symm
  cases next with
  | mk nextMembers nextRegistry =>
      cases same
      cases registry
      rfl

/-- To drive a member is to run the computation on it by itself. -/
theorem on_apply : on number computation fleet =
    ⟨(fleet.alone computation number).result, fleet.told computation number,
      fleet.setMember number (fleet.memberAfter computation number)⟩ := rfl

/-- Nothing was done to a fleet of which no member was driven. -/
theorem driven_nil : fleet.driven computation [] = fleet :=
  (eq_driven rfl (by simp) fun _ _ => rfl).symm

/-- To drive one more member makes no difference to those that were driven. -/
theorem on_driven (absent : number ∉ numbers) :
    on number computation (fleet.driven computation numbers) =
      ⟨(fleet.alone computation number).result, fleet.told computation number,
        fleet.driven computation (numbers ++ [number])⟩ := by
  have untouched : (fleet.driven computation numbers).memberAfter computation number =
      fleet.memberAfter computation number := by
    rw [memberAfter, memberAfter, alone_driven absent, member_driven_of_not_mem absent]
  have state : (fleet.driven computation numbers).setMember number
      (fleet.memberAfter computation number) =
        fleet.driven computation (numbers ++ [number]) := by
    apply eq_driven
    · rfl
    · intro other reached
      by_cases same : other = number
      · rw [same, member_setMember_self]
      · rw [member_setMember_ne (Ne.symm same)]
        exact member_driven_of_mem (by simpa [same] using reached)
    · intro other absent
      rw [List.mem_append, List.mem_singleton, not_or] at absent
      rw [member_setMember_ne (Ne.symm absent.2), member_driven_of_not_mem absent.1]
  rw [on_apply, alone_driven absent, untouched, state, told, alone_driven absent]
  rfl

end Driven

/-! ## The first failure -/

section FirstFailure

variable {computation : Device σ → DeviceM σ Unit}

/-- The error of the first of some members that fails by itself. -/
def firstError (fleet : Fleet size σ) (computation : Device σ → DeviceM σ Unit) :
    List (Fin size) → Except Error Unit
  | [] => .ok ()
  | number :: rest =>
      match (fleet.alone computation number).result with
      | .ok () => fleet.firstError computation rest
      | .error error => .error error

/-- Some members up to the first that fails by itself, and with it. -/
def reached (fleet : Fleet size σ) (computation : Device σ → DeviceM σ Unit) :
    List (Fin size) → List (Fin size)
  | [] => []
  | number :: rest =>
      match (fleet.alone computation number).result with
      | .ok () => number :: fleet.reached computation rest
      | .error _ => [number]

variable {numbers passed rest : List (Fin size)} {failing : Fin size} {error : Error}

/-- There is no error exactly if every member succeeds. -/
theorem firstError_eq_ok_iff :
    fleet.firstError computation numbers = .ok () ↔ fleet.AllSucceed computation numbers := by
  induction numbers with
  | nil => simp [firstError, AllSucceed]
  | cons number rest ih =>
      rw [AllSucceed, List.forall_mem_cons, firstError]
      cases ended : (fleet.alone computation number).result with
      | error error => simp
      | ok value => exact ih.trans (by simp [AllSucceed])

/-- If some members succeed and the next one fails, its error is the first. -/
theorem firstError_of_split (succeed : fleet.AllSucceed computation passed)
    (failed : (fleet.alone computation failing).result = .error error) :
    fleet.firstError computation (passed ++ failing :: rest) = .error error := by
  induction passed with
  | nil => rw [List.nil_append, firstError, failed]
  | cons number passed ih =>
      obtain ⟨first, others⟩ := List.forall_mem_cons.mp succeed
      rw [List.cons_append, firstError, first]
      exact ih others

/-- If every member succeeds, all are reached. -/
theorem reached_of_allSucceed (succeed : fleet.AllSucceed computation numbers) :
    fleet.reached computation numbers = numbers := by
  induction numbers with
  | nil => rfl
  | cons number rest ih =>
      obtain ⟨first, others⟩ := List.forall_mem_cons.mp succeed
      rw [reached, first]
      exact congrArg (number :: ·) (ih others)

/-- If some members succeed and the next one fails, none behind it is reached. -/
theorem reached_of_split (succeed : fleet.AllSucceed computation passed)
    (failed : (fleet.alone computation failing).result = .error error) :
    fleet.reached computation (passed ++ failing :: rest) = passed ++ [failing] := by
  induction passed with
  | nil => rw [List.nil_append, reached, failed, List.nil_append]
  | cons number passed ih =>
      obtain ⟨first, others⟩ := List.forall_mem_cons.mp succeed
      rw [List.cons_append, reached, first]
      exact congrArg (number :: ·) (ih others)

end FirstFailure

/-! ## One member after the other -/

section Sweeps

variable {before numbers : List (Fin size)}

/-- What one member reports while the fleet wakes up: what it reports by itself, and that it
failed, if it did. -/
def toldWaking (fleet : Fleet size σ) (number : Fin size) : List FleetEvent :=
  fleet.told Device.resume number ++
    match (fleet.alone Device.resume number).result with
    | .ok () => []
    | .error error =>
        [.note (.device (fleet.member number).device.name (.wakeUpFailed error))]

/-- Members are put to sleep in a fleet some of whose members were put to sleep before. -/
theorem suspendEach_driven (once : (before ++ numbers).Nodup) :
    suspendEach numbers (fleet.driven Device.suspend before) =
      ⟨fleet.firstError Device.suspend numbers,
        (fleet.reached Device.suspend numbers).flatMap (fleet.told Device.suspend),
        fleet.driven Device.suspend (before ++ fleet.reached Device.suspend numbers)⟩ := by
  induction numbers generalizing before with
  | nil => simp [suspendEach, firstError, reached]
  | cons number rest ih =>
      have absent : number ∉ before := fun member =>
        (List.nodup_append.mp once).2.2 number member number List.mem_cons_self rfl
      have asleep : on number Device.suspend (fleet.driven Device.suspend before) = _ :=
        on_driven absent
      rw [suspendEach, firstError, reached]
      cases ended : (fleet.alone Device.suspend number).result with
      | error error =>
          rw [Traced.bind_of_error (by rw [asleep, ended]), asleep]
          simp
      | ok value =>
          rw [Traced.bind_of_ok (by rw [asleep, ended]), asleep]
          rw [ih (by simpa using once)]
          simp

/-- After a member woke up, the others are woken up. -/
theorem resumeEach_cons_of_ok {number : Fin size} {rest : List (Fin size)}
    (succeeded : (on number Device.resume fleet).result = .ok ()) :
    resumeEach (number :: rest) fleet =
      ⟨(resumeEach rest (on number Device.resume fleet).state).result,
        (on number Device.resume fleet).events ++
          (resumeEach rest (on number Device.resume fleet).state).events,
        (resumeEach rest (on number Device.resume fleet).state).state⟩ := by
  rw [resumeEach, Traced.attempt_bind_apply, succeeded]

/-- After a member failed to wake up, this is told, and the others are woken up all the same. -/
theorem resumeEach_cons_of_error {number : Fin size} {rest : List (Fin size)} {error : Error}
    (failed : (on number Device.resume fleet).result = .error error) :
    resumeEach (number :: rest) fleet =
      ⟨.error error,
        (on number Device.resume fleet).events ++
          .note (.device ((on number Device.resume fleet).state.member number).device.name
            (.wakeUpFailed error)) ::
          (resumeEach rest (on number Device.resume fleet).state).events,
        (resumeEach rest (on number Device.resume fleet).state).state⟩ := by
  rw [resumeEach, Traced.attempt_bind_apply, failed]
  simp only [Traced.bind_apply, Traced.query_apply, Traced.emit_apply, Traced.attempt_apply,
    Traced.fail_apply, List.nil_append, List.append_nil, List.singleton_append]
  rfl

/-- Members are woken up in a fleet some of whose members were woken up before. -/
theorem resumeEach_driven (once : (before ++ numbers).Nodup) :
    resumeEach numbers (fleet.driven Device.resume before) =
      ⟨fleet.firstError Device.resume numbers, numbers.flatMap fleet.toldWaking,
        fleet.driven Device.resume (before ++ numbers)⟩ := by
  induction numbers generalizing before with
  | nil => simp [resumeEach, firstError]
  | cons number rest ih =>
      have absent : number ∉ before := fun member =>
        (List.nodup_append.mp once).2.2 number member number List.mem_cons_self rfl
      have awake : on number Device.resume (fleet.driven Device.resume before) = _ :=
        on_driven absent
      have later : resumeEach rest (fleet.driven Device.resume (before ++ [number])) = _ :=
        ih (by simpa using once)
      rw [firstError, List.flatMap_cons, toldWaking]
      cases ended : (fleet.alone Device.resume number).result with
      | error error =>
          rw [resumeEach_cons_of_error (by rw [awake, ended]), awake]
          simp only
          rw [later, device_driven]
          simp
      | ok value =>
          rw [resumeEach_cons_of_ok (by rw [awake, ended]), awake]
          simp [later]

end Sweeps

/-! ## The whole fleet -/

/-- The members that are driven are the same in any order. -/
theorem driven_reverse {computation : Device σ → DeviceM σ α} {numbers : List (Fin size)} :
    fleet.driven computation numbers.reverse = fleet.driven computation numbers := by
  simp [driven]

/-- The fleet is put to sleep in the order of its slots, up to the first failure. -/
theorem suspendAll_eq (once : fleet.registered.Nodup) :
    suspendAll fleet =
      ⟨fleet.firstError Device.suspend fleet.registered,
        (fleet.reached Device.suspend fleet.registered).flatMap (fleet.told Device.suspend),
        fleet.driven Device.suspend (fleet.reached Device.suspend fleet.registered)⟩ := by
  have swept : suspendEach fleet.registered (fleet.driven Device.suspend []) = _ :=
    suspendEach_driven once
  rw [driven_nil] at swept
  exact swept

/-- The fleet is woken up in the reverse order of its slots, whatever fails. -/
theorem resumeAll_eq (once : fleet.registered.Nodup) :
    resumeAll fleet =
      ⟨fleet.firstError Device.resume fleet.registered.reverse,
        fleet.registered.reverse.flatMap fleet.toldWaking,
        fleet.driven Device.resume fleet.registered⟩ := by
  have swept : resumeEach fleet.registered.reverse (fleet.driven Device.resume []) = _ :=
    resumeEach_driven (List.pairwise_reverse.mpr (once.imp Ne.symm))
  rw [driven_nil, List.nil_append, driven_reverse] at swept
  exact swept

/-- A member that was resumed by itself without a failure is active. -/
theorem alone_resume_power {number : Fin size}
    (succeeded : (fleet.alone Device.resume number).result = .ok ()) :
    (fleet.alone Device.resume number).state.power = .active := by
  have ends := (fleet.member number).device.ends_resume_power (fleet.member number).machine.power
    [] (fleet.member number).machine rfl
  rw [alone] at succeeded
  rw [succeeded] at ends
  exact ends

/-- How a fleet whose members were put to sleep in an order is left, where `outcome` is what came
of it. -/
structure PutToSleep (fleet : Fleet size σ) (numbers : List (Fin size))
    (outcome : Outcome Error FleetEvent (Fleet size σ) Unit) : Prop where
  ok_iff : outcome.result = .ok () ↔ fleet.AllSucceed Device.suspend numbers
  /-- If no member fails, each was put to sleep as it would have been by itself. -/
  whole : fleet.AllSucceed Device.suspend numbers →
    outcome = ⟨.ok (), numbers.flatMap (fleet.told Device.suspend),
      fleet.driven Device.suspend numbers⟩
  /-- The error of the first member that fails is returned, and those behind it are as before. -/
  part : ∀ before failing after error, numbers = before ++ failing :: after →
    fleet.AllSucceed Device.suspend before →
    (fleet.alone Device.suspend failing).result = .error error →
      outcome = ⟨.error error, (before ++ [failing]).flatMap (fleet.told Device.suspend),
        fleet.driven Device.suspend (before ++ [failing])⟩

/-- How a fleet whose members were woken up in an order is left, where `outcome` is what came
of it. -/
structure WokenUp (fleet : Fleet size σ) (numbers : List (Fin size))
    (outcome : Outcome Error FleetEvent (Fleet size σ) Unit) : Prop where
  /-- Each member was woken up as it would have been by itself, in the order. -/
  events : outcome.events = numbers.flatMap fleet.toldWaking
  state : outcome.state = fleet.driven Device.resume numbers
  ok_iff : outcome.result = .ok () ↔ fleet.AllSucceed Device.resume numbers
  /-- The error of the first member that fails is returned. -/
  first : ∀ before failing after error, numbers = before ++ failing :: after →
    fleet.AllSucceed Device.resume before →
    (fleet.alone Device.resume failing).result = .error error → outcome.result = .error error

/-- A fleet in which each member is registered once is put to sleep in the order of the slots up
to the first failure, and woken up in the reverse order whatever fails. If it wakes up without a
failure after it was put to sleep, even if that had failed, every registered member is active. -/
theorem sleeps_and_wakes (fleet : Fleet size σ) (once : fleet.registered.Nodup) :
    fleet.PutToSleep fleet.registered (suspendAll fleet) ∧
      fleet.WokenUp fleet.registered.reverse (resumeAll fleet) ∧
      let resumed := resumeAll (suspendAll fleet).state
      resumed.result = .ok () →
        ∀ number ∈ fleet.registered, (resumed.state.member number).machine.power = .active := by
  refine ⟨?_, ?_, ?_⟩
  · rw [suspendAll_eq once]
    constructor
    · exact firstError_eq_ok_iff
    · intro succeed
      rw [firstError_eq_ok_iff.mpr succeed, reached_of_allSucceed succeed]
    · intro before failing after error split succeed failed
      rw [split, firstError_of_split succeed failed, reached_of_split succeed failed]
  · rw [resumeAll_eq once]
    constructor
    · rfl
    · exact driven_reverse.symm
    · exact firstError_eq_ok_iff
    · intro before failing after error split succeed failed
      rw [split]
      exact firstError_of_split succeed failed
  · intro resumed succeeded number member
    have asleep : (suspendAll fleet).state.registered = fleet.registered := by
      rw [suspendAll_eq once, registered_driven]
    have awake : resumed = _ := resumeAll_eq (asleep ▸ once)
    rw [awake] at succeeded ⊢
    rw [asleep] at succeeded ⊢
    have resumes := firstError_eq_ok_iff.mp succeeded number (List.mem_reverse.mpr member)
    rw [member_driven_of_mem member]
    exact alone_resume_power resumes

end Fleet

/-- Three serial ports that are in use. The second has an interrupt pending, so it does not go to
sleep. -/
def Bench.Uart.fleet : Fleet 3 Bench.Board where
  members := #v[⟨Bench.Uart.device, Bench.Uart.active, 0, false⟩,
    ⟨Bench.Uart.device, Bench.Uart.interrupted, 1, false⟩,
    ⟨Bench.Uart.device, Bench.Uart.active, 2, false⟩]
  registry := ⟨[some ⟨1, "uart0", 0⟩, some ⟨2, "uart1", 1⟩, some ⟨3, "uart2", 2⟩, none]⟩

namespace Fleet

/-- The first port is put to sleep, the second refuses, and the third stays as it is. All are
active after they were woken up. -/
theorem uarts_sleep_and_wake :
    Bench.Uart.fleet.registered = [0, 1, 2] ∧
      suspendAll Bench.Uart.fleet =
        ⟨.error .busy, [0, 1].flatMap (Bench.Uart.fleet.told Device.suspend),
          Bench.Uart.fleet.driven Device.suspend [0, 1]⟩ ∧
      (resumeAll (suspendAll Bench.Uart.fleet).state).result = .ok () ∧
      ∀ number ∈ Bench.Uart.fleet.registered,
        ((resumeAll (suspendAll Bench.Uart.fleet).state).state.member number).machine.power =
          .active := by
  have registered : Bench.Uart.fleet.registered = [0, 1, 2] := rfl
  have once : Bench.Uart.fleet.registered.Nodup := by
    rw [registered]
    decide
  obtain ⟨slept, -, active⟩ := sleeps_and_wakes Bench.Uart.fleet once
  have first : Bench.Uart.fleet.AllSucceed Device.suspend [0] := by
    intro number member
    rw [List.mem_singleton.mp member]
    decide +kernel
  have second : (Bench.Uart.fleet.alone Device.suspend 1).result = .error .busy := by
    decide +kernel
  have awoken : (resumeAll (suspendAll Bench.Uart.fleet).state).result = .ok () := by
    decide +kernel
  exact ⟨registered, slept.part [0] 1 [2] .busy registered first second, awoken, active awoken⟩

end Fleet

end DevicePower
