import DevicePower.Bench.Uart
import DevicePower.Fleet
import DevicePower.Proofs.Keeping
import Mathlib.Data.List.Count

/-!
# Conservation of registered devices

Slots are given back and taken again in any order, and ids need not be distinct. All the same a
registry loses no device and invents none: the devices that are registered now, and those that were
taken out, are together the devices that were registered.

`Registry.Among` says how one device more or less shows in the order of the devices, and
`Fleet.Balanced` carries the account through any calls to the registry of a fleet.
-/

namespace DevicePower

open Traced
open scoped List

namespace Registry

variable {α : Type} {registry after : Registry α} {registration found : Registration α} {id : Nat}

/-- The device is one of `all`, and the rest of them are `others`, in the same order. -/
def Among (registration : Registration α) (others all : List (Registration α)) : Prop :=
  ∃ before behind, others = before ++ behind ∧ all = before ++ registration :: behind

/-- How many devices are registered with this id. -/
def held (registry : Registry α) (id : Nat) : Nat :=
  registry.devices.countP fun registration => registration.id = id

namespace Among

variable {others all : List (Registration α)}

theorem head (registration : Registration α) (others : List (Registration α)) :
    Among registration others (registration :: others) :=
  ⟨[], others, rfl, rfl⟩

theorem cons (among : Among registration others all) (first : Registration α) :
    Among registration (first :: others) (first :: all) := by
  obtain ⟨before, behind, rfl, rfl⟩ := among
  exact ⟨first :: before, behind, rfl, rfl⟩

theorem perm (among : Among registration others all) : all.Perm (registration :: others) := by
  obtain ⟨before, behind, rfl, rfl⟩ := among
  exact List.perm_middle

end Among

/-! ## Slots and devices -/

section Slots

variable {slots rest : List (Option (Registration α))}

@[simp] theorem devices_free : devices ⟨none :: slots⟩ = devices ⟨slots⟩ := rfl

@[simp] theorem devices_taken :
    devices ⟨some registration :: slots⟩ = registration :: devices ⟨slots⟩ := rfl

theorem devices_empty (capacity : Nat) : (empty capacity : Registry α).devices = [] := by
  induction capacity with
  | zero => rfl
  | succ capacity ih => exact ih

theorem length_devices_le (registry : Registry α) :
    registry.devices.length ≤ registry.slots.length :=
  List.length_filterMap_le _ _

/-- There is no free slot exactly if there are as many devices as slots. -/
theorem fill_eq_none_iff :
    fill registration slots = none ↔ (devices ⟨slots⟩).length = slots.length := by
  induction slots with
  | nil => simp [fill, devices]
  | cons slot slots ih =>
      cases slot with
      | none =>
          have bound : (devices ⟨slots⟩).length ≤ slots.length := length_devices_le ⟨slots⟩
          simp only [fill, reduceCtorEq, devices_free, List.length_cons, false_iff]
          omega
      | some taken => simp [fill, ih]

/-- A device that takes a slot comes among those that are there, and no slot is lost. -/
theorem among_of_fill (filled : fill registration slots = some rest) :
    Among registration (devices ⟨slots⟩) (devices ⟨rest⟩) ∧ rest.length = slots.length := by
  induction slots generalizing rest with
  | nil => cases filled
  | cons slot slots ih =>
      cases slot with
      | none =>
          cases filled
          exact ⟨.head registration _, rfl⟩
      | some taken =>
          simp only [fill, Option.map_eq_some_iff] at filled
          obtain ⟨tail, filled, rfl⟩ := filled
          obtain ⟨among, same⟩ := ih filled
          exact ⟨among.cons taken, congrArg Nat.succ same⟩

/-- The device that is taken out is the first with the id. -/
theorem map_fst_vacate (id : Nat) (slots : List (Option (Registration α))) :
    (vacate id slots).map Prod.fst = find? ⟨slots⟩ id := by
  induction slots with
  | nil => rfl
  | cons slot slots ih =>
      rw [find?] at ih ⊢
      cases slot with
      | none => simpa [vacate, Function.comp_def] using ih
      | some taken =>
          by_cases same : taken.id = id
          · simp [vacate, same]
          · simpa [vacate, same, Function.comp_def] using ih

/-- A device that gives its slot back was among those that were there, and no slot is lost. -/
theorem among_of_vacate (vacated : vacate id slots = some (found, rest)) :
    Among found (devices ⟨rest⟩) (devices ⟨slots⟩) ∧ rest.length = slots.length := by
  induction slots generalizing rest with
  | nil => cases vacated
  | cons slot slots ih =>
      cases slot with
      | none =>
          simp only [vacate, Option.map_eq_some_iff, Prod.mk.injEq] at vacated
          obtain ⟨⟨_, tail⟩, vacated, rfl, rfl⟩ := vacated
          obtain ⟨among, same⟩ := ih vacated
          exact ⟨among, congrArg Nat.succ same⟩
      | some taken =>
          rw [vacate] at vacated
          split at vacated
          next =>
            cases vacated
            exact ⟨.head found _, rfl⟩
          next =>
            simp only [Option.map_eq_some_iff, Prod.mk.injEq] at vacated
            obtain ⟨⟨_, tail⟩, vacated, rfl, rfl⟩ := vacated
            obtain ⟨among, same⟩ := ih vacated
            exact ⟨among.cons taken, congrArg Nat.succ same⟩

end Slots

/-! ## One call -/

theorem register_of_full (registration : Registration α)
    (full : registry.devices.length = registry.slots.length) :
    registry.register registration = .error .registryFull := by
  rw [register, fill_eq_none_iff.mpr full]

/-- A device finds a slot unless every slot is taken. -/
theorem register_of_room (registration : Registration α)
    (room : registry.devices.length ≠ registry.slots.length) :
    ∃ after, registry.register registration = .ok after ∧
      Among registration registry.devices after.devices ∧
      after.slots.length = registry.slots.length := by
  cases filled : fill registration registry.slots with
  | none => exact absurd (fill_eq_none_iff.mp filled) room
  | some slots => exact ⟨⟨slots⟩, by rw [register, filled], among_of_fill filled⟩

theorem unregister_of_none (absent : registry.find? id = none) :
    registry.unregister id = (none, registry) := by
  have nothing : vacate id registry.slots = none := by
    rw [← Option.map_eq_none_iff, map_fst_vacate]
    exact absent
  rw [unregister, nothing]

/-- The device that a look-up finds is taken out, and the others stay as they are. -/
theorem unregister_of_some (present : registry.find? id = some found) :
    ∃ rest, registry.unregister id = (some found, rest) ∧
      Among found rest.devices registry.devices ∧ rest.slots.length = registry.slots.length := by
  have taken : (vacate id registry.slots).map Prod.fst = some found := by
    rw [map_fst_vacate]
    exact present
  obtain ⟨⟨_, slots⟩, vacated, rfl⟩ := Option.map_eq_some_iff.mp taken
  exact ⟨⟨slots⟩, by rw [unregister, vacated], among_of_vacate vacated⟩

theorem id_of_find? (present : registry.find? id = some found) : found.id = id := by
  simpa using List.find?_some present

/-- A look-up finds a device exactly if one is registered with the id. -/
theorem find?_isSome_iff : (registry.find? id).isSome ↔ 0 < registry.held id := by
  rw [find?, List.find?_isSome, held, List.countP_pos_iff]

end Registry

/-! ## Calls to the registry of a fleet -/

namespace Fleet

open Registry (Among)

variable {size : Nat} {σ : Type} {fleet : Fleet size σ}

/-- A call that changes which devices are registered. -/
inductive Call (size : Nat) where
  | register (number : Fin size)
  | unregister (id : Nat)
  deriving DecidableEq

/-- How a call was answered. A device is returned when it is taken out. -/
abbrev Reply (size : Nat) : Type := Except Error (Option (Registration (Fin size)))

/-- Answer a call. -/
def answer : Call size → FleetM size σ (Option (Registration (Fin size)))
  | .register number => do
      register number
      return none
  | .unregister id => unregister id

/-- Answer one call after the other, whether they succeed or not, and list them with their
replies. -/
def serve : List (Call size) → FleetM size σ (List (Call size × Reply size))
  | [] => return []
  | call :: rest => do
      let reply ← (answer call).attempt
      let later ← serve rest
      return (call, reply) :: later

/-- The call has registered a device with this id. -/
def registers (fleet : Fleet size σ) (id : Nat) : Call size × Reply size → Bool
  | (.register number, .ok _) => (fleet.registration number).id = id
  | _ => false

/-- The call was to unregister this id, and has returned a device. -/
def returns (id : Nat) : Call size × Reply size → Bool
  | (.unregister asked, .ok (some _)) => asked = id
  | _ => false

/-- The devices that were registered by some calls. -/
def admitted (fleet : Fleet size σ) (history : List (Call size × Reply size)) :
    List (Registration (Fin size)) :=
  history.filterMap fun
    | (.register number, .ok _) => some (fleet.registration number)
    | _ => none

/-- The devices that were taken out by some calls. -/
def returned (history : List (Call size × Reply size)) : List (Registration (Fin size)) :=
  history.filterMap fun
    | (.unregister _, .ok found) => found
    | _ => none

/-- Some calls have led from one registry to another, and no device was lost or invented. -/
structure Balanced (fleet : Fleet size σ) (before after : Registry (Fin size))
    (history : List (Call size × Reply size)) : Prop where
  devices : (after.devices ++ returned history).Perm (before.devices ++ fleet.admitted history)
  slots : after.slots.length = before.slots.length
  asked : ∀ id found, (.unregister id, .ok (some found)) ∈ history → found.id = id

/-- A device that finds a slot is registered, and nothing else happens. -/
theorem register_of_ok {number : Fin size} {registry : Registry (Fin size)}
    (registered : fleet.registry.register (fleet.registration number) = .ok registry) :
    register number fleet = ⟨.ok (), [], { fleet with registry }⟩ := by
  rw [register, query_bind_apply, id_eq, registered]
  rfl

/-- A registration that is refused changes nothing. -/
theorem register_of_error {number : Fin size} {reason : ConfigError}
    (refused : fleet.registry.register (fleet.registration number) = .error reason) :
    register number fleet = ⟨.error (.configuration reason), [], fleet⟩ := by
  rw [register, query_bind_apply, id_eq, refused]
  rfl

theorem unregister_apply (id : Nat) (fleet : Fleet size σ) :
    unregister id fleet = ⟨.ok (fleet.registry.unregister id).1, [],
      { fleet with registry := (fleet.registry.unregister id).2 }⟩ := rfl

/-! ## The account of a history -/

theorem admitted_append (first second : List (Call size × Reply size)) :
    fleet.admitted (first ++ second) = fleet.admitted first ++ fleet.admitted second :=
  List.filterMap_append

theorem returned_append (first second : List (Call size × Reply size)) :
    returned (first ++ second) = returned first ++ returned second :=
  List.filterMap_append

namespace Balanced

variable {before between after : Registry (Fin size)} {first second : List (Call size × Reply size)}

theorem nil (fleet : Fleet size σ) (registry : Registry (Fin size)) :
    fleet.Balanced registry registry [] where
  devices := .refl _
  slots := rfl
  asked := by simp

theorem append (balanced : fleet.Balanced before between first)
    (later : fleet.Balanced between after second) :
    fleet.Balanced before after (first ++ second) where
  devices := by
    rw [returned_append, admitted_append]
    calc
      after.devices ++ (returned first ++ returned second)
        ~ after.devices ++ (returned second ++ returned first) :=
          List.perm_append_comm.append_left _
      _ = after.devices ++ returned second ++ returned first := (List.append_assoc _ _ _).symm
      _ ~ between.devices ++ fleet.admitted second ++ returned first :=
          later.devices.append_right _
      _ = between.devices ++ (fleet.admitted second ++ returned first) := List.append_assoc _ _ _
      _ ~ between.devices ++ (returned first ++ fleet.admitted second) :=
          List.perm_append_comm.append_left _
      _ = between.devices ++ returned first ++ fleet.admitted second :=
          (List.append_assoc _ _ _).symm
      _ ~ before.devices ++ fleet.admitted first ++ fleet.admitted second :=
          balanced.devices.append_right _
      _ = before.devices ++ (fleet.admitted first ++ fleet.admitted second) :=
          List.append_assoc _ _ _
  slots := later.slots.trans balanced.slots
  asked id found member := by
    cases List.mem_append.mp member with
    | inl member => exact balanced.asked id found member
    | inr member => exact later.asked id found member

/-- A device that is admitted comes among the others. -/
theorem register {number : Fin size} (reply : Option (Registration (Fin size)))
    (among : Among (fleet.registration number) before.devices after.devices)
    (slots : after.slots.length = before.slots.length) :
    fleet.Balanced before after [(.register number, .ok reply)] where
  devices := by
    simpa [returned, admitted] using among.perm.trans (List.perm_append_singleton _ _).symm
  slots := slots
  asked := by simp

/-- A registration that is refused counts for nothing. -/
theorem refused (fleet : Fleet size σ) (registry : Registry (Fin size)) (number : Fin size)
    (error : Error) : fleet.Balanced registry registry [(.register number, .error error)] where
  devices := by simp [returned, admitted]
  slots := rfl
  asked := by simp

/-- A device that is taken out was among the others. -/
theorem unregister {id : Nat} {found : Registration (Fin size)}
    (among : Among found after.devices before.devices)
    (slots : after.slots.length = before.slots.length) (same : found.id = id) :
    fleet.Balanced before after [(.unregister id, .ok (some found))] where
  devices := by
    simpa [returned, admitted] using (List.perm_append_singleton _ _).trans among.perm.symm
  slots := slots
  asked other taken member := by
    simp only [List.mem_singleton, Prod.mk.injEq, Call.unregister.injEq, Except.ok.injEq,
      Option.some.injEq] at member
    rw [member.1, member.2]
    exact same

theorem absent (fleet : Fleet size σ) (registry : Registry (Fin size)) (id : Nat) :
    fleet.Balanced registry registry [(.unregister id, .ok none)] where
  devices := by simp [returned, admitted]
  slots := rfl
  asked := by simp

end Balanced

/-- Every call is answered without a report, and balances. -/
theorem answer_balanced (fleet : Fleet size σ) (registry : Registry (Fin size))
    (call : Call size) :
    ∃ reply after, answer call { fleet with registry } =
        ⟨reply, [], { fleet with registry := after }⟩ ∧
      fleet.Balanced registry after [(call, reply)] := by
  cases call with
  | register number =>
      by_cases full : registry.devices.length = registry.slots.length
      · have refused := Registry.register_of_full (fleet.registration number) full
        refine ⟨.error (.configuration .registryFull), registry, ?_, .refused _ _ _ _⟩
        rw [answer, bind_apply, register_of_error refused]
      · obtain ⟨after, registered, among, slots⟩ :=
          Registry.register_of_room (fleet.registration number) full
        refine ⟨.ok none, after, ?_, .register none among slots⟩
        rw [answer, bind_apply, register_of_ok registered]
        rfl
  | unregister id =>
      rw [answer, unregister_apply]
      cases outcome : registry.find? id with
      | none =>
          rw [Registry.unregister_of_none outcome]
          exact ⟨_, registry, rfl, .absent fleet registry id⟩
      | some found =>
          obtain ⟨after, taken, among, slots⟩ := Registry.unregister_of_some outcome
          rw [taken]
          exact ⟨_, after, rfl, .unregister among slots (Registry.id_of_find? outcome)⟩

/-- Any calls are answered one by one, and balance. -/
theorem serve_balanced (fleet : Fleet size σ) (registry : Registry (Fin size))
    (calls : List (Call size)) :
    ∃ history after, serve calls { fleet with registry } =
        ⟨.ok history, [], { fleet with registry := after }⟩ ∧
      history.map Prod.fst = calls ∧ fleet.Balanced registry after history := by
  induction calls generalizing registry with
  | nil => exact ⟨[], registry, rfl, rfl, .nil fleet registry⟩
  | cons call rest ih =>
      obtain ⟨reply, between, answered, balanced⟩ := fleet.answer_balanced registry call
      obtain ⟨history, after, served, called, later⟩ := ih between
      refine ⟨(call, reply) :: history, after, ?_, ?_, balanced.append later⟩
      · rw [serve, attempt_bind_apply, answered, bind_of_ok (by rw [served]), served]
        rfl
      · rw [List.map_cons, called]

/-- The registrations of an id are those of the devices that were admitted with it. -/
theorem countP_registers (fleet : Fleet size σ) (id : Nat)
    (history : List (Call size × Reply size)) :
    history.countP (fleet.registers id) =
      (fleet.admitted history).countP fun registration => registration.id = id := by
  rw [admitted, List.countP_filterMap]
  congr 1
  funext entry
  cases entry with
  | mk call reply =>
      cases call with
      | register number => cases reply <;> rfl
      | unregister asked => rfl

/-- What was returned for an id are the devices that were taken out with it. -/
theorem countP_returns {before after : Registry (Fin size)}
    {history : List (Call size × Reply size)} (balanced : fleet.Balanced before after history)
    (id : Nat) :
    history.countP (returns id) =
      (returned history).countP fun registration => registration.id = id := by
  rw [returned, List.countP_filterMap]
  apply List.countP_congr
  intro entry member
  cases entry with
  | mk call reply =>
      cases call with
      | register number => cases reply <;> simp [returns]
      | unregister asked =>
          cases reply with
          | error error => simp [returns]
          | ok found =>
              cases found with
              | none => simp [returns]
              | some found => simp [returns, balanced.asked asked found member]

/-- In every history of an empty registry, the devices that are registered now and those that were
taken out are together the devices that were registered; so there are as many with an id as were
registered with it and not returned for it, and never more in all than slots. A registration is
refused exactly if all slots are taken, and changes nothing then. A look-up and an `unregister` find
a device exactly if there is one with the id, and the device that is taken out is gone from among
the others, which stay in their order. -/
theorem registrations_conserved (fleet : Fleet size σ) (capacity : Nat)
    (calls : List (Call size)) :
    ∃ history registry,
      serve calls { fleet with registry := .empty capacity } =
          ⟨.ok history, [], { fleet with registry }⟩ ∧
        history.map Prod.fst = calls ∧
        (registry.devices ++ returned history).Perm (fleet.admitted history) ∧
        (∀ id, registry.held id + history.countP (returns id) =
          history.countP (fleet.registers id)) ∧
        registry.devices.length ≤ capacity ∧
        (∀ number,
          if registry.devices.length = capacity then
            register number { fleet with registry } =
              ⟨.error (.configuration .registryFull), [], { fleet with registry }⟩
          else
            ∃ filled, register number { fleet with registry } =
                ⟨.ok (), [], { fleet with registry := filled }⟩ ∧
              Among (fleet.registration number) registry.devices filled.devices) ∧
        ∀ id,
          ((registry.find? id).isSome ↔ 0 < registry.held id) ∧
          ∃ rest, unregister id { fleet with registry } =
              ⟨.ok (registry.find? id), [], { fleet with registry := rest }⟩ ∧
            match registry.find? id with
            | none => rest = registry
            | some found => found.id = id ∧ Among found rest.devices registry.devices := by
  obtain ⟨history, registry, served, called, balanced⟩ :=
    fleet.serve_balanced (.empty capacity) calls
  have conserved : (registry.devices ++ returned history).Perm (fleet.admitted history) := by
    simpa [Registry.devices_empty] using balanced.devices
  have slots : registry.slots.length = capacity := by
    simpa [Registry.empty] using balanced.slots
  refine ⟨history, registry, served, called, conserved, ?counts, ?bound, ?registers, ?finds⟩
  case counts =>
    intro id
    rw [countP_returns balanced, countP_registers, Registry.held, ← List.countP_append]
    exact conserved.countP_eq _
  case bound =>
    rw [← slots]
    exact registry.length_devices_le
  case registers =>
    intro number
    split
    next full =>
      have refused := Registry.register_of_full (fleet.registration number)
        (full.trans slots.symm)
      exact register_of_error refused
    next room =>
      obtain ⟨filled, registered, among, -⟩ :=
        Registry.register_of_room (fleet.registration number) (slots ▸ room)
      exact ⟨filled, register_of_ok registered, among⟩
  case finds =>
    intro id
    refine ⟨Registry.find?_isSome_iff, ?_⟩
    rw [unregister_apply]
    cases outcome : registry.find? id with
    | none =>
        rw [Registry.unregister_of_none outcome]
        exact ⟨registry, rfl, rfl⟩
    | some found =>
        obtain ⟨rest, taken, among, -⟩ := Registry.unregister_of_some outcome
        rw [taken]
        exact ⟨rest, rfl, Registry.id_of_find? outcome, among⟩

end Fleet

/-- Two serial ports with the same id, and two others. -/
def Bench.Uart.twins : Fleet 4 Bench.Board where
  members := #v[⟨Bench.Uart.device, Bench.Uart.active, 0, false⟩,
    ⟨{ Bench.Uart.device with name := "uart1" }, Bench.Uart.active, 1, false⟩,
    ⟨{ Bench.Uart.device with id := 2, name := "uart2" }, Bench.Uart.active, 2, false⟩,
    ⟨{ Bench.Uart.device with id := 3, name := "uart3" }, Bench.Uart.active, 3, false⟩]
  registry := .empty 0

/-- Calls for a registry with two slots: the third port finds no slot before one of the twins is
gone, and takes the one in front of the other. -/
def Bench.Uart.twinCalls : List (Fleet.Call 4) :=
  [.register 1, .register 0, .register 2, .unregister 1, .register 2, .unregister 7,
    .unregister 1, .register 3]

/-- How these calls are answered. -/
def Bench.Uart.twinReplies : List (Fleet.Reply 4) :=
  [.ok none, .ok none, .error (.configuration .registryFull), .ok (some ⟨1, "uart1", 1⟩),
    .ok none, .ok none, .ok (some ⟨1, "uart0", 0⟩), .ok none]

namespace Fleet

/-- The general statement at a history with an id that occurs twice, a registration that is refused,
and an id that nobody has. -/
theorem twins_conserved :
    ∃ history registry,
      serve Bench.Uart.twinCalls { Bench.Uart.twins with registry := .empty 2 } =
          ⟨.ok history, [], { Bench.Uart.twins with registry }⟩ ∧
        history.map Prod.snd = Bench.Uart.twinReplies ∧
        registry.devices = [⟨2, "uart2", 2⟩, ⟨3, "uart3", 3⟩] ∧
        registry.held 1 + 2 = 2 ∧ registry.held 2 = 1 ∧ registry.held 7 = 0 := by
  obtain ⟨history, registry, served, -, -, counts, -⟩ :=
    registrations_conserved Bench.Uart.twins 2 Bench.Uart.twinCalls
  have ended : serve Bench.Uart.twinCalls { Bench.Uart.twins with registry := .empty 2 } =
      ⟨.ok (Bench.Uart.twinCalls.zip Bench.Uart.twinReplies), [],
        { Bench.Uart.twins with
          registry := ⟨[some ⟨2, "uart2", 2⟩, some ⟨3, "uart3", 3⟩]⟩ }⟩ := rfl
  obtain rfl : history = Bench.Uart.twinCalls.zip Bench.Uart.twinReplies :=
    Except.ok.inj (congrArg Outcome.result (served.symm.trans ended))
  obtain rfl : registry = ⟨[some ⟨2, "uart2", 2⟩, some ⟨3, "uart3", 3⟩]⟩ :=
    congrArg (fun outcome => outcome.state.registry) (served.symm.trans ended)
  exact ⟨_, _, served, rfl, rfl, counts 1, counts 2, counts 7⟩

end Fleet

end DevicePower
