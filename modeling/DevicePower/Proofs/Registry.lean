import DevicePower.Registry
import Mathlib.Data.List.Nodup
import Mathlib.Data.List.Sort

/-!
# The order of registered devices

A registry lists its devices in the order of their slots. A device is put into the first free
slot, and a slot that was given back is taken again; so the order of the slots need not be the
order in which the devices were registered. This module keeps a record of the registrations
beside the registry and says exactly when the two orders are the same: when the slots were taken
from the front to the back.
-/

namespace DevicePower

namespace Registry

variable {α : Type} {registry : Registry α}

/-- The slot is taken by a device with this id. -/
def hasId (id : Nat) (slot : Option (Registration α)) : Bool :=
  slot.any fun taken => taken.id = id

/-- The number of the first free slot. -/
def firstFree (registry : Registry α) : Option Nat :=
  registry.slots.findIdx? Option.isNone

/-- The number of the first slot that is taken by a device with this id. -/
def firstWith (registry : Registry α) (id : Nat) : Option Nat :=
  registry.slots.findIdx? (hasId id)

/-! ## Slots -/

/-- The first free slot is taken, if there is one. -/
theorem fill_eq (registration : Registration α) (slots : List (Option (Registration α))) :
    fill registration slots =
      (slots.findIdx? Option.isNone).map fun slot => slots.set slot (some registration) := by
  induction slots with
  | nil => rfl
  | cons slot rest ih =>
      cases slot with
      | none => simp [fill, List.findIdx?_cons]
      | some taken =>
          rw [fill, ih, List.findIdx?_cons]
          cases rest.findIdx? Option.isNone with
          | none => rfl
          | some slot => rfl

/-- The first slot with the id is given back, if there is one. -/
theorem vacate_eq (id : Nat) (slots : List (Option (Registration α))) :
    vacate id slots =
      (slots.findIdx? (hasId id)).bind fun slot =>
        slots[slot]?.join.map fun found => (found, slots.set slot none) := by
  induction slots with
  | nil => rfl
  | cons slot rest ih =>
      cases slot with
      | none =>
          rw [vacate, ih, List.findIdx?_cons]
          cases rest.findIdx? (hasId id) with
          | none => rfl
          | some slot => cases found : rest[slot]?.join <;> simp [hasId, found]
      | some taken =>
          rw [vacate, List.findIdx?_cons]
          by_cases same : taken.id = id
          · simp [hasId, same]
          · rw [ih]
            cases rest.findIdx? (hasId id) with
            | none => simp [hasId, same]
            | some slot => cases found : rest[slot]?.join <;> simp [hasId, same, found]

/-- A slot that was found free is free. -/
theorem getElem?_firstFree {slot : Nat} (free : registry.firstFree = some slot) :
    registry.slots[slot]? = some none := by
  obtain ⟨bound, isNone, -⟩ := List.findIdx?_eq_some_iff_getElem.mp free
  rw [List.getElem?_eq_getElem bound, Option.isNone_iff_eq_none.mp isNone]

/-- No slot in front of the first free one is free. -/
theorem firstFree_le {slot other : Nat} (free : registry.firstFree = some slot)
    (otherFree : registry.slots[other]? = some none) : slot ≤ other := by
  obtain ⟨_, _, earlier⟩ := List.findIdx?_eq_some_iff_getElem.mp free
  obtain ⟨bound, isNone⟩ := List.getElem?_eq_some_iff.mp otherFree
  by_contra before
  exact earlier other (by omega) (by simp [isNone])

/-- A slot that was found with an id is taken by a device. -/
theorem getElem?_firstWith {id slot : Nat} (found : registry.firstWith id = some slot) :
    ∃ taken, registry.slots[slot]? = some (some taken) ∧ taken.id = id := by
  obtain ⟨bound, matching, -⟩ := List.findIdx?_eq_some_iff_getElem.mp found
  rw [List.getElem?_eq_getElem bound]
  cases content : registry.slots[slot] with
  | none => simp [hasId, content] at matching
  | some taken => exact ⟨taken, rfl, by simpa [hasId, content] using matching⟩

/-! ## Calls -/

/-- Something that changes which devices are registered. -/
inductive Call (α : Type) where
  | register (registration : Registration α)
  | unregister (id : Nat)

/-- The registry after a call. A call that is refused changes nothing. -/
def after (registry : Registry α) : Call α → Registry α
  | .register registration =>
      match registry.register registration with
      | .ok filled => filled
      | .error _ => registry
  | .unregister id => (registry.unregister id).2

/-- The registry after a sequence of calls. -/
def run (registry : Registry α) : List (Call α) → Registry α
  | [] => registry
  | call :: rest => (registry.after call).run rest

/-- The record of the present registrations after a call: each with the number of its slot, in
the order in which they were made. -/
def entered (registry : Registry α) (made : List (Nat × Registration α)) :
    Call α → List (Nat × Registration α)
  | .register registration =>
      match registry.firstFree with
      | some slot => made ++ [(slot, registration)]
      | none => made
  | .unregister id =>
      match registry.firstWith id with
      | some slot => made.filter fun entry => entry.1 ≠ slot
      | none => made

/-- The record of the present registrations after a sequence of calls. -/
def record (registry : Registry α) (made : List (Nat × Registration α)) :
    List (Call α) → List (Nat × Registration α)
  | [] => made
  | call :: rest => (registry.after call).record (registry.entered made call) rest

theorem after_register (registration : Registration α) :
    registry.after (.register registration) =
      match registry.firstFree with
      | some slot => ⟨registry.slots.set slot (some registration)⟩
      | none => registry := by
  rw [after, register, fill_eq, firstFree]
  cases registry.slots.findIdx? Option.isNone with
  | none => rfl
  | some slot => rfl

theorem after_unregister (id : Nat) :
    registry.after (.unregister id) =
      match registry.firstWith id with
      | some slot => ⟨registry.slots.set slot none⟩
      | none => registry := by
  cases found : registry.firstWith id with
  | none =>
      rw [firstWith] at found
      simp [after, unregister, vacate_eq, found]
  | some slot =>
      obtain ⟨taken, content, -⟩ := getElem?_firstWith found
      rw [firstWith] at found
      simp [after, unregister, vacate_eq, found, content]

/-! ## The record -/

/-- The record tells what is in the slots, and names no slot twice. -/
structure Recorded (registry : Registry α) (made : List (Nat × Registration α)) : Prop where
  taken : ∀ slot registration,
    registry.slots[slot]? = some (some registration) ↔ (slot, registration) ∈ made
  once : (made.map Prod.fst).Nodup

namespace Recorded

variable {made : List (Nat × Registration α)}

theorem empty (capacity : Nat) : Recorded (Registry.empty capacity : Registry α) [] := by
  refine ⟨?_, List.nodup_nil⟩
  intro slot registration
  simp [Registry.empty, List.getElem?_replicate]

/-- A registration is recorded with its slot. -/
theorem register (recorded : Recorded registry made) (registration : Registration α) :
    Recorded (registry.after (.register registration))
      (registry.entered made (.register registration)) := by
  rw [after_register, entered]
  cases free : registry.firstFree with
  | none => exact recorded
  | some slot =>
      have vacant := getElem?_firstFree free
      have bound : slot < registry.slots.length := (List.getElem?_eq_some_iff.mp vacant).1
      constructor
      · intro other content
        simp only [List.getElem?_set, List.mem_append, List.mem_singleton, Prod.mk.injEq]
        by_cases same : slot = other
        · subst same
          have new : (slot, content) ∉ made := by
            simp [← recorded.taken, vacant]
          simp [bound, new, eq_comm]
        · simp [same, Ne.symm same, recorded.taken]
      · rw [List.map_append, List.nodup_append]
        refine ⟨recorded.once, by simp, ?_⟩
        intro other member slot' last same
        obtain ⟨⟨_, content⟩, known, rfl⟩ := List.mem_map.mp member
        simp only [List.map_cons, List.map_nil, List.mem_singleton] at same last
        have occupied := (recorded.taken _ _).mpr known
        rw [same, last, vacant] at occupied
        cases occupied

/-- A slot that is given back is struck off the record. -/
theorem unregister (recorded : Recorded registry made) (id : Nat) :
    Recorded (registry.after (.unregister id)) (registry.entered made (.unregister id)) := by
  rw [after_unregister, entered]
  cases found : registry.firstWith id with
  | none => exact recorded
  | some slot =>
      constructor
      · intro other content
        simp only [List.getElem?_set, List.mem_filter, ← recorded.taken]
        by_cases same : slot = other
        · simp [same]
        · simp [same, Ne.symm same]
      · exact recorded.once.sublist (List.filter_sublist.map _)

theorem after (recorded : Recorded registry made) (call : Call α) :
    Recorded (registry.after call) (registry.entered made call) := by
  cases call with
  | register registration => exact recorded.register registration
  | unregister id => exact recorded.unregister id

/-- The record stays true whatever is called. -/
theorem run (recorded : Recorded registry made) (calls : List (Call α)) :
    Recorded (registry.run calls) (registry.record made calls) := by
  induction calls generalizing registry made with
  | nil => exact recorded
  | cons call rest ih => exact ih (recorded.after call)

end Recorded

/-! ## Slot order and time order -/

/-- The taken slots with their numbers, in the order of the slots. -/
def occupied (registry : Registry α) : List (Nat × Registration α) :=
  registry.slots.zipIdx.filterMap fun (slot, number) =>
    slot.map fun registration => (number, registration)

theorem map_occupied (registry : Registry α) :
    registry.occupied.map Prod.snd = registry.devices := by
  have numbered : registry.slots.zipIdx.map Prod.fst = registry.slots :=
    List.zipIdx_map_fst 0 registry.slots
  rw [devices, ← numbered, List.filterMap_map, occupied, List.map_filterMap]
  congr 1
  funext ⟨slot, number⟩
  cases slot with
  | none => rfl
  | some registration => rfl

theorem mem_occupied {slot : Nat} {registration : Registration α} :
    (slot, registration) ∈ registry.occupied ↔
      registry.slots[slot]? = some (some registration) := by
  simp only [occupied, List.mem_filterMap, List.mem_zipIdx_iff_getElem?]
  constructor
  · rintro ⟨⟨content, number⟩, found, same⟩
    cases content with
    | none => cases same
    | some taken =>
        cases same
        exact found
  · exact fun found => ⟨(some registration, slot), found, rfl⟩

theorem occupied_pairwise (registry : Registry α) :
    registry.occupied.Pairwise fun earlier later => earlier.1 < later.1 := by
  have numbers : (registry.slots.zipIdx.map Prod.snd).Pairwise (· < ·) := by
    rw [List.zipIdx_map_snd]
    exact List.pairwise_lt_range'
  apply (List.pairwise_map.mp numbers).filterMap
  rintro ⟨slot, number⟩ ⟨other, otherNumber⟩ before _ found _ otherFound
  obtain ⟨_, -, rfl⟩ := Option.map_eq_some_iff.mp found
  obtain ⟨_, -, rfl⟩ := Option.map_eq_some_iff.mp otherFound
  exact before

namespace Recorded

variable {made : List (Nat × Registration α)}

/-- The record lists what is in the slots, if in another order. -/
theorem occupied_perm (recorded : Recorded registry made) : registry.occupied.Perm made := by
  have nodup : registry.occupied.Nodup :=
    registry.occupied_pairwise.imp fun before same => by simp [same] at before
  apply (List.perm_ext_iff_of_nodup nodup recorded.once.of_map).mpr
  rintro ⟨slot, registration⟩
  exact mem_occupied.trans (recorded.taken slot registration)

/-- If the slots were taken from front to back, the orders are the same. -/
theorem devices_of_pairwise (recorded : Recorded registry made)
    (rising : made.Pairwise fun earlier later => earlier.1 < later.1) :
    registry.devices = made.map Prod.snd := by
  have same : registry.occupied = made := by
    apply List.Perm.eq_of_pairwise _ registry.occupied_pairwise rising recorded.occupied_perm
    intro left right _ _ before after
    omega
  rw [← map_occupied, same]

/-- Devices with ids of their own are in the order of their registrations only if their slots
were taken from front to back. -/
theorem pairwise_of_devices (recorded : Recorded registry made)
    (distinct : (registry.devices.map Registration.id).Nodup)
    (ordered : registry.devices = made.map Prod.snd) :
    made.Pairwise fun earlier later => earlier.1 < later.1 := by
  have apart : (made.map (Registration.id ∘ Prod.snd)).Nodup := by
    rwa [ordered, List.map_map] at distinct
  have length : registry.occupied.length = made.length := recorded.occupied_perm.length_eq
  have same : registry.occupied = made := by
    apply List.ext_getElem length
    intro index bound madeBound
    have known : registry.occupied[index] ∈ made :=
      recorded.occupied_perm.mem_iff.mp (List.getElem_mem bound)
    apply List.inj_on_of_nodup_map apart known (List.getElem_mem madeBound)
    have device : (registry.occupied.map Prod.snd)[index]? = (made.map Prod.snd)[index]? := by
      rw [map_occupied, ordered]
    simp only [List.getElem?_map, List.getElem?_eq_getElem bound,
      List.getElem?_eq_getElem madeBound, Option.map_some, Option.some.injEq] at device
    simp [device]
  rw [← same]
  exact registry.occupied_pairwise

end Recorded

/-- Giving slots back leaves what remains of the record in its order. -/
theorem pairwise_record_unregister {made : List (Nat × Registration α)}
    (rising : made.Pairwise fun earlier later => earlier.1 < later.1) (departures : List Nat) :
    (registry.record made (departures.map .unregister)).Pairwise
      fun earlier later => earlier.1 < later.1 := by
  induction departures generalizing registry made with
  | nil => exact rising
  | cons id rest ih =>
      apply ih
      rw [entered]
      cases registry.firstWith id with
      | none => exact rising
      | some slot => exact rising.filter _

/-- The slots are taken from the front to the back: those of the record rise, and no free slot is
in front of one of them. -/
structure Rising (registry : Registry α) (made : List (Nat × Registration α)) : Prop where
  recorded : Recorded registry made
  pairwise : made.Pairwise fun earlier later => earlier.1 < later.1
  free_behind : ∀ entry ∈ made, ∀ free, registry.slots[free]? = some none → entry.1 < free

namespace Rising

variable {made : List (Nat × Registration α)}

theorem empty (capacity : Nat) : Rising (Registry.empty capacity : Registry α) [] where
  recorded := .empty capacity
  pairwise := .nil
  free_behind := by simp

/-- A device goes behind those that are there. -/
theorem register (rising : Rising registry made) (registration : Registration α) :
    Rising (registry.after (.register registration))
      (registry.entered made (.register registration)) := by
  constructor
  · exact rising.recorded.register registration
  · rw [entered]
    cases first : registry.firstFree with
    | none => exact rising.pairwise
    | some slot =>
        have vacant := getElem?_firstFree first
        rw [List.pairwise_append]
        refine ⟨rising.pairwise, List.pairwise_singleton _ _, ?_⟩
        intro entry known last isLast
        rw [List.mem_singleton.mp isLast]
        exact rising.free_behind entry known slot vacant
  · rw [after_register, entered]
    cases first : registry.firstFree with
    | none => exact rising.free_behind
    | some slot =>
        intro entry known free isFree
        simp only [List.getElem?_set] at isFree
        have other : slot ≠ free := by
          intro same
          simp [same] at isFree
        rw [if_neg other] at isFree
        cases List.mem_append.mp known with
        | inl known => exact rising.free_behind entry known free isFree
        | inr last =>
            rw [List.mem_singleton.mp last]
            exact lt_of_le_of_ne (firstFree_le first isFree) other

/-- As long as devices only arrive, the slots are taken from the front to the back. -/
theorem run (rising : Rising registry made) (arrivals : List (Registration α)) :
    Rising (registry.run (arrivals.map .register))
      (registry.record made (arrivals.map .register)) := by
  induction arrivals generalizing registry made with
  | nil => exact rising
  | cons registration rest ih => exact ih (rising.register registration)

end Rising

theorem record_append (first second : List (Call α)) (made : List (Nat × Registration α)) :
    registry.record made (first ++ second) =
      (registry.run first).record (registry.record made first) second := by
  induction first generalizing registry made with
  | nil => rfl
  | cons call rest ih => exact ih _

/-- Whatever was called, the registry lists the devices that are registered now, each for its
present registration. Devices with ids of their own are listed in the order of these
registrations exactly if the slots were taken from the front to the back, which they are if no
device was registered after one was taken out. -/
theorem devices_by_slot (capacity : Nat) (calls : List (Call α)) :
    let registry := (empty capacity).run calls
    let made := (empty capacity).record [] calls
    registry.devices.Perm (made.map Prod.snd) ∧
      ((registry.devices.map Registration.id).Nodup →
        (registry.devices = made.map Prod.snd ↔
          made.Pairwise fun earlier later => earlier.1 < later.1)) ∧
      ∀ (arrivals : List (Registration α)) (departures : List Nat),
        calls = arrivals.map .register ++ departures.map .unregister →
          registry.devices = made.map Prod.snd := by
  intro registry made
  have recorded : Recorded registry made := (Recorded.empty capacity).run calls
  refine ⟨?_, ?_, ?_⟩
  · rw [← map_occupied]
    exact recorded.occupied_perm.map Prod.snd
  · intro distinct
    exact ⟨recorded.pairwise_of_devices distinct, recorded.devices_of_pairwise⟩
  · intro arrivals departures calls_eq
    apply recorded.devices_of_pairwise
    have rising := (Rising.empty capacity).run arrivals
    simp only [made, calls_eq, record_append]
    exact pairwise_record_unregister rising.pairwise departures

/-- Two slots are taken by two devices; the first device goes, and a third one comes. -/
def replacement : List (Call Unit) :=
  [.register ⟨1, "uart0", ()⟩, .register ⟨2, "spi0", ()⟩, .unregister 1,
    .register ⟨3, "mmc0", ()⟩]

/-- Only the devices that were registered last but one and last are left, and the registry lists
the last one first. -/
theorem replacement_listed_first :
    let registry := (empty 2).run replacement
    let made := (empty 2).record [] replacement
    (made.map fun entry => entry.2.id) = [2, 3] ∧
      (registry.devices.map Registration.id) = [3, 2] ∧
      registry.devices ≠ made.map Prod.snd := by
  decide

/-- The general statement at a replacement in two slots, where the slots are not taken in order,
and at two arrivals and a departure. -/
theorem replacement_by_slot :
    (((empty 2).run replacement).devices ≠ ((empty 2).record [] replacement).map Prod.snd ∧
      ¬ ((empty 2).record [] replacement).Pairwise fun earlier later => earlier.1 < later.1) ∧
    ((empty 2).run (replacement.take 3)).devices =
      ((empty 2).record [] (replacement.take 3)).map Prod.snd := by
  have replaced := devices_by_slot 2 replacement
  have departed := devices_by_slot 2 (replacement.take 3)
  have unequal :
      ((empty 2).run replacement).devices ≠ ((empty 2).record [] replacement).map Prod.snd := by
    decide
  constructor
  · exact ⟨unequal, fun rising => unequal ((replaced.2.1 (by decide)).mpr rising)⟩
  · exact departed.2.2 [⟨1, "uart0", ()⟩, ⟨2, "spi0", ()⟩] [1] rfl

end Registry

end DevicePower
