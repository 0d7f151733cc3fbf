import DevicePower.Error

/-!
# Registries

A registry binds devices to numeric ids in a fixed number of slots. A device is
put into the first free slot; taking it out frees that slot again. Ids need not be
distinct: a look-up finds the first slot with the id.
-/

namespace DevicePower

/-- A device as the registry knows it. -/
structure Registration (α : Type) where
  id : Nat
  name : String
  device : α
  deriving DecidableEq, Repr

/-- A fixed number of slots, each free or taken by a device. -/
structure Registry (α : Type) where
  slots : List (Option (Registration α))

namespace Registry

variable {α : Type}

/-- A registry with `capacity` free slots. -/
def empty (capacity : Nat) : Registry α :=
  ⟨List.replicate capacity none⟩

/-- The registered devices, in the order of their slots. -/
def devices (registry : Registry α) : List (Registration α) :=
  registry.slots.filterMap id

/-- The slots after a device was put into the first that is free, if one is. -/
def fill (registration : Registration α) :
    List (Option (Registration α)) → Option (List (Option (Registration α)))
  | [] => none
  | none :: rest => some (some registration :: rest)
  | some taken :: rest => (fill registration rest).map (some taken :: ·)

/-- The first device with an id, and the slots after it was taken out. -/
def vacate (id : Nat) : List (Option (Registration α)) →
    Option (Registration α × List (Option (Registration α)))
  | [] => none
  | none :: rest =>
      (vacate id rest).map fun (found, rest) => (found, none :: rest)
  | some taken :: rest =>
      if taken.id = id then
        some (taken, none :: rest)
      else
        (vacate id rest).map fun (found, rest) => (found, some taken :: rest)

/-- Put a device into the first free slot. -/
def register (registry : Registry α) (registration : Registration α) :
    Except ConfigError (Registry α) :=
  match fill registration registry.slots with
  | some slots => .ok ⟨slots⟩
  | none => .error .registryFull

/-- Take the first device with an id out of the registry. -/
def unregister (registry : Registry α) (id : Nat) :
    Option (Registration α) × Registry α :=
  match vacate id registry.slots with
  | some (found, slots) => (some found, ⟨slots⟩)
  | none => (none, registry)

/-- The first device with an id. -/
def find? (registry : Registry α) (id : Nat) : Option (Registration α) :=
  registry.devices.find? fun registration => registration.id = id

/-- The first device with a name. -/
def findName? (registry : Registry α) (name : String) : Option (Registration α) :=
  registry.devices.find? fun registration => registration.name = name

end Registry

end DevicePower
