import DevicePower.Context

/-!
# Slots of a context

A context that was created has a fixed number of slots. `Context.HasSlots` says how
many, and that the storage really holds them; it is what makes a look-up of a
checked index succeed. A slot keeps its value until it is overwritten itself.
-/

namespace DevicePower

namespace Context

variable {context after : Context} {length index other : Nat} {value : UInt32}

/-- The context was created with `length` slots, and its storage holds them. -/
structure HasSlots (context : Context) (length : Nat) : Prop where
  populated : context.populated = true
  length_eq : context.length = length
  stored : length ≤ context.storage.length

theorem HasSlots.values_length (slots : context.HasSlots length) :
    context.values.length = length := by
  have stored := slots.stored
  rw [values, List.length_take, slots.length_eq]
  omega

/-- A slot that exists can be looked up. -/
theorem HasSlots.get_succeeds (slots : context.HasSlots length) (present : index < length) :
    ∃ value, context.get index = .ok value := by
  have bound : index < context.values.length := by
    rw [slots.values_length]
    exact present
  refine ⟨context.values[index], ?_⟩
  rw [get, List.getElem?_eq_getElem bound]

/-- A slot that exists can be overwritten. -/
theorem HasSlots.set_succeeds (slots : context.HasSlots length) (present : index < length)
    (value : UInt32) : ∃ after, context.set index value = .ok after := by
  have bound : index < context.values.length := by
    rw [slots.values_length]
    exact present
  exact ⟨_, if_pos bound⟩

/-- A look-up fails exactly if the slot does not exist, and names it. -/
theorem get_eq_error_iff {reason : ConfigError} :
    context.get index = .error reason ↔
      context.values.length ≤ index ∧ .indexOutOfRange index = reason := by
  rw [get]
  split
  next value found =>
    have bound := (List.getElem?_eq_some_iff.mp found).1
    simp [Nat.not_le_of_lt bound]
  next absent => simp [List.getElem?_eq_none_iff.mp absent]

theorem set_eq_error_iff {reason : ConfigError} :
    context.set index value = .error reason ↔
      context.values.length ≤ index ∧ .indexOutOfRange index = reason := by
  rw [set]
  split
  next bound => simp [Nat.not_le_of_lt bound]
  next unbound => simp [Nat.le_of_not_lt unbound]

/-- Overwriting a slot changes nothing but its word of the storage. -/
theorem set_eq_ok_iff :
    context.set index value = .ok after ↔
      index < context.values.length ∧
        { context with storage := context.storage.set index value } = after := by
  rw [set]
  split
  next bound => simp [bound]
  next unbound => simp [unbound]

/-- Overwriting a slot makes no slot and removes none. -/
theorem HasSlots.of_set (slots : context.HasSlots length)
    (done : context.set index value = .ok after) : after.HasSlots length := by
  obtain ⟨-, rfl⟩ := set_eq_ok_iff.mp done
  exact ⟨slots.populated, slots.length_eq, by simpa using slots.stored⟩

theorem values_of_set (done : context.set index value = .ok after) :
    after.values = context.values.set index value := by
  obtain ⟨-, rfl⟩ := set_eq_ok_iff.mp done
  exact List.take_set

theorem get_of_set_self (done : context.set index value = .ok after) :
    after.get index = .ok value := by
  obtain ⟨bound, -⟩ := set_eq_ok_iff.mp done
  rw [get, values_of_set done, List.getElem?_set_self bound]

theorem get_of_set_ne (done : context.set index value = .ok after) (different : index ≠ other) :
    after.get other = context.get other := by
  rw [get, get, values_of_set done, List.getElem?_set_ne different]

/-- A template is copied into the front of the storage, once and if it fits. -/
theorem populate_eq_ok_iff {template : List UInt32} :
    context.populate template = .ok after ↔
      context.populated = false ∧ template.length ≤ context.storage.length ∧
        ⟨template ++ context.storage.drop template.length, template.length, true⟩ = after := by
  rw [populate]
  split
  next present => simp [present]
  next absent =>
    split
    next short => simp [Nat.not_le_of_lt short]
    next fits => simp [absent, Nat.le_of_not_lt fits]

/-- Creating a context makes one slot for every word of the template. -/
theorem hasSlots_of_populate {template : List UInt32}
    (done : context.populate template = .ok after) : after.HasSlots template.length := by
  obtain ⟨-, -, rfl⟩ := populate_eq_ok_iff.mp done
  exact ⟨rfl, rfl, by simp⟩

/-- A context that has slots is not populated again. -/
theorem HasSlots.of_populate {template : List UInt32} (slots : context.HasSlots length)
    (done : context.populate template = .ok after) : after.HasSlots length := by
  obtain ⟨absent, -⟩ := populate_eq_ok_iff.mp done
  rw [slots.populated] at absent
  cases absent

/-! ## Storage -/

/-- The slots are in the front of a storage that was handed in, and the words behind them are as
they were. A context that was not created has no slots. -/
structure LivesIn (storage : List UInt32) (context : Context) : Prop where
  stored : context.storage.length = storage.length
  fits : context.length ≤ storage.length
  empty : context.populated = false → context.length = 0
  behind : context.storage.drop context.length = storage.drop context.length

namespace LivesIn

variable {storage : List UInt32}

theorem new (storage : List UInt32) : (Context.new storage).LivesIn storage :=
  ⟨rfl, Nat.zero_le _, fun _ => rfl, rfl⟩

theorem values_length (lives : context.LivesIn storage) :
    context.values.length = context.length := by
  have fits := lives.fits
  rw [values, List.length_take, lives.stored]
  omega

/-- Only words in the front are overwritten. -/
theorem of_set (lives : context.LivesIn storage) (done : context.set index value = .ok after) :
    after.LivesIn storage := by
  obtain ⟨present, rfl⟩ := set_eq_ok_iff.mp done
  rw [lives.values_length] at present
  constructor
  · simpa using lives.stored
  · exact lives.fits
  · exact lives.empty
  · rw [← lives.behind]
    exact List.drop_set_of_lt present

/-- A template is copied into the front. -/
theorem of_populate {template : List UInt32} (lives : context.LivesIn storage)
    (done : context.populate template = .ok after) : after.LivesIn storage := by
  obtain ⟨absent, fits, rfl⟩ := populate_eq_ok_iff.mp done
  have untouched : context.storage = storage := by
    simpa [lives.empty absent] using lives.behind
  subst untouched
  constructor
  · simp [fits]
  · exact fits
  · simp
  · simp

end LivesIn

end Context

end DevicePower
