/-!
# Slot table

Storage with stable addresses: a value keeps the number of the slot it was put
into until it is taken out.  Freed slots are used again, the last freed first,
before the table grows.
-/

namespace ExpiringCache

abbrev SlotId := Nat

structure SlotTable (α : Type) where
  slots : Array (Option α) := #[]
  /-- Empty slots, the last freed first. -/
  free : List SlotId := []
  /-- How many slots are occupied. -/
  occupied : Nat := 0
  deriving DecidableEq, Repr

namespace SlotTable

variable {α : Type}

/-- The value in a slot; none if the slot is empty or was never used. -/
def get? (table : SlotTable α) (id : SlotId) : Option α :=
  table.slots[id]?.join

/-- Puts a value into the last freed slot, or into a new one. -/
def insert (table : SlotTable α) (value : α) : SlotTable α × SlotId :=
  match table.free with
  | id :: rest =>
      ({ slots := table.slots.setIfInBounds id (some value)
         free := rest
         occupied := table.occupied + 1 }, id)
  | [] =>
      ({ table with
          slots := table.slots.push (some value)
          occupied := table.occupied + 1 }, table.slots.size)

def erase (table : SlotTable α) (id : SlotId) : SlotTable α × Option α :=
  match table.get? id with
  | none => (table, none)
  | some value =>
      ({ slots := table.slots.setIfInBounds id none
         free := id :: table.free
         occupied := table.occupied - 1 }, some value)

/-- Changes the value in an occupied slot; an empty slot stays as it is. -/
def modify (table : SlotTable α) (id : SlotId) (change : α → α) : SlotTable α :=
  match table.get? id with
  | none => table
  | some value => { table with slots := table.slots.setIfInBounds id (some (change value)) }

def toList (table : SlotTable α) : List (SlotId × α) :=
  (List.range table.slots.size).filterMap fun id => (table.get? id).map (id, ·)

def map {β : Type} (table : SlotTable α) (change : α → β) : SlotTable β where
  slots := table.slots.map (·.map change)
  free := table.free
  occupied := table.occupied

def countP (table : SlotTable α) (condition : α → Bool) : Nat :=
  table.slots.countP (·.any condition)

/-! ## One slot after a change -/

theorem lt_size_of_get? {table : SlotTable α} {id : SlotId} {value : α}
    (found : table.get? id = some value) : id < table.slots.size := by
  rcases Nat.lt_or_ge id table.slots.size with inside | outside
  · exact inside
  · simp [get?, outside] at found

theorem getElem_of_get? {table : SlotTable α} {id : SlotId} {value : α}
    (found : table.get? id = some value) :
    ∃ inside : id < table.slots.size, table.slots[id] = some value := by
  have inside := lt_size_of_get? found
  exact ⟨inside, by simpa [get?, inside] using found⟩

theorem get?_modify (table : SlotTable α) (id other : SlotId) (change : α → α) :
    (table.modify id change).get? other =
      if id = other then (table.get? other).map change else table.get? other := by
  by_cases same : id = other
  · subst same
    cases found : table.get? id with
    | none => simp [modify, found]
    | some value =>
        have inside := lt_size_of_get? found
        simp only [modify, found]
        simp [get?, inside]
  · cases found : table.get? id with
    | none => simp [modify, found, same]
    | some value =>
        simp only [modify, found]
        simp [get?, same]

@[simp] theorem size_modify (table : SlotTable α) (id : SlotId) (change : α → α) :
    (table.modify id change).slots.size = table.slots.size := by
  unfold modify
  split <;> simp

theorem get?_erase (table : SlotTable α) (id other : SlotId) :
    (table.erase id).1.get? other = if id = other then none else table.get? other := by
  by_cases same : id = other
  · subst same
    cases found : table.get? id with
    | none => simp [erase, found]
    | some value =>
        have inside := lt_size_of_get? found
        simp only [erase, found]
        simp [get?, inside]
  · cases found : table.get? id with
    | none => simp [erase, found, same]
    | some value =>
        simp only [erase, found]
        simp [get?, same]

@[simp] theorem get?_map {β : Type} (table : SlotTable α) (change : α → β) (id : SlotId) :
    (table.map change).get? id = (table.get? id).map change := by
  cases inside : table.slots[id]? with
  | none => simp [get?, map, inside]
  | some cell => simp [get?, map, inside]

/-- A change that a view does not show keeps the viewed table. -/
theorem map_modify {β : Type} {table : SlotTable α} {id : SlotId} {view : α → β}
    {change : α → α} (hidden : ∀ value, view (change value) = view value) :
    (table.modify id change).map view = table.map view := by
  unfold modify
  cases found : table.get? id with
  | none => rfl
  | some value =>
      obtain ⟨inside, cell⟩ := getElem_of_get? found
      simp only [map, SlotTable.mk.injEq, and_true]
      refine Array.ext_getElem? fun place => ?_
      by_cases same : id = place
      · subst same
        simp [inside, cell, hidden]
      · simp [same]

/-! ## Counting -/

theorem countP_map {β : Type} (table : SlotTable α) (change : α → β) (condition : β → Bool) :
    (table.map change).countP condition = table.countP (condition ∘ change) := by
  simp only [countP, map, Array.countP_map]
  congr 1
  funext cell
  cases cell <;> rfl

/-- A stored value that satisfies the condition is counted. -/
theorem countP_pos {table : SlotTable α} {id : SlotId} {value : α} {condition : α → Bool}
    (found : table.get? id = some value) (holds : condition value = true) :
    0 < table.countP condition := by
  rw [countP, Array.countP_pos_iff]
  refine ⟨some value, ?_, by simpa using holds⟩
  obtain ⟨_, cell⟩ := getElem_of_get? found
  exact Array.mem_of_getElem cell

/-- A change that ends the condition in one slot lowers the count by one. -/
theorem countP_modify_of_ends {table : SlotTable α} {id : SlotId} {condition : α → Bool}
    {change : α → α} {value : α} (found : table.get? id = some value)
    (before : condition value = true) (after : condition (change value) = false) :
    (table.modify id change).countP condition + 1 = table.countP condition := by
  obtain ⟨inside, cell⟩ := getElem_of_get? found
  have positive := countP_pos found before
  unfold modify
  rw [found]
  unfold countP at positive ⊢
  simp only [Array.setIfInBounds, inside, dite_true, Array.countP_set, cell]
  simp [before, after]
  omega

/-- Taking out a value that satisfies the condition lowers the count by one. -/
theorem countP_erase {table : SlotTable α} {id : SlotId} {condition : α → Bool} {value : α}
    (found : table.get? id = some value) (holds : condition value = true) :
    (table.erase id).1.countP condition + 1 = table.countP condition := by
  obtain ⟨inside, cell⟩ := getElem_of_get? found
  have positive := countP_pos found holds
  unfold erase
  rw [found]
  unfold countP at positive ⊢
  simp only [Array.setIfInBounds, inside, dite_true, Array.countP_set, cell]
  simp [holds]
  omega

end SlotTable

end ExpiringCache
