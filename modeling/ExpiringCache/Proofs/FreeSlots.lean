import ExpiringCache.SlotTable

/-!
# Free slots

The free list of a slot table names every empty slot once and nothing else.
Insertion therefore never hits an occupied slot, and no other slot notices it.
-/

namespace ExpiringCache

namespace SlotTable

variable {α β : Type}

structure Valid (table : SlotTable α) : Prop where
  free_nodup : table.free.Nodup
  mem_free_iff : ∀ id, id ∈ table.free ↔ id < table.slots.size ∧ table.get? id = none
  occupied_eq : table.occupied = table.countP fun _ => true

@[simp] theorem get?_empty (id : SlotId) : ({} : SlotTable α).get? id = none := by
  simp [get?]

theorem valid_empty : ({} : SlotTable α).Valid where
  free_nodup := List.nodup_nil
  mem_free_iff id := by simp
  occupied_eq := rfl

/-- Validity does not depend on what is stored. -/
theorem valid_map_iff {table : SlotTable α} (change : α → β) :
    (table.map change).Valid ↔ table.Valid := by
  have size : (table.map change).slots.size = table.slots.size := by simp [map]
  have same : (table.map change).countP (fun _ => true) = table.countP fun _ => true :=
    countP_map table change _
  constructor
  · rintro ⟨nodup, mem, occupied⟩
    refine ⟨nodup, ?_, occupied.trans same⟩
    intro id
    have := mem id
    rw [size, get?_map, Option.map_eq_none_iff] at this
    exact this
  · rintro ⟨nodup, mem, occupied⟩
    refine ⟨nodup, ?_, occupied.trans same.symm⟩
    intro id
    rw [size, get?_map, Option.map_eq_none_iff]
    exact mem id

namespace Valid

variable {table : SlotTable α}

/-- The slot of an insertion was empty before. -/
theorem get?_insert_fresh (valid : table.Valid) (value : α) :
    table.get? (table.insert value).2 = none := by
  unfold SlotTable.insert
  cases free : table.free with
  | nil => simp [get?]
  | cons id rest =>
      have listed : id ∈ table.free := by simp [free]
      exact ((valid.mem_free_iff id).mp listed).2

theorem get?_insert (valid : table.Valid) (value : α) (other : SlotId) :
    (table.insert value).1.get? other =
      if (table.insert value).2 = other then some value else table.get? other := by
  unfold SlotTable.insert
  cases free : table.free with
  | nil =>
      simp only [get?, Array.getElem?_push]
      split
      · rename_i last
        simp [last]
      · rename_i elsewhere
        simp [Ne.symm elsewhere]
  | cons id rest =>
      have listed : id ∈ table.free := by simp [free]
      have inside := ((valid.mem_free_iff id).mp listed).1
      by_cases same : id = other
      · subst same
        simp [get?, inside]
      · simp [get?, same]

/-- An empty slot of the table is an empty cell of the array. -/
theorem getElem_of_mem_free (valid : table.Valid) {id : SlotId} (listed : id ∈ table.free) :
    ∃ inside : id < table.slots.size, table.slots[id] = none := by
  obtain ⟨inside, empty⟩ := (valid.mem_free_iff id).mp listed
  exact ⟨inside, by simpa [get?, inside] using empty⟩

theorem insert (valid : table.Valid) (value : α) : (table.insert value).1.Valid := by
  have looked := valid.get?_insert value
  cases free : table.free with
  | nil =>
      simp only [SlotTable.insert, free] at looked ⊢
      refine ⟨List.nodup_nil, ?_, ?_⟩
      · intro id
        simp only [List.not_mem_nil, false_iff, not_and]
        intro inside
        rw [looked]
        split
        · simp
        · rename_i elsewhere
          have before : id < table.slots.size := by
            rw [Array.size_push] at inside
            exact Nat.lt_of_le_of_ne (Nat.le_of_lt_succ inside) (Ne.symm elsewhere)
          intro empty
          have listed := (valid.mem_free_iff id).mpr ⟨before, empty⟩
          simp [free] at listed
      · simpa [countP] using valid.occupied_eq
  | cons id rest =>
      have listed : id ∈ table.free := by simp [free]
      obtain ⟨inside, empty⟩ := valid.getElem_of_mem_free listed
      have nodup := valid.free_nodup
      rw [free, List.nodup_cons] at nodup
      simp only [SlotTable.insert, free] at looked ⊢
      refine ⟨nodup.2, ?_, ?_⟩
      · intro other
        have before := valid.mem_free_iff other
        rw [free, List.mem_cons] at before
        rw [looked, Array.size_setIfInBounds]
        by_cases same : id = other
        · subst same
          simpa using nodup.1
        · simpa [same, Ne.symm same] using before
      · have occupied := valid.occupied_eq
        simp only [countP, Array.setIfInBounds, inside, dite_true, Array.countP_set, empty]
          at occupied ⊢
        simp [occupied]

theorem erase (valid : table.Valid) (id : SlotId) : (table.erase id).1.Valid := by
  have looked := table.get?_erase id
  cases found : table.get? id with
  | none =>
      simp only [SlotTable.erase, found]
      exact valid
  | some value =>
      obtain ⟨inside, -⟩ := getElem_of_get? found
      have counted : (table.erase id).1.countP (fun _ => true) + 1 = table.countP fun _ => true :=
        countP_erase found rfl
      simp only [SlotTable.erase, found] at looked counted ⊢
      refine ⟨?_, ?_, ?_⟩
      · refine List.nodup_cons.mpr ⟨?_, valid.free_nodup⟩
        intro listed
        rw [((valid.mem_free_iff id).mp listed).2] at found
        cases found
      · intro other
        rw [looked, List.mem_cons, valid.mem_free_iff, Array.size_setIfInBounds]
        by_cases same : id = other
        · subst same
          simp [inside]
        · simp [same, Ne.symm same]
      · have occupied := valid.occupied_eq
        simp only
        omega

theorem modify (valid : table.Valid) (id : SlotId) (change : α → α) :
    (table.modify id change).Valid := by
  have same : (table.modify id change).map (fun _ => ()) = table.map fun _ => () :=
    map_modify fun _ => rfl
  rw [← valid_map_iff fun _ => (), same, valid_map_iff]
  exact valid

end Valid

end SlotTable

end ExpiringCache
