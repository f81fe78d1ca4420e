import ExpiringCache.Proofs.Schedule.Usage

/-!
# Backed places

A client that keeps to no rules can queue a slot twice, queue a slot that holds
nothing, or free a slot that is still queued and see it used again.  Heap and
entries then disagree: a slot may stand at several places, or stand in the heap
and hold an entry that knows of no place.  One direction survives: wherever an
entry believes to stand, its slot stands.
-/

namespace ExpiringCache

namespace Schedule

variable {K V : Type}

/-- Every recorded place is a heap place that names the slot. -/
def Backed (schedule : Schedule K V) : Prop :=
  ∀ id place, schedule.positionOf id = some place → schedule.heap[place]? = some id

namespace Backed

variable {schedule : Schedule K V}

theorem lt_size (backed : schedule.Backed) {id : SlotId} {place : Nat}
    (recorded : schedule.positionOf id = some place) : place < schedule.heap.size :=
  (Array.getElem?_eq_some_iff.mp (backed id place recorded)).1

/-- Entries may forget their places, and may go. -/
theorem forget {other : Schedule K V} (backed : schedule.Backed)
    (positions : ∀ id place, other.positionOf id = some place →
      schedule.positionOf id = some place)
    (heaps : other.heap = schedule.heap) : other.Backed := by
  intro id place recorded
  rw [heaps]
  exact backed id place (positions id place recorded)

/-! ## Moves in the heap -/

/--
The slot at the right place is told last.  If both places name one slot, what it
learns is the right place, and it does stand there.
-/
theorem swap (backed : schedule.Backed) {left right : Nat}
    (leftInside : left < schedule.heap.size) (rightInside : right < schedule.heap.size) :
    (schedule.swap left right).Backed := by
  have atLeft := Array.getElem?_eq_getElem leftInside
  have atRight := Array.getElem?_eq_getElem rightInside
  generalize schedule.heap[left] = first at atLeft
  generalize schedule.heap[right] = second at atRight
  intro id place recorded
  rw [swap_eq atLeft atRight, positionOf_setPosition] at recorded
  by_cases isFirst : first = id
  · rw [if_pos isFirst, Option.bind_eq_some_iff] at recorded
    obtain ⟨_, _, same⟩ := recorded
    rw [getElem?_heap_swap atLeft atRight, if_pos (Option.some.inj same), isFirst]
  · rw [if_neg isFirst, positionOf_setPosition] at recorded
    by_cases isSecond : second = id
    · rw [if_pos isSecond, Option.bind_eq_some_iff] at recorded
      obtain ⟨_, _, same⟩ := recorded
      obtain rfl := Option.some.inj same
      have apart : right ≠ left := by
        rintro rfl
        exact isFirst ((Option.some.inj (atLeft.symm.trans atRight)).trans isSecond)
      rw [getElem?_heap_swap atLeft atRight, if_neg apart, if_pos rfl, isSecond]
    · rw [if_neg isSecond] at recorded
      exact (getElem?_heap_swap_of_ne atLeft atRight isFirst isSecond place).mpr
        (backed id place recorded)

theorem siftUp (backed : schedule.Backed) {place : Nat} (inside : place < schedule.heap.size) :
    (schedule.siftUp place).Backed := by
  fun_induction Schedule.siftUp schedule place with
  | case1 schedule place moves ih =>
      have parentInside : (place - 1) / 2 < schedule.heap.size := by omega
      exact ih (backed.swap inside parentInside) (by simpa using parentInside)
  | case2 => exact backed

theorem siftDown (backed : schedule.Backed) (place : Nat) : (schedule.siftDown place).Backed := by
  fun_induction Schedule.siftDown schedule place with
  | case1 schedule place moves ih =>
      have child := schedule.earlierChild_eq place
      exact ih (backed.swap (by omega) (by omega))
  | case2 => exact backed

theorem settle (backed : schedule.Backed) {place : Nat} (inside : place < schedule.heap.size) :
    (schedule.settle place).Backed := by
  unfold Schedule.settle
  split
  · exact backed.siftUp inside
  · exact backed.siftDown place

/-! ## Queueing and taking out -/

/-- A slot that is queued once more believes to stand at its newest place. -/
theorem append (backed : schedule.Backed) (id : SlotId) :
    ({ schedule with heap := schedule.heap.push id }.setPosition id
      (some schedule.heap.size)).Backed := by
  intro other place recorded
  rw [positionOf_setPosition] at recorded
  rw [heap_setPosition, Array.getElem?_push]
  by_cases same : id = other
  · rw [if_pos same, Option.bind_eq_some_iff] at recorded
    obtain ⟨_, _, last⟩ := recorded
    rw [if_pos (Option.some.inj last).symm, same]
  · rw [if_neg same] at recorded
    have before : schedule.positionOf other = some place := recorded
    rw [if_neg (Nat.ne_of_lt (backed.lt_size before))]
    exact backed other place before

theorem push (backed : schedule.Backed) (id : SlotId) : (schedule.push id).Backed := by
  unfold Schedule.push
  exact (backed.append id).siftUp (by simp)

/-- The slot at the last place forgets its place; no other slot believes to stand there. -/
theorem dropLast (backed : schedule.Backed) {id : SlotId}
    (last : schedule.heap[schedule.heap.size - 1]? = some id) : (schedule.dropLast id).Backed := by
  intro other place recorded
  rw [Schedule.dropLast, positionOf_setPosition] at recorded
  by_cases same : id = other
  · rw [if_pos same, Option.bind_eq_some_iff] at recorded
    obtain ⟨_, _, placed⟩ := recorded
    cases placed
  · rw [if_neg same] at recorded
    have before : schedule.positionOf other = some place := recorded
    have here := backed other place before
    have inside := backed.lt_size before
    have notLast : place ≠ schedule.heap.size - 1 := by
      rintro rfl
      exact same (Option.some.inj (last.symm.trans here))
    rw [Schedule.dropLast, heap_setPosition, Array.getElem?_pop, if_pos (by omega)]
    exact here

theorem swap_dropLast (backed : schedule.Backed) {id : SlotId} {place : Nat}
    (here : schedule.heap[place]? = some id) :
    ((schedule.swap place (schedule.heap.size - 1)).dropLast id).Backed := by
  obtain ⟨inside, -⟩ := Array.getElem?_eq_some_iff.mp here
  exact (backed.swap inside (by omega)).dropLast (getElem?_swap_last here)

theorem pop (backed : schedule.Backed) : schedule.pop.1.Backed := by
  cases root : schedule.first? with
  | none =>
      rw [pop_of_empty root]
      exact backed
  | some id =>
      rw [pop_eq root]
      exact (backed.swap_dropLast root).siftDown 0

/-- A removal takes one of the places of the slot away before it repairs the order. -/
theorem remove_eq (backed : schedule.Backed) {id : SlotId} {place : Nat}
    (recorded : schedule.positionOf id = some place) :
    ∃ shortened : Schedule K V, shortened.Backed ∧
      (id :: shortened.heap.toList).Perm schedule.heap.toList ∧
      (schedule.remove id).1 =
        if place < shortened.heap.size then shortened.settle place else shortened := by
  have here := backed id place recorded
  refine ⟨(if place = schedule.heap.size - 1 then schedule
    else schedule.swap place (schedule.heap.size - 1)).dropLast id, ?_, ?_, ?_⟩
  · split
    · rename_i last
      exact backed.dropLast (last ▸ here)
    · exact backed.swap_dropLast here
  · split
    · rename_i last
      exact heap_dropLast_perm (last ▸ here)
    · exact heap_swap_dropLast_perm here
  · simp [Schedule.remove, recorded]

theorem remove (backed : schedule.Backed) (id : SlotId) : (schedule.remove id).1.Backed := by
  cases recorded : schedule.positionOf id with
  | none =>
      rw [remove_of_unqueued recorded]
      exact backed
  | some place =>
      obtain ⟨shortened, short, -, result⟩ := backed.remove_eq recorded
      rw [result]
      split
      · rename_i inside
        exact short.settle inside
      · exact short

theorem fix (backed : schedule.Backed) (id : SlotId) : (schedule.fix id).Backed := by
  unfold Schedule.fix
  split
  · exact backed
  · rename_i place recorded
    exact backed.settle (backed.lt_size recorded)

/-! ## Entries that come, change and go -/

theorem update (backed : schedule.Backed) (id : SlotId) {change : Entry K V → Entry K V}
    (kept : ∀ entry, (change entry).position = entry.position) :
    (schedule.update id change).Backed := by
  refine backed.forget ?_ rfl
  intro other place recorded
  rw [positionOf_update schedule id other kept] at recorded
  exact recorded

/-- An entry in a slot used again knows of no place, even if the heap still names the slot. -/
theorem insert (backed : schedule.Backed) (slots : schedule.entries.Valid) {entry : Entry K V}
    (unplaced : entry.position = none) : (schedule.insert entry).1.Backed := by
  refine backed.forget ?_ rfl
  intro other place recorded
  rw [positionOf_insert slots unplaced] at recorded
  exact recorded

theorem discard (backed : schedule.Backed) (id : SlotId) : (schedule.discard id).1.Backed := by
  refine backed.forget ?_ rfl
  intro other place recorded
  rw [positionOf, get?_discard_entries] at recorded
  split at recorded
  · cases recorded
  · exact recorded

end Backed

/-! ## Every operation of every client -/

/-- What no client can break. -/
structure Safe (schedule : Schedule K V) : Prop where
  slots : schedule.entries.Valid
  backed : schedule.Backed

theorem safe_empty : ({} : Schedule K V).Safe where
  slots := SlotTable.valid_empty
  backed id place recorded := by simp [positionOf] at recorded

theorem Safe.perform {schedule : Schedule K V} (safe : schedule.Safe)
    (operation : Operation K V) : (schedule.perform operation).Safe := by
  cases operation with
  | insert key value lifetime deadline =>
      exact ⟨safe.slots.insert _, safe.backed.insert safe.slots rfl⟩
  | discard id => exact ⟨safe.slots.erase id, safe.backed.discard id⟩
  | rewrite id value lifetime => exact ⟨safe.slots.modify id _, safe.backed.update id fun _ => rfl⟩
  | redate id deadline => exact ⟨safe.slots.modify id _, safe.backed.update id fun _ => rfl⟩
  | reschedule id deadline =>
      have redated : (schedule.update id fun entry => { entry with deadline }).Backed :=
        safe.backed.update id fun _ => rfl
      exact ⟨slots_congr (safe.slots.modify id _) (contents_fix _ id), redated.fix id⟩
  | push id => exact ⟨slots_congr safe.slots (contents_push _ id), safe.backed.push id⟩
  | pop => exact ⟨slots_congr safe.slots (contents_pop _), safe.backed.pop⟩
  | remove id => exact ⟨slots_congr safe.slots (contents_remove _ id), safe.backed.remove id⟩
  | fix id => exact ⟨slots_congr safe.slots (contents_fix _ id), safe.backed.fix id⟩
  | clear => exact safe_empty

/-! ## What the heap holds

A slot is counted as often as it stands in the heap.
-/

/-- The slots that an operation puts into the heap. -/
def taken : Operation K V → List SlotId
  | .push id => [id]
  | _ => []

/-- The slots that an operation takes out of the heap, by what it answers. -/
def givenBack (schedule : Schedule K V) : Operation K V → List SlotId
  | .pop => schedule.pop.2.toList
  | .remove id => if (schedule.remove id).2 then [id] else []
  | .clear => schedule.heap.toList
  | _ => []

theorem heap_push_perm (schedule : Schedule K V) (id : SlotId) :
    (schedule.push id).heap.toList.Perm (id :: schedule.heap.toList) := by
  refine (heap_siftUp_perm _ _).toList.trans ?_
  rw [heap_setPosition, Array.toList_push]
  exact List.perm_append_singleton id _

theorem heap_fix_perm (schedule : Schedule K V) (id : SlotId) :
    (schedule.fix id).heap.toList.Perm schedule.heap.toList := by
  unfold fix
  split
  · exact .refl _
  · exact (heap_settle_perm _ _).toList

/-- Taking a slot out removes one of the places where it stands. -/
theorem Backed.heap_remove_perm {schedule : Schedule K V} (backed : schedule.Backed)
    {id : SlotId} {place : Nat} (recorded : schedule.positionOf id = some place) :
    (id :: (schedule.remove id).1.heap.toList).Perm schedule.heap.toList := by
  obtain ⟨shortened, -, short, result⟩ := backed.remove_eq recorded
  rw [result]
  split
  · exact ((heap_settle_perm _ _).toList.cons id).trans short
  · exact short

/-- What is in the heap and what is given back is what was in the heap and what is taken. -/
theorem Safe.heap_perform_perm {schedule : Schedule K V} (safe : schedule.Safe)
    (operation : Operation K V) :
    (schedule.givenBack operation ++ (schedule.perform operation).heap.toList).Perm
      (taken operation ++ schedule.heap.toList) := by
  cases operation with
  | insert key value lifetime deadline => exact .refl _
  | discard id => exact .refl _
  | rewrite id value lifetime => exact .refl _
  | redate id deadline => exact .refl _
  | reschedule id deadline => exact heap_fix_perm _ id
  | push id => exact schedule.heap_push_perm id
  | pop =>
      change (schedule.pop.2.toList ++ schedule.pop.1.heap.toList).Perm schedule.heap.toList
      rw [pop_snd]
      cases root : schedule.first? with
      | none =>
          rw [pop_of_empty root]
          exact .refl _
      | some id => exact heap_pop_perm root
  | remove id =>
      change ((if (schedule.remove id).2 then [id] else []) ++
        (schedule.remove id).1.heap.toList).Perm schedule.heap.toList
      rw [remove_snd]
      cases recorded : schedule.positionOf id with
      | none =>
          rw [remove_of_unqueued recorded]
          exact .refl _
      | some place => exact safe.backed.heap_remove_perm recorded
  | fix id => exact schedule.heap_fix_perm id
  | clear => exact .of_eq (List.append_nil _)

end Schedule

end ExpiringCache
