import ExpiringCache.Proofs.Schedule.Order

/-!
# Queue

Queueing, taking out and repairing keep places and order.  Queueing adds one
slot to those with a place, taking out removes one, and repairing keeps them.
-/

namespace ExpiringCache

namespace Schedule

variable {K V : Type} {schedule : Schedule K V}

namespace Placed

/-- Two schedules that queue the same slots give places to the same slots. -/
theorem isSome_positionOf_congr {other : Schedule K V} (placed : schedule.Placed)
    (otherPlaced : other.Placed) (same : other.heap.Perm schedule.heap) (id : SlotId) :
    (other.positionOf id).isSome = (schedule.positionOf id).isSome := by
  rw [Bool.eq_iff_iff, ← placed.mem_heap_iff, ← otherPlaced.mem_heap_iff]
  exact same.mem_iff

/-- A queued slot stands in the heap. -/
theorem getElem?_heap (placed : schedule.Placed) {id : SlotId} {place : Nat}
    (recorded : schedule.positionOf id = some place) : schedule.heap[place]? = some id :=
  (placed id place).mp recorded

theorem lt_size (placed : schedule.Placed) {id : SlotId} {place : Nat}
    (recorded : schedule.positionOf id = some place) : place < schedule.heap.size :=
  (Array.getElem?_eq_some_iff.mp (placed.getElem?_heap recorded)).1

end Placed

/-! ## Queueing -/

theorem Placed.push (placed : schedule.Placed) {id : SlotId}
    (stored : (schedule.entries.get? id).isSome = true) (unqueued : schedule.positionOf id = none) :
    (schedule.push id).Placed := by
  unfold Schedule.push
  exact (placed.append stored unqueued).siftUp (by simp)

theorem Ordered.push (ordered : schedule.Ordered) (id : SlotId) : (schedule.push id).Ordered := by
  unfold Schedule.push
  generalize appended_def : { schedule with heap := schedule.heap.push id }.setPosition id
    (some schedule.heap.size) = appended
  have size : appended.heap.size = schedule.heap.size + 1 := by simp [← appended_def]
  have contents : appended.contents = schedule.contents := by simp [← appended_def]
  have same (place : Nat) (inside : place < schedule.heap.size) :
      appended.deadlineAt place = schedule.deadlineAt place := by
    refine deadlineAt_congr contents ?_
    rw [← appended_def, heap_setPosition, Array.getElem?_push, if_neg (by omega)]
  have childless (place : Nat) (placeInside : place < appended.heap.size) (positive : 0 < place) :
      (place - 1) / 2 ≠ schedule.heap.size := by omega
  refine OrderedBut.siftUp ⟨?_, ?_⟩ (by omega) ?_
  · intro place positive placeInside here _
    rw [earlier, same place (by omega), same ((place - 1) / 2) (by omega)]
    exact ordered place positive (by omega)
  · intro _ place positive placeInside child
    exact absurd child (childless place placeInside positive)
  · intro place positive placeInside child
    exact absurd child (childless place placeInside positive)

theorem isSome_positionOf_push (placed : schedule.Placed) {id : SlotId}
    (stored : (schedule.entries.get? id).isSome = true) (unqueued : schedule.positionOf id = none)
    (other : SlotId) :
    ((schedule.push id).positionOf other).isSome =
      if id = other then true else (schedule.positionOf other).isSome := by
  have appended := placed.append stored unqueued
  have pushed := placed.push stored unqueued
  unfold Schedule.push at pushed ⊢
  rw [appended.isSome_positionOf_congr pushed (heap_siftUp_perm _ _)]
  by_cases same : id = other
  · subst same
    rw [positionOf_setPosition_self _ (by exact stored), if_pos rfl]
    rfl
  · rw [positionOf_setPosition_of_ne _ same, if_neg same]
    rfl

/-! ## Taking out -/

/-- A slot exchanged with the last one stands at the last heap place. -/
theorem getElem?_swap_last {id : SlotId} {place : Nat} (here : schedule.heap[place]? = some id) :
    (schedule.swap place (schedule.heap.size - 1)).heap[
      (schedule.swap place (schedule.heap.size - 1)).heap.size - 1]? = some id := by
  obtain ⟨inside, -⟩ := Array.getElem?_eq_some_iff.mp here
  have lastInside : schedule.heap.size - 1 < schedule.heap.size := by omega
  have size : (schedule.swap place (schedule.heap.size - 1)).heap.size = schedule.heap.size := by
    simp
  rw [size, getElem?_heap_swap here (Array.getElem?_eq_getElem lastInside), if_pos rfl]

theorem heap_swap_dropLast_perm {id : SlotId} {place : Nat}
    (here : schedule.heap[place]? = some id) :
    (id :: ((schedule.swap place (schedule.heap.size - 1)).dropLast id).heap.toList).Perm
      schedule.heap.toList :=
  (heap_dropLast_perm (getElem?_swap_last here)).trans (heap_swap_perm _ _ _).toList

/--
Brings a queued slot to the last heap place and takes that place away: what
taking out does before it repairs the order.
-/
structure Shortens (schedule shortened : Schedule K V) (id : SlotId) (place : Nat) : Prop where
  placed : shortened.Placed
  size : shortened.heap.size = schedule.heap.size - 1
  contents : shortened.contents = schedule.contents
  positions : ∀ other, (shortened.positionOf other).isSome =
    if id = other then false else (schedule.positionOf other).isSome
  deadlines : ∀ other, other < shortened.heap.size → other ≠ place →
    shortened.deadlineAt other = schedule.deadlineAt other

namespace Shortens

theorem dropLast (placed : schedule.Placed) {id : SlotId}
    (last : schedule.heap[schedule.heap.size - 1]? = some id) (place : Nat) :
    schedule.Shortens (schedule.dropLast id) id place where
  placed := placed.dropLast last
  size := by simp
  contents := by simp
  positions other := by
    by_cases same : id = other
    · subst same
      rw [Schedule.dropLast, positionOf_setPosition_self _ (by exact placed.isSome_get? last),
        if_pos rfl]
      rfl
    · unfold Schedule.dropLast
      rw [positionOf_setPosition_of_ne _ same, if_neg same]
      rfl
  deadlines other inside _ := by
    refine deadlineAt_congr (by simp) ?_
    simp only [size_heap_dropLast] at inside
    simp only [Schedule.dropLast, heap_setPosition, Array.getElem?_pop, if_pos inside]

theorem swap_dropLast (placed : schedule.Placed) {id : SlotId} {place : Nat}
    (here : schedule.heap[place]? = some id) :
    schedule.Shortens ((schedule.swap place (schedule.heap.size - 1)).dropLast id) id place := by
  obtain ⟨inside, -⟩ := Array.getElem?_eq_some_iff.mp here
  have lastInside : schedule.heap.size - 1 < schedule.heap.size := by omega
  have swappedPlaced := placed.swap inside lastInside
  have size : (schedule.swap place (schedule.heap.size - 1)).heap.size = schedule.heap.size := by
    simp
  have dropped := Shortens.dropLast swappedPlaced (getElem?_swap_last here) place
  refine ⟨dropped.placed, by rw [dropped.size, size], by simp, ?_, ?_⟩
  · intro other
    rw [dropped.positions, placed.isSome_positionOf_congr swappedPlaced (heap_swap_perm _ _ _)]
  · intro other otherInside elsewhere
    rw [dropped.deadlines other otherInside elsewhere, deadlineAt_swap inside lastInside]
    have before : other < schedule.heap.size - 1 := by
      rw [dropped.size, size] at otherInside
      exact otherInside
    rw [if_neg (by omega), if_neg (Ne.symm elsewhere)]

/-- Only the place of the slot that was taken out may be out of order. -/
theorem orderedBut {shortened : Schedule K V} {id : SlotId} {place : Nat}
    (shortens : schedule.Shortens shortened id place) (but : schedule.OrderedBut place) :
    shortened.OrderedBut place := by
  have size := shortens.size
  constructor
  · intro other positive inside here parent
    rw [earlier, shortens.deadlines other inside here,
      shortens.deadlines ((other - 1) / 2) (by omega) parent]
    exact but.away other positive (by omega) here parent
  · intro placePositive other positive inside child
    rw [earlier, shortens.deadlines other inside (by omega),
      shortens.deadlines ((place - 1) / 2) (by omega) (by omega)]
    exact but.across placePositive other positive (by omega) child

end Shortens

/-- A gap beyond the heap is no gap. -/
theorem OrderedBut.ordered_of_outside {gap : Nat} (but : schedule.OrderedBut gap)
    (outside : schedule.heap.size ≤ gap) : schedule.Ordered := by
  intro place positive inside
  exact but.away place positive inside (by omega) (by omega)

/-- What taking a queued slot out comes to. -/
theorem remove_eq {id : SlotId} {place : Nat} (placed : schedule.Placed)
    (recorded : schedule.positionOf id = some place) :
    ∃ shortened, schedule.Shortens shortened id place ∧
      (schedule.remove id).1 =
        if place < shortened.heap.size then shortened.settle place else shortened := by
  have here := placed.getElem?_heap recorded
  refine ⟨(if place = schedule.heap.size - 1 then schedule
    else schedule.swap place (schedule.heap.size - 1)).dropLast id, ?_, ?_⟩
  · split
    · rename_i last
      exact Shortens.dropLast placed (last ▸ here) place
    · exact Shortens.swap_dropLast placed here
  · simp [remove, recorded]

/-- Taking out succeeds exactly for queued slots. -/
theorem remove_snd (schedule : Schedule K V) (id : SlotId) :
    (schedule.remove id).2 = (schedule.positionOf id).isSome := by
  unfold remove
  split
  · rename_i unqueued
    rw [unqueued]
    rfl
  · rename_i place recorded
    rw [recorded]
    rfl

theorem remove_of_unqueued {id : SlotId} (unqueued : schedule.positionOf id = none) :
    (schedule.remove id).1 = schedule := by
  simp [remove, unqueued]

theorem Placed.remove (placed : schedule.Placed) (id : SlotId) :
    (schedule.remove id).1.Placed := by
  cases recorded : schedule.positionOf id with
  | none =>
      rw [remove_of_unqueued recorded]
      exact placed
  | some place =>
      obtain ⟨shortened, shortens, result⟩ := remove_eq placed recorded
      rw [result]
      split
      · rename_i inside
        exact shortens.placed.settle inside
      · exact shortens.placed

/-- Taking a slot out also repairs an order that was broken at its place. -/
theorem OrderedBut.remove {id : SlotId} {place : Nat} (but : schedule.OrderedBut place)
    (placed : schedule.Placed) (recorded : schedule.positionOf id = some place) :
    (schedule.remove id).1.Ordered := by
  obtain ⟨shortened, shortens, result⟩ := remove_eq placed recorded
  have shortenedBut := shortens.orderedBut but
  rw [result]
  split
  · rename_i inside
    exact shortenedBut.settle inside
  · rename_i outside
    exact shortenedBut.ordered_of_outside (by omega)

theorem Ordered.remove (ordered : schedule.Ordered) (placed : schedule.Placed) (id : SlotId) :
    (schedule.remove id).1.Ordered := by
  cases recorded : schedule.positionOf id with
  | none =>
      rw [remove_of_unqueued recorded]
      exact ordered
  | some place => exact (ordered.orderedBut place).remove placed recorded

theorem isSome_positionOf_remove (placed : schedule.Placed) (id other : SlotId) :
    ((schedule.remove id).1.positionOf other).isSome =
      if id = other then false else (schedule.positionOf other).isSome := by
  cases recorded : schedule.positionOf id with
  | none =>
      rw [remove_of_unqueued recorded]
      split
      · rename_i same
        subst same
        simp [recorded]
      · rfl
  | some place =>
      obtain ⟨shortened, shortens, result⟩ := remove_eq placed recorded
      rw [← shortens.positions other, result]
      split
      · rename_i inside
        exact shortens.placed.isSome_positionOf_congr (shortens.placed.settle inside)
          (heap_settle_perm _ _) other
      · rfl

/-! ## Taking the root out -/

theorem pop_eq {id : SlotId} (root : schedule.first? = some id) :
    schedule.pop.1 = ((schedule.swap 0 (schedule.heap.size - 1)).dropLast id).siftDown 0 := by
  simp [pop, root]

theorem pop_snd (schedule : Schedule K V) : schedule.pop.2 = schedule.first? := by
  unfold pop
  split
  · rename_i empty
    exact empty.symm
  · rename_i id root
    exact root.symm

theorem pop_of_empty (empty : schedule.first? = none) : schedule.pop.1 = schedule := by
  simp [pop, empty]

/-- Popping takes the root out of the heap and nothing else. -/
theorem heap_pop_perm {id : SlotId} (root : schedule.first? = some id) :
    (id :: schedule.pop.1.heap.toList).Perm schedule.heap.toList := by
  rw [pop_eq root]
  exact ((heap_siftDown_perm _ 0).toList.cons id).trans (heap_swap_dropLast_perm root)

theorem Placed.pop (placed : schedule.Placed) {id : SlotId} (root : schedule.first? = some id) :
    schedule.pop.1.Placed := by
  rw [pop_eq root]
  exact (Shortens.swap_dropLast placed root).placed.siftDown 0

theorem Ordered.pop (ordered : schedule.Ordered) (placed : schedule.Placed) {id : SlotId}
    (root : schedule.first? = some id) : schedule.pop.1.Ordered := by
  rw [pop_eq root]
  have shortenedBut := (Shortens.swap_dropLast placed root).orderedBut (ordered.orderedBut 0)
  refine shortenedBut.siftDown ?_
  intro positive
  exact absurd positive (Nat.lt_irrefl 0)

theorem isSome_positionOf_pop (placed : schedule.Placed) {id : SlotId}
    (root : schedule.first? = some id) (other : SlotId) :
    (schedule.pop.1.positionOf other).isSome =
      if id = other then false else (schedule.positionOf other).isSome := by
  have shortens := Shortens.swap_dropLast placed root
  rw [pop_eq root, ← shortens.positions other]
  exact shortens.placed.isSome_positionOf_congr (shortens.placed.siftDown 0)
    (heap_siftDown_perm _ _) other

/-- No queued slot is due before the root. -/
theorem Ordered.root_noLater (ordered : schedule.Ordered) {id other : SlotId}
    (root : schedule.first? = some id) (listed : other ∈ schedule.heap) :
    NoLater (schedule.deadlineOf id) (schedule.deadlineOf other) := by
  obtain ⟨place, here⟩ := Array.mem_iff_getElem?.mp listed
  have first := ordered.root_first place (Array.getElem?_eq_some_iff.mp here).1
  rw [earlier, deadlineAt_eq here, deadlineAt_eq root] at first
  exact not_precedes_iff.mp first

/-- Draining takes all queued slots out, the earliest deadline first. -/
theorem drain_by_deadline (placed : schedule.Placed) (ordered : schedule.Ordered) :
    schedule.drain.1.heap = #[] ∧ schedule.drain.2.Perm schedule.heap.toList ∧
      schedule.drain.2.Pairwise fun early late =>
        NoLater (schedule.deadlineOf early) (schedule.deadlineOf late) := by
  fun_induction drain schedule with
  | case1 schedule empty =>
      obtain none := Array.eq_empty_of_size_eq_zero empty
      exact ⟨none, by rw [none], .nil⟩
  | case2 schedule nonempty popped emptied later rest ih =>
      have inside : 0 < schedule.heap.size := Nat.pos_of_ne_zero nonempty
      have root : schedule.first? = some schedule.heap[0] := Array.getElem?_eq_getElem inside
      generalize schedule.heap[0] = id at root
      have taken : popped.2 = some id := (pop_snd schedule).trans root
      have shorter := heap_pop_perm root
      obtain ⟨emptiedHeap, laterPerm, laterSorted⟩ := ih (placed.pop root) (ordered.pop placed root)
      rw [rest] at emptiedHeap laterPerm laterSorted
      have deadlines := deadlineOf_congr (contents_pop schedule)
      rw [taken]
      refine ⟨emptiedHeap, (laterPerm.cons id).trans shorter, List.pairwise_cons.mpr ⟨?_, ?_⟩⟩
      · intro other listed
        have queued := shorter.subset (List.mem_cons_of_mem id (laterPerm.subset listed))
        exact ordered.root_noLater root (Array.mem_toList_iff.mp queued)
      · refine laterSorted.imp ?_
        intro early late inOrder
        rw [deadlines, deadlines] at inOrder
        exact inOrder

/-! ## Repairing -/

theorem Placed.fix (placed : schedule.Placed) (id : SlotId) : (schedule.fix id).Placed := by
  unfold Schedule.fix
  split
  · exact placed
  · rename_i place recorded
    exact placed.settle (placed.lt_size recorded)

theorem OrderedBut.fix {id : SlotId} {place : Nat} (but : schedule.OrderedBut place)
    (placed : schedule.Placed) (recorded : schedule.positionOf id = some place) :
    (schedule.fix id).Ordered := by
  rw [Schedule.fix, recorded]
  exact but.settle (placed.lt_size recorded)

theorem isSome_positionOf_fix (placed : schedule.Placed) (id other : SlotId) :
    ((schedule.fix id).positionOf other).isSome = (schedule.positionOf other).isSome := by
  refine placed.isSome_positionOf_congr (placed.fix id) ?_ other
  unfold Schedule.fix
  split
  · exact .refl _
  · exact heap_settle_perm _ _

/-! ## A deadline changed in place -/

/-- A change of one entry moves no deadline but its own. -/
theorem deadlineAt_update {id : SlotId} {place : Nat} (placed : schedule.Placed)
    (change : Entry K V → Entry K V) (elsewhere : schedule.positionOf id ≠ some place) :
    (schedule.update id change).deadlineAt place = schedule.deadlineAt place := by
  unfold deadlineAt
  rw [heap_update]
  cases here : schedule.heap[place]? with
  | none => rfl
  | some other =>
      have different : id ≠ other := by
        rintro rfl
        exact elsewhere ((placed id place).mpr here)
      simp [deadlineOf, update, SlotTable.get?_modify, different]

/-- A change of one entry breaks the order at most at its place. -/
theorem Ordered.update (ordered : schedule.Ordered) (placed : schedule.Placed) {id : SlotId}
    {place : Nat} (recorded : schedule.positionOf id = some place)
    (change : Entry K V → Entry K V) : (schedule.update id change).OrderedBut place := by
  have same (other : Nat) (elsewhere : other ≠ place) :
      (schedule.update id change).deadlineAt other = schedule.deadlineAt other := by
    refine deadlineAt_update placed change ?_
    rw [recorded]
    rintro ⟨⟩
    exact elsewhere rfl
  constructor
  · intro other positive inside here parent
    rw [earlier, same other here, same ((other - 1) / 2) parent]
    exact ordered other positive inside
  · intro placePositive other positive inside child
    rw [earlier, same other (by omega), same ((place - 1) / 2) (by omega)]
    exact (ordered.orderedBut place).across placePositive other positive inside child

/-- A change of an entry that is not queued leaves the order alone. -/
theorem Ordered.update_of_unqueued (ordered : schedule.Ordered) (placed : schedule.Placed)
    {id : SlotId} (unqueued : schedule.positionOf id = none) (change : Entry K V → Entry K V) :
    (schedule.update id change).Ordered := by
  intro place positive inside
  rw [earlier, deadlineAt_update placed change (by simp [unqueued]),
    deadlineAt_update placed change (by simp [unqueued])]
  exact ordered place positive inside

end Schedule

end ExpiringCache
