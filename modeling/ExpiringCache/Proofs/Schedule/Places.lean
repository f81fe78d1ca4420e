import ExpiringCache.Schedule

/-!
# Places

Every queued entry knows its place in the heap, and every heap place names the
entry that knows it.  The moves in the heap keep the two in step, and none of
them changes which slots are queued or what is stored in them.
-/

namespace ExpiringCache

namespace Schedule

variable {K V : Type}

/-- Recorded places and heap places are the same relation between slots and numbers. -/
def Placed (schedule : Schedule K V) : Prop :=
  ∀ id place, schedule.positionOf id = some place ↔ schedule.heap[place]? = some id

/-! ## What is read off the contents -/

theorem deadlineOf_eq (schedule : Schedule K V) (id : SlotId) :
    schedule.deadlineOf id = (schedule.contents.get? id).bind Entry.deadline := by
  rw [deadlineOf, contents, SlotTable.get?_map]
  cases schedule.entries.get? id <;> rfl

theorem deadlineOf_congr {left right : Schedule K V} (same : left.contents = right.contents)
    (id : SlotId) : left.deadlineOf id = right.deadlineOf id := by
  rw [deadlineOf_eq, deadlineOf_eq, same]

theorem isSome_get?_contents (schedule : Schedule K V) (id : SlotId) :
    (schedule.contents.get? id).isSome = (schedule.entries.get? id).isSome := by
  simp [contents]

/-- An entry that has a place is stored. -/
theorem isSome_get?_of_positionOf {schedule : Schedule K V} {id : SlotId} {place : Nat}
    (recorded : schedule.positionOf id = some place) :
    (schedule.entries.get? id).isSome = true := by
  unfold positionOf at recorded
  cases stored : schedule.entries.get? id with
  | none => simp [stored] at recorded
  | some entry => rfl

/-! ## Recorded places after a change -/

theorem positionOf_setPosition (schedule : Schedule K V) (id other : SlotId)
    (position : Option Nat) :
    (schedule.setPosition id position).positionOf other =
      if id = other then (schedule.entries.get? id).bind fun _ => position
      else schedule.positionOf other := by
  unfold positionOf setPosition
  rw [SlotTable.get?_modify]
  by_cases same : id = other
  · subst same
    cases schedule.entries.get? id <;> simp
  · simp [same]

theorem positionOf_setPosition_self {schedule : Schedule K V} {id : SlotId}
    (position : Option Nat) (stored : (schedule.entries.get? id).isSome = true) :
    (schedule.setPosition id position).positionOf id = position := by
  obtain ⟨entry, found⟩ := Option.isSome_iff_exists.mp stored
  simp [positionOf_setPosition, found]

theorem positionOf_setPosition_of_ne {schedule : Schedule K V} {id other : SlotId}
    (position : Option Nat) (different : id ≠ other) :
    (schedule.setPosition id position).positionOf other = schedule.positionOf other := by
  simp [positionOf_setPosition, different]

/-- Changes that leave the place of an entry alone leave all places alone. -/
theorem positionOf_update (schedule : Schedule K V) (id other : SlotId)
    {change : Entry K V → Entry K V} (kept : ∀ entry, (change entry).position = entry.position) :
    (schedule.update id change).positionOf other = schedule.positionOf other := by
  unfold positionOf update
  rw [SlotTable.get?_modify]
  by_cases same : id = other
  · subst same
    cases schedule.entries.get? id <;> simp [kept]
  · simp [same]

@[simp] theorem heap_update (schedule : Schedule K V) (id : SlotId)
    (change : Entry K V → Entry K V) : (schedule.update id change).heap = schedule.heap := rfl

theorem recordPlace_eq {schedule : Schedule K V} {place : Nat} {id : SlotId}
    (here : schedule.heap[place]? = some id) :
    schedule.recordPlace place = schedule.setPosition id (some place) := by
  rw [recordPlace, here]

theorem getElem?_heap_swap {schedule : Schedule K V} {left right : Nat} {first second : SlotId}
    (atLeft : schedule.heap[left]? = some first) (atRight : schedule.heap[right]? = some second)
    (place : Nat) :
    (schedule.swap left right).heap[place]? =
      if right = place then some first else if left = place then some second
      else schedule.heap[place]? := by
  obtain ⟨leftInside, rfl⟩ := Array.getElem?_eq_some_iff.mp atLeft
  obtain ⟨rightInside, rfl⟩ := Array.getElem?_eq_some_iff.mp atRight
  rw [heap_swap, Array.swapIfInBounds_def, dif_pos leftInside, dif_pos rightInside,
    Array.getElem?_swap]

/-- A slot that is not exchanged stands where it stood. -/
theorem getElem?_heap_swap_of_ne {schedule : Schedule K V} {left right : Nat}
    {first second id : SlotId} (atLeft : schedule.heap[left]? = some first)
    (atRight : schedule.heap[right]? = some second) (notFirst : first ≠ id)
    (notSecond : second ≠ id) (place : Nat) :
    (schedule.swap left right).heap[place]? = some id ↔ schedule.heap[place]? = some id := by
  rw [getElem?_heap_swap atLeft atRight]
  constructor
  · intro here
    split at here
    · exact absurd (Option.some.inj here) notFirst
    · split at here
      · exact absurd (Option.some.inj here) notSecond
      · exact here
  · intro here
    have notRight : right ≠ place := by
      rintro rfl
      exact notSecond (Option.some.inj (atRight.symm.trans here))
    have notLeft : left ≠ place := by
      rintro rfl
      exact notFirst (Option.some.inj (atLeft.symm.trans here))
    rw [if_neg notRight, if_neg notLeft]
    exact here

/-- What an exchange of two heap places comes to: both slots are told their new places. -/
theorem swap_eq {schedule : Schedule K V} {left right : Nat} {first second : SlotId}
    (atLeft : schedule.heap[left]? = some first) (atRight : schedule.heap[right]? = some second) :
    schedule.swap left right =
      ({ schedule with heap := schedule.heap.swapIfInBounds left right }.setPosition second
        (some left)).setPosition first (some right) := by
  have moved := getElem?_heap_swap atLeft atRight
  simp only [heap_swap] at moved
  have newRight : (schedule.heap.swapIfInBounds left right)[right]? = some first := by
    simp [moved]
  have newLeft : (schedule.heap.swapIfInBounds left right)[left]? = some second := by
    rw [moved]
    split
    · rename_i same
      subst same
      exact atLeft.symm.trans atRight
    · simp
  let exchanged := { schedule with heap := schedule.heap.swapIfInBounds left right }
  have recordedLeft : exchanged.recordPlace left = exchanged.setPosition second (some left) :=
    recordPlace_eq newLeft
  change (exchanged.recordPlace left).recordPlace right = _
  rw [recordedLeft]
  exact recordPlace_eq newRight

/-- Both exchanged entries learn their new places, and no other place changes. -/
theorem positionOf_swap {schedule : Schedule K V} {left right : Nat} {first second : SlotId}
    (placed : schedule.Placed) (atLeft : schedule.heap[left]? = some first)
    (atRight : schedule.heap[right]? = some second) (id : SlotId) :
    (schedule.swap left right).positionOf id =
      if first = id then some right else if second = id then some left
      else schedule.positionOf id := by
  have firstStored := isSome_get?_of_positionOf ((placed first left).mpr atLeft)
  have secondStored := isSome_get?_of_positionOf ((placed second right).mpr atRight)
  let exchanged := { schedule with heap := schedule.heap.swapIfInBounds left right }
  rw [swap_eq atLeft atRight]
  have stillStored :
      ((exchanged.setPosition second (some left)).entries.get? first).isSome = true := by
    rw [← isSome_get?_contents, contents_setPosition, contents_heap, isSome_get?_contents]
    exact firstStored
  by_cases isFirst : first = id
  · subst isFirst
    rw [positionOf_setPosition_self _ stillStored, if_pos rfl]
  · rw [positionOf_setPosition_of_ne _ isFirst, if_neg isFirst]
    by_cases isSecond : second = id
    · subst isSecond
      rw [positionOf_setPosition_self _ (by exact secondStored), if_pos rfl]
    · rw [positionOf_setPosition_of_ne _ isSecond, if_neg isSecond]
      rfl

/-! ## Which slots are queued -/

theorem heap_swap_perm (schedule : Schedule K V) (left right : Nat) :
    (schedule.swap left right).heap.Perm schedule.heap := by
  rw [heap_swap, Array.swapIfInBounds_def]
  split
  · split
    · exact Array.swap_perm _ _
    · exact .refl _
  · exact .refl _

theorem heap_siftUp_perm (schedule : Schedule K V) (place : Nat) :
    (schedule.siftUp place).heap.Perm schedule.heap := by
  fun_induction siftUp schedule place with
  | case1 schedule place _ ih => exact ih.trans (schedule.heap_swap_perm _ _)
  | case2 => exact .refl _

theorem heap_siftDown_perm (schedule : Schedule K V) (place : Nat) :
    (schedule.siftDown place).heap.Perm schedule.heap := by
  fun_induction siftDown schedule place with
  | case1 schedule place _ ih => exact ih.trans (schedule.heap_swap_perm _ _)
  | case2 => exact .refl _

theorem heap_settle_perm (schedule : Schedule K V) (place : Nat) :
    (schedule.settle place).heap.Perm schedule.heap := by
  unfold settle
  split
  · exact schedule.heap_siftUp_perm place
  · exact schedule.heap_siftDown_perm place

/-- Without its last place the heap lacks the slot that stood there. -/
theorem heap_dropLast_perm {schedule : Schedule K V} {id : SlotId}
    (last : schedule.heap[schedule.heap.size - 1]? = some id) :
    (id :: (schedule.dropLast id).heap.toList).Perm schedule.heap.toList := by
  have ends : schedule.heap.toList.getLast? = some id := by
    rw [List.getLast?_eq_getElem?, Array.length_toList, Array.getElem?_toList]
    exact last
  obtain ⟨others, whole⟩ := List.getLast?_eq_some_iff.mp ends
  rw [dropLast, heap_setPosition, Array.toList_pop, whole, List.dropLast_concat]
  exact (List.perm_append_singleton id others).symm

/-! ## The moves keep entries and heap in step -/

namespace Placed

variable {schedule : Schedule K V}

/-- No slot stands at two places. -/
theorem injective (placed : schedule.Placed) {left right : Nat} {id : SlotId}
    (atLeft : schedule.heap[left]? = some id) (atRight : schedule.heap[right]? = some id) :
    left = right :=
  Option.some.inj (((placed id left).mpr atLeft).symm.trans ((placed id right).mpr atRight))

theorem nodup_heap (placed : schedule.Placed) : schedule.heap.toList.Nodup := by
  refine List.pairwise_iff_getElem.mpr ?_
  intro left right leftInside rightInside before same
  have atLeft : schedule.heap[left]? = some schedule.heap.toList[left] := by
    rw [← Array.getElem?_toList, List.getElem?_eq_getElem leftInside]
  have atRight : schedule.heap[right]? = some schedule.heap.toList[left] := by
    rw [← Array.getElem?_toList, List.getElem?_eq_getElem rightInside, same]
  have equal := placed.injective atLeft atRight
  omega

theorem mem_heap_iff (placed : schedule.Placed) (id : SlotId) :
    id ∈ schedule.heap ↔ (schedule.positionOf id).isSome = true := by
  rw [Array.mem_iff_getElem?, Option.isSome_iff_exists]
  simp only [placed id]

/-- Every slot in the heap holds an entry. -/
theorem isSome_get? (placed : schedule.Placed) {id : SlotId} {place : Nat}
    (here : schedule.heap[place]? = some id) : (schedule.entries.get? id).isSome = true :=
  isSome_get?_of_positionOf ((placed id place).mpr here)

/-- Changes that leave heap and places alone keep them in step. -/
theorem congr {other : Schedule K V} (placed : schedule.Placed)
    (positions : ∀ id, other.positionOf id = schedule.positionOf id)
    (heaps : other.heap = schedule.heap) : other.Placed := by
  intro id place
  rw [positions, heaps]
  exact placed id place

theorem swap (placed : schedule.Placed) {left right : Nat}
    (leftInside : left < schedule.heap.size) (rightInside : right < schedule.heap.size) :
    (schedule.swap left right).Placed := by
  have atLeft := Array.getElem?_eq_getElem leftInside
  have atRight := Array.getElem?_eq_getElem rightInside
  generalize schedule.heap[left] = first at atLeft
  generalize schedule.heap[right] = second at atRight
  intro id place
  rw [positionOf_swap placed atLeft atRight]
  by_cases isFirst : first = id
  · subst isFirst
    rw [if_pos rfl, getElem?_heap_swap atLeft atRight]
    constructor
    · rintro ⟨⟩
      simp
    · intro here
      split at here
      · simp_all
      · split at here
        · have := placed.injective atLeft (here ▸ atRight)
          simp_all
        · have := placed.injective atLeft here
          simp_all
  · rw [if_neg isFirst]
    by_cases isSecond : second = id
    · subst isSecond
      rw [if_pos rfl, getElem?_heap_swap atLeft atRight]
      constructor
      · rintro ⟨⟩
        split
        · rename_i same
          subst same
          exact atLeft.symm.trans atRight
        · simp
      · intro here
        split at here
        · simp_all
        · split at here
          · simp_all
          · have := placed.injective atRight here
            simp_all
    · rw [if_neg isSecond, placed id place]
      exact (getElem?_heap_swap_of_ne atLeft atRight isFirst isSecond place).symm

theorem siftUp (placed : schedule.Placed) {place : Nat} (inside : place < schedule.heap.size) :
    (schedule.siftUp place).Placed := by
  fun_induction Schedule.siftUp schedule place with
  | case1 schedule place moves ih =>
      have parentInside : (place - 1) / 2 < schedule.heap.size := by omega
      exact ih (placed.swap inside parentInside) (by simpa using parentInside)
  | case2 => exact placed

theorem siftDown (placed : schedule.Placed) (place : Nat) : (schedule.siftDown place).Placed := by
  fun_induction Schedule.siftDown schedule place with
  | case1 schedule place moves ih =>
      have child := schedule.earlierChild_eq place
      exact ih (placed.swap (by omega) (by omega))
  | case2 => exact placed

theorem settle (placed : schedule.Placed) {place : Nat} (inside : place < schedule.heap.size) :
    (schedule.settle place).Placed := by
  unfold Schedule.settle
  split
  · exact placed.siftUp inside
  · exact placed.siftDown place

/-- Queueing a stored entry that has no place, before it is moved to where it belongs. -/
theorem append (placed : schedule.Placed) {id : SlotId}
    (stored : (schedule.entries.get? id).isSome = true) (unplaced : schedule.positionOf id = none) :
    ({ schedule with heap := schedule.heap.push id }.setPosition id
      (some schedule.heap.size)).Placed := by
  intro other place
  have unknown (place : Nat) : schedule.heap[place]? ≠ some id := by
    intro here
    simp [(placed id place).mpr here] at unplaced
  have outside (other : SlotId) : schedule.positionOf other ≠ some schedule.heap.size := by
    intro recorded
    simp [placed other] at recorded
  simp only [heap_setPosition, Array.getElem?_push]
  by_cases same : id = other
  · subst same
    rw [positionOf_setPosition_self _ (by exact stored)]
    split
    · rename_i last
      simp [last]
    · rename_i elsewhere
      constructor
      · rintro ⟨⟩
        exact absurd rfl elsewhere
      · intro here
        exact absurd here (unknown place)
  · rw [positionOf_setPosition_of_ne _ same]
    have before := placed other place
    split
    · rename_i last
      subst last
      simp only [Option.some.injEq, same, iff_false]
      exact outside other
    · exact before

/-- Taking the last heap place away from the slot that stands there. -/
theorem dropLast (placed : schedule.Placed) {id : SlotId}
    (last : schedule.heap[schedule.heap.size - 1]? = some id) :
    (schedule.dropLast id).Placed := by
  obtain ⟨inside, -⟩ := Array.getElem?_eq_some_iff.mp last
  intro other place
  unfold Schedule.dropLast
  simp only [heap_setPosition, Array.getElem?_pop]
  by_cases same : id = other
  · subst same
    rw [positionOf_setPosition_self _ (by exact placed.isSome_get? last)]
    constructor
    · rintro ⟨⟩
    · intro here
      split at here
      · have := placed.injective last here
        omega
      · cases here
  · rw [positionOf_setPosition_of_ne _ same]
    have before := placed other place
    split
    · exact before
    · rename_i beyond
      constructor
      · intro recorded
        have here := before.mp recorded
        obtain ⟨placeInside, -⟩ := Array.getElem?_eq_some_iff.mp here
        have atEnd : place = schedule.heap.size - 1 := by omega
        subst atEnd
        exact absurd (Option.some.inj (last.symm.trans here)) same
      · rintro ⟨⟩

end Placed

end Schedule

end ExpiringCache
