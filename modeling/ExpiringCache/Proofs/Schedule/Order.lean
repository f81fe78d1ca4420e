import ExpiringCache.Proofs.Schedule.Places

/-!
# Heap order

No entry of the heap precedes its parent.  A change of one deadline breaks the
order only at the place of its entry, and there the parent still precedes the
children; this is what both sifts start from.
-/

namespace ExpiringCache

namespace Schedule

variable {K V : Type}

/-! ## The order of deadlines -/

theorem not_precedes_self (deadline : Option Instant) : precedes deadline deadline = false := by
  cases deadline <;> simp [precedes]

theorem not_precedes_trans {first second third : Option Instant}
    (lower : precedes second first = false) (upper : precedes third second = false) :
    precedes third first = false := by
  cases first <;> cases second <;> cases third <;> simp [precedes] at lower upper ⊢
  omega

theorem not_precedes_of_precedes {first second : Option Instant}
    (ahead : precedes first second = true) : precedes second first = false := by
  cases first <;> cases second <;> simp [precedes] at ahead ⊢
  omega

theorem precedes_some_some {left right : Instant} :
    precedes (some left) (some right) = false ↔ right ≤ left := by
  simp [precedes]

/-- Whenever the second deadline exists, the first one exists and is not later. -/
def NoLater (first second : Option Instant) : Prop :=
  ∀ due ∈ second, ∃ earliest ∈ first, earliest ≤ due

theorem not_precedes_iff {first second : Option Instant} :
    precedes second first = false ↔ NoLater first second := by
  cases first <;> cases second <;> simp [precedes, NoLater]

/-! ## Deadlines by place -/

theorem deadlineAt_eq {schedule : Schedule K V} {place : Nat} {id : SlotId}
    (here : schedule.heap[place]? = some id) :
    schedule.deadlineAt place = schedule.deadlineOf id := by
  simp [deadlineAt, here]

/-- Schedules with the same contents and the same heap have the same deadlines everywhere. -/
theorem deadlineAt_congr {left right : Schedule K V} {place : Nat}
    (contents : left.contents = right.contents) (here : left.heap[place]? = right.heap[place]?) :
    left.deadlineAt place = right.deadlineAt place := by
  unfold deadlineAt
  rw [here]
  cases right.heap[place]? with
  | none => rfl
  | some id => exact deadlineOf_congr contents id

theorem deadlineAt_swap {schedule : Schedule K V} {left right : Nat}
    (leftInside : left < schedule.heap.size) (rightInside : right < schedule.heap.size)
    (place : Nat) :
    (schedule.swap left right).deadlineAt place =
      if right = place then schedule.deadlineAt left
      else if left = place then schedule.deadlineAt right else schedule.deadlineAt place := by
  have atLeft := Array.getElem?_eq_getElem leftInside
  have atRight := Array.getElem?_eq_getElem rightInside
  have moved := getElem?_heap_swap atLeft atRight place
  have deadlines := deadlineOf_congr (schedule.contents_swap left right)
  split
  · rename_i here
    rw [if_pos here] at moved
    rw [deadlineAt_eq moved, deadlines, deadlineAt_eq atLeft]
  · rename_i notRight
    rw [if_neg notRight] at moved
    split
    · rename_i here
      rw [if_pos here] at moved
      rw [deadlineAt_eq moved, deadlines, deadlineAt_eq atRight]
    · rename_i notLeft
      rw [if_neg notLeft] at moved
      exact deadlineAt_congr (schedule.contents_swap left right) moved

/-! ## Order -/

/-- No queued entry precedes its parent. -/
def Ordered (schedule : Schedule K V) : Prop :=
  ∀ place, 0 < place → place < schedule.heap.size →
    schedule.earlier place ((place - 1) / 2) = false

/--
Order everywhere but at one place: parents and children away from it are in
order, and its own children do not precede its parent.
-/
structure OrderedBut (schedule : Schedule K V) (gap : Nat) : Prop where
  away : ∀ place, 0 < place → place < schedule.heap.size → place ≠ gap →
    (place - 1) / 2 ≠ gap → schedule.earlier place ((place - 1) / 2) = false
  across : 0 < gap → ∀ place, 0 < place → place < schedule.heap.size →
    (place - 1) / 2 = gap → schedule.earlier place ((gap - 1) / 2) = false

/-- The children of a place do not precede it. -/
def ChildrenAfter (schedule : Schedule K V) (gap : Nat) : Prop :=
  ∀ place, 0 < place → place < schedule.heap.size → (place - 1) / 2 = gap →
    schedule.earlier place gap = false

namespace Ordered

variable {schedule : Schedule K V}

theorem orderedBut (ordered : schedule.Ordered) (gap : Nat) : schedule.OrderedBut gap where
  away place positive inside _ _ := ordered place positive inside
  across gapPositive place positive inside child := by
    have below := ordered place positive inside
    rw [child] at below
    exact not_precedes_trans (ordered gap gapPositive (by omega)) below

/-- The root is not preceded by anything in the heap. -/
theorem root_first (ordered : schedule.Ordered) (place : Nat)
    (inside : place < schedule.heap.size) :
    schedule.earlier place 0 = false := by
  induction place using Nat.strongRecOn with
  | ind place ih =>
      rcases Nat.eq_zero_or_pos place with rfl | positive
      · exact not_precedes_self _
      · have above := ih ((place - 1) / 2) (by omega) (by omega)
        exact not_precedes_trans above (ordered place positive inside)

end Ordered

namespace OrderedBut

variable {schedule : Schedule K V} {gap : Nat}

/-- A schedule ordered but at one place is ordered if that place is in order on both sides. -/
theorem close (but : schedule.OrderedBut gap)
    (above : 0 < gap → schedule.earlier gap ((gap - 1) / 2) = false)
    (below : schedule.ChildrenAfter gap) : schedule.Ordered := by
  intro place positive inside
  by_cases here : place = gap
  · subst here
    exact above positive
  · by_cases child : (place - 1) / 2 = gap
    · rw [child]
      exact below place positive inside child
    · exact but.away place positive inside here child

/-! ### Towards the root -/

/-- One step towards the root moves the gap to the parent. -/
theorem swap_parent (but : schedule.OrderedBut gap) (inside : gap < schedule.heap.size)
    (positive : 0 < gap) :
    (schedule.swap gap ((gap - 1) / 2)).OrderedBut ((gap - 1) / 2) := by
  have parentInside : (gap - 1) / 2 < schedule.heap.size := by omega
  have swapped := deadlineAt_swap inside parentInside
  have size : (schedule.swap gap ((gap - 1) / 2)).heap.size = schedule.heap.size := by simp
  constructor
  · intro place placePositive placeInside notParent notSibling
    rw [size] at placeInside
    by_cases here : place = gap
    · exact absurd (by rw [here]) notSibling
    · by_cases child : (place - 1) / 2 = gap
      · have different : (gap - 1) / 2 ≠ gap := by omega
        simpa [earlier, swapped, child, Ne.symm here, Ne.symm notParent, different]
          using but.across positive place placePositive placeInside child
      · simpa [earlier, swapped, Ne.symm here, Ne.symm notParent, Ne.symm child,
          Ne.symm notSibling] using but.away place placePositive placeInside here child
  · intro parentPositive place placePositive placeInside sibling
    rw [size] at placeInside
    have parentInOrder := but.away ((gap - 1) / 2) parentPositive parentInside (by omega) (by omega)
    have notParent : (gap - 1) / 2 ≠ place := by omega
    have notGap : gap ≠ ((gap - 1) / 2 - 1) / 2 := by omega
    have notSelf : (gap - 1) / 2 ≠ ((gap - 1) / 2 - 1) / 2 := by omega
    by_cases here : place = gap
    · subst here
      simpa [earlier, swapped, notParent, notGap, notSelf] using parentInOrder
    · have siblingInOrder := but.away place placePositive placeInside here (by omega)
      rw [sibling] at siblingInOrder
      simpa [earlier, swapped, notParent, notGap, notSelf, Ne.symm here]
        using not_precedes_trans parentInOrder siblingInOrder

/-- An entry that precedes its parent precedes its children and its sibling. -/
theorem swap_parent_below (but : schedule.OrderedBut gap) (inside : gap < schedule.heap.size)
    (positive : 0 < gap) (ahead : schedule.earlier gap ((gap - 1) / 2) = true) :
    (schedule.swap gap ((gap - 1) / 2)).ChildrenAfter ((gap - 1) / 2) := by
  have parentInside : (gap - 1) / 2 < schedule.heap.size := by omega
  have swapped := deadlineAt_swap inside parentInside
  have size : (schedule.swap gap ((gap - 1) / 2)).heap.size = schedule.heap.size := by simp
  intro place placePositive placeInside sibling
  rw [size] at placeInside
  have notParent : (gap - 1) / 2 ≠ place := by omega
  have behind := not_precedes_of_precedes ahead
  by_cases here : place = gap
  · subst here
    simpa [earlier, swapped, notParent] using behind
  · have siblingInOrder := but.away place placePositive placeInside here (by omega)
    rw [sibling] at siblingInOrder
    simpa [earlier, swapped, notParent, Ne.symm here]
      using not_precedes_trans behind siblingInOrder

/-- Sifting towards the root restores the order if the children are in order. -/
theorem siftUp (but : schedule.OrderedBut gap) (inside : gap < schedule.heap.size)
    (below : schedule.ChildrenAfter gap) : (schedule.siftUp gap).Ordered := by
  fun_induction Schedule.siftUp schedule gap with
  | case1 schedule place moves ih =>
      obtain ⟨positive, ahead⟩ := moves
      have parentInside : (place - 1) / 2 < schedule.heap.size := by omega
      exact ih (but.swap_parent inside positive) (by simpa using parentInside)
        (but.swap_parent_below inside positive ahead)
  | case2 schedule place stays =>
      refine but.close ?_ below
      intro positive
      simpa [positive] using stays

/-! ### Away from the root -/

/-- The earlier child is not preceded by its sibling. -/
theorem earlierChild_first (schedule : Schedule K V) (parent place : Nat) (positive : 0 < place)
    (inside : place < schedule.heap.size) (child : (place - 1) / 2 = parent) :
    schedule.earlier place (schedule.earlierChild parent) = false := by
  have sides : place = 2 * parent + 1 ∨ place = 2 * parent + 2 := by omega
  unfold earlierChild
  split
  · rename_i chosen
    rcases sides with rfl | rfl
    · exact not_precedes_of_precedes chosen.2
    · exact not_precedes_self _
  · rename_i chosen
    rcases sides with rfl | rfl
    · exact not_precedes_self _
    · simpa [inside] using chosen

/-- One step away from the root moves the gap to the earlier child. -/
theorem swap_child (but : schedule.OrderedBut gap) (inside : 2 * gap + 1 < schedule.heap.size) :
    (schedule.swap gap (schedule.earlierChild gap)).OrderedBut (schedule.earlierChild gap) := by
  have sides := schedule.earlierChild_eq gap
  have first := earlierChild_first schedule gap
  generalize schedule.earlierChild gap = child at sides first
  have parent : (child - 1) / 2 = gap := by omega
  have childInside : child < schedule.heap.size := by omega
  have swapped := deadlineAt_swap (show gap < schedule.heap.size by omega) childInside
  have size : (schedule.swap gap child).heap.size = schedule.heap.size := by simp
  constructor
  · intro place positive placeInside notChild notGrandchild
    rw [size] at placeInside
    by_cases here : place = gap
    · subst here
      have notParent : place ≠ (place - 1) / 2 := by omega
      simpa [earlier, swapped, Ne.symm notChild, Ne.symm notGrandchild, notParent]
        using but.across positive child (by omega) childInside parent
    · by_cases sibling : (place - 1) / 2 = gap
      · have different : child ≠ gap := by omega
        simpa [earlier, swapped, sibling, Ne.symm here, Ne.symm notChild, different]
          using first place positive placeInside sibling
      · simpa [earlier, swapped, Ne.symm here, Ne.symm notChild, Ne.symm sibling,
          Ne.symm notGrandchild] using but.away place positive placeInside here sibling
  · intro _ place positive placeInside grandchild
    rw [size] at placeInside
    have different : child ≠ gap := by omega
    have notChild : child ≠ place := by omega
    have notGap : gap ≠ place := by omega
    have inOrder := but.away place positive placeInside (by omega) (by omega)
    rw [grandchild] at inOrder
    simpa [earlier, swapped, grandchild, parent, different, notChild, notGap] using inOrder

/-- Sifting away from the root restores the order if the parent is in order. -/
theorem siftDown (but : schedule.OrderedBut gap)
    (above : 0 < gap → schedule.earlier gap ((gap - 1) / 2) = false) :
    (schedule.siftDown gap).Ordered := by
  fun_induction Schedule.siftDown schedule gap with
  | case1 schedule place moves ih =>
      obtain ⟨inside, ahead⟩ := moves
      refine ih (but.swap_child inside) ?_
      have sides := schedule.earlierChild_eq place
      generalize schedule.earlierChild place = child at sides ahead
      intro _
      have parent : (child - 1) / 2 = place := by omega
      have different : child ≠ place := by omega
      have swapped := deadlineAt_swap (show place < schedule.heap.size by omega)
        (show child < schedule.heap.size by omega)
      simpa [earlier, swapped, parent, different] using not_precedes_of_precedes ahead
  | case2 schedule place stays =>
      refine but.close above ?_
      intro child positive inside parent
      have first := earlierChild_first schedule place child positive inside parent
      have last : schedule.earlier (schedule.earlierChild place) place = false := by
        have leftInside : 2 * place + 1 < schedule.heap.size := by omega
        simpa [leftInside] using stays
      exact not_precedes_trans last first

/-- Settling the entry at the gap restores the order. -/
theorem settle (but : schedule.OrderedBut gap) (inside : gap < schedule.heap.size) :
    (schedule.settle gap).Ordered := by
  unfold Schedule.settle
  split
  · rename_i ahead
    refine but.siftUp inside ?_
    intro place positive placeInside child
    have behind := not_precedes_of_precedes ahead.2
    exact not_precedes_trans behind (but.across ahead.1 place positive placeInside child)
  · rename_i behind
    refine but.siftDown ?_
    intro positive
    simpa [positive] using behind

end OrderedBut

end Schedule

end ExpiringCache
