import ExpiringCache.Proofs.Schedule.Backed

/-!
# Accesses

The operations once more, with every access tested: an index against the size
of its array, a decrement against zero, and a recorded place against the slot
that stands there.  No sequence of operations makes a test fail, and a tested
operation does what the plain one does.
-/

namespace ExpiringCache

inductive Breach where
  | outOfBounds (index size : Nat)
  /-- One less than none. -/
  | underflow
  /-- A place recorded for a slot at which another slot stands, or none. -/
  | stalePlace (id : SlotId) (place : Nat)
  deriving DecidableEq, Repr

namespace Breach

variable {α β : Type}

@[simp] theorem ok_bind (value : α) (next : α → Except Breach β) :
    (Except.ok value >>= next) = next value := rfl

@[simp] theorem pure_eq (value : α) : (pure value : Except Breach α) = .ok value := rfl

def decrement : Nat → Except Breach Nat
  | 0 => .error .underflow
  | count + 1 => .ok count

theorem decrement_eq {count : Nat} (positive : 0 < count) : decrement count = .ok (count - 1) := by
  cases count with
  | zero => exact absurd positive (Nat.lt_irrefl 0)
  | succ count => rfl

def demandInside (index size : Nat) : Except Breach Unit :=
  if index < size then .ok () else .error (.outOfBounds index size)

theorem demandInside_eq {index size : Nat} (inside : index < size) :
    demandInside index size = .ok () := if_pos inside

end Breach

open Breach

/-! ## Slots -/

namespace SlotTable

variable {α : Type} {table : SlotTable α}

def insertTested (table : SlotTable α) (value : α) : Except Breach (SlotTable α × SlotId) :=
  match table.free with
  | id :: rest => do
      demandInside id table.slots.size
      return ({ slots := table.slots.setIfInBounds id (some value)
                free := rest
                occupied := table.occupied + 1 }, id)
  | [] => do
      let slots := table.slots.push (some value)
      let last ← decrement slots.size
      return ({ table with slots, occupied := table.occupied + 1 }, last)

def eraseTested (table : SlotTable α) (id : SlotId) :
    Except Breach (SlotTable α × Option α) :=
  match table.get? id with
  | none => return (table, none)
  | some value => do
      let occupied ← decrement table.occupied
      return ({ slots := table.slots.setIfInBounds id none
                free := id :: table.free
                occupied }, some value)

namespace Valid

/-- A freed slot lies in the table. -/
theorem insertTested_eq (valid : table.Valid) (value : α) :
    table.insertTested value = .ok (table.insert value) := by
  unfold insertTested SlotTable.insert
  cases free : table.free with
  | nil =>
      dsimp only
      rw [decrement_eq (by simp)]
      simp
  | cons id rest =>
      have listed : id ∈ table.free := by simp [free]
      dsimp only
      rw [demandInside_eq ((valid.mem_free_iff id).mp listed).1]
      simp

/-- An occupied slot is counted. -/
theorem eraseTested_eq (valid : table.Valid) (id : SlotId) :
    table.eraseTested id = .ok (table.erase id) := by
  unfold eraseTested SlotTable.erase
  cases found : table.get? id with
  | none => rfl
  | some value =>
      have positive : 0 < table.occupied := by
        rw [valid.occupied_eq]
        exact countP_pos found rfl
      dsimp only
      rw [decrement_eq positive]
      rfl

end Valid

end SlotTable

namespace Schedule

variable {K V : Type} {schedule : Schedule K V}

/-! ## Moves in the heap -/

/-- The slot at a heap place, which must exist. -/
def slotAt (schedule : Schedule K V) (place : Nat) : Except Breach SlotId :=
  match schedule.heap[place]? with
  | some id => .ok id
  | none => .error (.outOfBounds place schedule.heap.size)

theorem slotAt_eq {place : Nat} {id : SlotId} (here : schedule.heap[place]? = some id) :
    schedule.slotAt place = .ok id := by
  rw [slotAt, here]

def earlierTested (schedule : Schedule K V) (left right : Nat) : Except Breach Bool := do
  let first ← schedule.slotAt left
  let second ← schedule.slotAt right
  return precedes (schedule.deadlineOf first) (schedule.deadlineOf second)

theorem earlierTested_eq {left right : Nat} (leftInside : left < schedule.heap.size)
    (rightInside : right < schedule.heap.size) :
    schedule.earlierTested left right = .ok (schedule.earlier left right) := by
  have atLeft := Array.getElem?_eq_getElem leftInside
  have atRight := Array.getElem?_eq_getElem rightInside
  rw [earlierTested, slotAt_eq atLeft, slotAt_eq atRight, earlier, deadlineAt, deadlineAt, atLeft,
    atRight]
  rfl

/-- Exchanges two heap places and reads both again to tell the slots. -/
def swapTested (schedule : Schedule K V) (left right : Nat) : Except Breach (Schedule K V) := do
  demandInside left schedule.heap.size
  demandInside right schedule.heap.size
  let exchanged := { schedule with heap := schedule.heap.swapIfInBounds left right }
  let newLeft ← exchanged.slotAt left
  let half := exchanged.setPosition newLeft (some left)
  let newRight ← half.slotAt right
  return half.setPosition newRight (some right)

theorem swapTested_eq {left right : Nat} (leftInside : left < schedule.heap.size)
    (rightInside : right < schedule.heap.size) :
    schedule.swapTested left right = .ok (schedule.swap left right) := by
  let exchanged := { schedule with heap := schedule.heap.swapIfInBounds left right }
  have size : exchanged.heap.size = schedule.heap.size := by simp [exchanged]
  obtain ⟨second, newLeft⟩ : ∃ second, exchanged.heap[left]? = some second :=
    ⟨_, Array.getElem?_eq_getElem (size ▸ leftInside)⟩
  obtain ⟨first, newRight⟩ : ∃ first, exchanged.heap[right]? = some first :=
    ⟨_, Array.getElem?_eq_getElem (size ▸ rightInside)⟩
  have half : (exchanged.setPosition second (some left)).heap[right]? = some first := newRight
  have plain : schedule.swap left right =
      (exchanged.setPosition second (some left)).setPosition first (some right) := by
    change (exchanged.recordPlace left).recordPlace right = _
    rw [recordPlace_eq newLeft, recordPlace_eq half]
  rw [plain, swapTested, demandInside_eq leftInside, demandInside_eq rightInside]
  simp only [ok_bind]
  rw [slotAt_eq newLeft]
  simp only [ok_bind]
  rw [slotAt_eq half]
  rfl

/-- Whether the entry at a place comes out before its parent, which the root does not have. -/
def risesTested (schedule : Schedule K V) (place : Nat) : Except Breach Bool :=
  if 0 < place then schedule.earlierTested place ((place - 1) / 2) else .ok false

theorem risesTested_eq {place : Nat} (inside : place < schedule.heap.size) :
    schedule.risesTested place =
      .ok (decide (0 < place ∧ schedule.earlier place ((place - 1) / 2) = true)) := by
  unfold risesTested
  by_cases positive : 0 < place
  · rw [if_pos positive, earlierTested_eq inside (by omega)]
    simp [positive]
  · simp [positive]

def siftUpTested (schedule : Schedule K V) (place : Nat) : Except Breach (Schedule K V) :=
  if positive : 0 < place then do
    if ← schedule.risesTested place then
      (← schedule.swapTested place ((place - 1) / 2)).siftUpTested ((place - 1) / 2)
    else return schedule
  else return schedule
termination_by place
decreasing_by omega

theorem siftUpTested_eq {place : Nat} (inside : place < schedule.heap.size) :
    schedule.siftUpTested place = .ok (schedule.siftUp place) := by
  fun_induction siftUp schedule place with
  | case1 schedule place moves ih =>
      have parentInside : (place - 1) / 2 < schedule.heap.size := by omega
      rw [siftUpTested, dif_pos moves.1, risesTested_eq inside]
      simp only [ok_bind, decide_eq_true_eq, if_pos moves]
      rw [swapTested_eq inside parentInside]
      exact ih (by simpa using parentInside)
  | case2 schedule place stays =>
      rw [siftUpTested, risesTested_eq inside]
      simp only [ok_bind, decide_eq_true_eq, if_neg stays, pure_eq, dite_eq_ite, ite_self]

/-- Whether the right child exists and comes out before the left one. -/
def rightFirstTested (schedule : Schedule K V) (size place : Nat) : Except Breach Bool :=
  if 2 * place + 2 < size then schedule.earlierTested (2 * place + 2) (2 * place + 1)
  else .ok false

/-- The child that is compared with its parent, once the children have been compared. -/
def childOf (place : Nat) (rightFirst : Bool) : Nat :=
  if rightFirst then 2 * place + 2 else 2 * place + 1

/-- The size of the heap is read once; the moves do not change it. -/
def siftDownTested (schedule : Schedule K V) (size place : Nat) : Except Breach (Schedule K V) :=
  if _ : 2 * place + 1 < size then do
    let rightFirst ← schedule.rightFirstTested size place
    if ← schedule.earlierTested (childOf place rightFirst) place then
      (← schedule.swapTested place (childOf place rightFirst)).siftDownTested size
        (childOf place rightFirst)
    else return schedule
  else return schedule
termination_by size - place
decreasing_by
  unfold childOf
  split <;> omega

theorem rightFirstTested_eq {place : Nat} (below : 2 * place + 1 < schedule.heap.size) :
    ∃ rightFirst, schedule.rightFirstTested schedule.heap.size place = .ok rightFirst ∧
      childOf place rightFirst = schedule.earlierChild place := by
  unfold rightFirstTested earlierChild
  by_cases inside : 2 * place + 2 < schedule.heap.size
  · rw [if_pos inside, earlierTested_eq inside below]
    exact ⟨_, rfl, by simp only [childOf, inside, true_and]⟩
  · exact ⟨false, if_neg inside, (if_neg fun both => inside both.1).symm⟩

theorem siftDownTested_eq (schedule : Schedule K V) (place : Nat) :
    schedule.siftDownTested schedule.heap.size place = .ok (schedule.siftDown place) := by
  fun_induction siftDown schedule place with
  | case1 schedule place moves ih =>
      have child := schedule.earlierChild_eq place
      have childInside : schedule.earlierChild place < schedule.heap.size := by omega
      have placeInside : place < schedule.heap.size := by omega
      obtain ⟨rightFirst, compared, chosen⟩ := rightFirstTested_eq moves.1
      rw [siftDownTested, dif_pos moves.1, compared]
      simp only [ok_bind, chosen]
      rw [earlierTested_eq childInside placeInside]
      simp only [ok_bind, if_pos moves.2]
      rw [swapTested_eq placeInside childInside]
      simpa using ih
  | case2 schedule place stays =>
      rw [siftDownTested]
      split
      · rename_i below
        have child := schedule.earlierChild_eq place
        obtain ⟨rightFirst, compared, chosen⟩ := rightFirstTested_eq below
        rw [compared]
        simp only [ok_bind, chosen]
        rw [earlierTested_eq (by omega) (by omega)]
        simp only [ok_bind]
        rw [if_neg fun precedes => stays ⟨below, precedes⟩]
        rfl
      · rfl

def settleTested (schedule : Schedule K V) (place : Nat) : Except Breach (Schedule K V) := do
  if ← schedule.risesTested place then schedule.siftUpTested place
  else schedule.siftDownTested schedule.heap.size place

theorem settleTested_eq {place : Nat} (inside : place < schedule.heap.size) :
    schedule.settleTested place = .ok (schedule.settle place) := by
  rw [settleTested, risesTested_eq inside, settle]
  simp only [ok_bind, decide_eq_true_eq]
  split
  · exact siftUpTested_eq inside
  · exact siftDownTested_eq schedule place

/-! ## Queueing and taking out -/

def pushTested (schedule : Schedule K V) (id : SlotId) : Except Breach (Schedule K V) :=
  ({ schedule with heap := schedule.heap.push id }.setPosition id
    (some schedule.heap.size)).siftUpTested schedule.heap.size

theorem pushTested_eq (schedule : Schedule K V) (id : SlotId) :
    schedule.pushTested id = .ok (schedule.push id) :=
  siftUpTested_eq (by simp)

/-- The slot is read off the last place, after the exchange. -/
def popTested (schedule : Schedule K V) : Except Breach (Schedule K V × Option SlotId) :=
  if schedule.heap.isEmpty then return (schedule, none)
  else do
    let last ← decrement schedule.heap.size
    let swapped ← schedule.swapTested 0 last
    let id ← swapped.slotAt last
    let shortened := swapped.dropLast id
    return (← shortened.siftDownTested shortened.heap.size 0, some id)

theorem popTested_eq (schedule : Schedule K V) :
    schedule.popTested = .ok schedule.pop := by
  unfold popTested pop
  cases root : schedule.first? with
  | none =>
      have empty : schedule.heap.isEmpty = true := by
        simpa [first?] using root
      rw [if_pos empty]
      rfl
  | some id =>
      obtain ⟨positive, -⟩ := Array.getElem?_eq_some_iff.mp root
      have nonempty : ¬ schedule.heap.isEmpty = true := by
        simpa using Array.ne_empty_of_size_pos positive
      have lastInside : schedule.heap.size - 1 < schedule.heap.size := by omega
      have stands := getElem?_heap_swap root (Array.getElem?_eq_getElem lastInside)
        (schedule.heap.size - 1)
      rw [if_pos rfl] at stands
      rw [if_neg nonempty, decrement_eq positive]
      simp only [ok_bind]
      rw [swapTested_eq positive lastInside]
      simp only [ok_bind]
      rw [slotAt_eq stands]
      simp only [ok_bind]
      rw [siftDownTested_eq]
      rfl

/-- The heap with a slot brought to its last place, unless it stands there. -/
def toLastTested (schedule : Schedule K V) (place last : Nat) : Except Breach (Schedule K V) :=
  if place = last then .ok schedule else schedule.swapTested place last

theorem toLastTested_eq {place : Nat} (inside : place < schedule.heap.size) :
    schedule.toLastTested place (schedule.heap.size - 1) =
      .ok (if place = schedule.heap.size - 1 then schedule
        else schedule.swap place (schedule.heap.size - 1)) := by
  unfold toLastTested
  split
  · rfl
  · exact swapTested_eq inside (by omega)

/-- A recorded place must be where the slot stands. -/
def removeTested (schedule : Schedule K V) (id : SlotId) : Except Breach (Schedule K V × Bool) :=
  match schedule.positionOf id with
  | none => return (schedule, false)
  | some place =>
      if schedule.heap[place]? = some id then do
        let last ← decrement schedule.heap.size
        let shortened := (← schedule.toLastTested place last).dropLast id
        if place < shortened.heap.size then return (← shortened.settleTested place, true)
        else return (shortened, true)
      else .error (.stalePlace id place)

theorem Backed.removeTested_eq (backed : schedule.Backed) (id : SlotId) :
    schedule.removeTested id = .ok (schedule.remove id) := by
  unfold removeTested Schedule.remove
  cases recorded : schedule.positionOf id with
  | none => rfl
  | some place =>
      have inside := backed.lt_size recorded
      dsimp only
      rw [if_pos (backed id place recorded), decrement_eq (by omega)]
      simp only [ok_bind]
      rw [toLastTested_eq inside]
      simp only [ok_bind]
      generalize (if place = schedule.heap.size - 1 then schedule
        else schedule.swap place (schedule.heap.size - 1)).dropLast id = shortened
      by_cases stays : place < shortened.heap.size
      · rw [if_pos stays, if_pos stays, settleTested_eq stays]
        rfl
      · rw [if_neg stays, if_neg stays]
        rfl

def fixTested (schedule : Schedule K V) (id : SlotId) : Except Breach (Schedule K V) :=
  match schedule.positionOf id with
  | none => return schedule
  | some place => schedule.settleTested place

theorem Backed.fixTested_eq (backed : schedule.Backed) (id : SlotId) :
    schedule.fixTested id = .ok (schedule.fix id) := by
  unfold fixTested Schedule.fix
  cases recorded : schedule.positionOf id with
  | none => rfl
  | some place => exact settleTested_eq (backed.lt_size recorded)

/-! ## Every operation of every client -/

/-- One operation with every access tested, and the slots it takes out of the heap. -/
def performTested (schedule : Schedule K V) :
    Operation K V → Except Breach (Schedule K V × List SlotId)
  | .insert key value lifetime deadline => do
      let (entries, _) ← schedule.entries.insertTested { key, value, lifetime, deadline }
      return ({ schedule with entries }, [])
  | .discard id => do
      let (entries, _) ← schedule.entries.eraseTested id
      return ({ schedule with entries }, [])
  | .rewrite id value lifetime =>
      return (schedule.update id fun entry => { entry with value, lifetime }, [])
  | .redate id deadline => return (schedule.update id fun entry => { entry with deadline }, [])
  | .reschedule id deadline =>
      return (← (schedule.update id fun entry => { entry with deadline }).fixTested id, [])
  | .push id => return (← schedule.pushTested id, [])
  | .pop => do
      let (popped, id) ← schedule.popTested
      return (popped, id.toList)
  | .remove id => do
      let (removed, queued) ← schedule.removeTested id
      return (removed, if queued then [id] else [])
  | .fix id => return (← schedule.fixTested id, [])
  | .clear => return ({}, schedule.heap.toList)

theorem Safe.performTested_eq (safe : schedule.Safe) (operation : Operation K V) :
    schedule.performTested operation =
      .ok (schedule.perform operation, schedule.givenBack operation) := by
  cases operation with
  | insert key value lifetime deadline =>
      rw [performTested, safe.slots.insertTested_eq]
      rfl
  | discard id =>
      rw [performTested, safe.slots.eraseTested_eq]
      rfl
  | rewrite id value lifetime => rfl
  | redate id deadline => rfl
  | reschedule id deadline =>
      have redated : (schedule.update id fun entry => { entry with deadline }).Backed :=
        safe.backed.update id fun _ => rfl
      rw [performTested, redated.fixTested_eq]
      rfl
  | push id =>
      rw [performTested, pushTested_eq]
      rfl
  | pop =>
      rw [performTested, popTested_eq]
      rfl
  | remove id =>
      rw [performTested, safe.backed.removeTested_eq]
      rfl
  | fix id =>
      rw [performTested, safe.backed.fixTested_eq]
      rfl
  | clear => rfl

def performAll (schedule : Schedule K V) (operations : List (Operation K V)) : Schedule K V :=
  operations.foldl perform schedule

theorem Safe.performAll (safe : schedule.Safe) (operations : List (Operation K V)) :
    (schedule.performAll operations).Safe := by
  induction operations generalizing schedule with
  | nil => exact safe
  | cons operation rest ih => exact ih (safe.perform operation)

/--
A queue in the hands of a client that keeps to no rules.  After any sequence of
operations, on slots that are queued already, empty, used again or were never
used, every entry that believes to stand at a heap place does stand there.  No
access of any further operation fails its test, and the heap holds afterwards
what it held before and what was pushed, less what the operation gives back.
-/
theorem safe_from_any_client (operations : List (Operation K V)) :
    let schedule := ({} : Schedule K V).performAll operations
    (∀ id entry place, schedule.entries.get? id = some entry → entry.position = some place →
      ∃ inside : place < schedule.heap.size, schedule.heap[place] = id) ∧
    ∀ operation,
      schedule.performTested operation =
        .ok (schedule.perform operation, schedule.givenBack operation) ∧
      (schedule.givenBack operation ++ (schedule.perform operation).heap.toList).Perm
        (taken operation ++ schedule.heap.toList) := by
  intro schedule
  have safe : schedule.Safe := safe_empty.performAll operations
  refine ⟨?_, fun operation => ⟨safe.performTested_eq operation, safe.heap_perform_perm operation⟩⟩
  intro id entry place stored recorded
  have known : schedule.positionOf id = some place := by
    rw [positionOf, stored]
    exact recorded
  exact Array.getElem?_eq_some_iff.mp (safe.backed id place known)

/-- An entry that was never pushed gets a place, since the heap still names its reused slot. -/
example : (({} : Schedule Nat Nat).performAll
    [.insert 1 10 .inherited (some ⟨30⟩), .push 0, .discard 0, .insert 2 20 .inherited (some ⟨30⟩),
      .insert 3 30 .inherited (some ⟨10⟩), .push 1]).positionOf 0 = some 1 := by
  decide +kernel

end Schedule

end ExpiringCache
