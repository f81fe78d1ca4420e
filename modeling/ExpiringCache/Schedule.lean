import ExpiringCache.Entry
import ExpiringCache.SlotTable

/-!
# Schedule

The stored entries together with a binary heap of slot numbers, ordered by
deadline.  Every move in the heap writes the new place back into the entry, so
that an entry is found in the heap without a search.  Entries without a
deadline sort after all others.
-/

namespace ExpiringCache

structure Schedule (K V : Type) where
  entries : SlotTable (Entry K V) := {}
  /-- Slot numbers, the earliest deadline first. -/
  heap : Array SlotId := #[]
  deriving DecidableEq, Repr

namespace Schedule

variable {K V : Type}

/-- The strict order of deadlines, a missing one being the latest. -/
def precedes : Option Instant → Option Instant → Bool
  | some left, some right => left < right
  | some _, none => true
  | none, _ => false

def deadlineOf (schedule : Schedule K V) (id : SlotId) : Option Instant :=
  (schedule.entries.get? id).bind Entry.deadline

def deadlineAt (schedule : Schedule K V) (place : Nat) : Option Instant :=
  schedule.heap[place]?.bind schedule.deadlineOf

/-- Whether the entry at one place must come out before the entry at another. -/
def earlier (schedule : Schedule K V) (left right : Nat) : Bool :=
  precedes (schedule.deadlineAt left) (schedule.deadlineAt right)

def positionOf (schedule : Schedule K V) (id : SlotId) : Option Nat :=
  (schedule.entries.get? id).bind Entry.position

def setPosition (schedule : Schedule K V) (id : SlotId) (position : Option Nat) :
    Schedule K V :=
  { schedule with entries := schedule.entries.modify id fun entry => { entry with position } }

/-- Writes a heap place back into the entry that stands there. -/
def recordPlace (schedule : Schedule K V) (place : Nat) : Schedule K V :=
  match schedule.heap[place]? with
  | some id => schedule.setPosition id (some place)
  | none => schedule

def swap (schedule : Schedule K V) (left right : Nat) : Schedule K V :=
  ({ schedule with heap := schedule.heap.swapIfInBounds left right }.recordPlace left).recordPlace
    right

@[simp] theorem heap_setPosition (schedule : Schedule K V) (id : SlotId)
    (position : Option Nat) : (schedule.setPosition id position).heap = schedule.heap := rfl

@[simp] theorem heap_recordPlace (schedule : Schedule K V) (place : Nat) :
    (schedule.recordPlace place).heap = schedule.heap := by
  unfold recordPlace
  split <;> rfl

@[simp] theorem heap_swap (schedule : Schedule K V) (left right : Nat) :
    (schedule.swap left right).heap = schedule.heap.swapIfInBounds left right := by
  simp [swap]

/-- Moves the entry at a place towards the root while it precedes its parent. -/
def siftUp (schedule : Schedule K V) (place : Nat) : Schedule K V :=
  if 0 < place ∧ schedule.earlier place ((place - 1) / 2) then
    (schedule.swap place ((place - 1) / 2)).siftUp ((place - 1) / 2)
  else schedule
termination_by place
decreasing_by omega

/-- The child that comes out first; the left one if neither precedes the other. -/
def earlierChild (schedule : Schedule K V) (place : Nat) : Nat :=
  if 2 * place + 2 < schedule.heap.size ∧ schedule.earlier (2 * place + 2) (2 * place + 1) then
    2 * place + 2
  else 2 * place + 1

theorem earlierChild_eq (schedule : Schedule K V) (place : Nat) :
    schedule.earlierChild place = 2 * place + 1 ∨
      schedule.earlierChild place = 2 * place + 2 ∧ 2 * place + 2 < schedule.heap.size := by
  unfold earlierChild
  split
  · exact .inr ⟨rfl, by omega⟩
  · exact .inl rfl

def siftDown (schedule : Schedule K V) (place : Nat) : Schedule K V :=
  if 2 * place + 1 < schedule.heap.size ∧
      schedule.earlier (schedule.earlierChild place) place then
    (schedule.swap place (schedule.earlierChild place)).siftDown (schedule.earlierChild place)
  else schedule
termination_by schedule.heap.size - place
decreasing_by
  have child := schedule.earlierChild_eq place
  simp only [heap_swap, Array.size_swapIfInBounds]
  omega

def settle (schedule : Schedule K V) (place : Nat) : Schedule K V :=
  if 0 < place ∧ schedule.earlier place ((place - 1) / 2) then schedule.siftUp place
  else schedule.siftDown place

def first? (schedule : Schedule K V) : Option SlotId :=
  schedule.heap[0]?

def push (schedule : Schedule K V) (id : SlotId) : Schedule K V :=
  ({ schedule with heap := schedule.heap.push id }.setPosition id
    (some schedule.heap.size)).siftUp schedule.heap.size

/-- Takes the last heap place away and marks the entry that held it as not queued. -/
def dropLast (schedule : Schedule K V) (id : SlotId) : Schedule K V :=
  { schedule with heap := schedule.heap.pop }.setPosition id none

def pop (schedule : Schedule K V) : Schedule K V × Option SlotId :=
  match schedule.first? with
  | none => (schedule, none)
  | some id =>
      (((schedule.swap 0 (schedule.heap.size - 1)).dropLast id).siftDown 0, some id)

/-- Takes the entry of a slot out of the queue; tells whether it was queued. -/
def remove (schedule : Schedule K V) (id : SlotId) : Schedule K V × Bool :=
  match schedule.positionOf id with
  | none => (schedule, false)
  | some place =>
      let last := schedule.heap.size - 1
      let shortened := (if place = last then schedule else schedule.swap place last).dropLast id
      (if place < shortened.heap.size then shortened.settle place else shortened, true)

/-- Restores the order after the deadline of a queued entry changed in place. -/
def fix (schedule : Schedule K V) (id : SlotId) : Schedule K V :=
  match schedule.positionOf id with
  | none => schedule
  | some place => schedule.settle place

/-- Changes the entry of a slot without moving it in the heap. -/
def update (schedule : Schedule K V) (id : SlotId) (change : Entry K V → Entry K V) :
    Schedule K V :=
  { schedule with entries := schedule.entries.modify id change }

/-- Stores a new entry without queueing it. -/
def insert (schedule : Schedule K V) (entry : Entry K V) : Schedule K V × SlotId :=
  let (entries, id) := schedule.entries.insert entry
  ({ schedule with entries }, id)

/-- Takes the entry out of a slot without looking at the heap. -/
def discard (schedule : Schedule K V) (id : SlotId) : Schedule K V × Option (Entry K V) :=
  let (entries, entry) := schedule.entries.erase id
  ({ schedule with entries }, entry)

@[simp] theorem size_heap_siftDown (schedule : Schedule K V) (place : Nat) :
    (schedule.siftDown place).heap.size = schedule.heap.size := by
  fun_induction siftDown schedule place with
  | case1 schedule place _ ih => simpa using ih
  | case2 => rfl

@[simp] theorem size_heap_dropLast (schedule : Schedule K V) (id : SlotId) :
    (schedule.dropLast id).heap.size = schedule.heap.size - 1 := by
  simp [dropLast]

@[simp] theorem size_heap_pop (schedule : Schedule K V) :
    schedule.pop.1.heap.size = schedule.heap.size - 1 := by
  unfold pop
  split
  · rename_i empty
    simp only [first?, getElem?_eq_none_iff] at empty
    simp only
    omega
  · simp

def drain (schedule : Schedule K V) : Schedule K V × List SlotId :=
  if schedule.heap.size = 0 then (schedule, [])
  else
    let popped := schedule.pop
    let (emptied, later) := popped.1.drain
    (emptied, popped.2.toList ++ later)
termination_by schedule.heap.size
decreasing_by
  simp
  omega

/-! ## What moves in the heap keep

Moves in the heap change places only.  The contents of a schedule are its
entries without their places.
-/

/-- The stored entries without their heap places. -/
def contents (schedule : Schedule K V) : SlotTable (Entry K V) :=
  schedule.entries.map Entry.unplaced

@[simp] theorem contents_setPosition (schedule : Schedule K V) (id : SlotId)
    (position : Option Nat) :
    (schedule.setPosition id position).contents = schedule.contents :=
  SlotTable.map_modify fun _ => rfl

@[simp] theorem contents_heap (schedule : Schedule K V) (heap : Array SlotId) :
    { schedule with heap }.contents = schedule.contents := rfl

@[simp] theorem contents_recordPlace (schedule : Schedule K V) (place : Nat) :
    (schedule.recordPlace place).contents = schedule.contents := by
  unfold recordPlace
  split <;> simp

@[simp] theorem contents_swap (schedule : Schedule K V) (left right : Nat) :
    (schedule.swap left right).contents = schedule.contents := by
  simp [swap]

@[simp] theorem contents_siftUp (schedule : Schedule K V) (place : Nat) :
    (schedule.siftUp place).contents = schedule.contents := by
  fun_induction siftUp schedule place with
  | case1 schedule place _ ih => simpa using ih
  | case2 => rfl

@[simp] theorem contents_siftDown (schedule : Schedule K V) (place : Nat) :
    (schedule.siftDown place).contents = schedule.contents := by
  fun_induction siftDown schedule place with
  | case1 schedule place _ ih => simpa using ih
  | case2 => rfl

@[simp] theorem contents_settle (schedule : Schedule K V) (place : Nat) :
    (schedule.settle place).contents = schedule.contents := by
  unfold settle
  split <;> simp

@[simp] theorem contents_push (schedule : Schedule K V) (id : SlotId) :
    (schedule.push id).contents = schedule.contents := by
  simp [push]

@[simp] theorem contents_dropLast (schedule : Schedule K V) (id : SlotId) :
    (schedule.dropLast id).contents = schedule.contents := by
  simp [dropLast]

@[simp] theorem contents_pop (schedule : Schedule K V) :
    schedule.pop.1.contents = schedule.contents := by
  unfold pop
  split <;> simp

@[simp] theorem contents_remove (schedule : Schedule K V) (id : SlotId) :
    (schedule.remove id).1.contents = schedule.contents := by
  unfold remove
  split
  · rfl
  · dsimp only
    split <;> split <;> simp

@[simp] theorem contents_fix (schedule : Schedule K V) (id : SlotId) :
    (schedule.fix id).contents = schedule.contents := by
  unfold fix
  split <;> simp

def overdue (schedule : Schedule K V) (now : Instant) : Nat :=
  schedule.contents.countP (·.isExpired now)

/-- Renewing an expired entry leaves one expired entry less. -/
theorem overdue_update_renew {schedule : Schedule K V} {id : SlotId} {entry : Entry K V}
    {now : Instant} (shared : Option Duration)
    (found : schedule.entries.get? id = some entry) (expired : entry.isExpired now = true) :
    (schedule.update id (·.renew now shared)).overdue now + 1 = schedule.overdue now := by
  simp only [overdue, contents, SlotTable.countP_map]
  exact SlotTable.countP_modify_of_ends found expired (entry.isExpired_renew now shared)

/-- Discarding an expired entry leaves one expired entry less. -/
theorem overdue_discard {schedule : Schedule K V} {id : SlotId} {entry : Entry K V}
    {now : Instant} (found : schedule.entries.get? id = some entry)
    (expired : entry.isExpired now = true) :
    (schedule.discard id).1.overdue now + 1 = schedule.overdue now := by
  simp only [overdue, contents, SlotTable.countP_map]
  exact SlotTable.countP_erase found expired

end Schedule

end ExpiringCache
