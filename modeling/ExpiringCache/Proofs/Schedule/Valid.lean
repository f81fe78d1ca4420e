import ExpiringCache.Proofs.FreeSlots
import ExpiringCache.Proofs.Schedule.Queue

/-!
# Valid schedules

In a valid schedule exactly the entries with a deadline are queued.  The
changes that a store makes keep this, each of them together with the repair of
the queue that follows it.
-/

namespace ExpiringCache

namespace Schedule

variable {K V : Type} {schedule : Schedule K V}

structure Valid (schedule : Schedule K V) : Prop where
  slots : schedule.entries.Valid
  placed : schedule.Placed
  ordered : schedule.Ordered
  /-- An entry has a place exactly when it has a deadline. -/
  queued : ∀ id, (schedule.positionOf id).isSome = (schedule.deadlineOf id).isSome

theorem valid_empty : ({} : Schedule K V).Valid where
  slots := SlotTable.valid_empty
  placed id place := by simp [positionOf]
  ordered place positive inside := absurd inside (Nat.not_lt_zero place)
  queued id := by simp [positionOf, deadlineOf]

/-- The slots are in order exactly if the contents are. -/
theorem valid_contents_iff (schedule : Schedule K V) :
    schedule.contents.Valid ↔ schedule.entries.Valid :=
  SlotTable.valid_map_iff Entry.unplaced

theorem slots_congr {other : Schedule K V} (slots : schedule.entries.Valid)
    (same : other.contents = schedule.contents) : other.entries.Valid := by
  rw [← valid_contents_iff, same, valid_contents_iff]
  exact slots

/-! ## One entry changed in place -/

theorem deadlineOf_update {id : SlotId} {entry : Entry K V}
    (found : schedule.entries.get? id = some entry) (change : Entry K V → Entry K V)
    (other : SlotId) :
    (schedule.update id change).deadlineOf other =
      if id = other then (change entry).deadline else schedule.deadlineOf other := by
  unfold deadlineOf update
  rw [SlotTable.get?_modify]
  by_cases same : id = other
  · subst same
    simp [found]
  · simp [same]

/-- What happens to a slot outside the heap does not show in the heap. -/
theorem Ordered.congr {other : Schedule K V} (ordered : schedule.Ordered)
    (heaps : other.heap = schedule.heap)
    (deadlines : ∀ id ∈ schedule.heap, other.deadlineOf id = schedule.deadlineOf id) :
    other.Ordered := by
  have same (place : Nat) : other.deadlineAt place = schedule.deadlineAt place := by
    unfold deadlineAt
    rw [heaps]
    cases here : schedule.heap[place]? with
    | none => rfl
    | some id => exact deadlines id (Array.mem_iff_getElem?.mpr ⟨place, here⟩)
  intro place positive inside
  rw [earlier, same, same]
  exact ordered place positive (heaps ▸ inside)

theorem deadlineOf_update_of_kept (schedule : Schedule K V) (id other : SlotId)
    {change : Entry K V → Entry K V} (kept : ∀ entry, (change entry).deadline = entry.deadline) :
    (schedule.update id change).deadlineOf other = schedule.deadlineOf other := by
  cases found : schedule.entries.get? id with
  | none => simp [deadlineOf, update, SlotTable.modify, found]
  | some entry =>
      rw [deadlineOf_update found, kept]
      split
      · rename_i same
        subst same
        simp [deadlineOf, found]
      · rfl

/-- A change that keeps all deadlines leaves the order alone. -/
theorem Ordered.update_of_kept (ordered : schedule.Ordered) (id : SlotId)
    {change : Entry K V → Entry K V} (kept : ∀ entry, (change entry).deadline = entry.deadline) :
    (schedule.update id change).Ordered :=
  ordered.congr rfl fun other _ => deadlineOf_update_of_kept schedule id other kept

theorem Placed.update (placed : schedule.Placed) (id : SlotId) {change : Entry K V → Entry K V}
    (kept : ∀ entry, (change entry).position = entry.position) :
    (schedule.update id change).Placed :=
  placed.congr (fun other => positionOf_update schedule id other kept) rfl

/-- The repair of the queue after the deadline of one entry changed. -/
def requeue (schedule : Schedule K V) (id : SlotId) (deadline : Option Instant)
    (position : Option Nat) : Schedule K V :=
  match deadline, position with
  | some _, some _ => schedule.fix id
  | some _, none => schedule.push id
  | none, some _ => (schedule.remove id).1
  | none, none => schedule

@[simp] theorem contents_requeue (schedule : Schedule K V) (id : SlotId)
    (deadline : Option Instant) (position : Option Nat) :
    (schedule.requeue id deadline position).contents = schedule.contents := by
  unfold requeue
  split <;> simp

namespace Valid

/-- A change that keeps deadline and place of every entry keeps the schedule valid. -/
theorem update (valid : schedule.Valid) (id : SlotId) {change : Entry K V → Entry K V}
    (deadlineKept : ∀ entry, (change entry).deadline = entry.deadline)
    (positionKept : ∀ entry, (change entry).position = entry.position) :
    (schedule.update id change).Valid := by
  refine ⟨valid.slots.modify id change, valid.placed.update id positionKept,
    valid.ordered.update_of_kept id deadlineKept, ?_⟩
  intro other
  rw [positionOf_update schedule id other positionKept,
    deadlineOf_update_of_kept schedule id other deadlineKept]
  exact valid.queued other

/-- A change of one deadline with the repair of the queue keeps the schedule valid. -/
theorem requeue (valid : schedule.Valid) {id : SlotId} {entry : Entry K V}
    (found : schedule.entries.get? id = some entry) (change : Entry K V → Entry K V)
    (kept : ∀ entry, (change entry).position = entry.position) :
    ((schedule.update id change).requeue id (change entry).deadline entry.position).Valid := by
  have placed := valid.placed.update id kept
  have oldPlace : schedule.positionOf id = entry.position := by simp [positionOf, found]
  have position := (positionOf_update schedule id id kept).trans oldPlace
  have stored : ((schedule.update id change).entries.get? id).isSome = true := by
    simp [Schedule.update, SlotTable.get?_modify, found]
  have slots := slots_congr (valid.slots.modify id change)
    (contents_requeue (schedule.update id change) id (change entry).deadline entry.position)
  have deadlines := deadlineOf_congr
    (contents_requeue (schedule.update id change) id (change entry).deadline entry.position)
  -- Outside of the changed slot nothing moves between queued and unqueued.
  have queued {final : Schedule K V}
      (same : ∀ other, final.deadlineOf other = (schedule.update id change).deadlineOf other)
      (moved : ∀ other, (final.positionOf other).isSome =
        if id = other then (change entry).deadline.isSome
        else ((schedule.update id change).positionOf other).isSome) (other : SlotId) :
      (final.positionOf other).isSome = (final.deadlineOf other).isSome := by
    rw [moved, same, deadlineOf_update found, positionOf_update schedule id other kept]
    split
    · rfl
    · exact valid.queued other
  have unmoved (other : SlotId) (dated : entry.position.isSome = (change entry).deadline.isSome) :
      ((schedule.update id change).positionOf other).isSome =
        if id = other then (change entry).deadline.isSome
        else ((schedule.update id change).positionOf other).isSome := by
    split
    · rename_i same
      rw [← same, position, dated]
    · rfl
  cases due : (change entry).deadline with
  | some deadline =>
      rw [due] at slots deadlines queued unmoved
      cases recorded : entry.position with
      | some place =>
          rw [recorded] at oldPlace position slots deadlines unmoved
          refine ⟨slots, placed.fix id,
            (valid.ordered.update valid.placed oldPlace change).fix placed position,
            queued deadlines ?_⟩
          intro other
          rw [Schedule.requeue, isSome_positionOf_fix placed]
          exact unmoved other rfl
      | none =>
          rw [recorded] at oldPlace position slots deadlines
          refine ⟨slots, placed.push stored position,
            (valid.ordered.update_of_unqueued valid.placed oldPlace change).push id,
            queued deadlines ?_⟩
          intro other
          exact isSome_positionOf_push placed stored position other
  | none =>
      rw [due] at slots deadlines queued unmoved
      cases recorded : entry.position with
      | some place =>
          rw [recorded] at oldPlace position slots deadlines
          refine ⟨slots, placed.remove id,
            (valid.ordered.update valid.placed oldPlace change).remove placed position,
            queued deadlines ?_⟩
          intro other
          exact isSome_positionOf_remove placed id other
      | none =>
          rw [recorded] at oldPlace position unmoved
          refine ⟨valid.slots.modify id change, placed,
            valid.ordered.update_of_unqueued valid.placed oldPlace change,
            queued (fun _ => rfl) ?_⟩
          intro other
          exact unmoved other rfl

end Valid

/-! ## Entries that come and go -/

theorem get?_insert_entries (slots : schedule.entries.Valid) (entry : Entry K V)
    (other : SlotId) :
    (schedule.insert entry).1.entries.get? other =
      if (schedule.insert entry).2 = other then some entry else schedule.entries.get? other :=
  slots.get?_insert entry other

theorem get?_insert_fresh (slots : schedule.entries.Valid) (entry : Entry K V) :
    schedule.entries.get? (schedule.insert entry).2 = none :=
  slots.get?_insert_fresh entry

theorem get?_discard_entries (schedule : Schedule K V) (id other : SlotId) :
    (schedule.discard id).1.entries.get? other =
      if id = other then none else schedule.entries.get? other :=
  schedule.entries.get?_erase id other

/-- Storing an entry without a place gives no slot a place. -/
theorem positionOf_insert (slots : schedule.entries.Valid) {entry : Entry K V}
    (unplaced : entry.position = none) (other : SlotId) :
    (schedule.insert entry).1.positionOf other = schedule.positionOf other := by
  unfold positionOf
  rw [get?_insert_entries slots]
  split
  · rename_i same
    rw [← same, get?_insert_fresh slots]
    exact unplaced
  · rfl

theorem Placed.insert (placed : schedule.Placed) (slots : schedule.entries.Valid)
    {entry : Entry K V} (unplaced : entry.position = none) :
    (schedule.insert entry).1.Placed :=
  placed.congr (positionOf_insert slots unplaced) rfl

theorem Ordered.insert (ordered : schedule.Ordered) (placed : schedule.Placed)
    (slots : schedule.entries.Valid) (entry : Entry K V) :
    (schedule.insert entry).1.Ordered := by
  refine ordered.congr rfl ?_
  intro id listed
  obtain ⟨place, here⟩ := Array.mem_iff_getElem?.mp listed
  have stored := placed.isSome_get? here
  rw [deadlineOf, get?_insert_entries slots, if_neg]
  · rfl
  · rintro rfl
    rw [get?_insert_fresh slots] at stored
    cases stored

/-- Storing an entry without deadline and place keeps the schedule valid. -/
theorem Valid.insert (valid : schedule.Valid) {entry : Entry K V}
    (undated : entry.deadline = none) (unplaced : entry.position = none) :
    (schedule.insert entry).1.Valid := by
  refine ⟨valid.slots.insert entry, valid.placed.insert valid.slots unplaced,
    valid.ordered.insert valid.placed valid.slots entry, ?_⟩
  intro other
  rw [positionOf_insert valid.slots unplaced, deadlineOf, get?_insert_entries valid.slots]
  split
  · rename_i same
    have queued := valid.queued other
    rw [deadlineOf, ← same, get?_insert_fresh valid.slots] at queued
    rw [← same, queued, Option.bind_some, undated]
    rfl
  · exact valid.queued other

theorem positionOf_discard (schedule : Schedule K V) (id other : SlotId) :
    (schedule.discard id).1.positionOf other =
      if id = other then none else schedule.positionOf other := by
  rw [positionOf, get?_discard_entries]
  split <;> rfl

theorem deadlineOf_discard (schedule : Schedule K V) (id other : SlotId) :
    (schedule.discard id).1.deadlineOf other =
      if id = other then none else schedule.deadlineOf other := by
  rw [deadlineOf, get?_discard_entries]
  split <;> rfl

/-- Discarding an entry that has no place takes no place from any slot. -/
theorem positionOf_discard_of_unqueued {id : SlotId} (unqueued : schedule.positionOf id = none)
    (other : SlotId) : (schedule.discard id).1.positionOf other = schedule.positionOf other := by
  rw [positionOf_discard]
  split
  · rename_i here
    rw [← here, unqueued]
  · rfl

theorem Placed.discard (placed : schedule.Placed) {id : SlotId}
    (unqueued : schedule.positionOf id = none) : (schedule.discard id).1.Placed :=
  placed.congr (positionOf_discard_of_unqueued unqueued) rfl

theorem Ordered.discard (ordered : schedule.Ordered) (placed : schedule.Placed) {id : SlotId}
    (unqueued : schedule.positionOf id = none) : (schedule.discard id).1.Ordered := by
  refine ordered.congr rfl ?_
  intro other listed
  rw [deadlineOf_discard, if_neg]
  rintro rfl
  have queued := (placed.mem_heap_iff id).mp listed
  rw [unqueued] at queued
  cases queued

/-- Discarding an entry that was just taken out of the queue leaves a valid schedule. -/
theorem Valid.discard {taken : Schedule K V} {id : SlotId} (valid : schedule.Valid)
    (same : taken.contents = schedule.contents) (placed : taken.Placed) (ordered : taken.Ordered)
    (positions : ∀ other, (taken.positionOf other).isSome =
      if id = other then false else (schedule.positionOf other).isSome) :
    (taken.discard id).1.Valid := by
  have unqueued : taken.positionOf id = none := by
    have gone := positions id
    rw [if_pos rfl] at gone
    exact Option.isNone_iff_eq_none.mp (Option.isSome_eq_false_iff.mp gone)
  refine ⟨(slots_congr valid.slots same).erase id, placed.discard unqueued,
    ordered.discard placed unqueued, ?_⟩
  intro other
  rw [positionOf_discard, deadlineOf_discard]
  split
  · rfl
  · rename_i different
    rw [positions, if_neg different, deadlineOf_congr same]
    exact valid.queued other

theorem Valid.remove_discard (valid : schedule.Valid) (id : SlotId) :
    ((schedule.remove id).1.discard id).1.Valid :=
  valid.discard (contents_remove schedule id) (valid.placed.remove id)
    (valid.ordered.remove valid.placed id) (isSome_positionOf_remove valid.placed id)

theorem Valid.pop_discard (valid : schedule.Valid) {id : SlotId}
    (root : schedule.first? = some id) : (schedule.pop.1.discard id).1.Valid :=
  valid.discard (contents_pop schedule) (valid.placed.pop root)
    (valid.ordered.pop valid.placed root) (isSome_positionOf_pop valid.placed root)

/-! ## The root of a valid schedule -/

namespace Valid

/-- The root of the heap is stored and has a deadline. -/
theorem first?_dated (valid : schedule.Valid) {id : SlotId} (root : schedule.first? = some id) :
    ∃ deadline, schedule.deadlineOf id = some deadline := by
  have recorded := (valid.placed id 0).mpr root
  have queued := valid.queued id
  rw [recorded] at queued
  exact Option.isSome_iff_exists.mp queued.symm

/-- The deadline of the root is the earliest of all. -/
theorem first?_le (valid : schedule.Valid) {id other : SlotId} {earliest deadline : Instant}
    (root : schedule.first? = some id) (rootDue : schedule.deadlineOf id = some earliest)
    (due : schedule.deadlineOf other = some deadline) : earliest ≤ deadline := by
  have listed : other ∈ schedule.heap := by
    rw [valid.placed.mem_heap_iff, valid.queued, due]
    rfl
  have noLater := valid.ordered.root_noLater root listed
  rw [due, rootDue, ← not_precedes_iff] at noLater
  exact precedes_some_some.mp noLater

/-- With an empty heap nothing has a deadline. -/
theorem deadlineOf_eq_none (valid : schedule.Valid) (empty : schedule.first? = none)
    (id : SlotId) : schedule.deadlineOf id = none := by
  have queued := valid.queued id
  cases recorded : schedule.positionOf id with
  | none =>
      rw [recorded] at queued
      simpa using queued
  | some place =>
      have inside := valid.placed.lt_size recorded
      simp only [first?, getElem?_eq_none_iff] at empty
      omega

end Valid

end Schedule

end ExpiringCache
