import ExpiringCache.Proofs.FreeSlots
import Mathlib.Data.Finset.Card

/-!
# The history of a slot table

What has happened to a slot table since it was last cleared tells what stands
in each slot, which slot the next value gets, and how long the table is: a
table grows only when more values are stored at one time than ever before.
-/

namespace ExpiringCache

/-- What can happen to the slots of a table. -/
inductive SlotEvent (α : Type) where
  | filled (id : SlotId) (value : α)
  | changed (id : SlotId) (value : α)
  | freed (id : SlotId)
  /-- All slots are gone. -/
  | cleared
  deriving DecidableEq, Repr

/-- What has happened to the slots of a table, the latest first. -/
abbrev SlotHistory (α : Type) := List (SlotEvent α)

namespace SlotHistory

variable {α : Type}

/-- The value last stored in a slot, unless the slot was freed afterwards. -/
def standing? (id : SlotId) : SlotHistory α → Option α
  | [] => none
  | .filled slot value :: before => if slot = id then some value else standing? id before
  | .changed slot value :: before => if slot = id then some value else standing? id before
  | .freed slot :: before => if slot = id then none else standing? id before
  | .cleared :: _ => none

def filledSlots : SlotHistory α → List SlotId
  | [] => []
  | .filled slot _ :: before => slot :: filledSlots before
  | .changed _ _ :: before => filledSlots before
  | .freed _ :: before => filledSlots before
  | .cleared :: _ => []

def freedSlots : SlotHistory α → List SlotId
  | [] => []
  | .filled _ _ :: before => freedSlots before
  | .changed _ _ :: before => freedSlots before
  | .freed slot :: before => slot :: freedSlots before
  | .cleared :: _ => []

/-- The slot freed last among those that are still free. -/
def lastFreed? (history : SlotHistory α) : Option SlotId :=
  history.freedSlots.find? fun slot => (history.standing? slot).isNone

/-- The slots in which a value stands. -/
def occupiedSlots (history : SlotHistory α) : Finset SlotId :=
  history.filledSlots.toFinset.filter fun slot => (history.standing? slot).isSome

/-- The most slots that were occupied at one time since the last clearing. -/
def peak : SlotHistory α → Nat
  | [] => 0
  | .cleared :: _ => 0
  | event :: before => max (peak before) (occupiedSlots (event :: before)).card

end SlotHistory

namespace SlotTable

variable {α : Type}

/-! ## Listing -/

/-- The cells of a table are its slots in order. -/
theorem map_get?_range (table : SlotTable α) :
    (List.range table.slots.size).map table.get? = table.slots.toList := by
  apply List.ext_getElem
  · simp
  · intro place inside _
    have bound : place < table.slots.size := by simpa using inside
    simp [get?, bound]

theorem map_fst_toList (table : SlotTable α) :
    table.toList.map Prod.fst =
      (List.range table.slots.size).filter fun id => (table.get? id).isSome := by
  rw [toList, List.map_filterMap, ← List.filterMap_eq_filter]
  congr 1
  funext id
  cases found : table.get? id <;> simp [found, Option.guard]

/-- The listed slots come by increasing number. -/
theorem toList_ascending (table : SlotTable α) :
    table.toList.Pairwise fun early late => early.1 < late.1 := by
  rw [← List.pairwise_map (f := Prod.fst) (R := (· < ·)), map_fst_toList]
  exact List.pairwise_lt_range.filter _

theorem mem_toList_iff (table : SlotTable α) (id : SlotId) (value : α) :
    (id, value) ∈ table.toList ↔ table.get? id = some value := by
  rw [toList, List.mem_filterMap]
  constructor
  · rintro ⟨slot, -, here⟩
    obtain ⟨stored, found, same⟩ := Option.map_eq_some_iff.mp here
    cases same
    exact found
  · intro found
    exact ⟨id, List.mem_range.mpr (lt_size_of_get? found), by rw [found, Option.map_some]⟩

/-- The count of occupied slots is kept right. -/
theorem Valid.occupied_eq_length {table : SlotTable α} (valid : table.Valid) :
    table.occupied = table.toList.length := by
  rw [valid.occupied_eq, countP, ← Array.countP_toList, ← map_get?_range, List.countP_map,
    ← List.length_map (f := Prod.fst), map_fst_toList, List.countP_eq_length_filter]
  rfl

/-! ## One operation -/

/-- A value goes into the slot on top of the free list, or into a new one if there is none. -/
theorem Valid.insert_cases {table : SlotTable α} (valid : table.Valid) (value : α) :
    (table.insert value).1.occupied = table.occupied + 1 ∧
      ((table.free = [] ∧ (table.insert value).2 = table.slots.size ∧
          (table.insert value).1.free = [] ∧
          (table.insert value).1.slots.size = table.slots.size + 1) ∨
        ∃ rest, table.free = (table.insert value).2 :: rest ∧
          (table.insert value).2 < table.slots.size ∧ (table.insert value).1.free = rest ∧
          (table.insert value).1.slots.size = table.slots.size) := by
  unfold SlotTable.insert
  cases free : table.free with
  | nil => exact ⟨rfl, .inl ⟨rfl, rfl, rfl, Array.size_push _⟩⟩
  | cons id rest =>
      have listed : id ∈ table.free := by simp [free]
      have inside := ((valid.mem_free_iff id).mp listed).1
      exact ⟨rfl, .inr ⟨rest, rfl, inside, rfl, Array.size_setIfInBounds⟩⟩

theorem erase_of_empty {table : SlotTable α} {id : SlotId} (empty : table.get? id = none) :
    table.erase id = (table, none) := by
  rw [erase, empty]

theorem erase_snd (table : SlotTable α) (id : SlotId) : (table.erase id).2 = table.get? id := by
  unfold erase
  cases table.get? id <;> rfl

theorem Valid.occupied_pos {table : SlotTable α} (valid : table.Valid) {id : SlotId} {value : α}
    (found : table.get? id = some value) : 0 < table.occupied := by
  rw [valid.occupied_eq]
  exact countP_pos found rfl

inductive Operation (α : Type) where
  | insert (value : α)
  | erase (id : SlotId)
  | get (id : SlotId)
  | modify (id : SlotId) (change : α → α)
  | clear

def perform (table : SlotTable α) : Operation α → SlotTable α
  | .insert value => (table.insert value).1
  | .erase id => (table.erase id).1
  | .get _ => table
  | .modify id change => table.modify id change
  | .clear => {}

/-- What an operation makes happen, its answer taken at its word. -/
def event? (table : SlotTable α) : Operation α → Option (SlotEvent α)
  | .insert value => some (.filled (table.insert value).2 value)
  | .erase id => (table.erase id).2.map fun _ => .freed id
  | .get _ => none
  | .modify id change => (table.get? id).map fun value => .changed id (change value)
  | .clear => some .cleared

def slot? (table : SlotTable α) : Operation α → Option SlotId
  | .insert value => some (table.insert value).2
  | .erase id => some id
  | .get id => some id
  | .modify id _ => some id
  | .clear => none

/-- A table with its history. -/
structure Diary (α : Type) where
  table : SlotTable α := {}
  history : SlotHistory α := []

namespace Diary

def after (diary : Diary α) (operation : Operation α) : Diary α where
  table := diary.table.perform operation
  history := (diary.table.event? operation).toList ++ diary.history

def afterAll (diary : Diary α) (operations : List (Operation α)) : Diary α :=
  operations.foldl after diary

open SlotHistory

/-- The table is what its history tells. -/
structure Truthful (diary : Diary α) : Prop where
  valid : diary.table.Valid
  standing : ∀ id, diary.history.standing? id = diary.table.get? id
  filled : ∀ id, id ∈ diary.history.filledSlots ↔ id < diary.table.slots.size
  /-- Of any choice of free slots, the one freed last comes first in the free list. -/
  freed : ∀ choice : SlotId → Bool,
    (∀ id, choice id = true → diary.table.get? id = none) →
      diary.history.freedSlots.find? choice = diary.table.free.find? choice
  /-- Every slot is occupied or free. -/
  complete : diary.table.occupied + diary.table.free.length = diary.table.slots.size
  peak : diary.history.peak = diary.table.slots.size

theorem truthful_empty : ({} : Diary α).Truthful where
  valid := valid_empty
  standing id := (get?_empty id).symm
  filled id := by simp [filledSlots]
  freed choice free := rfl
  complete := rfl
  peak := rfl

/-- The slots in which a value stands by the history are the occupied ones. -/
theorem card_occupiedSlots {table : SlotTable α} {history : SlotHistory α} (valid : table.Valid)
    (standing : ∀ id, history.standing? id = table.get? id)
    (filled : ∀ id, id ∈ history.filledSlots ↔ id < table.slots.size) :
    history.occupiedSlots.card = table.occupied := by
  have same : history.occupiedSlots = (table.toList.map Prod.fst).toFinset := by
    ext id
    simp [occupiedSlots, map_fst_toList, standing, filled]
  have distinct : (table.toList.map Prod.fst).Nodup := by
    rw [map_fst_toList]
    exact List.nodup_range.filter _
  rw [same, List.toFinset_card_of_nodup distinct, List.length_map, valid.occupied_eq_length]

namespace Truthful

variable {diary : Diary α}

/-- At no time are more slots occupied than there are. -/
theorem occupied_le (truthful : diary.Truthful) :
    diary.table.occupied ≤ diary.table.slots.size := by
  have complete := truthful.complete
  omega

/--
A table stays what its history tells if its slots and free list follow the event
and it grows only to hold more values than it has slots.
-/
theorem next (truthful : diary.Truthful) {table : SlotTable α} {event : SlotEvent α}
    (lasting : event ≠ .cleared) (valid : table.Valid)
    (standing : ∀ id, standing? id (event :: diary.history) = table.get? id)
    (filled : ∀ id, id ∈ filledSlots (event :: diary.history) ↔ id < table.slots.size)
    (freed : ∀ choice : SlotId → Bool, (∀ id, choice id = true → table.get? id = none) →
      (freedSlots (event :: diary.history)).find? choice = table.free.find? choice)
    (complete : table.occupied + table.free.length = table.slots.size)
    (grown : max diary.table.slots.size table.occupied = table.slots.size) :
    ({ table, history := event :: diary.history } : Diary α).Truthful := by
  refine ⟨valid, standing, filled, freed, complete, ?_⟩
  have peaked : SlotHistory.peak (event :: diary.history) =
      max diary.history.peak (occupiedSlots (event :: diary.history)).card := by
    cases event with
    | cleared => exact absurd rfl lasting
    | _ => rfl
  rw [peaked, truthful.peak, card_occupiedSlots valid standing filled, grown]

theorem insert (truthful : diary.Truthful) (value : α) :
    (diary.after (.insert value)).Truthful := by
  have looked := truthful.valid.get?_insert value
  have complete := truthful.complete
  obtain ⟨occupied, cases⟩ := truthful.valid.insert_cases value
  have told : diary.after (.insert value) =
      { table := (diary.table.insert value).1
        history := .filled (diary.table.insert value).2 value :: diary.history } := rfl
  rw [told]
  apply truthful.next
  case lasting =>
    intro same
    cases same
  case valid => exact truthful.valid.insert value
  case standing =>
    intro id
    rw [looked, standing?, truthful.standing]
  case filled =>
    intro id
    rw [filledSlots, List.mem_cons, truthful.filled]
    obtain ⟨-, last, -, size⟩ | ⟨rest, -, inside, -, size⟩ := cases
    · rw [last, size, Nat.lt_succ_iff_lt_or_eq, or_comm]
    · rw [size]
      exact or_iff_right_of_imp fun same => same ▸ inside
  case freed =>
    intro choice free
    have earlier (id : SlotId) (chosen : choice id = true) : diary.table.get? id = none := by
      have empty := free id chosen
      rw [looked] at empty
      split at empty
      · cases empty
      · exact empty
    have same := truthful.freed choice earlier
    rw [freedSlots]
    obtain ⟨none, -, kept, -⟩ | ⟨rest, top, -, kept, -⟩ := cases
    · rw [same, none, kept]
    · -- The slot taken from the top is not empty any more, so it is not among the choice.
      have unchosen : choice (diary.table.insert value).2 = false := by
        refine eq_false_of_ne_true fun chosen => ?_
        have empty := free _ chosen
        rw [looked, if_pos rfl] at empty
        cases empty
      rw [same, top, kept, List.find?_cons, unchosen]
  case complete =>
    obtain ⟨none, -, kept, size⟩ | ⟨rest, top, -, kept, size⟩ := cases
    · rw [none, List.length_nil] at complete
      rw [kept, List.length_nil]
      omega
    · rw [top, List.length_cons] at complete
      rw [kept]
      omega
  case grown =>
    obtain ⟨none, -, -, size⟩ | ⟨rest, top, -, -, size⟩ := cases
    · rw [none, List.length_nil] at complete
      omega
    · rw [top, List.length_cons] at complete
      omega

theorem erase (truthful : diary.Truthful) (id : SlotId) :
    (diary.after (.erase id)).Truthful := by
  cases found : diary.table.get? id with
  | none =>
      have still : diary.after (.erase id) = diary := by
        simp only [Diary.after, perform, event?, erase_of_empty found]
        rfl
      rw [still]
      exact truthful
  | some value =>
      have gone : diary.after (.erase id) =
          { table := (diary.table.erase id).1, history := .freed id :: diary.history } := by
        simp only [Diary.after, perform, event?, erase_snd, found]
        rfl
      have emptied : (diary.table.erase id).1.free = id :: diary.table.free ∧
          (diary.table.erase id).1.occupied = diary.table.occupied - 1 ∧
          (diary.table.erase id).1.slots.size = diary.table.slots.size := by
        rw [SlotTable.erase, found]
        exact ⟨rfl, rfl, Array.size_setIfInBounds⟩
      obtain ⟨free, occupied, size⟩ := emptied
      have looked := diary.table.get?_erase id
      have complete := truthful.complete
      have positive := truthful.valid.occupied_pos found
      rw [gone]
      apply truthful.next
      case lasting =>
        intro same
        cases same
      case valid => exact truthful.valid.erase id
      case standing =>
        intro other
        rw [looked, standing?, truthful.standing]
      case filled =>
        intro other
        rw [filledSlots, truthful.filled, size]
      case freed =>
        intro choice empty
        rw [freedSlots, free, List.find?_cons, List.find?_cons]
        cases chosen : choice id with
        | true => rfl
        | false =>
            refine truthful.freed choice fun other picked => ?_
            have elsewhere : id ≠ other := by
              rintro rfl
              cases chosen.symm.trans picked
            have gone := empty other picked
            rwa [looked, if_neg elsewhere] at gone
      case complete =>
        rw [free, occupied, size, List.length_cons]
        omega
      case grown =>
        rw [occupied, size]
        omega

theorem modify (truthful : diary.Truthful) (id : SlotId) (change : α → α) :
    (diary.after (.modify id change)).Truthful := by
  cases found : diary.table.get? id with
  | none =>
      have still : diary.after (.modify id change) = diary := by
        simp only [Diary.after, perform, event?, SlotTable.modify, found]
        rfl
      rw [still]
      exact truthful
  | some value =>
      have changed : diary.after (.modify id change) =
          { table := diary.table.modify id change
            history := .changed id (change value) :: diary.history } := by
        simp only [Diary.after, perform, event?, found]
        rfl
      have kept : (diary.table.modify id change).free = diary.table.free ∧
          (diary.table.modify id change).occupied = diary.table.occupied := by
        rw [SlotTable.modify, found]
        exact ⟨rfl, rfl⟩
      obtain ⟨free, occupied⟩ := kept
      have looked := diary.table.get?_modify id
      rw [changed]
      apply truthful.next
      case lasting =>
        intro same
        cases same
      case valid => exact truthful.valid.modify id change
      case standing =>
        intro other
        rw [looked, standing?, truthful.standing]
        split
        · rename_i same
          rw [← same, found, Option.map_some]
        · rfl
      case filled =>
        intro other
        rw [filledSlots, truthful.filled, size_modify]
      case freed =>
        intro choice empty
        rw [freedSlots, free]
        refine truthful.freed choice fun other picked => ?_
        have still := empty other picked
        rw [looked] at still
        split at still
        · exact Option.map_eq_none_iff.mp still
        · exact still
      case complete =>
        rw [free, occupied, size_modify]
        exact truthful.complete
      case grown =>
        rw [occupied, size_modify]
        exact Nat.max_eq_left truthful.occupied_le

theorem clear (history : SlotHistory α) :
    ({ history := .cleared :: history } : Diary α).Truthful where
  valid := valid_empty
  standing id := (get?_empty id).symm
  filled id := by simp [filledSlots]
  freed choice free := rfl
  complete := rfl
  peak := rfl

/-- Every operation keeps a diary truthful. -/
theorem after (truthful : diary.Truthful) (operation : Operation α) :
    (diary.after operation).Truthful := by
  cases operation with
  | insert value => exact truthful.insert value
  | erase id => exact truthful.erase id
  | get id => exact truthful
  | modify id change => exact truthful.modify id change
  | clear => exact clear diary.history

theorem afterAll (truthful : diary.Truthful) (operations : List (Operation α)) :
    (diary.afterAll operations).Truthful := by
  induction operations generalizing diary with
  | nil => exact truthful
  | cons operation rest ih => exact ih (truthful.after operation)

/-- The slot freed last of those that are free is the next to be filled. -/
theorem lastFreed?_eq (truthful : diary.Truthful) :
    diary.history.lastFreed? = diary.table.free.head? := by
  have isEmpty (id : SlotId) (chosen : (diary.history.standing? id).isNone = true) :
      diary.table.get? id = none := by
    rw [← truthful.standing]
    exact Option.isNone_iff_eq_none.mp chosen
  rw [lastFreed?, truthful.freed _ isEmpty]
  cases free : diary.table.free with
  | nil => rfl
  | cons id rest =>
      have listed : id ∈ diary.table.free := by simp [free]
      have empty := ((truthful.valid.mem_free_iff id).mp listed).2
      rw [List.find?_cons, truthful.standing, empty]
      rfl

end Truthful

end Diary

/-- No operation on one slot shows in another. -/
theorem get?_perform_of_other {table : SlotTable α} (valid : table.Valid)
    {operation : Operation α} {slot other : SlotId} (about : table.slot? operation = some slot)
    (elsewhere : slot ≠ other) : (table.perform operation).get? other = table.get? other := by
  cases operation with
  | insert value =>
      obtain rfl := Option.some.inj about
      rw [perform, valid.get?_insert, if_neg elsewhere]
  | erase id =>
      obtain rfl := Option.some.inj about
      rw [perform, get?_erase, if_neg elsewhere]
  | get id => rfl
  | modify id change =>
      obtain rfl := Option.some.inj about
      rw [perform, get?_modify, if_neg elsewhere]
  | clear => cases about

/--
A table is what its history tells, after any operations on any slots.  The free
list names each empty slot once and nothing else; the listing shows the occupied
slots by increasing number, and as many as are counted.  A slot holds what was
last stored in it unless it was freed, and this is what freeing it returns.  The
slots in use since the last clearing are those below the size.  The next value
goes to the slot freed last of those still free, or else to the first one never
used; nothing but that slot changes, and the size is the greatest number of
slots that were occupied at one time since the last clearing.
-/
theorem told_by_history (operations : List (Operation α)) :
    let diary := ({} : Diary α).afterAll operations
    let table := diary.table
    let history := diary.history
    (table.free.Nodup ∧
        ∀ id, id ∈ table.free ↔ id < table.slots.size ∧ table.get? id = none) ∧
      (table.toList.Pairwise (fun early late => early.1 < late.1) ∧
        (∀ id value, (id, value) ∈ table.toList ↔ table.get? id = some value) ∧
        table.occupied = table.toList.length) ∧
      (∀ id, table.get? id = history.standing? id ∧
        (table.erase id).2 = history.standing? id) ∧
      (∀ id, id ∈ history.filledSlots ↔ id < table.slots.size) ∧
      (∀ value, table.get? (table.insert value).2 = none ∧
        (table.insert value).2 = history.lastFreed?.getD table.slots.size) ∧
      (∀ operation slot other, table.slot? operation = some slot → slot ≠ other →
        (table.perform operation).get? other = table.get? other) ∧
      table.slots.size = history.peak := by
  intro diary table history
  have truthful : diary.Truthful := Diary.truthful_empty.afterAll operations
  have valid := truthful.valid
  refine ⟨⟨valid.free_nodup, valid.mem_free_iff⟩,
    ⟨table.toList_ascending, table.mem_toList_iff, valid.occupied_eq_length⟩, ?_,
    truthful.filled, ?_, ?_, truthful.peak.symm⟩
  · intro id
    exact ⟨(truthful.standing id).symm,
      (table.erase_snd id).trans (truthful.standing id).symm⟩
  · intro value
    refine ⟨valid.get?_insert_fresh value, ?_⟩
    have next : history.lastFreed? = table.free.head? := truthful.lastFreed?_eq
    rw [next]
    obtain ⟨-, ⟨none, last, -, -⟩ | ⟨rest, top, -, -, -⟩⟩ := valid.insert_cases value
    · exact last.trans (congrArg (fun free => free.head?.getD table.slots.size) none).symm
    · exact (congrArg (fun free => free.head?.getD table.slots.size) top).symm
  · intro operation slot other about elsewhere
    exact get?_perform_of_other valid about elsewhere

/-- A slot freed twice is given out once, and the table does not grow. -/
example : (({} : Diary Nat).afterAll
    [.insert 10, .insert 20, .erase 0, .erase 0, .insert 30]).table =
      { slots := #[some 30, some 20], free := [], occupied := 2 } := by
  decide +kernel

end SlotTable

end ExpiringCache
