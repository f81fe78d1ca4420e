import ExpiringCache.Proofs.Checks
import ExpiringCache.Proofs.Store.Contents

/-!
# Passes

A pass rules once on each expired entry, the earliest deadline first: it evicts
the entry or, after a veto, renews it.  Nothing else changes.
-/

namespace ExpiringCache

/-- What a pass decides on one expired entry. -/
structure Ruling (K V : Type) where
  slot : SlotId
  /-- The entry before the pass, without its place in the heap. -/
  entry : Entry K V
  /-- The question put to the check, if there is one. -/
  question : Option (Consultation K V)
  permitted : Bool

namespace Ruling

variable {K V : Type}

def pair (ruling : Ruling K V) : K × V := (ruling.entry.key, ruling.entry.value)

/-- Decisions that follow the verdicts of a check, which is asked about each entry in turn. -/
def Follow : Option (ExpiryCheck K V) → List (Ruling K V) → Prop
  | _, [] => True
  | check, ruling :: rest =>
      ruling.question = ExpiryCheck.question? check ruling.entry.key ruling.entry.value ∧
        ruling.permitted = ExpiryCheck.permits check ruling.entry.key ruling.entry.value ∧
        Follow (ExpiryCheck.asked check ruling.entry.key ruling.entry.value) rest

end Ruling

/-- An entry outlives what is due before it. -/
theorem Entry.isExpired_of_not_precedes {K V : Type} {first entry : Entry K V} {now : Instant}
    (later : Schedule.precedes entry.deadline first.deadline = false)
    (live : first.isExpired now = false) : entry.isExpired now = false := by
  refine isExpired_eq_false_iff.mpr fun deadline due => ?_
  cases firstDue : first.deadline with
  | none => simp [due, firstDue, Schedule.precedes] at later
  | some earliest =>
      rw [due, firstDue, Schedule.precedes_some_some] at later
      exact Nat.le_trans (isExpired_eq_false_iff.mp live earliest firstDue) later

/-- An entry that is live at an instant was live before. -/
theorem Entry.isExpired_of_later {K V : Type} {entry : Entry K V} {early late : Instant}
    (later : early ≤ late) (live : entry.isExpired late = false) :
    entry.isExpired early = false := by
  refine isExpired_eq_false_iff.mpr fun deadline due => ?_
  exact Nat.le_trans later (isExpired_eq_false_iff.mp live deadline due)

namespace Store

variable {K V : Type} [DecidableEq K] {store : Store K V} {check : Option (ExpiryCheck K V)}
  {now : Instant}

/-- The rulings of a whole pass and what it leaves behind. -/
structure Settles (store : Store K V) (check : Option (ExpiryCheck K V)) (now : Instant)
    (rulings : List (Ruling K V)) (pass : Pass K V) : Prop where
  slots_nodup : (rulings.map Ruling.slot).Nodup
  /-- The pass rules on exactly the entries that have expired. -/
  mem_iff : ∀ slot entry,
    (slot, entry) ∈ rulings.map (fun ruling => (ruling.slot, ruling.entry)) ↔
      store.content? slot = some entry ∧ entry.isExpired now = true
  sorted : rulings.Pairwise fun early late =>
    Schedule.precedes late.entry.deadline early.entry.deadline = false
  follow : Ruling.Follow check rulings
  check_eq : pass.check = ExpiryCheck.askedAll check (rulings.map Ruling.pair)
  consultations_eq : pass.consultations = rulings.filterMap Ruling.question
  evicted_eq : pass.evicted = (rulings.filter Ruling.permitted).map Ruling.pair
  ruled : ∀ ruling ∈ rulings, pass.store.content? ruling.slot =
    if ruling.permitted then none else some (ruling.entry.renew now store.sharedLifetime)
  untouched : ∀ slot, slot ∉ rulings.map Ruling.slot →
    pass.store.content? slot = store.content? slot
  frame : ∃ index schedule, pass.store =
    { store with
      index
      schedule
      counters := { store.counters with
        evicted := store.counters.evicted + pass.evicted.length } }

/-! ## One round -/

theorem judge_eq (store : Store K V) (check : Option (ExpiryCheck K V)) (id : SlotId)
    (entry : Entry K V) (now : Instant) :
    store.judge check id entry now =
      { store :=
          if ExpiryCheck.permits check entry.key entry.value then store.evictRoot id entry
          else (store.renew id now).1
        check := ExpiryCheck.asked check entry.key entry.value
        consultation := ExpiryCheck.question? check entry.key entry.value
        evicted :=
          if ExpiryCheck.permits check entry.key entry.value then some (entry.key, entry.value)
          else none } := by
  unfold judge
  cases check with
  | none => rfl
  | some installed =>
      rcases Bool.eq_false_or_eq_true
        (installed.verdict installed.history entry.key entry.value).permits with allowed | vetoed
      · simp only [ExpiryCheck.permits, ExpiryCheck.consult, Option.all_some, allowed, if_true]
        rfl
      · simp only [ExpiryCheck.permits, ExpiryCheck.consult, Option.all_some, vetoed,
          Bool.false_eq_true, if_false]
        rfl

/-- One round changes the root alone. -/
theorem content?_judge (check : Option (ExpiryCheck K V)) (now : Instant) {id : SlotId}
    {entry : Entry K V} (found : store.entry? id = some entry) (slot : SlotId) :
    (store.judge check id entry now).store.content? slot =
      if id = slot then
        if ExpiryCheck.permits check entry.key entry.value then none
        else some (entry.unplaced.renew now store.sharedLifetime)
      else store.content? slot := by
  have here : store.content? id = some entry.unplaced := by
    rw [content?_eq, found]
    rfl
  rw [judge_eq]
  simp only
  split
  · exact content?_evictRoot store id entry slot
  · rw [content?_renew]
    split
    · rename_i same
      rw [← same, here]
      rfl
    · rfl

/-- After its round the root has not expired. -/
theorem slot_ne_of_judge (check : Option (ExpiryCheck K V)) {id slot : SlotId}
    {entry left : Entry K V} (found : store.entry? id = some entry)
    (stored : (store.judge check id entry now).store.content? slot = some left)
    (expired : left.isExpired now = true) : id ≠ slot := by
  rintro rfl
  rw [content?_judge check now found, if_pos rfl] at stored
  split at stored
  · cases stored
  · obtain rfl := Option.some.inj stored
    rw [Entry.isExpired_renew] at expired
    cases expired

theorem judge_frame (store : Store K V) (check : Option (ExpiryCheck K V)) (id : SlotId)
    (entry : Entry K V) (now : Instant) :
    ∃ index schedule, (store.judge check id entry now).store =
      { store with
        index
        schedule
        counters := { store.counters with
          evicted := store.counters.evicted +
            (store.judge check id entry now).evicted.toList.length } } := by
  rw [judge_eq]
  simp only
  split
  · exact ⟨_, _, rfl⟩
  · obtain ⟨schedule, renewed⟩ := store.renew_eq id now
    exact ⟨store.index, schedule, renewed⟩

/-- No stored entry is due before the root. -/
theorem Valid.not_precedes_first (valid : store.Valid) {id slot : SlotId}
    {first entry : Entry K V} (root : store.schedule.first? = some id)
    (found : store.entry? id = some first) (stored : store.content? slot = some entry) :
    Schedule.precedes entry.deadline first.deadline = false := by
  have dated : store.schedule.deadlineOf slot = entry.deadline := by
    rw [deadlineOf_eq_content?, stored]
    rfl
  have rootDated : store.schedule.deadlineOf id = first.deadline := by
    rw [deadlineOf_eq_content?, content?_eq, found]
    rfl
  obtain ⟨earliest, rootDue⟩ := valid.schedule.first?_dated root
  rw [← rootDated, rootDue, ← dated]
  cases due : store.schedule.deadlineOf slot with
  | none => rfl
  | some deadline =>
      exact Schedule.precedes_some_some.mpr (valid.schedule.first?_le root rootDue due)

/-- Once a pass ends, nothing has expired. -/
theorem Valid.isExpired_of_round?_none (valid : store.Valid)
    (ended : store.round? check now = none) {slot : SlotId} {entry : Entry K V}
    (stored : store.content? slot = some entry) : entry.isExpired now = false := by
  unfold round? at ended
  cases root : store.schedule.first? with
  | none =>
      have undated := valid.schedule.deadlineOf_eq_none root slot
      rw [deadlineOf_eq_content?, stored, Option.bind_some] at undated
      rw [Entry.isExpired, undated]
      rfl
  | some id =>
      obtain ⟨first, found⟩ := valid.entry?_first root
      have later := valid.not_precedes_first root found stored
      simp only [root, found, ite_eq_right_iff, reduceCtorEq, imp_false, Bool.not_eq_true] at ended
      exact Entry.isExpired_of_not_precedes later ended

/-! ## A whole pass -/

namespace Settles

theorem of_ended (valid : store.Valid) (ended : store.round? check now = none) :
    store.Settles check now [] { store, check } where
  slots_nodup := List.nodup_nil
  mem_iff slot entry := by
    refine ⟨fun listed => absurd listed List.not_mem_nil, ?_⟩
    rintro ⟨stored, expired⟩
    rw [valid.isExpired_of_round?_none ended stored] at expired
    cases expired
  sorted := .nil
  follow := trivial
  check_eq := rfl
  consultations_eq := rfl
  evicted_eq := rfl
  ruled _ listed := absurd listed List.not_mem_nil
  untouched _ _ := rfl
  frame := ⟨store.index, store.schedule, rfl⟩

section

variable {id : SlotId} {entry : Entry K V} {rulings : List (Ruling K V)} {rest : Pass K V}

/-- The slot of the root does not come again. -/
theorem slot_ne_of_mem (found : store.entry? id = some entry)
    (later : (store.judge check id entry now).store.Settles
      (store.judge check id entry now).check now rulings rest) {ruling : Ruling K V}
    (listed : ruling ∈ rulings) : id ≠ ruling.slot := by
  obtain ⟨stored, expired⟩ := (later.mem_iff ruling.slot ruling.entry).mp
    (List.mem_map.mpr ⟨ruling, listed, rfl⟩)
  exact slot_ne_of_judge check found stored expired

/-- The root and what a pass rules on later are what had expired before. -/
theorem mem_cons_iff (found : store.entry? id = some entry)
    (expired : entry.isExpired now = true)
    (later : (store.judge check id entry now).store.Settles
      (store.judge check id entry now).check now rulings rest) (slot : SlotId)
    (stored : Entry K V) :
    (slot, stored) ∈ (id, entry.unplaced) ::
        rulings.map (fun ruling => (ruling.slot, ruling.entry)) ↔
      store.content? slot = some stored ∧ stored.isExpired now = true := by
  have here : store.content? id = some entry.unplaced := by
    rw [content?_eq, found]
    rfl
  rw [List.mem_cons, later.mem_iff]
  constructor
  · rintro (same | ⟨stays, expiredThere⟩)
    · obtain ⟨rfl, rfl⟩ := Prod.mk.inj same
      exact ⟨here, expired⟩
    · have other := slot_ne_of_judge check found stays expiredThere
      rw [content?_judge check now found, if_neg other] at stays
      exact ⟨stays, expiredThere⟩
  · rintro ⟨stays, expiredThere⟩
    by_cases same : id = slot
    · subst same
      rw [here] at stays
      exact .inl (by rw [Option.some.inj stays])
    · rw [content?_judge check now found, if_neg same]
      exact .inr ⟨stays, expiredThere⟩

/-- The root of the queue comes first, and its slot does not come again. -/
theorem cons (valid : store.Valid) (root : store.schedule.first? = some id)
    (found : store.entry? id = some entry) (expired : entry.isExpired now = true)
    (later : (store.judge check id entry now).store.Settles
      (store.judge check id entry now).check now rulings rest) :
    store.Settles check now
      ({ slot := id
         entry := entry.unplaced
         question := ExpiryCheck.question? check entry.key entry.value
         permitted := ExpiryCheck.permits check entry.key entry.value } :: rulings)
      { rest with
        consultations :=
          (store.judge check id entry now).consultation.toList ++ rest.consultations
        evicted := (store.judge check id entry now).evicted.toList ++ rest.evicted } := by
  have contents := content?_judge check now found
  have fresh : id ∉ rulings.map Ruling.slot := by
    intro again
    obtain ⟨ruling, member, same⟩ := List.mem_map.mp again
    exact later.slot_ne_of_mem found member same.symm
  obtain ⟨index, schedule, frame⟩ := judge_frame store check id entry now
  refine ⟨List.nodup_cons.mpr ⟨fresh, later.slots_nodup⟩, later.mem_cons_iff found expired,
    ?_, ?_, ?_, ?_, ?_, ?_, ?_, ?_⟩
  · refine List.pairwise_cons.mpr ⟨?_, later.sorted⟩
    intro ruling listed
    obtain ⟨stored, -⟩ := (later.mem_iff ruling.slot ruling.entry).mp
      (List.mem_map.mpr ⟨ruling, listed, rfl⟩)
    rw [contents, if_neg (later.slot_ne_of_mem found listed)] at stored
    have first := valid.not_precedes_first root found stored
    exact first
  · refine ⟨rfl, rfl, ?_⟩
    have follow := later.follow
    rw [judge_eq] at follow
    exact follow
  · rw [later.check_eq, judge_eq]
    rfl
  · rw [later.consultations_eq, judge_eq, List.filterMap_cons]
    cases check with
    | none => rfl
    | some installed => rfl
  · rw [later.evicted_eq, judge_eq, List.filter_cons]
    split
    · rfl
    · rfl
  · intro ruling listed
    rcases List.mem_cons.mp listed with rfl | member
    · rw [later.untouched id fresh, contents, if_pos rfl]
    · rw [later.ruled ruling member, frame]
  · intro slot unlisted
    rw [List.map_cons, List.mem_cons, not_or] at unlisted
    rw [later.untouched slot unlisted.2, contents, if_neg fun same => unlisted.1 same.symm]
  · obtain ⟨laterIndex, laterSchedule, rested⟩ := later.frame
    refine ⟨laterIndex, laterSchedule, ?_⟩
    simp only [rested, frame, List.length_append, Nat.add_assoc]

end

end Settles

/-- Every pass rules on the expired entries one after the other. -/
theorem Valid.sweep_settles (valid : store.Valid) (check : Option (ExpiryCheck K V))
    (now : Instant) : ∃ rulings, store.Settles check now rulings (store.sweep check now) := by
  fun_induction Store.sweep store check now with
  | case1 store check ended => exact ⟨[], .of_ended valid ended⟩
  | case2 store check round goesOn rest ih =>
      obtain ⟨rulings, later⟩ := ih (valid.round goesOn)
      obtain ⟨id, entry, root, found, expired, rfl⟩ := round?_cases goesOn
      exact ⟨_, .cons valid root found expired later⟩

end Store

end ExpiringCache
