import ExpiringCache.ExpiryCheck
import ExpiringCache.Store

/-!
# Sweep

One pass that evicts the expired entries.  A pass looks only at the root of the
deadline heap, in rounds: an expired root is evicted, or renewed if the expiry
check vetoes.  Every round leaves one expired entry less, so the pass ends
whatever the check answers.
-/

namespace ExpiringCache

namespace Store

variable {K V : Type} [DecidableEq K]

structure Round (K V : Type) where
  store : Store K V
  check : Option (ExpiryCheck K V)
  consultation : Option (Consultation K V)
  evicted : Option (K × V)

structure Pass (K V : Type) where
  store : Store K V
  check : Option (ExpiryCheck K V)
  /-- The questions put to the check, in order. -/
  consultations : List (Consultation K V) := []
  /-- The evicted pairs, in order. -/
  evicted : List (K × V) := []

/-- Takes the root of the queue, which is the entry in slot `id`, out of the store. -/
def evictRoot (store : Store K V) (id : SlotId) (entry : Entry K V) : Store K V :=
  { store with
    index := store.index.erase entry.key
    schedule := (store.schedule.pop.1.discard id).1
    counters := store.counters.countEviction }

def judge (store : Store K V) (check : Option (ExpiryCheck K V)) (id : SlotId)
    (entry : Entry K V) (now : Instant) : Round K V :=
  match check with
  | none =>
      { store := store.evictRoot id entry
        check := none
        consultation := none
        evicted := some (entry.key, entry.value) }
  | some asked =>
      let (check, consultation) := asked.consult entry.key entry.value
      if consultation.verdict.permits then
        { store := store.evictRoot id entry
          check := some check
          consultation := some consultation
          evicted := some (entry.key, entry.value) }
      else
        { store := (store.renew id now).1
          check := some check
          consultation := some consultation
          evicted := none }

/-- One round; none once the root of the queue is live or missing. -/
def round? (store : Store K V) (check : Option (ExpiryCheck K V)) (now : Instant) :
    Option (Round K V) :=
  match store.schedule.first? with
  | none => none
  | some id =>
      match store.entry? id with
      | none => none
      | some entry => if entry.isExpired now then some (store.judge check id entry now) else none

theorem overdue_evictRoot {store : Store K V} {id : SlotId} {entry : Entry K V} {now : Instant}
    (found : store.entry? id = some entry) (expired : entry.isExpired now = true) :
    (store.evictRoot id entry).schedule.overdue now + 1 = store.schedule.overdue now := by
  have same := congrArg (SlotTable.get? · id) store.schedule.contents_pop
  simp only [Schedule.contents, SlotTable.get?_map] at same
  rw [show store.schedule.entries.get? id = some entry from found] at same
  obtain ⟨moved, here, view⟩ := Option.map_eq_some_iff.mp same
  have movedExpired : moved.isExpired now = true := by
    have sameDeadline := congrArg Entry.deadline view
    simpa [Entry.isExpired, Entry.unplaced] using sameDeadline ▸ expired
  have lower := Schedule.overdue_discard here movedExpired
  simpa [evictRoot, Schedule.overdue] using lower

omit [DecidableEq K] in
theorem overdue_renew {store : Store K V} {id : SlotId} {entry : Entry K V} {now : Instant}
    (found : store.entry? id = some entry) (expired : entry.isExpired now = true) :
    (store.renew id now).1.schedule.overdue now + 1 = store.schedule.overdue now := by
  have lower := Schedule.overdue_update_renew store.sharedLifetime
    (show store.schedule.entries.get? id = some entry from found) expired
  rw [← lower]
  unfold renew
  rw [found]
  dsimp only
  split <;> simp [Schedule.overdue]

/-- Every round leaves exactly one expired entry less. -/
theorem overdue_round {store : Store K V} {check : Option (ExpiryCheck K V)} {now : Instant}
    {round : Round K V} (goesOn : store.round? check now = some round) :
    round.store.schedule.overdue now + 1 = store.schedule.overdue now := by
  unfold round? at goesOn
  split at goesOn
  · simp at goesOn
  · split at goesOn
    · simp at goesOn
    · rename_i id _ entry found
      split at goesOn
      · rename_i expired
        obtain rfl := Option.some.inj goesOn
        unfold judge
        split
        · exact overdue_evictRoot found expired
        · dsimp only
          split
          · exact overdue_evictRoot found expired
          · exact overdue_renew found expired
      · simp at goesOn

def sweep (store : Store K V) (check : Option (ExpiryCheck K V)) (now : Instant) : Pass K V :=
  match _ : store.round? check now with
  | none => { store, check }
  | some round =>
      let rest := round.store.sweep round.check now
      { rest with
        consultations := round.consultation.toList ++ rest.consultations
        evicted := round.evicted.toList ++ rest.evicted }
termination_by store.schedule.overdue now
decreasing_by
  rename_i goesOn
  have lower := overdue_round goesOn
  omega

end Store

end ExpiringCache
