import ExpiringCache.Proofs.Store.SteadyPass

/-!
# Batches

Passes without vetoes, one after another.  A round that evicts does not look at
the clock again once the root has expired, so an earlier pass makes the first
rounds of a later one, and the later pass takes the store from there to exactly
the state that it would have reached alone.
-/

namespace ExpiringCache

namespace Store

variable {K V : Type} [DecidableEq K] {store : Store K V} {check : Option (ExpiryCheck K V)}

/-- Two passes with nothing in between. -/
def Pass.andThen (first second : Pass K V) : Pass K V where
  store := second.store
  check := second.check
  consultations := first.consultations ++ second.consultations
  evicted := first.evicted ++ second.evicted

def sweepAll (store : Store K V) (check : Option (ExpiryCheck K V)) : List Instant → Pass K V
  | [] => { store, check }
  | now :: later =>
      let first := store.sweep check now
      first.andThen (first.store.sweepAll first.check later)

/-- The eviction of an entry is the same whenever it happens. -/
theorem judge_of_permitted {id : SlotId} {entry : Entry K V}
    (permitted : ExpiryCheck.permits check entry.key entry.value = true) (early late : Instant) :
    store.judge check id entry early = store.judge check id entry late := by
  simp only [judge_eq, permitted, if_true]

/-- A round that evicts would be the same at a later instant. -/
theorem round?_of_later (permissive : ExpiryCheck.Permissive check) {early late : Instant}
    (ordered : early ≤ late) {round : Round K V} (goesOn : store.round? check early = some round) :
    store.round? check late = some round := by
  obtain ⟨id, entry, root, found, expired, rfl⟩ := round?_cases goesOn
  have expiredLate : entry.isExpired late = true := by
    by_contra live
    rw [Entry.isExpired_of_later ordered (eq_false_of_ne_true live)] at expired
    cases expired
  rw [judge_of_permitted (permissive.permits entry.key entry.value) early late, round?, root]
  simp only [found, expiredLate, if_true]

/-- A pass is an earlier pass followed by itself. -/
theorem sweep_of_later (permissive : ExpiryCheck.Permissive check) {early late : Instant}
    (ordered : early ≤ late) :
    (store.sweep check early).andThen
        ((store.sweep check early).store.sweep (store.sweep check early).check late) =
      store.sweep check late := by
  -- On the rounds of the earlier pass, each of which the later pass makes too.
  fun_induction Store.sweep store check early with
  | case1 store check ended => rfl
  | case2 store check round goesOn rest ih =>
      have later := (round?_of_permissive permissive goesOn).1
      rw [sweep_of_round (round?_of_later permissive ordered goesOn), ← ih later]
      simp only [Pass.andThen, List.append_assoc, rest]

/--
How eviction is divided into passes does not show.  Without vetoes, passes at
non-decreasing instants leave exactly the store that a single pass at the last
instant leaves, down to the slots, the free list and the heap, and they evict
the same pairs in the same order.
-/
theorem sweepAll_eq_last_sweep (store : Store K V) (permissive : ExpiryCheck.Permissive check)
    {earlier : List Instant} {last : Instant}
    (ordered : (earlier ++ [last]).Pairwise (· ≤ ·)) :
    store.sweepAll check (earlier ++ [last]) = store.sweep check last := by
  induction earlier generalizing store check with
  | nil => simp [sweepAll, Pass.andThen]
  | cons now rest ih =>
      obtain ⟨before, restOrdered⟩ := List.pairwise_cons.mp ordered
      have inOrder : now ≤ last := before last (List.mem_append_right rest List.mem_cons_self)
      rw [List.cons_append, sweepAll, ih _ (sweep_of_permissive store permissive now).1 restOrdered]
      exact sweep_of_later permissive inOrder

/-- Three entries that are due together, one that is due before them, and one after. -/
def tiedStore : Store Nat Nat :=
  let first := (({} : Store Nat Nat).write 1 10 (.lasting ⟨6⟩) ⟨0⟩).1
  let second := (first.write 2 20 (.lasting ⟨5⟩) ⟨1⟩).1
  let third := (second.write 3 30 (.lasting ⟨2⟩) ⟨1⟩).1
  let fourth := (third.write 4 40 (.lasting ⟨9⟩) ⟨2⟩).1
  (fourth.write 5 50 (.lasting ⟨4⟩) ⟨2⟩).1

theorem tiedStore_swept_at_once :
    ([⟨3⟩, ⟨4⟩, ⟨4⟩] ++ [⟨8⟩] : List Instant).Pairwise (· ≤ ·) ∧
      tiedStore.sweepAll none ([⟨3⟩, ⟨4⟩, ⟨4⟩] ++ [⟨8⟩]) = tiedStore.sweep none ⟨8⟩ ∧
      (tiedStore.sweep none ⟨3⟩).evicted = [] ∧ (tiedStore.sweep none ⟨4⟩).evicted = [(3, 30)] ∧
      (tiedStore.sweep none ⟨8⟩).evicted = [(3, 30), (5, 50), (2, 20), (1, 10)] := by
  have ordered : ([⟨3⟩, ⟨4⟩, ⟨4⟩] ++ [⟨8⟩] : List Instant).Pairwise (· ≤ ·) := by decide
  refine ⟨ordered, sweepAll_eq_last_sweep tiedStore .of_none ordered, ?_, ?_, ?_⟩
  · decide +kernel
  · decide +kernel
  · decide +kernel

end Store

end ExpiringCache
