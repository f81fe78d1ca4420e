import ExpiringCache.Proofs.Cache.Outcome
import ExpiringCache.Proofs.Ledger.Sweep
import ExpiringCache.Proofs.Store.SteadyPass

/-!
# Agreement

When a ledger mirrors a store, and why both then give the same answers: what
the store reads off its index or the root of its queue is what the ledger finds
by going through its whole map.
-/

namespace ExpiringCache

/-- An entry as it stands in a ledger. -/
def Entry.item {K V : Type} (entry : Entry K V) : Item V where
  value := entry.value
  lifetime := entry.lifetime
  deadline := entry.deadline

namespace Ledger

variable {K V : Type} [DecidableEq K] {ledger : Ledger K V} {store : Store K V}
  {check : Option (ExpiryCheck K V)}

/-- The ledger holds what the store holds under each key, and the same settings. -/
structure Mirrors (ledger : Ledger K V) (store : Store K V) (check : Option (ExpiryCheck K V)) :
    Prop where
  valid : store.Valid
  items : ∀ key, ledger.items.lookup key = (store.stored? key).map Entry.item
  sharedLifetime : ledger.sharedLifetime = store.sharedLifetime
  skipRenewal : ledger.skipRenewal = store.skipRenewal
  closed : ledger.closed = store.closed
  counters : ledger.counters = store.counters
  nextWake : ledger.nextWake = store.nextWake
  alike : ExpiryCheck.Alike check ledger.check

namespace Mirrors

theorem live?_eq (mirrors : ledger.Mirrors store check) (key : K) (now : Instant) :
    ledger.live? key now = (store.live? key now).map Entry.item := by
  rw [live?, Store.live?, mirrors.items, Option.filter_map]
  rfl

theorem calls_eq (mirrors : ledger.Mirrors store check) (item : Item V) :
    ledger.calls item = store.sleepsPast item.deadline := by
  rw [calls, Store.sleepsPast, mirrors.nextWake]
  cases item.deadline with
  | none => rfl
  | some due => cases store.nextWake <;> rfl

theorem isSome_lookup (mirrors : ledger.Mirrors store check) (key : K) :
    (ledger.items.lookup key).isSome = (store.index.find? key).isSome := by
  rw [mirrors.items, Option.isSome_map, mirrors.valid.isSome_stored?]

/-! ## Keys -/

theorem keys_perm (mirrors : ledger.Mirrors store check) :
    store.index.keys.Perm ledger.items.keys := by
  rw [List.perm_ext_iff_of_nodup mirrors.valid.keys_nodup ledger.items.keys_nodup]
  intro key
  rw [← AList.mem_keys, ← AList.lookup_isSome, mirrors.isSome_lookup, KeyIndex.isSome_find?_iff]

theorem count_eq (mirrors : ledger.Mirrors store check) :
    store.count = ledger.items.entries.length := by
  have sizes := mirrors.keys_perm.length_eq
  unfold KeyIndex.keys AList.keys List.keys at sizes
  rwa [List.length_map, List.length_map] at sizes

theorem liveKeys_perm (mirrors : ledger.Mirrors store check) (now : Instant) :
    (store.liveKeys now).Perm
      ((ledger.items.entries.filter (!·.2.isExpired now)).map (·.1)) := by
  have nodup := mirrors.valid.nodup_liveKeys now
  have otherNodup : ((ledger.items.entries.filter (!·.2.isExpired now)).map (·.1)).Nodup :=
    List.Nodup.sublist (List.filter_sublist.map _) ledger.items.keys_nodup
  rw [List.perm_ext_iff_of_nodup nodup otherNodup]
  intro key
  have same : (store.live? key now).isSome = (ledger.live? key now).isSome := by
    rw [mirrors.live?_eq, Option.isSome_map]
  rw [mirrors.valid.mem_liveKeys_iff, same, List.mem_map]
  constructor
  · intro live
    obtain ⟨item, here⟩ := Option.isSome_iff_exists.mp live
    obtain ⟨found, fresh⟩ := Option.filter_eq_some_iff.mp here
    exact ⟨⟨key, item⟩, List.mem_filter.mpr ⟨AList.mem_lookup_iff.mp found, fresh⟩, rfl⟩
  · rintro ⟨⟨name, item⟩, listed, rfl⟩
    obtain ⟨member, fresh⟩ := List.mem_filter.mp listed
    have found : ledger.items.lookup name = some item := AList.mem_lookup_iff.mpr member
    exact Option.isSome_iff_exists.mpr ⟨item, Option.filter_eq_some_iff.mpr ⟨found, fresh⟩⟩

/-! ## The earliest deadline -/

theorem mem_deadlines_iff {due : Instant} :
    due ∈ ledger.items.entries.filterMap (·.2.deadline) ↔
      ∃ key item, ledger.items.lookup key = some item ∧ item.deadline = some due := by
  rw [List.mem_filterMap]
  constructor
  · rintro ⟨⟨key, item⟩, member, dated⟩
    exact ⟨key, item, AList.mem_lookup_iff.mpr member, dated⟩
  · rintro ⟨key, item, found, dated⟩
    exact ⟨⟨key, item⟩, AList.mem_lookup_iff.mp found, dated⟩

/-- The root of the queue is due when a scan of the whole map finds the earliest deadline. -/
theorem earliest_eq (mirrors : ledger.Mirrors store check) :
    ledger.earliest? = store.earliestDeadline? := by
  unfold earliest?
  cases first : store.earliestDeadline? with
  | none =>
      rw [List.argmin_eq_none, List.eq_nil_iff_forall_not_mem]
      intro due listed
      obtain ⟨key, item, found, dated⟩ := mem_deadlines_iff.mp listed
      rw [mirrors.items] at found
      obtain ⟨entry, stored, rfl⟩ := Option.map_eq_some_iff.mp found
      have undated := mirrors.valid.deadline_of_earliest_none first stored
      rw [show entry.deadline = some due from dated] at undated
      cases undated
  | some earliest =>
      obtain ⟨key, entry, stored, dated⟩ := mirrors.valid.exists_earliest first
      have listed : earliest ∈ ledger.items.entries.filterMap (·.2.deadline) :=
        mem_deadlines_iff.mpr ⟨key, entry.item, by rw [mirrors.items, stored]; rfl, dated⟩
      cases scanned : (ledger.items.entries.filterMap (·.2.deadline)).argmin Instant.nanos with
      | none =>
          rw [List.argmin_eq_none.mp scanned] at listed
          cases listed
      | some found =>
          obtain ⟨other, item, here, due⟩ := mem_deadlines_iff.mp (List.argmin_mem scanned)
          rw [mirrors.items] at here
          obtain ⟨otherEntry, otherStored, rfl⟩ := Option.map_eq_some_iff.mp here
          have lower := mirrors.valid.earliest_le first otherStored due
          have upper := List.le_of_mem_argmin listed scanned
          exact congrArg some (Instant.ext (Nat.le_antisymm upper lower))

theorem sleepTime_eq (mirrors : ledger.Mirrors store check) (now : Instant) :
    ledger.sleepTime now = store.sleepTime now := by
  rw [sleepTime, Store.sleepTime, mirrors.earliest_eq, mirrors.sharedLifetime]
  cases store.earliestDeadline? with
  | none => rfl
  | some due =>
      cases store.sharedLifetime with
      | none => rfl
      | some shared =>
          refine Duration.ext ?_
          simp only [Option.elim_some, Duration.nanos_min, Duration.nanos_max, Duration.lt_iff]
          split
          · rename_i shorter
            rw [Nat.min_eq_right (Nat.le_of_lt shorter)]
          · rename_i longer
            rw [Nat.min_eq_left (Nat.le_of_not_lt longer)]

end Mirrors

end Ledger

end ExpiringCache
