import ExpiringCache.Cache
import ExpiringCache.Proofs.Store.Contents

/-!
# Outcomes

What each critical section answers and what it leaves under each key.  A key is
hit if its entry is live at the reading of the section.
-/

namespace ExpiringCache

namespace Store

variable {K V : Type} [DecidableEq K] {store : Store K V}

theorem live?_eq_some_iff {key : K} {now : Instant} {entry : Entry K V} :
    store.live? key now = some entry ↔
      store.stored? key = some entry ∧ entry.isExpired now = false := by
  rw [live?, Option.filter_eq_some_iff, Bool.not_eq_true']

theorem liveSlot?_of_hit {key : K} {now : Instant} {entry : Entry K V}
    (hit : store.live? key now = some entry) :
    ∃ id, store.liveSlot? key now = some id ∧ store.index.find? key = some id := by
  obtain ⟨id, found, here⟩ := Option.bind_eq_some_iff.mp (live?_eq_some_iff.mp hit).1
  exact ⟨id, liveSlot?_eq_some_iff.mpr ⟨found, entry, here, hit⟩, found⟩

theorem liveSlot?_of_miss {key : K} {now : Instant} (missed : store.live? key now = none) :
    store.liveSlot? key now = none := by
  cases slot : store.liveSlot? key now with
  | none => rfl
  | some id =>
      obtain ⟨-, entry, -, live⟩ := liveSlot?_eq_some_iff.mp slot
      rw [missed] at live
      cases live

/-- The renewal of the entry under a key changes the schedule and shows under this key alone. -/
theorem Valid.renew_of_stored (valid : store.Valid) {key : K} {id : SlotId} {entry : Entry K V}
    (found : store.index.find? key = some id) (stored : store.stored? key = some entry)
    (now : Instant) :
    ∃ schedule, store.renew id now =
        ({ store with schedule },
          store.sleepsPast (entry.renew now store.sharedLifetime).deadline) ∧
      ∀ name, { store with schedule }.stored? name =
        if key = name then some (entry.renew now store.sharedLifetime)
        else store.stored? name := by
  obtain ⟨schedule, renewed⟩ := store.renew_eq id now
  have shown := valid.stored?_renew found now
  rw [renewed, stored, Option.map_some] at shown
  refine ⟨schedule, Prod.ext renewed ?_, shown⟩
  rw [renew_snd, ← stored?_of_find? found, stored, Option.any_some]

/-- The keys that are listed are those that can be read. -/
theorem Valid.mem_liveKeys_iff (valid : store.Valid) {key : K} {now : Instant} :
    key ∈ store.liveKeys now ↔ (store.live? key now).isSome = true := by
  rw [liveKeys, List.mem_map]
  constructor
  · rintro ⟨⟨name, id⟩, listed, rfl⟩
    obtain ⟨member, live⟩ := List.mem_filter.mp listed
    have found := (KeyIndex.find?_eq_some_iff valid.keys_nodup).mpr member
    have slot : store.liveSlot? name now = some id := Option.filter_eq_some_iff.mpr ⟨found, live⟩
    obtain ⟨-, entry, -, here⟩ := liveSlot?_eq_some_iff.mp slot
    rw [here]
    rfl
  · intro live
    obtain ⟨entry, here⟩ := Option.isSome_iff_exists.mp live
    obtain ⟨id, slot, found⟩ := liveSlot?_of_hit here
    have member := (KeyIndex.find?_eq_some_iff valid.keys_nodup).mp found
    exact ⟨(key, id), List.mem_filter.mpr ⟨member, (Option.filter_eq_some_iff.mp slot).2⟩, rfl⟩

theorem Valid.nodup_liveKeys (valid : store.Valid) (now : Instant) :
    (store.liveKeys now).Nodup :=
  List.Nodup.sublist (List.filter_sublist.map _) valid.keys_nodup

end Store

namespace Cache

variable {K V H : Type} [DecidableEq K] {cache : Cache K V H} {key : K} {now : Instant}

omit [DecidableEq K] in
@[simp] theorem signal_false (cache : Cache K V H) : cache.signal false = cache := by
  simp [signal]

/-! ## Reading -/

theorem readAt_of_closed (closed : cache.store.closed = true) :
    cache.readAt key now = (cache, none) := by
  rw [readAt, if_pos closed]

theorem readAt_of_miss (opened : cache.store.closed = false)
    (missed : cache.store.live? key now = none) :
    cache.readAt key now =
      ({ cache with store := { cache.store with counters := cache.store.counters.countMiss } },
        none) := by
  rw [readAt, Store.lookup, if_neg (ne_true_of_eq_false opened), Store.liveSlot?_of_miss missed]

/-- What a read that hits leaves under its key. -/
def keptOnRead (cache : Cache K V H) (entry : Entry K V) (now : Instant) : Entry K V :=
  if cache.store.skipRenewal then entry else entry.renew now cache.store.sharedLifetime

/-- A read that hits counts, and renews the entry unless reads leave lifetimes alone. -/
theorem readAt_of_hit (valid : cache.store.Valid) (opened : cache.store.closed = false)
    {entry : Entry K V} (hit : cache.store.live? key now = some entry) :
    ∃ schedule, cache.readAt key now =
        ({ cache with
            store := { cache.store with
              schedule
              counters := cache.store.counters.countHit } }.signal
          (!cache.store.skipRenewal &&
            cache.store.sleepsPast (entry.renew now cache.store.sharedLifetime).deadline),
          some (entry.value, (cache.keptOnRead entry now).remaining now)) ∧
      ∀ name, { cache.store with schedule }.stored? name =
        if key = name then some (cache.keptOnRead entry now) else cache.store.stored? name := by
  obtain ⟨id, slot, found⟩ := Store.liveSlot?_of_hit hit
  have stored := (Store.live?_eq_some_iff.mp hit).1
  have answered (store : Store K V) {kept : Entry K V} (same : store.index = cache.store.index)
      (shown : store.stored? key = some kept) :
      (store.entry? id).map (fun entry => (entry.value, entry.remaining now)) =
        some (kept.value, kept.remaining now) := by
    rw [Store.stored?_of_find? (same ▸ found), Store.content?_eq] at shown
    obtain ⟨placed, here, rfl⟩ := Option.map_eq_some_iff.mp shown
    rw [here]
    rfl
  unfold readAt Store.lookup Store.renewOnRead
  rw [if_neg (ne_true_of_eq_false opened), slot]
  by_cases skip : cache.store.skipRenewal = true
  · refine ⟨cache.store.schedule, ?_, ?_⟩
    · have shown := answered cache.store rfl stored
      simp only [keptOnRead, skip, if_true, Bool.not_true, Bool.false_and, signal_false]
      exact congrArg (Prod.mk _) shown
    · intro name
      rw [keptOnRead, if_pos skip]
      split
      · rename_i same
        exact same ▸ stored
      · rfl
  · have counted : { cache.store with counters := cache.store.counters.countHit }.Valid :=
      valid.of_same rfl rfl
    obtain ⟨schedule, renewed, shown⟩ := counted.renew_of_stored found
      (show _ = some entry from stored) now
    refine ⟨schedule, ?_, ?_⟩
    · have left := answered
        { cache.store with schedule, counters := cache.store.counters.countHit } rfl
        ((shown key).trans (if_pos rfl))
      simp only [renewed]
      simp only [keptOnRead, skip, Bool.false_eq_true, if_false, Bool.not_false, Bool.true_and]
      exact congrArg (Prod.mk _) left
    · intro name
      rw [keptOnRead, if_neg skip]
      exact shown name

/-! ## Touching -/

theorem touchAt_of_miss (missed : cache.store.live? key now = none) :
    cache.touchAt key now = (cache, false) := by
  rw [touchAt, Store.touch, Store.liveSlot?_of_miss missed]

theorem touchAt_of_hit (valid : cache.store.Valid) {entry : Entry K V}
    (hit : cache.store.live? key now = some entry) :
    ∃ schedule, cache.touchAt key now =
        ({ cache with store := { cache.store with schedule } }.signal
          (cache.store.sleepsPast (entry.renew now cache.store.sharedLifetime).deadline),
          true) ∧
      ∀ name, { cache.store with schedule }.stored? name =
        if key = name then some (entry.renew now cache.store.sharedLifetime)
        else cache.store.stored? name := by
  obtain ⟨id, slot, found⟩ := Store.liveSlot?_of_hit hit
  obtain ⟨schedule, renewed, shown⟩ :=
    valid.renew_of_stored found (Store.live?_eq_some_iff.mp hit).1 now
  refine ⟨schedule, ?_, shown⟩
  rw [touchAt, Store.touch, slot]
  simp only [renewed]

end Cache

end ExpiringCache
