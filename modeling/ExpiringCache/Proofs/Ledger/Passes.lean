import ExpiringCache.Proofs.Ledger.Agreement

/-!
# Passes agree

A pass over the queue rules on the same entries as a pass over the whole map of
a ledger, only in another order.
-/

namespace ExpiringCache

namespace Ledger

namespace Mirrors

variable {K V : Type} [DecidableEq K] {ledger : Ledger K V} {store : Store K V}
  {check : Option (ExpiryCheck K V)} {now : Instant} {rulings : List (Ruling K V)}
  {pass : Store.Pass K V}

theorem alike_left (mirrors : ledger.Mirrors store check) : ExpiryCheck.Alike check check :=
  mirrors.alike.refl_left

theorem alike_right (mirrors : ledger.Mirrors store check) :
    ExpiryCheck.Alike ledger.check ledger.check :=
  mirrors.alike.refl_right

omit [DecidableEq K] in
/-- The expired entries in the order of the rulings, as rows of a ledger. -/
def rowsOf (rulings : List (Ruling K V)) : List (K × Item V) :=
  rulings.map fun ruling => (ruling.entry.key, ruling.entry.item)

/-- Both passes rule on the same rows. -/
theorem rows_perm (mirrors : ledger.Mirrors store check)
    (settles : store.Settles check now rulings pass) :
    (rowsOf rulings).Perm ((ledger.expired now).map fun row => (row.1, row.2)) := by
  have nodup : (rowsOf rulings).Nodup := by
    refine List.Nodup.of_map (·.1) ?_
    rw [rowsOf, List.map_map]
    exact settles.keys_nodup mirrors.valid
  have otherNodup : ((ledger.expired now).map fun row => (row.1, row.2)).Nodup := by
    refine List.Nodup.of_map (·.1) ?_
    rw [List.map_map]
    exact nodup_expired ledger now
  rw [List.perm_ext_iff_of_nodup nodup otherNodup]
  rintro ⟨key, item⟩
  rw [rowsOf, List.mem_map, List.mem_map]
  constructor
  · rintro ⟨ruling, listed, same⟩
    obtain ⟨rfl, rfl⟩ := Prod.mk.inj same
    obtain ⟨here, expired⟩ := settles.content?_of_mem listed
    have stored := mirrors.valid.stored?_eq_some_iff.mpr ⟨ruling.slot, here, rfl⟩
    refine ⟨⟨ruling.entry.key, ruling.entry.item⟩, mem_expired_iff.mpr ⟨?_, expired⟩, rfl⟩
    rw [mirrors.items, stored]
    rfl
  · rintro ⟨⟨name, row⟩, listed, same⟩
    obtain ⟨rfl, rfl⟩ := Prod.mk.inj same
    obtain ⟨found, expired⟩ := mem_expired_iff.mp listed
    rw [mirrors.items] at found
    obtain ⟨entry, stored, rfl⟩ := Option.map_eq_some_iff.mp found
    obtain ⟨slot, here, rfl⟩ := mirrors.valid.stored?_eq_some_iff.mp stored
    obtain ⟨ruling, member, found⟩ :=
      List.mem_map.mp ((settles.mem_iff slot entry).mpr ⟨here, expired⟩)
    obtain ⟨-, rfl⟩ := Prod.mk.inj found
    exact ⟨ruling, member, rfl⟩

/-- Of these rows both let the same go. -/
theorem gone_perm (mirrors : ledger.Mirrors store check)
    (settles : store.Settles check now rulings pass) :
    (rowsOf (rulings.filter Ruling.permitted)).Perm
      ((gone ledger.check (ledger.expired now)).map fun row => (row.1, row.2)) := by
  have permitted : rulings.filter Ruling.permitted = rulings.filter fun ruling =>
      ExpiryCheck.permits ledger.check ruling.entry.key ruling.entry.value := by
    refine List.filter_congr ?_
    intro ruling listed
    rw [settles.steady mirrors.valid mirrors.alike_left ruling listed, mirrors.alike.permits]
  have filtered := (mirrors.rows_perm settles).filter fun row =>
    ExpiryCheck.permits ledger.check row.1 row.2.value
  rw [rowsOf, List.filter_map, List.filter_map] at filtered
  rw [permitted]
  exact filtered

theorem settled?_eq (mirrors : ledger.Mirrors store check) {key : K} {entry : Entry K V}
    (stored : store.stored? key = some entry) :
    entry.item.settled? key ledger.check now ledger.sharedLifetime =
      (entry.settled? check now store.sharedLifetime).map Entry.item := by
  obtain rfl := mirrors.valid.key_of_stored? stored
  rw [Item.settled?, Entry.settled?, mirrors.sharedLifetime, ← mirrors.alike.permits]
  change (if entry.isExpired now = true then _ else _) = _
  split
  · change (if ExpiryCheck.permits check entry.key entry.value = true then _ else _) = _
    split
    · rfl
    · rfl
  · rfl

/-- After a pass of both the ledger mirrors the store again. -/
theorem sweep (mirrors : ledger.Mirrors store check) (now : Instant) :
    (ledger.sweep now).1.Mirrors (store.sweep check now).store (store.sweep check now).check := by
  obtain ⟨rulings, settles⟩ := mirrors.valid.sweep_settles check now
  obtain ⟨index, schedule, frame⟩ := settles.frame
  have judged := judged_sweep mirrors.alike_right now
  obtain ⟨items, ledgerFrame⟩ := judged.frame
  have sizes : (store.sweep check now).evicted.length =
      (gone ledger.check (ledger.expired now)).length := by
    have same := (mirrors.gone_perm settles).length_eq
    rw [rowsOf, List.length_map, List.length_map] at same
    rw [settles.evicted_eq, List.length_map, same]
  have counters : (ledger.sweep now).1.counters = (store.sweep check now).store.counters := by
    rw [ledgerFrame, frame, sizes, mirrors.counters]
  refine ⟨mirrors.valid.sweep check now, ?_, ?_, ?_, ?_, counters, ?_, ?_⟩
  · intro key
    rw [lookup_sweep mirrors.alike_right, mirrors.items,
      settles.stored?_eq mirrors.valid (mirrors.valid.sweep check now)
        (settles.steady mirrors.valid mirrors.alike_left)]
    cases stored : store.stored? key with
    | none => rfl
    | some entry => exact mirrors.settled?_eq stored
  · rw [ledgerFrame, frame, mirrors.sharedLifetime]
  · rw [ledgerFrame, frame, mirrors.skipRenewal]
  · rw [ledgerFrame, frame, mirrors.closed]
  · rw [ledgerFrame, frame, mirrors.nextWake]
  · rw [settles.check_eq, ledgerFrame]
    refine mirrors.alike.askedAll ?_ ?_
    · have rows := (mirrors.rows_perm settles).map fun row => (row.1, row.2.value)
      rw [rowsOf, List.map_map, List.map_map] at rows
      exact rows
    · rw [List.map_map]
      exact settles.keys_nodup mirrors.valid

/-- A pass evicts what the ledger drops, the earliest deadline first. -/
theorem evicted (mirrors : ledger.Mirrors store check) (now : Instant) :
    ∃ order : List (K × Item V), order.Perm (ledger.sweep now).2 ∧
      order.Pairwise (fun early late =>
        Schedule.precedes late.2.deadline early.2.deadline = false) ∧
      (store.sweep check now).evicted = order.map fun row => (row.1, row.2.value) := by
  obtain ⟨rulings, settles⟩ := mirrors.valid.sweep_settles check now
  have judged := judged_sweep mirrors.alike_right now
  refine ⟨rowsOf (rulings.filter Ruling.permitted), ?_, ?_, ?_⟩
  · rw [judged.gone_eq, List.nil_append]
    exact mirrors.gone_perm settles
  · rw [rowsOf, List.pairwise_map]
    exact settles.sorted.filter Ruling.permitted
  · rw [settles.evicted_eq, rowsOf, List.map_map]
    rfl

end Mirrors

end Ledger

end ExpiringCache
