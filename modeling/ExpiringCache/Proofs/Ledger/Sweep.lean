import ExpiringCache.Proofs.Ledger.Machine

/-!
# Passes over the ledger

A pass judges the expired items in the order of the map.  With a local check
what becomes of an item does not depend on that order.
-/

namespace ExpiringCache

/-- Ahead of a pass, what becomes of the item under a key if the check is local. -/
def Item.settled? {K V : Type} (item : Item V) (key : K) (check : Option (ExpiryCheck K V))
    (now : Instant) (shared : Option Duration) : Option (Item V) :=
  if item.isExpired now then
    if ExpiryCheck.permits check key item.value then none else some (item.renew now shared)
  else some item

namespace Ledger

variable {K V : Type} [DecidableEq K] {ledger : Ledger K V} {now : Instant}

theorem lookup_insert (items : AList fun _ : K => Item V) (key name : K) (item : Item V) :
    (items.insert key item).lookup name = if key = name then some item else items.lookup name := by
  split
  · rename_i same
    subst same
    exact AList.lookup_insert items
  · rename_i different
    exact AList.lookup_insert_ne fun same => different same.symm

theorem lookup_erase (items : AList fun _ : K => Item V) (key name : K) :
    (items.erase key).lookup name = if key = name then none else items.lookup name := by
  split
  · rename_i same
    subst same
    exact AList.lookup_erase key items
  · rename_i different
    exact AList.lookup_erase_ne fun same => different same.symm

/-- Which rows go and which stay, told by the check before the first question. -/
def gone (check : Option (ExpiryCheck K V)) (rows : List ((_ : K) × Item V)) :
    List ((_ : K) × Item V) :=
  rows.filter fun row => ExpiryCheck.permits check row.1 row.2.value

structure Judged (now : Instant) (ledger : Ledger K V) (rows : List ((_ : K) × Item V))
    (before : List (K × Item V)) (result : Ledger K V × List (K × Item V)) : Prop where
  listed : ∀ row ∈ rows, result.1.items.lookup row.1 =
    if ExpiryCheck.permits ledger.check row.1 row.2.value then none
    else some (row.2.renew now ledger.sharedLifetime)
  unlisted : ∀ key, key ∉ rows.map (·.1) →
    result.1.items.lookup key = ledger.items.lookup key
  gone_eq : result.2 = before ++ (gone ledger.check rows).map fun row => (row.1, row.2)
  frame : ∃ items, result.1 =
    { ledger with
      items
      check := ExpiryCheck.askedAll ledger.check (rows.map fun row => (row.1, row.2.value))
      counters := { ledger.counters with
        evicted := ledger.counters.evicted + (gone ledger.check rows).length } }

theorem lookup_judge (ledger : Ledger K V) (now : Instant) (row : (_ : K) × Item V)
    (before : List (K × Item V)) (key : K) :
    (judge now (ledger, before) row).1.items.lookup key =
      if row.1 = key then
        if ExpiryCheck.permits ledger.check row.1 row.2.value then none
        else some (row.2.renew now ledger.sharedLifetime)
      else ledger.items.lookup key := by
  unfold judge
  simp only
  split
  · exact lookup_erase ledger.items row.1 key
  · exact lookup_insert ledger.items row.1 key _

omit [DecidableEq K] in
theorem gone_single (check : Option (ExpiryCheck K V)) (row : (_ : K) × Item V) :
    gone check [row] = if ExpiryCheck.permits check row.1 row.2.value then [row] else [] := by
  rw [gone, List.filter_cons, List.filter_nil]

/-- Judging one row touches nothing but the items, the check and one counter. -/
theorem judge_frame (ledger : Ledger K V) (now : Instant) (row : (_ : K) × Item V)
    (before : List (K × Item V)) :
    ∃ items, judge now (ledger, before) row =
      ({ ledger with
          items
          check := ExpiryCheck.asked ledger.check row.1 row.2.value
          counters := { ledger.counters with
            evicted := ledger.counters.evicted + (gone ledger.check [row]).length } },
        before ++ (gone ledger.check [row]).map fun row => (row.1, row.2)) := by
  rw [judge, gone_single]
  cases ExpiryCheck.permits ledger.check row.1 row.2.value with
  | true => exact ⟨ledger.items.erase row.1, rfl⟩
  | false => exact ⟨_, Prod.ext rfl (List.append_nil before).symm⟩

/-- Questions about one row leave the verdicts on the others as they were. -/
theorem permits_other {check : Option (ExpiryCheck K V)}
    (alike : ExpiryCheck.Alike check check) {key : K} {rows : List ((_ : K) × Item V)}
    (fresh : key ∉ rows.map (·.1)) (value : V) {row : (_ : K) × Item V} (listed : row ∈ rows) :
    ExpiryCheck.permits (ExpiryCheck.asked check key value) row.1 row.2.value =
      ExpiryCheck.permits check row.1 row.2.value := by
  refine alike.permits_asked ?_ value row.2.value
  rintro rfl
  exact fresh (List.mem_map.mpr ⟨row, listed, rfl⟩)

theorem judged_foldl (ledger : Ledger K V) (alike : ExpiryCheck.Alike ledger.check ledger.check)
    {rows : List ((_ : K) × Item V)} (nodup : (rows.map (·.1)).Nodup)
    (before : List (K × Item V)) :
    Judged now ledger rows before (rows.foldl (judge now) (ledger, before)) := by
  induction rows generalizing ledger before with
  | nil =>
      refine ⟨fun _ listed => absurd listed List.not_mem_nil, fun _ _ => rfl, ?_, ?_⟩
      · exact (List.append_nil before).symm
      · exact ⟨ledger.items, rfl⟩
  | cons row rest ih =>
      obtain ⟨fresh, restNodup⟩ := List.nodup_cons.mp nodup
      have looked := lookup_judge ledger now row before
      obtain ⟨items, judged⟩ := judge_frame ledger now row before
      have others : gone (ExpiryCheck.asked ledger.check row.1 row.2.value) rest =
          gone ledger.check rest :=
        List.filter_congr fun _ listed => permits_other alike fresh row.2.value listed
      have parts : gone ledger.check (row :: rest) =
          gone ledger.check [row] ++ gone ledger.check rest := List.filter_append [row] rest
      rw [judged] at looked
      rw [List.foldl_cons, judged]
      obtain ⟨listed, unlisted, goneLater, frame⟩ := ih
        { ledger with
          items
          check := ExpiryCheck.asked ledger.check row.1 row.2.value
          counters := { ledger.counters with
            evicted := ledger.counters.evicted + (gone ledger.check [row]).length } }
        (alike.askedAll (List.Perm.refl [(row.1, row.2.value)]) (List.nodup_singleton _))
        restNodup (before ++ (gone ledger.check [row]).map fun row => (row.1, row.2))
      refine ⟨?_, ?_, ?_, ?_⟩
      · intro other member
        rcases List.mem_cons.mp member with rfl | later
        · rw [unlisted other.1 fresh, looked, if_pos rfl]
        · rw [listed other later, permits_other alike fresh row.2.value later]
      · intro key absent
        rw [List.map_cons, List.mem_cons, not_or] at absent
        rw [unlisted key absent.2, looked, if_neg fun same => absent.1 same.symm]
      · rw [goneLater, others, parts, List.map_append, List.append_assoc]
      · obtain ⟨final, same⟩ := frame
        refine ⟨final, ?_⟩
        rw [same, others, parts, List.length_append, Nat.add_assoc]
        rfl

/-! ## The whole map -/

def expired (ledger : Ledger K V) (now : Instant) : List ((_ : K) × Item V) :=
  ledger.items.entries.filter (·.2.isExpired now)

theorem mem_expired_iff {row : (_ : K) × Item V} :
    row ∈ ledger.expired now ↔
      ledger.items.lookup row.1 = some row.2 ∧ row.2.isExpired now = true := by
  rw [expired, List.mem_filter, ← Option.mem_def, AList.mem_lookup_iff]

omit [DecidableEq K] in
theorem nodup_expired (ledger : Ledger K V) (now : Instant) :
    ((ledger.expired now).map (·.1)).Nodup :=
  List.Nodup.sublist (List.filter_sublist.map _) ledger.items.keys_nodup

theorem judged_sweep (alike : ExpiryCheck.Alike ledger.check ledger.check) (now : Instant) :
    Judged now ledger (ledger.expired now) [] (ledger.sweep now) :=
  judged_foldl ledger alike (nodup_expired ledger now) []

theorem lookup_sweep (alike : ExpiryCheck.Alike ledger.check ledger.check) (now : Instant)
    (key : K) :
    (ledger.sweep now).1.items.lookup key =
      (ledger.items.lookup key).bind
        (·.settled? key ledger.check now ledger.sharedLifetime) := by
  have judged := judged_sweep alike now
  by_cases listed : key ∈ (ledger.expired now).map (·.1)
  · obtain ⟨row, member, rfl⟩ := List.mem_map.mp listed
    obtain ⟨here, expired⟩ := mem_expired_iff.mp member
    rw [judged.listed row member, here, Option.bind_some, Item.settled?, if_pos expired]
  · rw [judged.unlisted key listed]
    cases here : ledger.items.lookup key with
    | none => rfl
    | some item =>
        have live : item.isExpired now ≠ true := by
          intro expired
          have member : (⟨key, item⟩ : (_ : K) × Item V) ∈ ledger.expired now :=
            mem_expired_iff.mpr ⟨here, expired⟩
          exact listed (List.mem_map.mpr ⟨_, member, rfl⟩)
        rw [Option.bind_some, Item.settled?, if_neg live]

end Ledger

end ExpiringCache
