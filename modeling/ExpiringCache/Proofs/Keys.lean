import ExpiringCache.KeyIndex
import Mathlib.Data.List.Nodup

/-!
# Keys

The keys of an index, each of which is listed once while insertion is limited
to absent keys.
-/

namespace ExpiringCache

namespace KeyIndex

variable {K : Type} [DecidableEq K]

def keys (index : KeyIndex K) : List K := index.pairs.map (·.1)

omit [DecidableEq K] in
@[simp] theorem keys_insert (index : KeyIndex K) (key : K) (id : SlotId) :
    (index.insert key id).keys = index.keys ++ [key] := by
  simp [keys, insert]

theorem keys_erase (index : KeyIndex K) (key : K) :
    (index.erase key).keys = index.keys.filter (· ≠ key) := by
  simp only [keys, erase, List.filter_map]
  rfl

theorem find?_eq_none_iff {index : KeyIndex K} {key : K} :
    index.find? key = none ↔ key ∉ index.keys := by
  constructor
  · intro missing listed
    obtain ⟨pair, member, rfl⟩ := List.mem_map.mp listed
    have skipped := List.findSome?_eq_none_iff.mp missing pair member
    simp at skipped
  · intro absent
    refine List.findSome?_eq_none_iff.mpr ?_
    intro pair member
    rw [if_neg]
    rintro rfl
    exact absent (List.mem_map_of_mem member)

theorem isSome_find?_iff {index : KeyIndex K} {key : K} :
    (index.find? key).isSome = true ↔ key ∈ index.keys := by
  rw [Option.isSome_iff_ne_none, ne_eq, find?_eq_none_iff, not_not]

/-- Where no key is listed twice, the index is the set of its pairs. -/
theorem find?_eq_some_iff {index : KeyIndex K} (nodup : index.keys.Nodup) {key : K}
    {id : SlotId} : index.find? key = some id ↔ (key, id) ∈ index.pairs := by
  obtain ⟨pairs⟩ := index
  simp only [keys, find?] at nodup ⊢
  induction pairs with
  | nil => simp
  | cons pair rest ih =>
      obtain ⟨other, slot⟩ := pair
      obtain ⟨fresh, restNodup⟩ := List.nodup_cons.mp nodup
      rw [List.findSome?_cons, List.mem_cons, Prod.mk.injEq]
      by_cases same : other = key
      · subst same
        rw [if_pos rfl, Option.some_inj]
        constructor
        · intro found
          exact .inl ⟨rfl, found.symm⟩
        · rintro (⟨-, here⟩ | later)
          · exact here.symm
          · exact absurd (List.mem_map_of_mem later) fresh
      · rw [if_neg same]
        constructor
        · intro found
          exact .inr ((ih restNodup).mp found)
        · rintro (⟨here, -⟩ | later)
          · exact absurd here.symm same
          · exact (ih restNodup).mpr later

theorem nodup_keys_insert {index : KeyIndex K} {key : K} (nodup : index.keys.Nodup)
    (absent : index.find? key = none) (id : SlotId) : (index.insert key id).keys.Nodup := by
  rw [keys_insert, List.nodup_append]
  refine ⟨nodup, List.nodup_singleton key, ?_⟩
  rintro other listed _ here rfl
  rw [List.mem_singleton] at here
  exact find?_eq_none_iff.mp absent (here ▸ listed)

theorem nodup_keys_erase {index : KeyIndex K} (nodup : index.keys.Nodup) (key : K) :
    (index.erase key).keys.Nodup := by
  rw [keys_erase]
  exact nodup.filter _

/-- What is erased is missing once. -/
theorem keys_erase_perm {index : KeyIndex K} (nodup : index.keys.Nodup) {key : K}
    (listed : key ∈ index.keys) : ((index.erase key).keys ++ [key]).Perm index.keys := by
  have erased : (index.erase key).keys = index.keys.erase key := by
    rw [keys_erase, nodup.erase_eq_filter]
    apply List.filter_congr
    intro other _
    exact (decide_not.trans (congrArg not (beq_eq_decide other key).symm))
  rw [erased]
  exact (List.perm_append_singleton key _).trans (List.perm_cons_erase listed).symm

end KeyIndex

end ExpiringCache
