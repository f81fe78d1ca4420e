import ExpiringCache.SlotTable

/-!
# Key index

The finite map from keys to slots, kept as a list of pairs in the order in
which the keys arrived.
-/

namespace ExpiringCache

structure KeyIndex (K : Type) where
  pairs : List (K × SlotId) := []
  deriving DecidableEq, Repr

namespace KeyIndex

variable {K : Type} [DecidableEq K]

def find? (index : KeyIndex K) (key : K) : Option SlotId :=
  index.pairs.findSome? fun pair => if pair.1 = key then some pair.2 else none

/-- Adds a key that is not in the index yet. -/
def insert (index : KeyIndex K) (key : K) (id : SlotId) : KeyIndex K :=
  { pairs := index.pairs ++ [(key, id)] }

def erase (index : KeyIndex K) (key : K) : KeyIndex K :=
  { pairs := index.pairs.filter (·.1 ≠ key) }

def size (index : KeyIndex K) : Nat := index.pairs.length

@[simp] theorem find?_empty (key : K) : ({} : KeyIndex K).find? key = none := rfl

theorem find?_insert (index : KeyIndex K) (key other : K) (id : SlotId) :
    (index.insert key id).find? other =
      (index.find? other).or (if key = other then some id else none) := by
  simp only [find?, insert, List.findSome?_append, List.findSome?_cons, List.findSome?_nil]
  split <;> simp_all

theorem find?_erase (index : KeyIndex K) (key other : K) :
    (index.erase key).find? other = if key = other then none else index.find? other := by
  obtain ⟨pairs⟩ := index
  simp only [find?, erase]
  induction pairs with
  | nil => simp
  | cons pair rest ih =>
      by_cases removed : pair.1 = key
      · by_cases same : key = other
        · simp_all
        · simp_all
      · by_cases same : key = other
        · simp_all
        · by_cases here : pair.1 = other
          · simp_all
          · simp_all

end KeyIndex

end ExpiringCache
