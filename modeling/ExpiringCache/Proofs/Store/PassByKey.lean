import ExpiringCache.Proofs.Store.SteadyPass

/-!
# Passes key by key

What one pass does to one key.  It rules on a key at most once, and exactly if
the entry of the key has expired; what it leaves under the key, evicts and asks
about it follows from this ruling.
-/

namespace ExpiringCache

namespace Ruling

variable {K V : Type}

/-- The question put about an entry carries its key, and the ruling follows the verdict. -/
theorem Follow.of_mem {check : Option (ExpiryCheck K V)} {rulings : List (Ruling K V)}
    (follow : Follow check rulings) {ruling : Ruling K V} (listed : ruling ∈ rulings) :
    (∀ asked ∈ ruling.question, asked.key = ruling.entry.key) ∧
      ruling.permitted = ruling.question.all (·.verdict.permits) := by
  induction rulings generalizing check with
  | nil => exact absurd listed List.not_mem_nil
  | cons first rest ih =>
      obtain ⟨question, permitted, later⟩ := follow
      rcases List.mem_cons.mp listed with rfl | member
      · rw [question, permitted]
        cases check with
        | none => exact ⟨fun _ absent => (nomatch absent), rfl⟩
        | some installed =>
            refine ⟨?_, rfl⟩
            rintro _ ⟨⟩
            rfl
      · exact ih later member

variable [DecidableEq K]

/-- A local check is asked about each key what it would have been asked at first. -/
theorem Follow.question_of_local {check : Option (ExpiryCheck K V)} {rulings : List (Ruling K V)}
    (follow : Follow check rulings) (alike : ExpiryCheck.Alike check check)
    (nodup : (rulings.map fun ruling => ruling.entry.key).Nodup) {ruling : Ruling K V}
    (listed : ruling ∈ rulings) :
    ruling.question = ExpiryCheck.question? check ruling.entry.key ruling.entry.value := by
  induction rulings generalizing check with
  | nil => exact absurd listed List.not_mem_nil
  | cons first rest ih =>
      obtain ⟨question, -, later⟩ := follow
      obtain ⟨fresh, restNodup⟩ := List.nodup_cons.mp nodup
      rcases List.mem_cons.mp listed with rfl | member
      · exact question
      · have different : first.entry.key ≠ ruling.entry.key := fun same =>
          fresh (List.mem_map.mpr ⟨ruling, member, same.symm⟩)
        rw [ih later (alike.askedAll (List.Perm.refl [first.pair]) (List.nodup_singleton _))
          restNodup member]
        exact alike.question?_asked different _ _

def on? (rulings : List (Ruling K V)) (key : K) : Option (Ruling K V) :=
  rulings.find? (·.entry.key = key)

theorem mem_of_on? {rulings : List (Ruling K V)} {key : K} {ruling : Ruling K V}
    (ruled : on? rulings key = some ruling) : ruling ∈ rulings ∧ ruling.entry.key = key :=
  have named := List.find?_some ruled
  ⟨List.mem_of_find?_eq_some ruled, of_decide_eq_true named⟩

theorem not_mem_of_on?_none {rulings : List (Ruling K V)} {key : K}
    (unruled : on? rulings key = none) {ruling : Ruling K V} (listed : ruling ∈ rulings) :
    ruling.entry.key ≠ key := by
  have passed := List.find?_eq_none.mp unruled ruling listed
  simpa using passed

/-- Where no key comes up twice, the rulings on a key are one ruling or none. -/
theorem filter_key_eq {rulings : List (Ruling K V)}
    (nodup : (rulings.map fun ruling => ruling.entry.key).Nodup) (key : K) :
    rulings.filter (·.entry.key = key) = (on? rulings key).toList := by
  induction rulings with
  | nil => rfl
  | cons first rest ih =>
      obtain ⟨fresh, restNodup⟩ := List.nodup_cons.mp nodup
      rw [on?, List.find?_cons, List.filter_cons]
      by_cases same : first.entry.key = key
      · have none : rest.filter (·.entry.key = key) = [] := by
          refine List.filter_eq_nil_iff.mpr fun ruling listed again => fresh ?_
          exact List.mem_map.mpr ⟨ruling, listed, (of_decide_eq_true again).trans same.symm⟩
        simp only [same, decide_true, if_true, none, Option.toList_some]
      · simp only [same, decide_false, Bool.false_eq_true, if_false]
        exact ih restNodup

end Ruling

namespace Store

namespace Settles

variable {K V : Type} [DecidableEq K] {store : Store K V} {check : Option (ExpiryCheck K V)}
  {now : Instant} {rulings : List (Ruling K V)} {pass : Pass K V}

/-- A pass rules on a key exactly if its entry has expired. -/
theorem on?_entry (settles : store.Settles check now rulings pass) (valid : store.Valid)
    (key : K) :
    (Ruling.on? rulings key).map Ruling.entry = (store.stored? key).filter (·.isExpired now) := by
  cases ruled : Ruling.on? rulings key with
  | some ruling =>
      obtain ⟨listed, rfl⟩ := Ruling.mem_of_on? ruled
      obtain ⟨here, expired⟩ := settles.content?_of_mem listed
      rw [valid.stored?_eq_some_iff.mpr ⟨ruling.slot, here, rfl⟩, Option.map_some,
        Option.filter_some, if_pos expired]
  | none =>
      cases due : (store.stored? key).filter (·.isExpired now) with
      | none => rfl
      | some entry =>
          obtain ⟨stored, expired⟩ := Option.filter_eq_some_iff.mp due
          obtain ⟨slot, here, same⟩ := valid.stored?_eq_some_iff.mp stored
          obtain ⟨ruling, listed, found⟩ :=
            List.mem_map.mp ((settles.mem_iff slot entry).mpr ⟨here, expired⟩)
          obtain ⟨-, rfl⟩ := Prod.mk.inj found
          exact absurd same (Ruling.not_mem_of_on?_none ruled listed)

omit [DecidableEq K] in
/-- What a pass leaves in a slot has the key of what was there before. -/
theorem content?_before (settles : store.Settles check now rulings pass) {slot : SlotId}
    {left : Entry K V} (stays : pass.store.content? slot = some left) :
    ∃ entry, store.content? slot = some entry ∧ entry.key = left.key := by
  by_cases listed : slot ∈ rulings.map Ruling.slot
  · obtain ⟨ruling, member, rfl⟩ := List.mem_map.mp listed
    refine ⟨ruling.entry, (settles.content?_of_mem member).1, ?_⟩
    rw [settles.ruled ruling member] at stays
    split at stays
    · cases stays
    · obtain rfl := Option.some.inj stays
      rfl
  · exact ⟨left, (settles.untouched slot listed).symm.trans stays, rfl⟩

theorem stored?_of_ruled (settles : store.Settles check now rulings pass) (valid : store.Valid)
    (passValid : pass.store.Valid) {key : K} {ruling : Ruling K V}
    (ruled : Ruling.on? rulings key = some ruling) :
    pass.store.stored? key =
      if ruling.permitted then none else some (ruling.entry.renew now store.sharedLifetime) := by
  obtain ⟨listed, rfl⟩ := Ruling.mem_of_on? ruled
  have here := (settles.content?_of_mem listed).1
  rw [← settles.ruled ruling listed]
  refine Option.ext fun left => ?_
  rw [passValid.stored?_eq_some_iff]
  constructor
  · rintro ⟨slot, stays, same⟩
    obtain ⟨entry, before, carried⟩ := settles.content?_before stays
    obtain rfl := valid.slot_unique before here (carried.trans same)
    exact stays
  · intro stays
    obtain ⟨entry, before, carried⟩ := settles.content?_before stays
    obtain rfl := Option.some.inj (before.symm.trans here)
    exact ⟨ruling.slot, stays, carried.symm⟩

theorem stored?_of_unruled (settles : store.Settles check now rulings pass)
    (valid : store.Valid) (passValid : pass.store.Valid) {key : K}
    (unruled : Ruling.on? rulings key = none) :
    pass.store.stored? key = store.stored? key := by
  have spared (slot : SlotId) (entry : Entry K V) (before : store.content? slot = some entry)
      (same : entry.key = key) : pass.store.content? slot = some entry := by
    rw [settles.untouched slot, before]
    intro listed
    obtain ⟨ruling, member, rfl⟩ := List.mem_map.mp listed
    obtain rfl := Option.some.inj (before.symm.trans (settles.content?_of_mem member).1)
    exact Ruling.not_mem_of_on?_none unruled member same
  refine Option.ext fun left => ?_
  rw [passValid.stored?_eq_some_iff, valid.stored?_eq_some_iff]
  constructor
  · rintro ⟨slot, stays, same⟩
    obtain ⟨entry, before, carried⟩ := settles.content?_before stays
    have there := spared slot entry before (carried.trans same)
    obtain rfl := Option.some.inj (there.symm.trans stays)
    exact ⟨slot, before, same⟩
  · rintro ⟨slot, before, same⟩
    exact ⟨slot, spared slot left before same, same⟩

/-- What a pass evicts under a key. -/
theorem evicted_filter (settles : store.Settles check now rulings pass) (valid : store.Valid)
    (key : K) :
    pass.evicted.filter (·.1 = key) =
      ((Ruling.on? rulings key).filter Ruling.permitted).toList.map Ruling.pair := by
  have named : (rulings.filter Ruling.permitted).filter (·.entry.key = key) =
      (rulings.filter (·.entry.key = key)).filter Ruling.permitted := List.filter_comm _ _ _
  rw [settles.evicted_eq, List.filter_map]
  change List.map Ruling.pair ((rulings.filter Ruling.permitted).filter (·.entry.key = key)) = _
  rw [named, Ruling.filter_key_eq (settles.keys_nodup valid)]
  cases Ruling.on? rulings key with
  | none => rfl
  | some ruling =>
      rw [Option.toList_some, Option.filter_some, List.filter_singleton]
      cases ruling.permitted <;> rfl

/-- What a pass asks about a key. -/
theorem consultations_filter (settles : store.Settles check now rulings pass)
    (valid : store.Valid) (key : K) :
    pass.consultations.filter (·.key = key) =
      ((Ruling.on? rulings key).bind Ruling.question).toList := by
  have named : (rulings.filterMap Ruling.question).filter (·.key = key) =
      (rulings.filter (·.entry.key = key)).filterMap Ruling.question := by
    rw [List.filter_filterMap, List.filterMap_filter]
    refine List.filterMap_congr fun ruling listed => ?_
    have carried := (settles.follow.of_mem listed).1
    cases question : ruling.question with
    | none => simp
    | some asked =>
        rw [← carried asked question, Option.filter_some]
  rw [settles.consultations_eq, named, Ruling.filter_key_eq (settles.keys_nodup valid)]
  cases Ruling.on? rulings key with
  | none => rfl
  | some ruling => cases asked : ruling.question <;> simp [asked]

end Settles

end Store

end ExpiringCache
