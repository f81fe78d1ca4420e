import ExpiringCache.Proofs.Store.Pass

/-!
# Steady passes

A pass is steady if each of its rulings is the one that the check would have
given before the pass.  What becomes of an entry then does not depend on the
others.  Passes with a local check are steady, and so are those without vetoes.
-/

namespace ExpiringCache

/-- What a steady pass makes of an entry. -/
def Entry.settled? {K V : Type} (entry : Entry K V) (check : Option (ExpiryCheck K V))
    (now : Instant) (shared : Option Duration) : Option (Entry K V) :=
  if entry.isExpired now then
    if ExpiryCheck.permits check entry.key entry.value then none
    else some (entry.renew now shared)
  else some entry

theorem Entry.key_of_settled? {K V : Type} {entry left : Entry K V}
    {check : Option (ExpiryCheck K V)} {now : Instant} {shared : Option Duration}
    (settled : entry.settled? check now shared = some left) : left.key = entry.key := by
  unfold settled? at settled
  split at settled
  · split at settled
    · cases settled
    · obtain rfl := Option.some.inj settled
      rfl
  · obtain rfl := Option.some.inj settled
    rfl

/-- A local check rules on each key as it would have at first. -/
theorem Ruling.Follow.permitted {K V : Type} [DecidableEq K] {check : Option (ExpiryCheck K V)}
    {rulings : List (Ruling K V)} (follow : Ruling.Follow check rulings)
    (alike : ExpiryCheck.Alike check check)
    (nodup : (rulings.map fun ruling => ruling.entry.key).Nodup) :
    ∀ ruling ∈ rulings,
      ruling.permitted = ExpiryCheck.permits check ruling.entry.key ruling.entry.value := by
  induction rulings generalizing check with
  | nil => exact fun _ listed => absurd listed List.not_mem_nil
  | cons first rest ih =>
      obtain ⟨-, permitted, later⟩ := follow
      obtain ⟨fresh, restNodup⟩ := List.nodup_cons.mp nodup
      intro ruling listed
      rcases List.mem_cons.mp listed with rfl | member
      · exact permitted
      · have different : first.entry.key ≠ ruling.entry.key := fun same =>
          fresh (List.mem_map.mpr ⟨ruling, member, same.symm⟩)
        rw [ih later (alike.askedAll (List.Perm.refl [first.pair]) (List.nodup_singleton _))
          restNodup ruling member]
        exact alike.permits_asked different _ _

/-- Where nothing is vetoed, all may go. -/
theorem Ruling.Follow.permitted_of_permissive {K V : Type} {check : Option (ExpiryCheck K V)}
    {rulings : List (Ruling K V)} (follow : Ruling.Follow check rulings)
    (permissive : ExpiryCheck.Permissive check) :
    ∀ ruling ∈ rulings, ruling.permitted = true := by
  induction rulings generalizing check with
  | nil => exact fun _ listed => absurd listed List.not_mem_nil
  | cons first rest ih =>
      obtain ⟨-, permitted, later⟩ := follow
      intro ruling listed
      rcases List.mem_cons.mp listed with rfl | member
      · exact permitted.trans (permissive.permits _ _)
      · exact ih later (permissive.askedAll [first.pair]) ruling member

namespace Store

/-- Rulings as the check would have given them before the pass. -/
def Steady {K V : Type} (check : Option (ExpiryCheck K V)) (rulings : List (Ruling K V)) : Prop :=
  ∀ ruling ∈ rulings,
    ruling.permitted = ExpiryCheck.permits check ruling.entry.key ruling.entry.value

namespace Settles

variable {K V : Type} [DecidableEq K] {store : Store K V} {check : Option (ExpiryCheck K V)}
  {now : Instant} {rulings : List (Ruling K V)} {pass : Pass K V}

omit [DecidableEq K] in
theorem content?_of_mem (settles : store.Settles check now rulings pass) {ruling : Ruling K V}
    (listed : ruling ∈ rulings) :
    store.content? ruling.slot = some ruling.entry ∧ ruling.entry.isExpired now = true :=
  (settles.mem_iff ruling.slot ruling.entry).mp (List.mem_map.mpr ⟨ruling, listed, rfl⟩)

/-- No key comes up twice in a pass. -/
theorem keys_nodup (settles : store.Settles check now rulings pass) (valid : store.Valid) :
    (rulings.map fun ruling => ruling.entry.key).Nodup := by
  refine List.Nodup.map_on ?_ settles.slots_nodup.of_map
  intro left leftListed right rightListed same
  have slots := valid.slot_unique (settles.content?_of_mem leftListed).1
    (settles.content?_of_mem rightListed).1 same
  exact List.inj_on_of_nodup_map settles.slots_nodup leftListed rightListed slots

theorem steady (settles : store.Settles check now rulings pass) (valid : store.Valid)
    (alike : ExpiryCheck.Alike check check) : Steady check rulings :=
  settles.follow.permitted alike (settles.keys_nodup valid)

omit [DecidableEq K] in
theorem steady_of_permissive (settles : store.Settles check now rulings pass)
    (permissive : ExpiryCheck.Permissive check) : Steady check rulings := by
  intro ruling listed
  rw [settles.follow.permitted_of_permissive permissive ruling listed, permissive.permits]

omit [DecidableEq K] in
theorem content?_eq (settles : store.Settles check now rulings pass)
    (steady : Steady check rulings) (slot : SlotId) :
    pass.store.content? slot =
      (store.content? slot).bind (·.settled? check now store.sharedLifetime) := by
  by_cases listed : slot ∈ rulings.map Ruling.slot
  · obtain ⟨ruling, member, rfl⟩ := List.mem_map.mp listed
    obtain ⟨stored, expired⟩ := settles.content?_of_mem member
    rw [settles.ruled ruling member, steady ruling member, stored,
      Option.bind_some, Entry.settled?, if_pos expired]
  · rw [settles.untouched slot listed]
    cases stored : store.content? slot with
    | none => rfl
    | some entry =>
        have live : entry.isExpired now ≠ true := by
          intro expired
          obtain ⟨ruling, member, same⟩ :=
            List.mem_map.mp ((settles.mem_iff slot entry).mpr ⟨stored, expired⟩)
          exact listed (List.mem_map.mpr ⟨ruling, member, congrArg Prod.fst same⟩)
        rw [Option.bind_some, Entry.settled?, if_neg live]

theorem stored?_eq (settles : store.Settles check now rulings pass) (valid : store.Valid)
    (passValid : pass.store.Valid) (steady : Steady check rulings) (key : K) :
    pass.store.stored? key =
      (store.stored? key).bind (·.settled? check now store.sharedLifetime) := by
  refine Option.ext fun left => ?_
  rw [passValid.stored?_eq_some_iff, Option.bind_eq_some_iff]
  constructor
  · rintro ⟨slot, stored, rfl⟩
    rw [settles.content?_eq steady] at stored
    obtain ⟨entry, here, settled⟩ := Option.bind_eq_some_iff.mp stored
    exact ⟨entry, valid.stored?_eq_some_iff.mpr ⟨slot, here, (Entry.key_of_settled? settled).symm⟩,
      settled⟩
  · rintro ⟨entry, stored, settled⟩
    obtain ⟨slot, here, same⟩ := valid.stored?_eq_some_iff.mp stored
    refine ⟨slot, ?_, (Entry.key_of_settled? settled).trans same⟩
    rw [settles.content?_eq steady, here, Option.bind_some, settled]

end Settles

/-! ## Checks that never veto -/

variable {K V : Type} [DecidableEq K] {store : Store K V}

theorem sweep_of_end {check : Option (ExpiryCheck K V)} {now : Instant}
    (ends : store.round? check now = none) : store.sweep check now = { store, check } := by
  rw [sweep]
  split
  · rfl
  · rename_i goesOn
    cases ends.symm.trans goesOn

theorem sweep_of_round {check : Option (ExpiryCheck K V)} {now : Instant} {round : Round K V}
    (goesOn : store.round? check now = some round) :
    store.sweep check now =
      { round.store.sweep round.check now with
        consultations := round.consultation.toList ++
          (round.store.sweep round.check now).consultations
        evicted := round.evicted.toList ++ (round.store.sweep round.check now).evicted } := by
  rw [sweep]
  split
  · rename_i ends
    cases ends.symm.trans goesOn
  · rename_i other same
    obtain rfl := Option.some.inj (same.symm.trans goesOn)
    rfl

/-- Whether a pass goes on does not depend on the check. -/
theorem isNone_round? (store : Store K V) (left right : Option (ExpiryCheck K V))
    (now : Instant) : (store.round? left now).isNone = (store.round? right now).isNone := by
  unfold round?
  split
  · rfl
  · split
    · rfl
    · split
      · rfl
      · rfl

/-- A round under a check that never vetoes evicts the root as without a check. -/
theorem round?_of_permissive {check : Option (ExpiryCheck K V)}
    (permissive : ExpiryCheck.Permissive check) {now : Instant} {round : Round K V}
    (goesOn : store.round? check now = some round) :
    ExpiryCheck.Permissive round.check ∧
      ∃ unchecked, store.round? none now = some unchecked ∧ unchecked.check = none ∧
        unchecked.store = round.store ∧ unchecked.evicted = round.evicted := by
  obtain ⟨id, entry, root, found, expired, rfl⟩ := round?_cases goesOn
  rw [judge_eq, permissive.permits]
  refine ⟨permissive.askedAll [(entry.key, entry.value)], store.judge none id entry now, ?_, rfl,
    rfl, rfl⟩
  rw [round?, root]
  simp only [found, expired, if_true]

/-- A check that never vetoes makes no difference to a pass, and none to later ones. -/
theorem sweep_of_permissive (store : Store K V) {check : Option (ExpiryCheck K V)}
    (permissive : ExpiryCheck.Permissive check) (now : Instant) :
    ExpiryCheck.Permissive (store.sweep check now).check ∧
      (store.sweep check now).store = (store.sweep none now).store ∧
        (store.sweep check now).evicted = (store.sweep none now).evicted := by
  fun_induction Store.sweep store check now with
  | case1 store check ends =>
      have unasked : store.round? none now = none := by
        rw [← Option.isNone_iff_eq_none, store.isNone_round? none check, ends]
        rfl
      rw [sweep_of_end unasked]
      exact ⟨permissive, rfl, rfl⟩
  | case2 store check round goesOn rest ih =>
      obtain ⟨later, unchecked, unasked, absent, sameStore, sameEvicted⟩ :=
        round?_of_permissive permissive goesOn
      obtain ⟨latest, restStore, restEvicted⟩ := ih later
      rw [sweep_of_round unasked, absent, sameStore, sameEvicted]
      exact ⟨latest, restStore, congrArg (round.evicted.toList ++ ·) restEvicted⟩

end Store

end ExpiringCache
