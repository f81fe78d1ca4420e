import ExpiringCache.Proofs.Store.PassByKey

/-!
# Exact passes

The full account of one pass: which entries it asks about and in which order,
what it evicts, what it leaves of the others, where it leaves them, and that a
second pass at the same instant finds nothing to do.
-/

namespace ExpiringCache

namespace Ruling

variable {K V : Type} {rulings : List (Ruling K V)}

/-- An installed check is asked once about each pair, in the order of the rulings. -/
theorem Follow.map_question {installed : ExpiryCheck K V}
    (follow : Follow (some installed) rulings) :
    (rulings.filterMap Ruling.question).map (fun asked => (asked.key, asked.value)) =
      rulings.map Ruling.pair := by
  induction rulings generalizing installed with
  | nil => rfl
  | cons ruling rest ih =>
      obtain ⟨question, -, later⟩ := follow
      rw [List.filterMap_cons, question, List.map_cons, ← ih later]
      rfl

/-- Only a veto keeps an expired entry; a check that fails lets it go. -/
theorem Follow.permitted_eq_false_iff {check : Option (ExpiryCheck K V)}
    (follow : Follow check rulings) {ruling : Ruling K V} (listed : ruling ∈ rulings) :
    ruling.permitted = false ↔ ∃ asked ∈ ruling.question, asked.verdict = .veto := by
  rw [(follow.of_mem listed).2]
  cases ruling.question with
  | none => simp
  | some asked => simp [Verdict.permits]

end Ruling

namespace Store

variable {K V : Type} [DecidableEq K] {store : Store K V} {check : Option (ExpiryCheck K V)}
  {now : Instant} {rulings : List (Ruling K V)} {pass : Pass K V}

/-- The account of a pass: its rulings, and what shows in the store that it leaves. -/
structure ExactPass (store : Store K V) (check : Option (ExpiryCheck K V)) (now : Instant)
    (rulings : List (Ruling K V)) (pass : Pass K V) : Prop
    extends store.Settles check now rulings pass where
  valid : pass.store.Valid
  asked : ∀ installed ∈ check,
    pass.consultations.map (fun asked => (asked.key, asked.value)) = rulings.map Ruling.pair
  kept_iff : ∀ ruling ∈ rulings,
    ruling.permitted = false ↔ ∃ asked ∈ ruling.question, asked.verdict = .veto
  /-- Every key that is not evicted keeps its slot. -/
  find?_iff : ∀ key slot, pass.store.index.find? key = some slot ↔
    store.index.find? key = some slot ∧
      ∀ ruling ∈ rulings, ruling.slot = slot → ruling.permitted = false
  /-- What is left without a deadline has left the queue. -/
  queued : ∀ slot, (pass.store.schedule.positionOf slot).isSome =
    ((pass.store.content? slot).bind Entry.deadline).isSome
  fresh : ∀ slot entry, pass.store.content? slot = some entry → entry.isExpired now = false
  again : ∀ later, pass.store.sweep later now = { store := pass.store, check := later }

namespace Settles

omit [DecidableEq K] in
/-- What a pass leaves has not expired. -/
theorem fresh (settles : store.Settles check now rulings pass) {slot : SlotId}
    {entry : Entry K V} (stays : pass.store.content? slot = some entry) :
    entry.isExpired now = false := by
  by_cases listed : slot ∈ rulings.map Ruling.slot
  · obtain ⟨ruling, member, rfl⟩ := List.mem_map.mp listed
    rw [settles.ruled ruling member] at stays
    split at stays
    · cases stays
    · obtain rfl := Option.some.inj stays
      exact Entry.isExpired_renew _ now _
  · rw [settles.untouched slot listed] at stays
    rw [← Bool.not_eq_true]
    intro expired
    obtain ⟨ruling, member, same⟩ :=
      List.mem_map.mp ((settles.mem_iff slot entry).mpr ⟨stays, expired⟩)
    exact listed (List.mem_map.mpr ⟨ruling, member, congrArg Prod.fst same⟩)

omit [DecidableEq K] in
/-- A slot keeps its key unless a ruling lets its entry go. -/
theorem map_key_content?_eq_some_iff (settles : store.Settles check now rulings pass)
    (slot : SlotId) (key : K) :
    (pass.store.content? slot).map Entry.key = some key ↔
      (store.content? slot).map Entry.key = some key ∧
        ∀ ruling ∈ rulings, ruling.slot = slot → ruling.permitted = false := by
  by_cases listed : slot ∈ rulings.map Ruling.slot
  · obtain ⟨ruling, member, rfl⟩ := List.mem_map.mp listed
    -- A slot has one ruling, so no other one can let its entry go.
    have alone (other : Ruling K V) (otherMember : other ∈ rulings)
        (same : other.slot = ruling.slot) : other = ruling :=
      List.inj_on_of_nodup_map settles.slots_nodup otherMember member same
    rw [settles.ruled ruling member, (settles.content?_of_mem member).1]
    cases permitted : ruling.permitted with
    | true =>
        constructor
        · rintro ⟨⟩
        · rintro ⟨-, vetoed⟩
          rw [vetoed ruling member rfl] at permitted
          cases permitted
    | false =>
        refine ⟨fun carried => ⟨carried, ?_⟩, And.left⟩
        intro other otherMember same
        rw [alone other otherMember same, permitted]
  · rw [settles.untouched slot listed]
    refine ⟨fun carried => ⟨carried, ?_⟩, And.left⟩
    intro ruling member same
    exact absurd (List.mem_map.mpr ⟨ruling, member, same⟩) listed

end Settles

/-- Where nothing has expired a pass ends at once. -/
theorem round?_of_fresh
    (fresh : ∀ slot entry, store.content? slot = some entry → entry.isExpired now = false)
    (check : Option (ExpiryCheck K V)) : store.round? check now = none := by
  cases goesOn : store.round? check now with
  | none => rfl
  | some round =>
      obtain ⟨id, entry, -, found, expired, -⟩ := round?_cases goesOn
      have live : entry.isExpired now = false :=
        fresh id entry.unplaced (by rw [content?_eq, found]; rfl)
      rw [live] at expired
      cases expired

/--
One pass is exact, whatever the check answers.  It asks about each expired entry
once and about no other, by deadline; it evicts those it gets no veto for, with
the values they had, and restarts the lifetime of the others where they are.
All else stays as it was, and nothing is left for a second pass.
-/
theorem Valid.sweep_exact (valid : store.Valid) (check : Option (ExpiryCheck K V))
    (now : Instant) : ∃ rulings, store.ExactPass check now rulings (store.sweep check now) := by
  obtain ⟨rulings, settles⟩ := valid.sweep_settles check now
  have passValid := valid.sweep check now
  have fresh (slot : SlotId) (entry : Entry K V)
      (stays : (store.sweep check now).store.content? slot = some entry) :
      entry.isExpired now = false := settles.fresh stays
  refine ⟨rulings, settles, passValid, ?_, ?_, ?_, ?_, fresh, ?_⟩
  · rintro installed rfl
    rw [settles.consultations_eq]
    exact settles.follow.map_question
  · intro ruling member
    exact settles.follow.permitted_eq_false_iff member
  · intro key slot
    rw [passValid.find?_eq_some_iff, valid.find?_eq_some_iff]
    exact settles.map_key_content?_eq_some_iff slot key
  · intro slot
    rw [passValid.schedule.queued, deadlineOf_eq_content?]
  · intro later
    exact sweep_of_end (round?_of_fresh fresh later)

/-- An entry that is vetoed, one whose check fails, one that is allowed, and two that are live. -/
def contestedStore : Store Nat Nat :=
  let first := (({} : Store Nat Nat).write 1 10 (.lasting ⟨5⟩) ⟨0⟩).1
  let second := (first.write 2 20 (.lasting ⟨3⟩) ⟨0⟩).1
  let third := (second.write 3 30 (.lasting ⟨3⟩) ⟨1⟩).1
  let fourth := (third.write 4 40 .unlimited ⟨1⟩).1
  (fourth.write 5 50 (.lasting ⟨8⟩) ⟨1⟩).1

def contestedRule : VetoRule Nat := { byKey := [(1, .veto), (2, .fail)] }

theorem contestedStore_swept :
    let pass := contestedStore.sweep (some contestedRule.check) ⟨8⟩
    contestedStore.Valid ∧
      (∃ rulings, contestedStore.ExactPass (some contestedRule.check) ⟨8⟩ rulings pass) ∧
      pass.consultations.map (fun asked => (asked.key, asked.verdict)) =
        [(2, .fail), (3, .allow), (1, .veto)] ∧
      pass.evicted = [(2, 20), (3, 30)] := by
  intro pass
  have empty : ({} : Store Nat Nat).Valid := valid_of_empty rfl rfl
  have valid : contestedStore.Valid :=
    ((((empty.write 1 10 _ _).write 2 20 _ _).write 3 30 _ _).write 4 40 _ _).write 5 50 _ _
  exact ⟨valid, valid.sweep_exact (some contestedRule.check) ⟨8⟩, by decide +kernel,
    by decide +kernel⟩

end Store

end ExpiringCache
