import ExpiringCache.Proofs.Store.PassByKey

/-!
# Reprieves

A check that vetoes a number of questions about a key and then allows.  It may
answer as it likes about other keys.  A pass that finds the key expired asks
about it once, and uses up one veto or evicts it; any other pass leaves the key
and the number of vetoes.
-/

namespace ExpiringCache

namespace ExpiryCheck

variable {K V : Type} [DecidableEq K] {check : ExpiryCheck K V} {key : K} {left : Nat}

/-- A check that vetoes the next questions about a key, and allows all later ones. -/
def VetoesNext (check : ExpiryCheck K V) (key : K) (left : Nat) : Prop :=
  ∀ later value, check.verdict (later ++ check.history) key value =
    if later.countP (·.1 = key) < left then .veto else .allow

/-- Each question about the key uses up one veto. -/
theorem VetoesNext.asked (vetoes : check.VetoesNext key left) (pairs : List (K × V)) :
    VetoesNext { check with history := pairs ++ check.history } key
      (left - pairs.countP (·.1 = key)) := by
  intro later value
  have verdict := vetoes (later ++ pairs) value
  rw [List.append_assoc, List.countP_append] at verdict
  have same : later.countP (·.1 = key) < left - pairs.countP (·.1 = key) ↔
      later.countP (·.1 = key) + pairs.countP (·.1 = key) < left := by omega
  simp only [same]
  exact verdict

/-- A question about another key uses up none. -/
theorem VetoesNext.asked_other (vetoes : check.VetoesNext key left) {pair : K × V}
    (other : pair.1 ≠ key) :
    VetoesNext { check with history := pair :: check.history } key left := by
  have uncounted : [pair].countP (·.1 = key) = 0 := by simp [other]
  have same := vetoes.asked [pair]
  rw [uncounted, Nat.sub_zero] at same
  exact same

end ExpiryCheck

/-- A rule that allows, save for its first vetoes, as long as it has no verdict for the key. -/
theorem VetoRule.vetoesNext {K V : Type} [DecidableEq K] {rule : VetoRule K} {key : K}
    (unnamed : rule.byKey.lookup key = none) (allows : rule.otherwise = .allow) :
    (rule.check : ExpiryCheck K V).VetoesNext key rule.vetoFirst := by
  intro later value
  have whole : later ++ (rule.check : ExpiryCheck K V).history = later := List.append_nil later
  rw [whole]
  change rule.verdict later key value = _
  rw [verdict, unnamed, allows]

/-- What is asked about a pair, of a check with the given number of vetoes left. -/
def Consultation.withLeft {K V : Type} (key : K) (value : V) (left : Nat) : Consultation K V :=
  { key, value, verdict := if 0 < left then .veto else .allow }

namespace Ruling

variable {K V : Type} [DecidableEq K]

/-- Whatever is asked before, the question about the key gets a veto if there is one left. -/
theorem Follow.question_of_vetoesNext {check : ExpiryCheck K V} {rulings : List (Ruling K V)}
    (follow : Follow (some check) rulings) {key : K} {left : Nat}
    (vetoes : check.VetoesNext key left) {ruling : Ruling K V}
    (ruled : on? rulings key = some ruling) :
    ruling.question = some (.withLeft key ruling.entry.value left) := by
  induction rulings generalizing check with
  | nil => cases ruled
  | cons first rest ih =>
      obtain ⟨question, -, later⟩ := follow
      rw [on?, List.find?_cons] at ruled
      by_cases same : first.entry.key = key
      · rw [decide_eq_true same] at ruled
        obtain rfl := Option.some.inj ruled
        have verdict := vetoes [] first.entry.value
        subst same
        rw [question]
        exact congrArg (fun verdict => some (Consultation.mk _ _ verdict)) verdict
      · rw [decide_eq_false same] at ruled
        exact ih later (vetoes.asked_other same) ruled

end Ruling

namespace Store

variable {K V : Type} [DecidableEq K] {store : Store K V} {now : Instant} {key : K}

/-- What a pass makes of one key: what stays under it, what it asks, and what it evicts. -/
structure Pass.Makes (pass : Pass K V) (key : K) (stays : Option (Entry K V))
    (asked : List (Consultation K V)) (evicted : List (K × V)) : Prop where
  stored : pass.store.stored? key = stays
  asked : pass.consultations.filter (·.key = key) = asked
  evicted : pass.evicted.filter (·.1 = key) = evicted

/-- A pass leaves a key that has not expired or is absent. -/
theorem Valid.sweep_undue (valid : store.Valid) (check : Option (ExpiryCheck K V))
    (undue : (store.stored? key).filter (·.isExpired now) = none) :
    (store.sweep check now).Makes key (store.stored? key) [] [] := by
  obtain ⟨rulings, settles⟩ := valid.sweep_settles check now
  have unruled : Ruling.on? rulings key = none :=
    Option.map_eq_none_iff.mp ((settles.on?_entry valid key).trans undue)
  refine ⟨settles.stored?_of_unruled valid (valid.sweep check now) unruled, ?_, ?_⟩
  · rw [settles.consultations_filter valid, unruled]
    rfl
  · rw [settles.evicted_filter valid, unruled]
    rfl

/-- A pass renews an expired key while there are vetoes left, and evicts it once there are none. -/
theorem Valid.sweep_due (valid : store.Valid) {check : ExpiryCheck K V} {left : Nat}
    (vetoes : check.VetoesNext key left) {entry : Entry K V}
    (stored : store.stored? key = some entry) (expired : entry.isExpired now = true) :
    (store.sweep (some check) now).Makes key
      (if 0 < left then some (entry.renew now store.sharedLifetime) else none)
      [.withLeft key entry.value left] (if 0 < left then [] else [(key, entry.value)]) := by
  obtain ⟨rulings, settles⟩ := valid.sweep_settles (some check) now
  have due := settles.on?_entry valid key
  rw [stored, Option.filter_some, if_pos expired] at due
  obtain ⟨ruling, ruled, rfl⟩ := Option.map_eq_some_iff.mp due
  obtain ⟨listed, named⟩ := Ruling.mem_of_on? ruled
  have question := settles.follow.question_of_vetoesNext vetoes ruled
  have permitted : ruling.permitted = !decide (0 < left) := by
    rw [(settles.follow.of_mem listed).2, question, Option.all_some]
    by_cases more : 0 < left
    · simp [Consultation.withLeft, Verdict.permits, more]
    · simp [Consultation.withLeft, Verdict.permits, more]
  refine ⟨?_, ?_, ?_⟩
  · rw [settles.stored?_of_ruled valid (valid.sweep (some check) now) ruled, permitted]
    by_cases more : 0 < left
    · simp [more]
    · simp [more]
  · rw [settles.consultations_filter valid, ruled, Option.bind_some, question]
    rfl
  · rw [settles.evicted_filter valid, ruled, Option.filter_some, permitted]
    by_cases more : 0 < left
    · simp [more]
    · simp [more, Ruling.pair, named]

/-- A pass uses up a veto if it finds the key expired. -/
theorem Valid.vetoesNext_sweep (valid : store.Valid) {check : ExpiryCheck K V} {left : Nat}
    (vetoes : check.VetoesNext key left) (now : Instant) :
    ∃ asked, (store.sweep (some check) now).check = some asked ∧ asked.VetoesNext key
      (left - ((store.stored? key).filter (·.isExpired now)).toList.length) := by
  obtain ⟨rulings, settles⟩ := valid.sweep_settles (some check) now
  have once : (rulings.map Ruling.pair).reverse.countP (·.1 = key) =
      ((store.stored? key).filter (·.isExpired now)).toList.length := by
    have single : (Ruling.on? rulings key).toList.length =
        ((Ruling.on? rulings key).map Ruling.entry).toList.length := by
      cases Ruling.on? rulings key <;> rfl
    rw [List.countP_reverse, List.countP_map, List.countP_eq_length_filter,
      ← settles.on?_entry valid key, ← single, ← Ruling.filter_key_eq (settles.keys_nodup valid)]
    rfl
  refine ⟨_, settles.check_eq.trans (ExpiryCheck.askedAll_some _ _), ?_⟩
  rw [← once]
  exact vetoes.asked _

end Store

end ExpiringCache
