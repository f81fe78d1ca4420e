import ExpiringCache.Proofs.Store.Pass

/-!
# Rounds

How often a pass goes round.  Each round settles one expired entry for good: an
evicted entry is gone, and a renewed one is live, because a lifetime is never
empty and one that is too long leaves no deadline.  So the pass takes one round
for each entry that had expired, and in each of them the root is stored.
-/

namespace ExpiringCache

/-- Where no stored value satisfies a condition, none is counted. -/
theorem SlotTable.countP_eq_zero {α : Type} {table : SlotTable α} {condition : α → Bool}
    (fails : ∀ id value, table.get? id = some value → condition value = false) :
    table.countP condition = 0 := by
  rw [countP, Array.countP_eq_zero]
  intro cell listed
  obtain ⟨id, here⟩ := Array.mem_iff_getElem?.mp listed
  cases cell with
  | none => simp
  | some value =>
      have stored : table.get? id = some value := by rw [get?, here, Option.join_some]
      simp [fails id value stored]

namespace Store

variable {K V : Type} [DecidableEq K] {store : Store K V}

/-- The store and the check after a number of rounds; none if the pass ends before. -/
def afterRounds? (store : Store K V) (check : Option (ExpiryCheck K V)) (now : Instant) :
    Nat → Option (Store K V × Option (ExpiryCheck K V))
  | 0 => some (store, check)
  | rounds + 1 =>
      (store.round? check now).bind fun round =>
        round.store.afterRounds? round.check now rounds

namespace Valid

/-- A pass that ends leaves nothing that has expired. -/
theorem overdue_of_ended (valid : store.Valid) {check : Option (ExpiryCheck K V)} {now : Instant}
    (ended : store.round? check now = none) : store.schedule.overdue now = 0 :=
  SlotTable.countP_eq_zero fun _ _ stored => valid.isExpired_of_round?_none ended stored

theorem afterRounds? (valid : store.Valid) {check : Option (ExpiryCheck K V)} {now : Instant}
    {rounds : Nat} {state : Store K V × Option (ExpiryCheck K V)}
    (reached : store.afterRounds? check now rounds = some state) : state.1.Valid := by
  induction rounds generalizing store check with
  | zero =>
      obtain rfl := Option.some.inj reached
      exact valid
  | succ rounds ih =>
      obtain ⟨round, goesOn, later⟩ := Option.bind_eq_some_iff.mp reached
      exact ih (valid.round goesOn) later

/-- A pass goes on as long as there are expired entries. -/
theorem isSome_afterRounds? (valid : store.Valid) (check : Option (ExpiryCheck K V))
    (now : Instant) (rounds : Nat) :
    (store.afterRounds? check now rounds).isSome = true ↔
      rounds ≤ store.schedule.overdue now := by
  induction rounds generalizing store check with
  | zero => simp [Store.afterRounds?]
  | succ rounds ih =>
      rw [Store.afterRounds?]
      cases goesOn : store.round? check now with
      | none =>
          rw [valid.overdue_of_ended goesOn]
          simp
      | some round =>
          -- The round settles one entry for good, so both sides go down by one.
          rw [Option.bind_some, ih (valid.round goesOn), ← overdue_round goesOn]
          exact Nat.add_le_add_iff_right.symm

/-- After one round for each expired entry the pass is where it ends. -/
theorem afterRounds?_overdue (valid : store.Valid) (check : Option (ExpiryCheck K V))
    (now : Instant) :
    store.afterRounds? check now (store.schedule.overdue now) =
      some ((store.sweep check now).store, (store.sweep check now).check) := by
  fun_induction Store.sweep store check now with
  | case1 store check ended =>
      rw [valid.overdue_of_ended ended]
      rfl
  | case2 store check round goesOn rest ih =>
      rw [← overdue_round goesOn, Store.afterRounds?, goesOn, Option.bind_some]
      exact ih (valid.round goesOn)

/--
A pass ends whatever the check answers, vetoes without end included.  It takes
exactly as many rounds as there are stored entries with a deadline before `now`
at its start, and the root that a round or the end of the pass finds is stored.
-/
theorem one_round_per_overdue (valid : store.Valid) (check : Option (ExpiryCheck K V))
    (now : Instant) :
    let due := store.schedule.entries.countP fun entry => entry.deadline.any (· < now)
    (∀ rounds, (store.afterRounds? check now rounds).isSome = true ↔ rounds ≤ due) ∧
    store.afterRounds? check now due =
      some ((store.sweep check now).store, (store.sweep check now).check) ∧
    ∀ rounds reached asked, store.afterRounds? check now rounds = some (reached, asked) →
      ∀ id, reached.schedule.first? = some id → ∃ entry, reached.entry? id = some entry := by
  intro due
  have overdue : store.schedule.overdue now = due := SlotTable.countP_map _ _ _
  rw [← overdue]
  refine ⟨valid.isSome_afterRounds? check now, valid.afterRounds?_overdue check now, ?_⟩
  intro rounds reached asked steps id root
  have stillValid : reached.Valid := valid.afterRounds? steps
  exact stillValid.entry?_first root

end Valid

/-- One entry relies on the shared lifetime, one never ends and two have lifetimes of their own. -/
def relyingStore : Store Nat Nat :=
  let first := (({ sharedLifetime := some ⟨4⟩ } : Store Nat Nat).write 1 10 (.lasting .zero) ⟨0⟩).1
  let second := (first.write 2 20 .unlimited ⟨0⟩).1
  let third := (second.write 3 30 (.lasting ⟨6⟩) ⟨1⟩).1
  (third.write 4 40 (.lasting ⟨200⟩) ⟨1⟩).1

/-- With the shared lifetime empty, the entry that relies on it has none when it is renewed. -/
def vetoedStore : Store Nat Nat := { relyingStore with sharedLifetime := some .zero }

def vetoingCheck : Option (ExpiryCheck Nat Nat) :=
  some ({ otherwise := .veto } : VetoRule Nat).check

theorem vetoedStore_rounds :
    vetoedStore.Valid ∧
      (vetoedStore.schedule.entries.countP fun entry => entry.deadline.any (· < ⟨100⟩)) = 2 ∧
      (vetoedStore.afterRounds? vetoingCheck ⟨100⟩ 2).isSome = true ∧
      (vetoedStore.afterRounds? vetoingCheck ⟨100⟩ 3).isSome = false := by
  have empty : ({ sharedLifetime := some ⟨4⟩ } : Store Nat Nat).Valid := valid_of_empty rfl rfl
  have written : relyingStore.Valid :=
    (((empty.write 1 10 _ _).write 2 20 _ _).write 3 30 _ _).write 4 40 _ _
  have valid : vetoedStore.Valid := written.of_same rfl rfl
  have due : (vetoedStore.schedule.entries.countP fun entry =>
      entry.deadline.any (· < ⟨100⟩)) = 2 := by decide +kernel
  obtain ⟨rounds, -, -⟩ := valid.one_round_per_overdue vetoingCheck ⟨100⟩
  rw [due] at rounds
  have second := (rounds 2).mpr (Nat.le_refl 2)
  have third : ¬ (vetoedStore.afterRounds? vetoingCheck ⟨100⟩ 3).isSome = true := by
    rw [rounds]
    decide
  exact ⟨valid, due, second, Bool.eq_false_iff.mpr third⟩

end Store

end ExpiringCache
