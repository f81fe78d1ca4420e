import ExpiringCache.Proofs.Cache.SectionByKey

/-!
# The shared lifetime

A new shared lifetime reaches an entry that relies on it when the entry is next
renewed: by a write, by a read that renews, by a touch or by a veto.  A pass
that does not ask about an entry leaves its deadline, or the lack of one, as it
was under the shared lifetime before.
-/

namespace ExpiringCache

/-- Whether a lifetime is the shared one. -/
def Lifetime.relies : Lifetime → Bool
  | .inherited => true
  | .unlimited => false
  | .lasting duration => duration = .zero

theorem Lifetime.resolve_of_relies {lifetime : Lifetime} (relies : lifetime.relies = true)
    {shared : Duration} (positive : shared ≠ .zero) :
    lifetime.resolve (some shared) = some shared := by
  have resolved : Duration.positive? (some shared) = some shared :=
    Duration.positive?_eq_some_iff.mpr ⟨rfl, positive⟩
  cases lifetime with
  | inherited => exact resolved
  | unlimited => cases relies
  | lasting duration =>
      rw [of_decide_eq_true relies, resolve_lasting_zero]
      exact resolved

/-- The reading of the clock that a change brings to the entries. -/
def Change.reading? {K V H : Type} : Change K V H → Option Instant
  | .client entered => entered.reading?
  | .sweep now => some now
  | _ => none

/-- Whether a change sets the shared lifetime. -/
def Change.setsLifetime {K V H : Type} : Change K V H → Bool
  | .client (.setSharedLifetime _) => true
  | _ => false

/--
Where an entry comes from: it was renewed at a reading, if there is one, and else
it stood there before.
-/
def Entry.Stems {K V : Type} (entry : Entry K V) (before : Option (Entry K V))
    (shared : Option Duration) : Option Instant → Prop
  | some now => ∃ base : Entry K V, entry = base.renew now shared
  | none => before = some entry

/-- A renewal under the shared lifetime ends no later than one at a later reading. -/
theorem Entry.due_of_renew {K V : Type} {entry : Entry K V} {shared : Duration}
    (relies : entry.lifetime.relies = true) (positive : shared ≠ .zero)
    {reading now bound : Instant} (early : reading ≤ now)
    (ends : now.add? shared = some bound) :
    ∃ due, (entry.renew reading (some shared)).deadline = some due ∧ due ≤ bound := by
  obtain ⟨sum, fits⟩ := Instant.add?_eq_some_iff.mp ends
  rw [Instant.le_iff] at early
  have within : reading.nanos + shared.nanos ≤ bound.nanos := by omega
  have representable : reading.add? shared = some ⟨reading.nanos + shared.nanos⟩ :=
    Instant.add?_eq_some_iff.mpr ⟨rfl, Nat.lt_of_le_of_lt within fits⟩
  refine ⟨_, ?_, Instant.le_iff.mpr within⟩
  rw [renew, Lifetime.resolve_of_relies relies positive]
  exact representable

namespace Dossier

variable {K V H : Type} {key : K} {dossier : Dossier K V} {entry : Entry K V} {now : Instant}

/-- Whether a read renews the entry. -/
def renewsOnRead (dossier : Dossier K V) (now : Instant) : Bool :=
  !dossier.closed && !dossier.skipRenewal && (dossier.live? now).isSome

/-- The reading at which a section renews the entry under the key. -/
def renewal? [DecidableEq K] (key : K) (dossier : Dossier K V) : Section K V H → Option Instant
  | .write name _ _ now => if name = key ∧ dossier.closed = false then some now else none
  | .read name now => if name = key ∧ dossier.renewsOnRead now = true then some now else none
  | .touch name now =>
      if name = key ∧ (dossier.live? now).isSome = true then some now else none
  | _ => none

theorem reading?_of_renewal? [DecidableEq K] {entered : Section K V H}
    (renewed : dossier.renewal? key entered = some now) : entered.reading? = some now := by
  cases entered with
  | write name value lifetime reading =>
      obtain ⟨-, same⟩ := Option.ite_none_right_eq_some.mp renewed
      exact same
  | read name reading =>
      obtain ⟨-, same⟩ := Option.ite_none_right_eq_some.mp renewed
      exact same
  | touch name reading =>
      obtain ⟨-, same⟩ := Option.ite_none_right_eq_some.mp renewed
      exact same
  | _ => cases renewed

theorem stems_write {value : V} {lifetime : Lifetime}
    (stored : (dossier.write key value lifetime now).entry = some entry) :
    entry.Stems dossier.entry dossier.sharedLifetime
      (if dossier.closed = false then some now else none) := by
  unfold write at stored
  cases closed : dossier.closed with
  | true =>
      rw [if_pos closed] at stored
      exact stored
  | false =>
      rw [if_neg (ne_true_of_eq_false closed)] at stored
      exact ⟨_, (Option.some.inj stored).symm⟩

theorem stems_read (stored : (dossier.read now).entry = some entry) :
    entry.Stems dossier.entry dossier.sharedLifetime
      (if dossier.renewsOnRead now = true then some now else none) := by
  unfold renewsOnRead
  cases skips : dossier.skipRenewal with
  | true =>
      rw [read_of_skip skips] at stored
      rw [Bool.not_true, Bool.and_false, Bool.false_and]
      exact stored
  | false =>
      unfold read at stored
      cases closed : dossier.closed with
      | true =>
          rw [if_pos closed] at stored
          exact stored
      | false =>
          rw [if_neg (ne_true_of_eq_false closed)] at stored
          cases live : dossier.live? now with
          | none =>
              rw [live] at stored
              exact stored
          | some found =>
              rw [live] at stored
              simp only [keptOnRead, skips, Bool.false_eq_true, if_false] at stored
              exact ⟨found, (Option.some.inj stored).symm⟩

theorem stems_touch (stored : (dossier.touch now).entry = some entry) :
    entry.Stems dossier.entry dossier.sharedLifetime
      (if (dossier.live? now).isSome = true then some now else none) := by
  unfold touch at stored
  cases live : dossier.live? now with
  | none =>
      rw [live] at stored
      exact stored
  | some found =>
      rw [live] at stored
      exact ⟨found, (Option.some.inj stored).symm⟩

/-- A section renews the entry under the key at its reading or leaves it. -/
theorem stems_enter [DecidableEq K] (entered : Section K V H)
    (stored : (dossier.enter key entered).entry = some entry) :
    entry.Stems dossier.entry dossier.sharedLifetime (dossier.renewal? key entered) := by
  have concerned {name : K} {renews : Prop} [Decidable renews] {now : Instant}
      {after : Dossier K V} (stored : (if name = key then after else dossier).entry = some entry)
      (stems : after.entry = some entry →
        entry.Stems dossier.entry dossier.sharedLifetime (if renews then some now else none)) :
      entry.Stems dossier.entry dossier.sharedLifetime
        (if name = key ∧ renews then some now else none) := by
    by_cases named : name = key
    · rw [if_pos named] at stored
      simp only [named, true_and]
      exact stems stored
    · rw [if_neg named] at stored
      rw [if_neg fun both => named both.1]
      exact stored
  cases entered with
  | write name value lifetime now => exact concerned stored stems_write
  | read name now => exact concerned stored stems_read
  | touch name now => exact concerned stored stems_touch
  | remove name =>
      rw [enter] at stored
      split at stored
      · cases stored
      · exact stored
  | purge => cases stored
  | _ => exact stored

theorem sharedLifetime_enter [DecidableEq K] {entered : Section K V H}
    (keeps : (Change.client entered).setsLifetime = false) :
    (dossier.enter key entered).sharedLifetime = dossier.sharedLifetime := by
  cases entered with
  | write name value lifetime now =>
      rw [enter, write]
      split
      · split
        · rfl
        · rfl
      · rfl
  | read name now =>
      rw [enter, read]
      split
      · split
        · rfl
        · split
          · rfl
          · rfl
      · rfl
  | touch name now =>
      rw [enter, touch]
      split
      · split
        · rfl
        · rfl
      · rfl
  | remove name =>
      rw [enter]
      split
      · rfl
      · rfl
  | setSharedLifetime duration => cases keeps
  | _ => rfl

end Dossier

namespace Cache

variable {K V H : Type} [DecidableEq K] {cache : Cache K V H} {key : K} {entry : Entry K V}

/-- The reading at which a change renews the entry under a key. -/
def renewal? (key : K) (cache : Cache K V H) : Change K V H → Option Instant
  | .client entered => (cache.dossier key).renewal? key entered
  | .sweep now => if key ∈ cache.vetoed now then some now else none
  | _ => none

/-- The readings at which changes renew the entry under a key. -/
def renewals (key : K) : List (Change K V H) → Cache K V H → List Instant
  | [], _ => []
  | change :: rest, cache =>
      (cache.renewal? key change).toList ++ renewals key rest (cache.after change)

theorem reading?_of_renewal? {change : Change K V H} {now : Instant}
    (renewed : cache.renewal? key change = some now) : change.reading? = some now := by
  cases change with
  | client entered => exact Dossier.reading?_of_renewal? renewed
  | sweep reading =>
      obtain ⟨-, same⟩ := Option.ite_none_right_eq_some.mp renewed
      exact same
  | planSleep reading => cases renewed
  | takeWake => cases renewed

theorem reading_of_mem_renewals {changes : List (Change K V H)} {now : Instant}
    (renewed : now ∈ cache.renewals key changes) :
    ∃ change ∈ changes, change.reading? = some now := by
  induction changes generalizing cache with
  | nil => cases renewed
  | cons change rest ih =>
      rcases List.mem_append.mp renewed with here | later
      · exact ⟨change, List.mem_cons_self, reading?_of_renewal? (Option.mem_toList.mp here)⟩
      · obtain ⟨other, listed, brings⟩ := ih later
        exact ⟨other, List.mem_cons_of_mem _ listed, brings⟩

theorem sharedLifetime_after (valid : cache.store.Valid) (key : K) {change : Change K V H}
    (keeps : change.setsLifetime = false) :
    (cache.after change).store.sharedLifetime = cache.store.sharedLifetime := by
  cases change with
  | client entered =>
      have same := congrArg Dossier.sharedLifetime (dossier_enter valid entered key)
      exact same.trans (Dossier.sharedLifetime_enter keeps)
  | sweep now => exact congrArg Dossier.sharedLifetime (dossier_sweepAt valid now key)
  | planSleep now => rfl
  | takeWake => rfl

/-- A change renews the entry under a key or leaves it. -/
theorem stems_after (valid : cache.store.Valid) (change : Change K V H)
    (stored : (cache.after change).store.stored? key = some entry) :
    entry.Stems (cache.store.stored? key) cache.store.sharedLifetime
      (cache.renewal? key change) := by
  cases change with
  | client entered =>
      apply Dossier.stems_enter entered
      rw [← dossier_enter valid]
      exact stored
  | sweep now =>
      rw [after, stored?_sweepAt valid] at stored
      obtain ⟨found, before, left⟩ := Option.bind_eq_some_iff.mp stored
      rw [renewal?]
      split at left
      · split at left
        · rename_i kept
          rw [if_pos kept]
          exact ⟨found, (Option.some.inj left).symm⟩
        · cases left
      · rename_i live
        have unasked : key ∉ cache.vetoed now := by
          intro vetoed
          obtain ⟨asked, here, expired⟩ := expired_of_mem_vetoed valid vetoed
          obtain rfl := Option.some.inj (before.symm.trans here)
          exact live expired
        rw [if_neg unasked]
        exact before.trans left
  | planSleep now => exact stored
  | takeWake => exact stored

/-- Over a run, what stands under a key stems from the last renewal or from the beginning. -/
theorem stems_afterAll (valid : cache.store.Valid) {changes : List (Change K V H)}
    (keeps : ∀ change ∈ changes, change.setsLifetime = false)
    (stored : (cache.afterAll changes).store.stored? key = some entry) :
    entry.Stems (cache.store.stored? key) cache.store.sharedLifetime
      (cache.renewals key changes).getLast? := by
  induction changes generalizing cache with
  | nil => exact stored
  | cons change rest ih =>
      obtain ⟨first, others⟩ := List.forall_mem_cons.mp keeps
      have later := ih (valid_after valid change) others stored
      rw [sharedLifetime_after valid key first] at later
      rw [renewals, List.getLast?_append]
      cases last : ((cache.after change).renewals key rest).getLast? with
      | some now =>
          rw [last] at later
          exact later
      | none =>
          rw [last] at later
          have here := stems_after valid change later
          cases renewed : cache.renewal? key change with
          | none =>
              rw [renewed] at here
              exact here
          | some now =>
              rw [renewed] at here
              exact here

/--
What a new shared lifetime reaches.  Let the shared lifetime be set to `shared`,
and let a pass run at `now` after any changes that do not set it again and bring
no later reading.  An entry that relies on the shared lifetime and is stored
after the pass ends within `shared` of the pass if it was renewed since the
setting, by a write, a read, a touch or a veto.  If it was not, it stands as it
stood at the setting, whatever its deadline.
-/
theorem shared_lifetime_reaches_renewed (clock : Clock) (sharedLifetime : Option Duration)
    (skipRenewal : Bool) (handlers : Handlers K V H) (early : List (Change K V H))
    {shared : Duration} (positive : shared ≠ .zero) {late : List (Change K V H)}
    (keeps : ∀ change ∈ late, change.setsLifetime = false) {now : Instant}
    (ascends : ∀ change ∈ late, ∀ reading, change.reading? = some reading → reading ≤ now)
    {bound : Instant} (ends : now.add? shared = some bound) {key : K} {entry : Entry K V}
    (relies : entry.lifetime.relies = true) :
    let set := ((create clock sharedLifetime skipRenewal handlers).afterAll
      early).setSharedLifetime shared
    let changes := late ++ [.sweep now]
    (set.afterAll changes).store.stored? key = some entry →
      (set.renewals key changes ≠ [] → ∃ due, entry.deadline = some due ∧ due ≤ bound) ∧
      (set.renewals key changes = [] → set.store.stored? key = some entry) := by
  intro set changes stored
  have created := valid_create (K := K) (V := V) clock sharedLifetime skipRenewal handlers
  have valid : set.store.Valid := (valid_afterAll created early).of_same rfl rfl
  have keepsAll : ∀ change ∈ changes, change.setsLifetime = false := by
    rw [List.forall_mem_append]
    exact ⟨keeps, List.forall_mem_singleton.mpr rfl⟩
  have inForce : set.store.sharedLifetime = some shared :=
    Duration.positive?_eq_some_iff.mpr ⟨rfl, positive⟩
  have stems := stems_afterAll valid keepsAll stored
  rw [inForce] at stems
  cases last : (set.renewals key changes).getLast? with
  | none =>
      have never : set.renewals key changes = [] := List.getLast?_eq_none_iff.mp last
      rw [last] at stems
      exact ⟨fun renewed => absurd never renewed, fun _ => stems⟩
  | some reading =>
      have renewed : reading ∈ set.renewals key changes := List.mem_of_getLast? last
      rw [last] at stems
      obtain ⟨base, rfl⟩ := stems
      refine ⟨?_, fun never => absurd renewed (never ▸ List.not_mem_nil)⟩
      intro _
      obtain ⟨change, listed, brings⟩ := reading_of_mem_renewals renewed
      have early : reading ≤ now := by
        rcases List.mem_append.mp listed with before | atPass
        · exact ascends change before reading brings
        · obtain rfl := List.mem_singleton.mp atPass
          obtain rfl := Option.some.inj brings
          exact Instant.le_iff.mpr (Nat.le_refl _)
      exact Entry.due_of_renew relies positive early ends

/-- Entries that rely on the shared lifetime, first without one and then under 100 s. -/
def mixedEntries : List (Change Nat Nat Unit) :=
  [.client (.write 1 10 .inherited ⟨0⟩), .client (.setSharedLifetime (.ofSeconds 100)),
    .client (.write 2 20 (.lasting .zero) ⟨0⟩), .client (.write 3 30 .inherited ⟨0⟩)]

/-- The shared lifetime of 5 s reaches the entry that is touched before the pass. -/
theorem touchedEntry_reached :
    let set := ((create {} none false {}).afterAll mixedEntries).setSharedLifetime (.ofSeconds 5)
    let entry : Entry Nat Nat :=
      { key := 3, value := 30, lifetime := .inherited, deadline := some ⟨7000000000⟩ }
    (set.afterAll [.client (.touch 3 ⟨2000000000⟩), .sweep ⟨3000000000⟩]).store.stored? 3 =
        some entry ∧
      ∃ due, entry.deadline = some due ∧ due ≤ ⟨8000000000⟩ := by
  intro set entry
  have stored : (set.afterAll ([.client (.touch 3 ⟨2000000000⟩)] ++
      [.sweep ⟨3000000000⟩])).store.stored? 3 = some entry := by
    decide +kernel
  refine ⟨stored, ?_⟩
  apply (shared_lifetime_reaches_renewed {} none false {} mixedEntries (by decide)
    (by decide) ?_ (show _ = some ⟨8000000000⟩ by decide) rfl stored).1
  · decide +kernel
  · intro change listed reading brings
    obtain rfl := List.mem_singleton.mp listed
    obtain rfl := Option.some.inj brings
    decide

/--
A pass does not bring a new shared lifetime to the entries it finds.  After the
pass one of them has no deadline and the other ends after 100 s, not within 5 s.
-/
theorem mixedEntries_unreached :
    let set := ((create {} none false {}).afterAll mixedEntries).setSharedLifetime (.ofSeconds 5)
    let swept := set.afterAll [.sweep ⟨0⟩]
    Instant.add? ⟨0⟩ (.ofSeconds 5) = some ⟨5000000000⟩ ∧
      swept.handlers.check.isNone = true ∧
      swept.store.stored? 1 =
        some { key := 1, value := 10, lifetime := .inherited, deadline := none } ∧
      swept.store.stored? 2 =
        some { key := 2, value := 20, lifetime := .lasting .zero,
               deadline := some ⟨100000000000⟩ } ∧
      ¬ (⟨100000000000⟩ : Instant) ≤ ⟨5000000000⟩ := by
  decide +kernel

end Cache

end ExpiringCache
