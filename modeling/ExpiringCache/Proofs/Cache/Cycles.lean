import ExpiringCache.Proofs.Cache.Alike
import ExpiringCache.Proofs.Cache.Record
import ExpiringCache.Proofs.Cache.SectionByKey
import ExpiringCache.Proofs.Store.Reprieve

/-!
# Cycles of a key

A key that is written once and left alone afterwards lives in cycles.  The first
one begins with the write.  Each pass that finds the key past its deadline asks
the check; a veto begins the next cycle at the instant of the pass, and consent
ends the last one.  Whatever happens to other keys has no part in it.
-/

namespace ExpiringCache

def Change.pass? {K V H : Type} : Change K V H → Option Instant
  | .sweep now => some now
  | _ => none

/-- Whether a question is about a key, or an eviction one of this key. -/
def Event.concerns {K V : Type} [DecidableEq K] (key : K) : Event K V → Bool
  | .checked asked => asked.key = key
  | .evicted name _ => name = key
  | _ => false

/--
The passes that find a key past its deadline, if its lifetime began at `since`
and begins anew at each of them.
-/
def lapses (length : Duration) : Instant → List Instant → List Instant
  | _, [] => []
  | since, now :: rest =>
      if since.nanos + length.nanos < now.nanos then now :: lapses length now rest
      else lapses length since rest

/-- What lapses put on record: vetoes as long as there are some left, then consent, then nothing. -/
def reprieves {K V : Type} (key : K) (value : V) (left lapsed : Nat) : List (Event K V) :=
  List.replicate (min left lapsed) (.checked { key, value, verdict := .veto }) ++
    if left < lapsed then [.checked { key, value, verdict := .allow }, .evicted key value] else []

section

variable {K V : Type} (key : K) (value : V)

theorem reprieves_zero (left : Nat) : reprieves key value left 0 = [] := by
  rw [reprieves, Nat.min_zero, if_neg (Nat.not_lt_zero left)]
  rfl

theorem reprieves_of_veto (left lapsed : Nat) :
    reprieves key value (left + 1) (lapsed + 1) =
      .checked { key, value, verdict := .veto } :: reprieves key value left lapsed := by
  simp only [reprieves, Nat.succ_min_succ, List.replicate_succ, List.cons_append,
    Nat.add_lt_add_iff_right]

theorem reprieves_of_consent (lapsed : Nat) :
    reprieves key value 0 (lapsed + 1) =
      [.checked { key, value, verdict := .allow }, .evicted key value] := by
  rw [reprieves, Nat.zero_min, if_pos lapsed.succ_pos]
  rfl

end

namespace Entry

variable {K V : Type}

/-- An entry in the cycle that began at an instant. -/
def inCycle (key : K) (value : V) (length : Duration) (since : Instant) : Entry K V where
  key := key
  value := value
  lifetime := .lasting length
  deadline := some ⟨since.nanos + length.nanos⟩

theorem isExpired_inCycle (key : K) (value : V) (length : Duration) (since now : Instant) :
    (inCycle key value length since).isExpired now =
      decide (since.nanos + length.nanos < now.nanos) := rfl

/-- A renewal begins a cycle, as long as its end is an instant. -/
theorem renew_eq_inCycle (key : K) (value : V) {length : Duration} (lasting : length ≠ .zero)
    (deadline : Option Instant) {now : Instant} (dated : (now.add? length).isSome = true)
    (shared : Option Duration) :
    ({ key, value, lifetime := .lasting length, deadline } : Entry K V).renew now shared =
      inCycle key value length now := by
  obtain ⟨due, sum⟩ := Option.isSome_iff_exists.mp dated
  obtain rfl : (⟨now.nanos + length.nanos⟩ : Instant) = due :=
    Instant.ext (Instant.add?_eq_some_iff.mp sum).1
  rw [renew, Lifetime.resolve_lasting lasting, Option.bind_some, sum]
  rfl

end Entry

namespace Cache

variable {K V H : Type} [DecidableEq K] {cache : Cache K V H} {key : K} {value : V}
  {length : Duration} {since now : Instant} {left : Nat}

/-! ## Changes that spare a key -/

/--
A change that does not write, renew or drop the key, and that leaves the check.
A read or a touch that misses renews nothing, and neither does a read while
reads leave lifetimes alone.
-/
def Spares (key : K) (cache : Cache K V H) : Change K V H → Prop
  | .client (.write name _ _ _) => name ≠ key
  | .client (.read name now) =>
      name = key → cache.store.skipRenewal = true ∨ cache.store.live? key now = none
  | .client (.touch name now) => name = key → cache.store.live? key now = none
  | .client (.remove name) => name ≠ key
  | .client (.install handlers) => handlers.check = cache.handlers.check
  | .client .purge => False
  | .client .markClosed => False
  | _ => True

/-- Changes that spare a key one after the other. -/
def SparesAll (key : K) : List (Change K V H) → Cache K V H → Prop
  | [], _ => True
  | change :: rest, cache => cache.Spares key change ∧ SparesAll key rest (cache.after change)

/-- What matters for the cycles of a key is as before. -/
structure Undisturbed (key : K) (before after : Cache K V H) : Prop where
  stored : after.store.stored? key = before.store.stored? key
  closed : after.store.closed = before.store.closed
  check : after.handlers.check = before.handlers.check

theorem Undisturbed.of_dossier {after : Cache K V H}
    (same : after.dossier key = cache.dossier key) (handlers : after.handlers = cache.handlers) :
    Undisturbed key cache after where
  stored := congrArg Dossier.entry same
  closed := congrArg Dossier.closed same
  check := congrArg Handlers.check handlers

/-- A read that misses, or that leaves lifetimes alone, leaves the dossier of its key. -/
theorem read_dossier_of_spared
    (spared : cache.store.skipRenewal = true ∨ cache.store.live? key now = none) :
    (cache.dossier key).read now = cache.dossier key := by
  rcases spared with skips | missed
  · exact Dossier.read_of_skip skips now
  · rw [Dossier.read, live?_dossier, missed, ite_self]

theorem undisturbed_enter (valid : cache.store.Valid) {entered : Section K V H}
    (spares : cache.Spares key (.client entered)) :
    Undisturbed key cache (cache.enter entered) := by
  have dossier := dossier_enter valid entered key
  have handlers (plain : ∀ handlers, entered ≠ .install handlers) :
      (cache.enter entered).handlers = cache.handlers := cache.handlers_enter plain
  cases entered with
  | write name value lifetime now =>
      exact .of_dossier (dossier.trans (if_neg spares)) (handlers (by rintro _ ⟨⟩))
  | read name now =>
      refine .of_dossier (dossier.trans ?_) (handlers (by rintro _ ⟨⟩))
      rw [Dossier.enter]
      split
      · rename_i same
        exact read_dossier_of_spared (spares same)
      · rfl
  | touch name now =>
      refine .of_dossier (dossier.trans ?_) (handlers (by rintro _ ⟨⟩))
      rw [Dossier.enter]
      split
      · rename_i same
        rw [Dossier.touch, live?_dossier, spares same]
      · rfl
  | remove name => exact .of_dossier (dossier.trans (if_neg spares)) (handlers (by rintro _ ⟨⟩))
  | install handlers => exact ⟨rfl, rfl, spares⟩
  | purge => exact absurd spares id
  | markClosed => exact absurd spares id
  | _ => exact ⟨rfl, rfl, rfl⟩

theorem undisturbed_after (valid : cache.store.Valid) {change : Change K V H}
    (spares : cache.Spares key change) (quiet : change.pass? = none) :
    Undisturbed key cache (cache.after change) := by
  cases change with
  | client entered => exact undisturbed_enter valid spares
  | planSleep now => exact ⟨rfl, rfl, rfl⟩
  | sweep now => cases quiet
  | takeWake => exact ⟨rfl, rfl, rfl⟩

/-! ## One pass -/

theorem filter_eventsOf_sweep {stays : Option (Entry K V)} {asked : List (Consultation K V)}
    {evicted : List (K × V)}
    (makes : (cache.store.sweep cache.handlers.check now).Makes key stays asked evicted) :
    (cache.eventsOf (.sweep now)).filter (·.concerns key) =
      asked.map .checked ++ evicted.map fun pair => .evicted pair.1 pair.2 := by
  rw [eventsOf, List.filter_append, List.filter_map, List.filter_map, ← makes.asked,
    ← makes.evicted]
  rfl

theorem eventsOf_of_quiet {change : Change K V H} (quiet : change.pass? = none) :
    cache.eventsOf change = [] := by
  cases change with
  | sweep now => cases quiet
  | _ => rfl

/-- A key is in the cycle that began at an instant, and so many vetoes are left. -/
structure Granted (cache : Cache K V H) (key : K) (value : V) (length : Duration)
    (since : Instant) (left : Nat) : Prop where
  valid : cache.store.Valid
  opened : cache.store.closed = false
  stored : cache.store.stored? key = some (.inCycle key value length since)
  check : ∃ check, cache.handlers.check = some check ∧ check.VetoesNext key left

structure Released (cache : Cache K V H) (key : K) : Prop where
  valid : cache.store.Valid
  stored : cache.store.stored? key = none

/-- A pass does nothing about a key that is gone. -/
theorem Released.makes (released : Released cache key) (now : Instant) :
    (cache.store.sweep cache.handlers.check now).Makes key none [] [] := by
  have undue : (cache.store.stored? key).filter (·.isExpired now) = none := by
    rw [released.stored]
    rfl
  have makes := released.valid.sweep_undue cache.handlers.check undue
  rw [released.stored] at makes
  exact makes

/-- A write begins the first cycle. -/
theorem granted_writeAt (valid : cache.store.Valid) (opened : cache.store.closed = false)
    {check : ExpiryCheck K V} (installed : cache.handlers.check = some check)
    (vetoes : check.VetoesNext key left) (value : V) (lasting : length ≠ .zero)
    (dated : (since.add? length).isSome = true) :
    Granted (cache.writeAt key value (.lasting length) since).1 key value length since left := by
  have unmarked : (cache.dossier key).closed ≠ true := ne_true_of_eq_false opened
  have written := dossier_writeAt valid key value (.lasting length) since key
  rw [if_pos rfl, Dossier.write, if_neg unmarked] at written
  refine ⟨valid_writeAt valid key value (.lasting length) since, ?_, ?_, check, ?_, vetoes⟩
  · exact (congrArg Dossier.closed written).trans opened
  · exact (congrArg Dossier.entry written).trans
      (congrArg some (Entry.renew_eq_inCycle key value lasting none dated _))
  · exact (congrArg Handlers.check (handlers_writeAt cache key value _ since)).trans installed

namespace Granted

variable (granted : Granted cache key value length since left)

include granted

theorem undisturbed {after : Cache K V H} (same : Undisturbed key cache after)
    (valid : after.store.Valid) : Granted after key value length since left where
  valid := valid
  opened := same.closed.trans granted.opened
  stored := same.stored.trans granted.stored
  check := by
    obtain ⟨check, installed, vetoes⟩ := granted.check
    exact ⟨check, same.check.trans installed, vetoes⟩

theorem due?_of_early (early : ¬since.nanos + length.nanos < now.nanos) :
    (cache.store.stored? key).filter (·.isExpired now) = none := by
  rw [granted.stored, Option.filter_some, Entry.isExpired_inCycle, decide_eq_false early]
  rfl

theorem due?_of_late (late : since.nanos + length.nanos < now.nanos) :
    (cache.store.stored? key).filter (·.isExpired now) =
      some (.inCycle key value length since) := by
  rw [granted.stored, Option.filter_some, Entry.isExpired_inCycle, decide_eq_true late]
  rfl

theorem live?_of_early (early : ¬since.nanos + length.nanos < now.nanos) :
    cache.store.live? key now = some (.inCycle key value length since) := by
  rw [Store.live?, granted.stored, Option.filter_some, Entry.isExpired_inCycle,
    decide_eq_false early]
  rfl

theorem live?_of_late (late : since.nanos + length.nanos < now.nanos) :
    cache.store.live? key now = none := by
  rw [Store.live?, granted.stored, Option.filter_some, Entry.isExpired_inCycle,
    decide_eq_true late]
  rfl

theorem makes_of_early (early : ¬since.nanos + length.nanos < now.nanos) :
    (cache.store.sweep cache.handlers.check now).Makes key
      (some (.inCycle key value length since)) [] [] := by
  have undue := granted.valid.sweep_undue cache.handlers.check (granted.due?_of_early early)
  rw [granted.stored] at undue
  exact undue

theorem makes_of_late (late : since.nanos + length.nanos < now.nanos) :
    (cache.store.sweep cache.handlers.check now).Makes key
      (if 0 < left then
        some ((Entry.inCycle key value length since).renew now cache.store.sharedLifetime)
      else none)
      [.withLeft key value left] (if 0 < left then [] else [(key, value)]) := by
  obtain ⟨check, installed, vetoes⟩ := granted.check
  rw [installed]
  exact granted.valid.sweep_due vetoes granted.stored (decide_eq_true late)

theorem check_sweepAt (now : Instant) :
    ∃ asked, (cache.sweepAt now).1.handlers.check = some asked ∧ asked.VetoesNext key
      (left - ((cache.store.stored? key).filter (·.isExpired now)).toList.length) := by
  obtain ⟨check, installed, vetoes⟩ := granted.check
  obtain ⟨asked, reached, later⟩ := granted.valid.vetoesNext_sweep vetoes now
  rw [← installed] at reached
  exact ⟨asked, reached, later⟩

/-- A pass before the deadline leaves the cycle. -/
theorem sweep_early (early : ¬since.nanos + length.nanos < now.nanos) :
    Granted (cache.sweepAt now).1 key value length since left where
  valid := granted.valid.sweep cache.handlers.check now
  opened := (congrArg Dossier.closed (dossier_sweepAt granted.valid now key)).trans granted.opened
  stored := (granted.makes_of_early early).stored
  check := by
    have check := granted.check_sweepAt now
    rw [granted.due?_of_early early] at check
    exact check

end Granted

/-- A veto begins another cycle. -/
theorem Granted.sweep_vetoed (granted : Granted cache key value length since (left + 1))
    (lasting : length ≠ .zero) (late : since.nanos + length.nanos < now.nanos)
    (dated : (now.add? length).isSome = true) :
    Granted (cache.sweepAt now).1 key value length now left where
  valid := granted.valid.sweep cache.handlers.check now
  opened := (congrArg Dossier.closed (dossier_sweepAt granted.valid now key)).trans granted.opened
  stored := (granted.makes_of_late late).stored.trans
    (congrArg some (Entry.renew_eq_inCycle key value lasting _ dated _))
  check := by
    have check := granted.check_sweepAt now
    rw [granted.due?_of_late late] at check
    exact check

/-- Without a veto the key goes. -/
theorem Granted.sweep_allowed (granted : Granted cache key value length since 0)
    (late : since.nanos + length.nanos < now.nanos) : Released (cache.sweepAt now).1 key where
  valid := granted.valid.sweep cache.handlers.check now
  stored := (granted.makes_of_late late).stored

/-! ## Runs -/

theorem entry_enter_of_absent {dossier : Dossier K V} (absent : dossier.entry = none)
    {entered : Section K V H}
    (unwritten : ∀ value lifetime now, entered ≠ .write key value lifetime now) :
    (dossier.enter key entered).entry = none := by
  have dead (now : Instant) : dossier.live? now = none := by
    rw [Dossier.live?, absent]
    rfl
  cases entered with
  | write name value lifetime now =>
      rw [Dossier.enter, if_neg]
      · exact absent
      · rintro rfl
        exact unwritten value lifetime now rfl
  | read name now => rw [Dossier.enter, Dossier.read, dead, ite_self, ite_self, absent]
  | touch name now => rw [Dossier.enter, Dossier.touch, dead, ite_self, absent]
  | remove name =>
      rw [Dossier.enter]
      split
      · rfl
      · exact absent
  | purge => rfl
  | _ => exact absent

/-- A key that is gone stays so until it is written, and leaves nothing on record. -/
theorem Released.run (released : Released cache key) {changes : List (Change K V H)}
    (unwritten : ∀ value lifetime now, .client (.write key value lifetime now) ∉ changes) :
    Released (cache.afterAll changes) key ∧
      (cache.passEvents changes).filter (·.concerns key) = [] := by
  induction changes generalizing cache with
  | nil => exact ⟨released, rfl⟩
  | cons change rest ih =>
      have absent := released.stored
      have valid := valid_after released.valid change
      have later := fun value lifetime now listed =>
        unwritten value lifetime now (List.mem_cons_of_mem change listed)
      rw [passEvents, List.filter_append]
      suffices step : (cache.after change).store.stored? key = none ∧
          (cache.eventsOf change).filter (·.concerns key) = [] by
        obtain ⟨still, silent⟩ := ih ⟨valid, step.1⟩ later
        rw [step.2, silent]
        exact ⟨still, rfl⟩
      cases change with
      | client entered =>
          refine ⟨(congrArg Dossier.entry (dossier_enter released.valid entered key)).trans ?_, rfl⟩
          refine entry_enter_of_absent absent fun value lifetime now same => ?_
          exact unwritten value lifetime now (same ▸ List.mem_cons_self)
      | planSleep now => exact ⟨absent, rfl⟩
      | takeWake => exact ⟨absent, rfl⟩
      | sweep now =>
          have makes := released.makes now
          exact ⟨makes.stored, filter_eventsOf_sweep makes⟩

theorem unwritten_of_spares {changes : List (Change K V H)} (spares : cache.SparesAll key changes)
    (value : V) (lifetime : Lifetime) (now : Instant) :
    .client (.write key value lifetime now) ∉ changes := by
  induction changes generalizing cache with
  | nil => exact List.not_mem_nil
  | cons change rest ih =>
      rw [List.mem_cons, not_or]
      refine ⟨?_, ih spares.2⟩
      rintro rfl
      exact spares.1 rfl

/--
What a run has made of a key that lived in a cycle, given the lapses of its
lifetime: it lives in the cycle that the last of them began, or is gone once
there are more of them than there were vetoes.
-/
structure Elapsed (key : K) (value : V) (length : Duration) (since : Instant) (left : Nat)
    (cycles : List Instant) (reached : Cache K V H) (record : List (Event K V)) : Prop where
  granted : cycles.length ≤ left →
    Granted reached key value length (cycles.getLast?.getD since) (left - cycles.length)
  released : left < cycles.length → Released reached key
  record : record.filter (·.concerns key) = reprieves key value left cycles.length

namespace Elapsed

variable {reached : Cache K V H} {cycles : List Instant} {record events : List (Event K V)}

theorem refl (granted : Granted cache key value length since left) :
    Elapsed key value length since left [] cache [] where
  granted _ := granted
  released many := absurd many (Nat.not_lt_zero left)
  record := (reprieves_zero key value left).symm

theorem of_silence (elapsed : Elapsed key value length since left cycles reached record)
    (silent : events.filter (·.concerns key) = []) :
    Elapsed key value length since left cycles reached (events ++ record) where
  granted := elapsed.granted
  released := elapsed.released
  record := by rw [List.filter_append, silent, List.nil_append, elapsed.record]

/-- A vetoed pass comes before the others. -/
theorem of_veto (elapsed : Elapsed key value length now left cycles reached record)
    (vetoed : events.filter (·.concerns key) = [.checked (.withLeft key value (left + 1))]) :
    Elapsed key value length since (left + 1) (now :: cycles) reached (events ++ record) where
  granted few := by
    have later := elapsed.granted (Nat.le_of_succ_le_succ few)
    rw [List.getLast?_cons, List.length_cons, Nat.add_sub_add_right]
    exact later
  released many := elapsed.released (Nat.lt_of_succ_lt_succ many)
  record := by
    rw [List.filter_append, vetoed, elapsed.record, List.length_cons, reprieves_of_veto]
    rfl

/-- Once a pass has evicted the key, nothing comes of the others. -/
theorem of_consent (released : Released reached key)
    (silent : record.filter (·.concerns key) = [])
    (evicted : events.filter (·.concerns key) =
      [.checked (.withLeft key value 0), .evicted key value]) :
    Elapsed key value length since 0 (now :: cycles) reached (events ++ record) where
  granted few := absurd few (Nat.not_succ_le_zero _)
  released _ := released
  record := by
    rw [List.filter_append, evicted, silent, List.length_cons, reprieves_of_consent]
    rfl

end Elapsed

/-- A run that spares a key leaves it to its lapses. -/
theorem Granted.run (granted : Granted cache key value length since left)
    (lasting : length ≠ .zero) {changes : List (Change K V H)}
    (spares : cache.SparesAll key changes)
    (dated : ∀ lapse ∈ (lapses length since (changes.filterMap Change.pass?)).take left,
      (lapse.add? length).isSome = true) :
    Elapsed key value length since left (lapses length since (changes.filterMap Change.pass?))
      (cache.afterAll changes) (cache.passEvents changes) := by
  -- On the run: only a pass that comes late begins another cycle, and then uses up a veto.
  induction changes generalizing cache since left with
  | nil => exact .refl granted
  | cons change rest ih =>
      obtain ⟨here, later⟩ := spares
      rw [List.filterMap_cons] at dated ⊢
      cases pass : change.pass? with
      | none =>
          rw [pass] at dated
          have same := undisturbed_after granted.valid here pass
          have still := granted.undisturbed same (valid_after granted.valid change)
          refine (ih still later dated).of_silence ?_
          rw [eventsOf_of_quiet pass]
          rfl
      | some now =>
          obtain rfl : change = .sweep now := by
            cases change <;> cases pass
            rfl
          rw [pass] at dated
          dsimp only at dated ⊢
          rw [lapses] at dated ⊢
          by_cases late : since.nanos + length.nanos < now.nanos
          · have makes := granted.makes_of_late late
            rw [if_pos late] at dated ⊢
            cases left with
            | zero =>
                obtain ⟨gone, silent⟩ :=
                  (granted.sweep_allowed late).run (unwritten_of_spares later)
                exact .of_consent gone silent (filter_eventsOf_sweep makes)
            | succ left =>
                obtain ⟨first, others⟩ := List.forall_mem_cons.mp dated
                have next := granted.sweep_vetoed lasting late first
                exact (ih next later others).of_veto (filter_eventsOf_sweep makes)
          · rw [if_neg late] at dated ⊢
            refine (ih (granted.sweep_early late) later dated).of_silence ?_
            exact filter_eventsOf_sweep (granted.makes_of_early late)

namespace Elapsed

variable {reached : Cache K V H} {cycles : List Instant} {record : List (Event K V)}
  (elapsed : Elapsed key value length since left cycles reached record)

include elapsed

theorem stored?_eq : reached.store.stored? key =
    if cycles.length ≤ left then some (.inCycle key value length (cycles.getLast?.getD since))
    else none := by
  split
  · rename_i few
    exact (elapsed.granted few).stored
  · rename_i many
    exact (elapsed.released (Nat.not_le.mp many)).stored

theorem readAt_eq (now : Instant) : (reached.readAt key now).2.map (·.1) =
    if cycles.length ≤ left ∧
        now.nanos ≤ (cycles.getLast?.getD since).nanos + length.nanos then some value
    else none := by
  by_cases few : cycles.length ≤ left
  · have granted := elapsed.granted few
    have opened : (reached.dossier key).closed ≠ true := ne_true_of_eq_false granted.opened
    rw [readAt_snd granted.valid, Dossier.lease, if_neg opened, live?_dossier]
    by_cases early : now.nanos ≤ (cycles.getLast?.getD since).nanos + length.nanos
    · rw [granted.live?_of_early (Nat.not_lt.mpr early), if_pos ⟨few, early⟩]
      rfl
    · rw [granted.live?_of_late (Nat.not_le.mp early), if_neg fun both => early both.2]
      rfl
  · have released := elapsed.released (Nat.not_le.mp few)
    have missed : (reached.dossier key).live? now = none := by
      rw [live?_dossier, Store.live?, released.stored]
      rfl
    rw [readAt_snd released.valid, Dossier.lease, missed, Option.map_none, ite_self,
      if_neg fun both => few both.1]
    rfl

theorem makes (now : Instant) :
    let late := (cycles.getLast?.getD since).nanos + length.nanos < now.nanos
    let pass := reached.store.sweep reached.handlers.check now
    pass.consultations.filter (·.key = key) =
        (if cycles.length ≤ left ∧ late then
          [{ key, value, verdict := if cycles.length < left then .veto else .allow }]
        else []) ∧
      pass.evicted.filter (·.1 = key) =
        if cycles.length = left ∧ late then [(key, value)] else [] := by
  intro late pass
  by_cases few : cycles.length ≤ left
  · have granted := elapsed.granted few
    by_cases due : late
    · have makes := granted.makes_of_late due
      rw [if_pos ⟨few, due⟩, makes.asked, makes.evicted, Consultation.withLeft]
      have more : 0 < left - cycles.length ↔ cycles.length < left := Nat.sub_pos_iff_lt
      simp only [more, true_and]
      by_cases less : cycles.length < left
      · rw [if_pos less, if_neg fun both => Nat.ne_of_lt less both.1]
      · rw [if_neg less, if_pos ⟨Nat.le_antisymm few (Nat.not_lt.mp less), due⟩]
    · have makes := granted.makes_of_early due
      rw [if_neg fun both => due both.2, if_neg fun both => due both.2]
      exact ⟨makes.asked, makes.evicted⟩
  · have released := elapsed.released (Nat.not_le.mp few)
    have makes := released.makes now
    rw [if_neg fun both => few both.1, if_neg fun both => few (Nat.le_of_eq both.1)]
    exact ⟨makes.asked, makes.evicted⟩

end Elapsed

/--
Every veto grants exactly one more cycle.  A key is written once with a lifetime
of its own and spared afterwards, under a check that vetoes the first `count`
questions about it.  Its cycles begin with the write and with each pass that
finds it past the end of the one before.  Up to `count` such passes leave it
stored, readable up to the end of its cycle and no longer; one more evicts it.
A pass asks about it exactly if it finds it past that end.  So the check is
asked once for every veto and once more, and the handler of evicted entries runs
once, whatever else a session does.
-/
theorem every_veto_grants_one_cycle (clock : Clock) (sharedLifetime : Option Duration)
    (skipRenewal : Bool) (handlers : Handlers K V H) (early late : List (Change K V H)) (key : K)
    (value : V) {length : Duration} (lasting : length ≠ .zero) (start : Instant) {count : Nat}
    (unwritten : ∀ value lifetime now, .client (.write key value lifetime now) ∉ early)
    (opened : ((create clock sharedLifetime skipRenewal handlers).afterAll early).store.closed =
      false)
    (vetoes : ∃ check,
      ((create clock sharedLifetime skipRenewal handlers).afterAll early).handlers.check =
        some check ∧ check.VetoesNext key count)
    (spares : (((create clock sharedLifetime skipRenewal handlers).afterAll early).writeAt key
      value (.lasting length) start).1.SparesAll key late)
    (starts : (start.add? length).isSome = true)
    (dated : ∀ lapse ∈ (lapses length start (late.filterMap Change.pass?)).take count,
      (lapse.add? length).isSome = true) :
    let created := create clock sharedLifetime skipRenewal handlers
    let run := early ++ .client (.write key value (.lasting length) start) :: late
    let reached := created.afterAll run
    let cycles := lapses length start (late.filterMap Change.pass?)
    let deadline := (cycles.getLast?.getD start).nanos + length.nanos
    reached.store.stored? key =
        (if cycles.length ≤ count then
          some { key, value, lifetime := .lasting length, deadline := some ⟨deadline⟩ }
        else none) ∧
      (∀ now, (reached.readAt key now).2.map (·.1) =
        if cycles.length ≤ count ∧ now.nanos ≤ deadline then some value else none) ∧
      (∀ now,
        let pass := reached.store.sweep reached.handlers.check now
        pass.consultations.filter (·.key = key) =
            (if cycles.length ≤ count ∧ deadline < now.nanos then
              [{ key, value, verdict := if cycles.length < count then .veto else .allow }]
            else []) ∧
          pass.evicted.filter (·.1 = key) =
            if cycles.length = count ∧ deadline < now.nanos then [(key, value)] else []) ∧
      (created.passEvents run).filter (·.concerns key) = reprieves key value count cycles.length ∧
      ∀ (script : H → K → V → Script K V H) (depth : Nat)
        (session : List (Clock × Action K V H)),
        (∀ handler key value, (script handler key value).Truthful) →
        handlers.onEvict.isSome = true → created.sessionCourse script depth session = run →
          (created.actAll script depth session).passRecord.filter (·.concerns key) =
            reprieves key value count cycles.length := by
  intro created run reached cycles deadline
  have valid : created.store.Valid := valid_create clock sharedLifetime skipRenewal handlers
  obtain ⟨check, installed, next⟩ := vetoes
  obtain ⟨-, silent⟩ := Released.run ⟨valid, rfl⟩ unwritten
  have granted := granted_writeAt (valid_afterAll valid early) opened installed next value lasting
    starts
  have elapsed := granted.run lasting spares dated
  have arrived : reached =
      ((created.afterAll early).writeAt key value (.lasting length) start).1.afterAll late :=
    List.foldl_append
  have record : (created.passEvents run).filter (·.concerns key) =
      reprieves key value count cycles.length := by
    rw [passEvents_append, List.filter_append, silent, List.nil_append, ← elapsed.record]
    rfl
  rw [arrived]
  refine ⟨elapsed.stored?_eq, elapsed.readAt_eq, elapsed.makes, record, ?_⟩
  intro script depth session truthful told ran
  rw [passRecord_actAll truthful depth told session, ran, ← record]
  rfl

def graced : Handlers Nat Nat Unit :=
  { onEvict := some (), check := some ({ vetoFirst := 1 } : VetoRule Nat).check }

/-- Another key is written between two passes. -/
def gracedSession : List (Clock × Action Nat Nat Unit) :=
  [({}, .call (.set 1 10 (.lasting ⟨5⟩))), ({ elapsed := ⟨6⟩ }, .sweep),
    ({ elapsed := ⟨8⟩ }, .call (.set 2 20 .unlimited)), ({ elapsed := ⟨12⟩ }, .sweep)]

def gracedLate : List (Change Nat Nat Unit) :=
  [.client (.moveClock { elapsed := ⟨6⟩ }), .sweep ⟨6⟩, .client (.moveClock { elapsed := ⟨8⟩ }),
    .client (.write 2 20 .unlimited ⟨8⟩), .client (.moveClock { elapsed := ⟨12⟩ }), .sweep ⟨12⟩,
    .client (.note [.evicted 1 10])]

/-- Two lapses, of which the check vetoes the first. -/
theorem graced_once :
    (create {} none false graced).sessionCourse (fun _ _ _ => .done) 0 gracedSession =
        [.client (.moveClock {})] ++ .client (.write 1 10 (.lasting ⟨5⟩) ⟨0⟩) :: gracedLate ∧
      ((create {} none false graced).actAll (fun _ _ _ => .done) 0
          gracedSession).passRecord.filter (·.concerns 1) =
        [.checked { key := 1, value := 10, verdict := .veto },
          .checked { key := 1, value := 10, verdict := .allow }, .evicted 1 10] := by
  have course : (create {} none false graced).sessionCourse (fun _ _ _ => .done) 0 gracedSession =
      [.client (.moveClock {})] ++ .client (.write 1 10 (.lasting ⟨5⟩) ⟨0⟩) :: gracedLate := by
    with_unfolding_all rfl
  have spares : (((create {} none false graced).afterAll [.client (.moveClock {})]).writeAt 1 10
      (.lasting ⟨5⟩) ⟨0⟩).1.SparesAll 1 gracedLate :=
    ⟨trivial, trivial, trivial, Nat.succ_ne_self 1, trivial, trivial, trivial, trivial⟩
  have dated : ∀ lapse ∈ (lapses ⟨5⟩ ⟨0⟩ (gracedLate.filterMap Change.pass?)).take 1,
      (lapse.add? ⟨5⟩).isSome = true := by decide +kernel
  obtain ⟨-, -, -, -, record⟩ := every_veto_grants_one_cycle {} none false graced
    [.client (.moveClock {})] gracedLate 1 10 (show (⟨5⟩ : Duration) ≠ .zero by decide) ⟨0⟩
    (by rintro _ _ _ (_ | ⟨_, ⟨⟩⟩)) rfl ⟨_, rfl, VetoRule.vetoesNext rfl rfl⟩ spares
    (by decide +kernel) dated
  have told := record (fun _ _ _ => .done) 0 gracedSession (fun _ _ _ => trivial) rfl course
  refine ⟨course, told.trans ?_⟩
  decide +kernel

end Cache

end ExpiringCache
