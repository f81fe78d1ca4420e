import ExpiringCache.Proofs.Cache.Chronicle
import ExpiringCache.Proofs.Cache.Dossier
import ExpiringCache.Proofs.Cache.Readers

/-!
# Visibility

What can be read under a key is determined by the chronicle of the session.  A
store may have dropped what stands by the chronicle, but only if it has expired.
-/

namespace ExpiringCache

namespace Dossier

/-! ## Settings -/

section

variable {K V : Type} {dossier : Dossier K V}

def policy (dossier : Dossier K V) : Policy :=
  ⟨dossier.sharedLifetime, dossier.skipRenewal⟩

theorem policy_atReading {clock : Clock} {body : Instant → Dossier K V}
    (kept : ∀ now, (body now).policy = dossier.policy) :
    (dossier.atReading clock body).policy = dossier.policy := by
  unfold atReading
  cases clock.now with
  | error fault => rfl
  | ok now => exact kept now

theorem policy_write (key : K) (value : V) (lifetime : Lifetime) (now : Instant) :
    (dossier.write key value lifetime now).policy = dossier.policy := by
  unfold write
  split
  · rfl
  · rfl

theorem policy_read (now : Instant) : (dossier.read now).policy = dossier.policy := by
  unfold read
  split
  · rfl
  · split
    · rfl
    · rfl

theorem policy_touch (now : Instant) : (dossier.touch now).policy = dossier.policy := by
  unfold touch
  split
  · rfl
  · rfl

/-- Settings change only by the calls that set them. -/
theorem policy_step {H : Type} [DecidableEq K] (key : K) (clock : Clock) (call : Call K V H) :
    (dossier.step key clock call).policy = dossier.policy.after (.call call) := by
  have either {changed : Dossier K V} (kept : changed.policy = dossier.policy) (name : K) :
      (if name = key then changed else dossier).policy = dossier.policy := by
    split
    · exact kept
    · rfl
  unfold step Policy.after
  cases call with
  | set name value lifetime =>
      exact either (policy_atReading (policy_write key value lifetime)) name
  | get name => exact either (policy_atReading policy_read) name
  | getLease name => exact either (policy_atReading policy_read) name
  | touch name => exact either (policy_atReading policy_touch) name
  | remove name => exact either (show dossier.drop.policy = dossier.policy from rfl) name
  | close =>
      simp only
      split
      · rfl
      · rfl
  | _ => rfl

end

variable {K V : Type}

/-- A dossier bears out a standing if it has its entry, or none because that has expired. -/
structure Bears (key : K) (standing : Option (Standing V)) (dossier : Dossier K V)
    (last : Instant) : Prop where
  entry : dossier.entry = standing.map (·.entry key) ∨
    dossier.entry = none ∧ ∀ prior ∈ standing, (prior.entry key).isExpired last = true
  closed : dossier.closed = true → standing = none

namespace Bears

variable {key : K} {standing : Option (Standing V)} {dossier : Dossier K V} {last now : Instant}

theorem later (bears : Bears key standing dossier last) (passed : last ≤ now) :
    Bears key standing dossier now := by
  refine ⟨?_, bears.closed⟩
  rcases bears.entry with here | ⟨gone, expired⟩
  · exact .inl here
  · refine .inr ⟨gone, fun prior stood => ?_⟩
    by_contra live
    have early := Entry.isExpired_of_later passed (eq_false_of_ne_true live)
    rw [expired prior stood] at early
    cases early

theorem standing_of_entry (bears : Bears key standing dossier last) {entry : Entry K V}
    (here : dossier.entry = some entry) :
    ∃ prior, standing = some prior ∧ prior.entry key = entry := by
  rcases bears.entry with same | ⟨gone, -⟩
  · exact Option.map_eq_some_iff.mp (same.symm.trans here)
  · cases gone.symm.trans here

/-- Settings do not matter. -/
theorem of_same (bears : Bears key standing dossier last) {other : Dossier K V}
    (entry : other.entry = dossier.entry) (closed : other.closed = dossier.closed) :
    Bears key standing other last :=
  ⟨entry ▸ bears.entry, closed ▸ bears.closed⟩

theorem cleared (gone : dossier.entry = none) : Bears key none dossier last :=
  ⟨.inl gone, fun _ => rfl⟩

theorem close (bears : Bears key standing dossier last) :
    Bears key none (if dossier.closed then dossier else { dossier.drop with closed := true })
      last := by
  split
  · rename_i closed
    obtain rfl := bears.closed closed
    exact bears
  · exact cleared rfl

/-- The lifetime of what stands begins anew together with that of the entry. -/
theorem renew (bears : Bears key standing dossier last) {entry : Entry K V}
    (here : dossier.entry = some entry) (now : Instant) (shared : Option Duration) :
    Bears key (standing.map (·.begun (now, shared)))
      { dossier with entry := some (entry.renew now shared) } now := by
  obtain ⟨prior, rfl, rfl⟩ := bears.standing_of_entry here
  exact ⟨.inl rfl, fun closed => nomatch bears.closed closed⟩

/-- What can be read is what stands, unless it has expired. -/
theorem live?_eq (bears : Bears key standing dossier now) :
    dossier.live? now = (standing.map (·.entry key)).filter (!·.isExpired now) := by
  rcases bears.entry with here | ⟨gone, expired⟩
  · rw [live?, here]
  · rw [live?, gone]
    cases standing with
    | none => rfl
    | some prior => rw [Option.map_some, Option.filter_some, expired prior rfl]; rfl

/-! ## Calls -/

variable {H : Type} [DecidableEq K]

theorem write (bears : Bears key standing dossier now) (value : V) (lifetime : Lifetime) :
    Bears key
      (Standing.after key standing
        (if dossier.closed then []
          else [.stored key value lifetime now dossier.sharedLifetime]))
      (dossier.write key value lifetime now) now := by
  unfold Dossier.write
  cases closed : dossier.closed with
  | true => exact bears
  | false =>
      have stands : Standing.after key standing
          [.stored key value lifetime now dossier.sharedLifetime] =
          some { value, lifetime, since := now, shared := dossier.sharedLifetime } := if_pos rfl
      simp only [Bool.false_eq_true, if_false, stands]
      exact ⟨.inl rfl, fun already => nomatch already⟩

/-- A read begins the lifetime anew if it hits and does not skip the renewal. -/
theorem read (bears : Bears key standing dossier now) :
    Bears key
      (Standing.after key standing
        (if (dossier.lease now).isSome && !dossier.skipRenewal then
          [.renewed key now dossier.sharedLifetime] else []))
      (dossier.read now) now := by
  unfold Dossier.read lease
  cases closed : dossier.closed with
  | true => exact bears
  | false =>
      simp only [Bool.false_eq_true, if_false]
      cases live : dossier.live? now with
      | none => exact bears
      | some entry =>
          have here := entry_of_live? live
          simp only [Option.map_some, Option.isSome_some, Bool.true_and, keptOnRead]
          cases skip : dossier.skipRenewal with
          | true =>
              exact bears.of_same here.symm closed.symm
          | false =>
              have stands : Standing.after key standing
                  [.renewed key now dossier.sharedLifetime] =
                  standing.map (·.begun (now, dossier.sharedLifetime)) := if_pos rfl
              simp only [Bool.not_false, if_true, Bool.false_eq_true, if_false, stands]
              exact (bears.renew here now dossier.sharedLifetime).of_same rfl closed.symm

theorem touch (bears : Bears key standing dossier now) :
    Bears key
      (Standing.after key standing
        (if (dossier.live? now).isSome then [.renewed key now dossier.sharedLifetime] else []))
      (dossier.touch now) now := by
  unfold Dossier.touch
  cases live : dossier.live? now with
  | none => exact bears
  | some entry =>
      have stands : Standing.after key standing [.renewed key now dossier.sharedLifetime] =
          standing.map (·.begun (now, dossier.sharedLifetime)) := if_pos rfl
      simp only [Option.isSome_some, if_true, stands]
      exact bears.renew (entry_of_live? live) now dossier.sharedLifetime

/-- A call that needs the time is borne out if it is at the reading of the clock. -/
theorem atReading (bears : Bears key standing dossier last) {clock : Clock}
    (passed : last ≤ clock.instant) {incidents : Report K V (List (K × V)) → List (Incident K V)}
    (still : ∀ fault, incidents (.fault fault) = [])
    {shown : Instant → Report K V (List (K × V))} {body : Instant → Dossier K V}
    (each : Bears key (Standing.after key standing (incidents (shown clock.instant)))
      (body clock.instant) clock.instant) :
    Bears key (Standing.after key standing (incidents (reportAt clock shown)))
      (dossier.atReading clock body) clock.instant := by
  unfold reportAt Dossier.atReading
  cases reading : clock.now with
  | error fault =>
      simp only [still fault]
      exact bears.later passed
  | ok now =>
      obtain rfl := Clock.instant_of_now reading
      exact each

/-- A call on the key is borne out. -/
theorem step (bears : Bears key standing dossier last) {clock : Clock}
    (passed : last ≤ clock.instant) {request : Call K V H} (names : request.name? = some key)
    {shown : Report K V (List (K × V))} (reported : some shown = dossier.report clock request) :
    Bears key
      (Standing.after key standing
        (request.incidents clock.instant dossier.policy shown))
      (dossier.step key clock request) clock.instant := by
  have now := bears.later passed
  unfold policy
  cases request with
  | set name value lifetime =>
      obtain rfl := Option.some.inj names
      obtain rfl := Option.some.inj reported
      rw [show dossier.step name clock (.set name value lifetime : Call K V H) = _ from if_pos rfl]
      refine bears.atReading passed (fun _ => rfl) ?_
      convert now.write value lifetime using 2
      cases dossier.closed <;> rfl
  | get name =>
      obtain rfl := Option.some.inj names
      obtain rfl := Option.some.inj reported
      rw [show dossier.step name clock (.get name : Call K V H) = _ from if_pos rfl]
      refine bears.atReading passed (fun _ => rfl) ?_
      convert now.read using 2
      cases dossier.lease clock.instant <;> cases dossier.skipRenewal <;> rfl
  | getLease name =>
      obtain rfl := Option.some.inj names
      obtain rfl := Option.some.inj reported
      rw [show dossier.step name clock (.getLease name : Call K V H) = _ from if_pos rfl]
      refine bears.atReading passed (fun _ => rfl) ?_
      convert now.read using 2
      cases dossier.lease clock.instant <;> cases dossier.skipRenewal <;> rfl
  | touch name =>
      obtain rfl := Option.some.inj names
      obtain rfl := Option.some.inj reported
      rw [show dossier.step name clock (.touch name : Call K V H) = _ from if_pos rfl]
      refine bears.atReading passed (fun _ => rfl) ?_
      convert now.touch using 2
      cases (dossier.live? clock.instant).isSome <;> rfl
  | remove name =>
      obtain rfl := Option.some.inj names
      have stands (shown : Report K V (List (K × V))) : Standing.after name standing
          ((Call.remove name : Call K V H).incidents clock.instant
            ⟨dossier.sharedLifetime, dossier.skipRenewal⟩ shown) = none :=
        if_pos rfl
      rw [stands, show dossier.step name clock (.remove name : Call K V H) = _ from if_pos rfl]
      exact cleared rfl
  | _ => cases names

end Bears

end Dossier

/-- Calls on other keys are no incidents of this one. -/
theorem Call.after_incidents_of_other {K V H : Type} [DecidableEq K] {key name : K}
    {request : Call K V H} (names : request.name? = some name) (other : name ≠ key)
    (standing : Option (Standing V)) (now : Instant) (policy : Policy)
    (shown : Report K V (List (K × V))) :
    Standing.after key standing (request.incidents now policy shown) = standing := by
  have renewed : Standing.after key standing [.renewed name now policy.sharedLifetime] =
      standing := if_neg other
  unfold incidents
  split
  · obtain rfl := Option.some.inj names
    exact if_neg other
  · obtain rfl := Option.some.inj names
    split
    · rfl
    · exact renewed
  · obtain rfl := Option.some.inj names
    split
    · rfl
    · exact renewed
  · obtain rfl := Option.some.inj names
    exact renewed
  · obtain rfl := Option.some.inj names
    exact if_neg other
  · cases names
  · cases names
  · rfl

namespace Cache

variable {K V H : Type} [DecidableEq K] {cache : Cache K V H}
  {script : H → K → V → Script K V H} {key : K} {standing : Option (Standing V)}
  {last : Instant}

/-- A key is vetoed at a pass exactly if the ruling on it does not permit its eviction. -/
theorem mem_vetoed_iff {now : Instant} {rulings : List (Ruling K V)}
    (settles : cache.store.Settles cache.handlers.check now rulings
      (cache.store.sweep cache.handlers.check now)) (valid : cache.store.Valid) (key : K) :
    key ∈ cache.vetoed now ↔
      ∃ ruling ∈ Ruling.on? rulings key, ruling.permitted = false := by
  have asked (question : Consultation K V) :
      (question ∈ (cache.store.sweep cache.handlers.check now).consultations ∧
        question.key = key) ↔
        ∃ ruling ∈ Ruling.on? rulings key, question ∈ ruling.question := by
    have listed := settles.consultations_filter valid key
    rw [← Option.mem_bind_iff, Option.mem_def, ← Option.mem_toList, ← listed, List.mem_filter,
      decide_eq_true_iff]
  have follows {ruling : Ruling K V} (ruled : ruling ∈ Ruling.on? rulings key) :
      ruling.permitted = ruling.question.all (·.verdict.permits) :=
    (settles.follow.of_mem (Ruling.mem_of_on? ruled).1).2
  rw [vetoed, List.mem_map]
  constructor
  · rintro ⟨question, listed, same⟩
    obtain ⟨member, veto⟩ := List.mem_filter.mp listed
    obtain ⟨ruling, ruled, here⟩ := (asked question).mp ⟨member, same⟩
    refine ⟨ruling, ruled, ?_⟩
    rw [follows ruled, Option.mem_def.mp here, Option.all_some]
    exact (Bool.not_eq_true' _).mp veto
  · rintro ⟨ruling, ruled, veto⟩
    rw [follows ruled] at veto
    cases here : ruling.question with
    | none =>
        rw [here] at veto
        cases veto
    | some question =>
        rw [here, Option.all_some] at veto
        obtain ⟨member, same⟩ := (asked question).mpr ⟨ruling, ruled, here⟩
        exact ⟨question, List.mem_filter.mpr ⟨member, (Bool.not_eq_true' _).mpr veto⟩, same⟩

/-- A pass drops what has expired or, after a veto, renews it. -/
theorem bears_sweep (valid : cache.store.Valid) (now : Instant)
    (bears : Dossier.Bears key standing (cache.dossier key) now) :
    Dossier.Bears key
      (Standing.after key standing
        ((cache.vetoed now).map fun key => .renewed key now cache.store.sharedLifetime))
      ((cache.sweepAt now).1.dossier key) now := by
  obtain ⟨rulings, settles⟩ := valid.sweep_settles cache.handlers.check now
  have passValid := valid.sweep cache.handlers.check now
  have due := settles.on?_entry valid key
  have vetoed := mem_vetoed_iff settles valid key
  rw [Standing.after_renewals, dossier_sweepAt valid]
  cases ruled : Ruling.on? rulings key with
  | none =>
      rw [ruled] at vetoed
      have spared : key ∉ cache.vetoed now := fun listed => by
        obtain ⟨_, absent, -⟩ := vetoed.mp listed
        cases absent
      rw [if_neg spared, settles.stored?_of_unruled valid passValid ruled]
      exact bears.of_same rfl rfl
  | some ruling =>
      rw [ruled] at due vetoed
      obtain ⟨here, expired⟩ := Option.filter_eq_some_iff.mp due.symm
      rw [settles.stored?_of_ruled valid passValid ruled]
      cases permitted : ruling.permitted with
      | true =>
          have spared : key ∉ cache.vetoed now := fun listed => by
            obtain ⟨_, same, veto⟩ := vetoed.mp listed
            obtain rfl := Option.some.inj same
            cases permitted.symm.trans veto
          rw [if_neg spared]
          refine ⟨.inr ⟨rfl, ?_⟩, bears.closed⟩
          rintro prior rfl
          obtain ⟨_, ⟨⟩, same⟩ := bears.standing_of_entry here
          rw [same]
          exact expired
      | false =>
          rw [if_pos (vetoed.mpr ⟨ruling, rfl, permitted⟩)]
          exact (bears.renew here now cache.store.sharedLifetime).of_same rfl rfl

/-- Every action is borne out. -/
theorem bears_act (quiet : ∀ handler key value, (script handler key value).isQuiet = true)
    (depth : Nat) (valid : cache.store.Valid) {clock : Clock} (passed : last ≤ clock.instant)
    (action : Action K V H) (bears : Dossier.Bears key standing (cache.dossier key) last) :
    Dossier.Bears key
      (Standing.after key standing
        (cache.incidents script depth (cache.dossier key).policy clock action))
      ((cache.act script depth clock action).dossier key) clock.instant := by
  have started : { cache with clock }.store.Valid := valid
  have now := bears.later passed
  cases action with
  | call request =>
      rw [act, dossier_perform quiet depth started]
      unfold incidents
      change Dossier.Bears key _ ((cache.dossier key).step key clock request) clock.instant
      cases names : request.name? with
      | some name =>
          by_cases same : name = key
          · subst same
            exact bears.step passed names (report_of_dossier depth valid clock names)
          · rw [Call.after_incidents_of_other names same, Dossier.step_of_other names same]
            exact now
      | none =>
          cases request with
          | set name value lifetime => cases names
          | get name => cases names
          | getLease name => cases names
          | touch name => cases names
          | remove name => cases names
          | purge => exact .cleared rfl
          | close => exact now.close
          | _ => exact now.of_same rfl rfl
  | planSleep =>
      rw [act, dossier_planSleep]
      exact now
  | sweep =>
      unfold incidents
      cases reading : clock.now with
      | error fault =>
          rw [act_sweep_of_fault depth reading]
          exact now
      | ok instant =>
          obtain rfl := Clock.instant_of_now reading
          obtain ⟨events, swept⟩ := act_sweep_of_quiet quiet depth reading
          rw [swept, dossier_record]
          exact bears_sweep started clock.instant now

theorem policy_act (quiet : ∀ handler key value, (script handler key value).isQuiet = true)
    (depth : Nat) (valid : cache.store.Valid) (clock : Clock) (action : Action K V H) (key : K) :
    ((cache.act script depth clock action).dossier key).policy =
      (cache.dossier key).policy.after action := by
  have started : { cache with clock }.store.Valid := valid
  cases action with
  | call request =>
      rw [act, dossier_perform quiet depth started]
      exact Dossier.policy_step key clock request
  | planSleep =>
      rw [act, dossier_planSleep]
      rfl
  | sweep =>
      cases reading : clock.now with
      | error fault =>
          rw [act_sweep_of_fault depth reading]
          rfl
      | ok now =>
          obtain ⟨events, swept⟩ := act_sweep_of_quiet quiet depth reading
          rw [swept, dossier_record, dossier_sweepAt started]
          rfl

/-! ## Sessions -/

/-- The chronicle of a session is borne out at every instant after it. -/
theorem bears_session (quiet : ∀ handler key value, (script handler key value).isQuiet = true)
    (depth : Nat) (session : List (Clock × Action K V H)) (valid : cache.store.Valid)
    (later : ∀ step ∈ session, last ≤ step.1.instant) (ascends : Ascends session)
    {reached : Instant} (before : ∀ step ∈ session, step.1.instant ≤ reached)
    (passed : last ≤ reached) {policy : Policy} (set : (cache.dossier key).policy = policy)
    (bears : Dossier.Bears key standing (cache.dossier key) last) :
    (cache.actAll script depth session).store.Valid ∧
      ((cache.actAll script depth session).dossier key).policy = policy.afterAll session ∧
      Dossier.Bears key
        (Standing.after key standing (cache.chronicle script depth policy session))
        ((cache.actAll script depth session).dossier key) reached := by
  induction session generalizing cache standing last policy with
  | nil => exact ⟨valid, set, bears.later passed⟩
  | cons step rest ih =>
      obtain ⟨clock, action⟩ := step
      obtain rfl := set
      obtain ⟨restLater, restAscends⟩ := List.pairwise_cons.mp ascends
      have acted := bears_act quiet depth valid (later (clock, action) List.mem_cons_self) action
        bears
      rw [chronicle, Standing.after_append]
      exact ih (valid_act script depth valid clock action).1 restLater restAscends
        (fun step listed => before step (List.mem_cons_of_mem _ listed))
        (before (clock, action) List.mem_cons_self)
        (policy_act quiet depth valid clock action key) acted

omit [DecidableEq K] in
theorem isExpired_entry_eq_false_iff {prior : Standing V} {now : Instant} :
    (prior.entry key).isExpired now = false ↔
      (prior.lifetime.resolve prior.shared = none ∨
        ∃ length, prior.lifetime.resolve prior.shared = some length ∧
          (prior.since.add? length = none ∨
            ∃ deadline, prior.since.add? length = some deadline ∧ now ≤ deadline)) := by
  unfold Standing.entry Entry.renew Entry.isExpired
  cases prior.lifetime.resolve prior.shared with
  | none => simp
  | some length =>
      cases sum : prior.since.add? length with
      | none => simp [sum]
      | some deadline => simp [sum]

/-- A read returns what stands, unless it has expired. -/
theorem readAt_of_bears (valid : cache.store.Valid) {now : Instant}
    (bears : Dossier.Bears key standing (cache.dossier key) now) {value : V} :
    (cache.readAt key now).2.map Prod.fst = some value ↔
      ∃ prior, standing = some prior ∧ prior.value = value ∧
        (prior.entry key).isExpired now = false := by
  rw [readAt_snd valid, Dossier.lease]
  cases closed : (cache.dossier key).closed with
  | true =>
      obtain rfl := bears.closed closed
      simp
  | false =>
      simp only [Bool.false_eq_true, if_false]
      rw [bears.live?_eq, Option.map_map, Option.map_eq_some_iff]
      constructor
      · rintro ⟨entry, live, rfl⟩
        obtain ⟨here, fresh⟩ := Option.filter_eq_some_iff.mp live
        obtain ⟨prior, rfl, rfl⟩ := Option.map_eq_some_iff.mp here
        exact ⟨prior, rfl, rfl, (Bool.not_eq_true' _).mp fresh⟩
      · rintro ⟨prior, rfl, rfl, fresh⟩
        have live : (some (prior.entry key)).filter (!·.isExpired now) = some (prior.entry key) :=
          Option.filter_eq_some_iff.mpr ⟨rfl, (Bool.not_eq_true' _).mpr fresh⟩
        exact ⟨prior.entry key, live, rfl⟩

/-- A read answers by what the history left standing. -/
theorem get_of_bears (script : H → K → V → Script K V H) (depth : Nat)
    (valid : cache.store.Valid) {now : Instant} (reading : cache.clock.now = .ok now)
    {history : List (Incident K V)}
    (bears : Dossier.Bears key (Standing.after key none history) (cache.dossier key) now)
    (value : V) :
    (cache.perform script depth (.get key)).2 = .ok (.value (some value)) ↔
      ∃ lifetime since shared, Stands history key value lifetime since shared ∧
        (lifetime.resolve shared = none ∨
          ∃ length, lifetime.resolve shared = some length ∧
            (since.add? length = none ∨
              ∃ deadline, since.add? length = some deadline ∧ now ≤ deadline)) := by
  have answered : (cache.perform script depth (.get key)).2 =
      .ok (.value ((cache.readAt key now).2.map Prod.fst)) := by
    simp only [perform, atReading, reading]
  rw [answered, Except.ok.injEq, Answer.value.injEq, readAt_of_bears valid bears]
  constructor
  · rintro ⟨prior, stood, rfl, fresh⟩
    exact ⟨prior.lifetime, prior.since, prior.shared, Standing.after_eq_some_iff.mp stood,
      isExpired_entry_eq_false_iff.mp fresh⟩
  · rintro ⟨lifetime, since, shared, stands, lasts⟩
    exact ⟨{ value, lifetime, since, shared }, Standing.after_eq_some_iff.mpr stands, rfl,
      isExpired_entry_eq_false_iff.mpr lasts⟩

end Cache

def Action.isRead {K V H : Type} : Action K V H → Bool
  | .call (.get _) => true
  | .call (.getLease _) => true
  | _ => false

namespace Cache

variable {K V H : Type} [DecidableEq K] {cache : Cache K V H}
  {script : H → K → V → Script K V H}

/-- Reads that skip the renewal leave every dossier. -/
theorem dossier_of_skipped_reads
    (quiet : ∀ handler key value, (script handler key value).isQuiet = true) (depth : Nat)
    (valid : cache.store.Valid) (skips : cache.store.skipRenewal = true)
    (reads : List (Clock × Action K V H)) (allRead : ∀ step ∈ reads, step.2.isRead = true)
    (key : K) : (cache.actAll script depth reads).dossier key = cache.dossier key := by
  induction reads generalizing cache with
  | nil => rfl
  | cons step rest ih =>
      obtain ⟨clock, action⟩ := step
      obtain ⟨isRead, restRead⟩ := List.forall_mem_cons.mp allRead
      have started : { cache with clock }.store.Valid := valid
      have still : (cache.dossier key).atReading clock (cache.dossier key).read =
          cache.dossier key := by
        unfold Dossier.atReading
        cases clock.now with
        | error fault => rfl
        | ok now => exact Dossier.read_of_skip skips now
      have acted : (cache.act script depth clock action).dossier key = cache.dossier key := by
        cases action with
        | call request =>
            rw [act, dossier_perform quiet depth started]
            cases request with
            | get name => exact (congrArg (ite _ · _) still).trans (ite_self _)
            | getLease name => exact (congrArg (ite _ · _) still).trans (ite_self _)
            | _ => cases isRead
        | planSleep => cases isRead
        | sweep => cases isRead
      have skipsAfter : (cache.act script depth clock action).store.skipRenewal = true :=
        (congrArg Dossier.skipRenewal acted).trans skips
      exact (ih (valid_act script depth valid clock action).1 skipsAfter restRead).trans acted

/--
What can be read is determined by the history.  After a session of a new cache
with quiet handlers, a key can be read exactly if the last write of it stands
and its lifetime, counted from the last renewal, is unlimited, ends beyond the
last instant or has not ended.  In particular an unlimited entry can be read
until something ends it, and reads that skip the renewal move no deadline.
-/
theorem visible_by_history
    (quiet : ∀ handler key value, (script handler key value).isQuiet = true) (depth : Nat)
    (clock : Clock) (sharedLifetime : Option Duration) (skipRenewal : Bool)
    (handlers : Handlers K V H) (session : List (Clock × Action K V H)) (key : K)
    {ending : Clock} {now : Instant} (reading : ending.now = .ok now)
    (ascends : Ascends (session ++ [(ending, .call (.get key))])) :
    let cache := create clock sharedLifetime skipRenewal handlers
    let reached := cache.actAll script depth session
    let policy : Policy := ⟨Duration.positive? sharedLifetime, skipRenewal⟩
    let history := cache.chronicle script depth policy session
    let answer := ({ reached with clock := ending }.perform script depth (.get key)).2
    (∀ value, answer = .ok (.value (some value)) ↔
      ∃ lifetime since shared, Stands history key value lifetime since shared ∧
        (lifetime.resolve shared = none ∨
          ∃ length, lifetime.resolve shared = some length ∧
            (since.add? length = none ∨
              ∃ deadline, since.add? length = some deadline ∧ now ≤ deadline))) ∧
    (∀ early value written inForce late,
      history = early ++ .stored key value .unlimited written inForce :: late →
      (∀ incident ∈ late, incident.ends key = false) → answer = .ok (.value (some value))) ∧
    ((policy.afterAll session).skipRenewal = true → ∀ reads : List (Clock × Action K V H),
      (∀ step ∈ reads, step.2.isRead = true) → ∀ name,
        (reached.actAll script depth reads).store.stored? name = reached.store.stored? name) := by
  intro cache reached policy history answer
  obtain ⟨ascends, -, before⟩ := List.pairwise_append.mp ascends
  obtain rfl := Clock.instant_of_now reading
  have begun : Dossier.Bears key none (cache.dossier key) .origin := .cleared rfl
  obtain ⟨valid, set, bears⟩ := bears_session quiet depth session
    (valid_create clock sharedLifetime skipRenewal handlers)
    (fun step _ => Instant.le_iff.mpr (Nat.zero_le step.1.instant.nanos)) ascends
    (fun step listed => before step listed _ List.mem_cons_self)
    (Instant.le_iff.mpr (Nat.zero_le _)) (show _ = policy from rfl) begun
  have started : { reached with clock := ending }.store.Valid := valid
  have visible := get_of_bears script depth started reading bears
  refine ⟨visible, ?_, ?_⟩
  · intro early value written inForce late same lasting
    obtain ⟨start, last, -⟩ :=
      Standing.after_write lasting none value .unlimited written inForce
    exact (visible value).mpr ⟨.unlimited, start.1, start.2,
      ⟨early, late, written, inForce, same, lasting, last⟩, .inl rfl⟩
  · intro skips reads allRead name
    have skipping : reached.store.skipRenewal = true :=
      (congrArg Policy.skipRenewal set).trans skips
    exact congrArg Dossier.entry
      (dossier_of_skipped_reads quiet depth valid skipping reads allRead name)

/-- An entry that is read, vetoed at a pass and read again without renewal. -/
def renewedSession : List (Clock × Action Nat Nat Unit) :=
  [({}, .call (.set 1 10 (.lasting (.ofSeconds 2)))),
    ({}, .call (.set 2 20 .unlimited)),
    ({ elapsed := .ofSeconds 1 }, .call (.get 1)),
    ({ elapsed := .ofSeconds 4 }, .sweep),
    ({ elapsed := .ofSeconds 4 }, .call (.skipRenewal true)),
    ({ elapsed := .ofSeconds 5 }, .call (.getLease 1))]

def vetoingCache : Cache Nat Nat Unit :=
  create {} none false { check := some { vetoFirst := 1 : VetoRule Nat }.check }

/-- The lifetime of two seconds counts from the veto. -/
theorem renewedSession_visible :
    Ascends (renewedSession ++
        [({ elapsed := .ofSeconds 6 }, .call (.get 1))]) ∧
      ({ elapsed := .ofSeconds 6 } : Clock).now = .ok ⟨6000000000⟩ ∧
      ({ vetoingCache.actAll (fun _ _ _ => .done) 1 renewedSession with
          clock := { elapsed := .ofSeconds 6 } }.perform (fun _ _ _ => .done) 1 (.get 1)).2 =
        .ok (.value (some 10)) := by
  have ascends : Ascends (renewedSession ++
      [({ elapsed := .ofSeconds 6 }, .call (.get 1))]) := by
    unfold Ascends
    decide
  have reading : ({ elapsed := .ofSeconds 6 } : Clock).now = .ok ⟨6000000000⟩ := by decide
  refine ⟨ascends, reading, ((visible_by_history (fun _ _ _ => rfl) 1 {} none false
    { check := some { vetoFirst := 1 : VetoRule Nat }.check } renewedSession 1 reading ascends).1
    10).mpr ?_⟩
  have history : vetoingCache.chronicle (fun _ _ _ => .done) 1 ⟨none, false⟩ renewedSession =
      [.stored 1 10 (.lasting (.ofSeconds 2)) ⟨0⟩ none, .stored 2 20 .unlimited ⟨0⟩ none,
        .renewed 1 ⟨1000000000⟩ none, .renewed 1 ⟨4000000000⟩ none] := by
    decide +kernel
  refine ⟨.lasting (.ofSeconds 2), ⟨4000000000⟩, none,
    ⟨[], _, _, _, history, by decide, by decide⟩,
    .inr ⟨.ofSeconds 2, rfl, .inr ⟨⟨6000000000⟩, ?_, ?_⟩⟩⟩
  · decide
  · decide

end Cache

end ExpiringCache
