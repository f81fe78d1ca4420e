import ExpiringCache.Proofs.Cache.Dossier
import ExpiringCache.Proofs.Cache.Readers
import ExpiringCache.Proofs.Ledger.Simulation

/-!
# Isolation

Keys do not interfere.  What a session shows of a key depends only on the
actions that name this key or none, whatever is done to other keys in between.
-/

namespace ExpiringCache

/-- An action concerns the key that it names; one that names none concerns every key. -/
def Action.concerns {K V H : Type} [DecidableEq K] (key : K) : Action K V H → Bool
  | .call request => request.name?.all (· = key)
  | _ => true

/-- What an action shows of one key. -/
structure Glimpse (K V : Type) where
  /-- What a call on the key reports. -/
  report : Option (Report K V (List (K × V))) := none
  /-- What a pass evicts under the key. -/
  evicted : List (K × V) := []
  /-- What a pass asks the check about the key. -/
  asked : List (Consultation K V) := []

namespace Dossier

variable {K V H : Type} [DecidableEq K]

def due? (dossier : Dossier K V) (now : Instant) : Option (Entry K V) :=
  dossier.entry.filter (·.isExpired now)

def permits (dossier : Dossier K V) (entry : Entry K V) : Bool :=
  ExpiryCheck.permits dossier.check entry.key entry.value

def sweep (dossier : Dossier K V) (now : Instant) : Dossier K V :=
  match dossier.due? now with
  | none => dossier
  | some entry =>
      { dossier with
        entry :=
          if dossier.permits entry then none else some (entry.renew now dossier.sharedLifetime)
        check := ExpiryCheck.asked dossier.check entry.key entry.value }

def act (key : K) (dossier : Dossier K V) (clock : Clock) : Action K V H → Dossier K V
  | .call call => dossier.step key clock call
  | .planSleep => dossier
  | .sweep => dossier.atReading clock dossier.sweep

def glimpse (key : K) (dossier : Dossier K V) (clock : Clock) : Action K V H → Glimpse K V
  | .call call => { report := if call.name? = some key then dossier.report clock call else none }
  | .planSleep => {}
  | .sweep =>
      match clock.now with
      | .error _ => {}
      | .ok now =>
          { evicted :=
              ((dossier.due? now).filter dossier.permits).toList.map fun entry =>
                (entry.key, entry.value)
            asked :=
              ((dossier.due? now).bind fun entry =>
                ExpiryCheck.question? dossier.check entry.key entry.value).toList }

def glimpses (key : K) : List (Clock × Action K V H) → Dossier K V → List (Glimpse K V)
  | [], _ => []
  | (clock, action) :: rest, dossier =>
      dossier.glimpse key clock action :: glimpses key rest (dossier.act key clock action)

/-- Actions that do not concern a key leave its dossier. -/
theorem act_of_unconcerned {key : K} {action : Action K V H}
    (other : action.concerns key = false) (dossier : Dossier K V) (clock : Clock) :
    dossier.act key clock action = dossier := by
  cases action with
  | call call =>
      rw [Action.concerns] at other
      cases names : call.name? with
      | none =>
          rw [names] at other
          cases other
      | some name =>
          rw [names, Option.all_some, decide_eq_false_iff_not] at other
          exact step_of_other names other dossier clock
  | planSleep => cases other
  | sweep => cases other

end Dossier

namespace Cache

variable {K V H : Type} [DecidableEq K] (script : H → K → V → Script K V H) (depth : Nat)

/-- What an action that begins when the clock stands as given shows of a key. -/
def glimpse (key : K) (cache : Cache K V H) (clock : Clock) : Action K V H → Glimpse K V
  | .call call =>
      { report :=
          if call.name? = some key then some (cache.report script depth clock (.call call))
          else none }
  | .planSleep => {}
  | .sweep =>
      match clock.now with
      | .error _ => {}
      | .ok now =>
          let pass := cache.store.sweep cache.handlers.check now
          { evicted := pass.evicted.filter (·.1 = key)
            asked := pass.consultations.filter (·.key = key) }

/-- What the actions of a session that concern a key show of it. -/
def glimpses (key : K) : List (Clock × Action K V H) → Cache K V H → List (Glimpse K V)
  | [], _ => []
  | (clock, action) :: rest, cache =>
      let later := glimpses key rest (cache.act script depth clock action)
      if action.concerns key then cache.glimpse script depth key clock action :: later else later

end Cache

namespace Cache

variable {K V H : Type} [DecidableEq K] {cache : Cache K V H}
  {script : H → K → V → Script K V H}

/-- The check of an impartial cache looks at what it was asked about each key apart. -/
structure Impartial (cache : Cache K V H) : Prop where
  valid : cache.store.Valid
  alike : ExpiryCheck.Alike cache.handlers.check cache.handlers.check

/-! ## Passes -/

/-- A pass rules on a key by its dossier alone. -/
theorem ruling_of_dossier (impartial : cache.Impartial) (now : Instant) (key : K) :
    ∃ rulings, cache.store.Settles cache.handlers.check now rulings
        (cache.store.sweep cache.handlers.check now) ∧
      (Ruling.on? rulings key).map Ruling.entry = (cache.dossier key).due? now ∧
      ∀ ruling, Ruling.on? rulings key = some ruling →
        ruling.permitted = (cache.dossier key).permits ruling.entry ∧
        ruling.question = ExpiryCheck.question? (cache.dossier key).check ruling.entry.key
          ruling.entry.value := by
  obtain ⟨rulings, settles⟩ := impartial.valid.sweep_settles cache.handlers.check now
  refine ⟨rulings, settles, settles.on?_entry impartial.valid key, ?_⟩
  intro ruling ruled
  obtain ⟨listed, rfl⟩ := Ruling.mem_of_on? ruled
  have permitted := settles.steady impartial.valid impartial.alike ruling listed
  have question := settles.follow.question_of_local impartial.alike
    (settles.keys_nodup impartial.valid) listed
  rw [permitted, question, Dossier.permits, dossier, impartial.alike.permits_about,
    impartial.alike.question?_about]
  exact ⟨rfl, rfl⟩

theorem dossier_sweep (impartial : cache.Impartial) (now : Instant) (key : K) :
    (cache.sweepAt now).1.dossier key = (cache.dossier key).sweep now := by
  obtain ⟨rulings, settles, due, follows⟩ := ruling_of_dossier impartial now key
  have passValid := impartial.valid.sweep cache.handlers.check now
  have asked : ExpiryCheck.about key (cache.store.sweep cache.handlers.check now).check =
      ExpiryCheck.askedAll (cache.dossier key).check
        ((Ruling.on? rulings key).toList.map Ruling.pair) := by
    rw [settles.check_eq, ExpiryCheck.about_askedAll, List.filter_map]
    exact congrArg (ExpiryCheck.askedAll _ <| List.map Ruling.pair ·)
      (Ruling.filter_key_eq (settles.keys_nodup impartial.valid) key)
  rw [dossier_sweepAt impartial.valid, asked, Dossier.sweep, ← due]
  cases ruled : Ruling.on? rulings key with
  | none =>
      rw [settles.stored?_of_unruled impartial.valid passValid ruled]
      rfl
  | some ruling =>
      rw [settles.stored?_of_ruled impartial.valid passValid ruled, (follows ruling ruled).1]
      rfl

/-! ## Actions -/

theorem Impartial.act (quiet : ∀ handler key value, (script handler key value).isQuiet = true)
    (depth : Nat) (impartial : cache.Impartial) (clock : Clock) {action : Action K V H}
    (installs : action.InstallsLocal) : (cache.act script depth clock action).Impartial := by
  refine ⟨(valid_act script depth impartial.valid clock action).1, ?_⟩
  cases action with
  | call call =>
      cases call with
      | onCheck verdict =>
          rw [Cache.act, perform]
          exact .some installs fun _ => rfl
      | _ =>
          rw [Cache.act, check_perform quiet depth (by rintro _ ⟨⟩)]
          exact impartial.alike
  | planSleep =>
      exact atReading_keeps
        (P := fun reached => ExpiryCheck.Alike reached.handlers.check reached.handlers.check)
        impartial.alike fun _ => impartial.alike
  | sweep =>
      cases reading : clock.now with
      | error fault =>
          rw [act_sweep_of_fault depth reading]
          exact impartial.alike
      | ok now =>
          obtain ⟨events, swept⟩ := act_sweep_of_quiet quiet depth reading
          obtain ⟨rulings, settles⟩ := impartial.valid.sweep_settles cache.handlers.check now
          have nodup := settles.keys_nodup impartial.valid
          rw [swept]
          change ExpiryCheck.Alike (cache.store.sweep cache.handlers.check now).check
            (cache.store.sweep cache.handlers.check now).check
          rw [settles.check_eq]
          exact impartial.alike.askedAll (List.Perm.refl _)
            (by rw [List.map_map]; exact nodup)

theorem dossier_act (quiet : ∀ handler key value, (script handler key value).isQuiet = true)
    (depth : Nat) (impartial : cache.Impartial) (clock : Clock) (action : Action K V H) (key : K) :
    (cache.act script depth clock action).dossier key =
      (cache.dossier key).act key clock action := by
  have started : { cache with clock }.Impartial := ⟨impartial.valid, impartial.alike⟩
  cases action with
  | call call => exact dossier_perform quiet depth started.valid call key
  | planSleep => exact dossier_planSleep { cache with clock } key
  | sweep =>
      rw [Dossier.act, Dossier.atReading]
      cases reading : clock.now with
      | error fault =>
          rw [act_sweep_of_fault depth reading]
          rfl
      | ok now =>
          obtain ⟨events, swept⟩ := act_sweep_of_quiet quiet depth reading
          rw [swept, dossier_record]
          exact dossier_sweep started now key

/-! ## Sessions -/

theorem glimpse_eq (depth : Nat) (impartial : cache.Impartial) (clock : Clock)
    (action : Action K V H) (key : K) :
    cache.glimpse script depth key clock action =
      (cache.dossier key).glimpse key clock action := by
  cases action with
  | call call =>
      rw [glimpse, Dossier.glimpse]
      split
      · rename_i names
        rw [report_of_dossier depth impartial.valid clock names]
      · rfl
  | planSleep => rfl
  | sweep =>
      rw [glimpse, Dossier.glimpse]
      cases clock.now with
      | error fault => rfl
      | ok now =>
          obtain ⟨rulings, settles, due, follows⟩ := ruling_of_dossier impartial now key
          simp only [settles.evicted_filter impartial.valid,
            settles.consultations_filter impartial.valid, ← due]
          cases ruled : Ruling.on? rulings key with
          | none => rfl
          | some ruling =>
              obtain ⟨permitted, question⟩ := follows ruling ruled
              rw [Option.map_some, Option.filter_some, Option.filter_some, Option.bind_some,
                Option.bind_some, permitted, question]
              split
              · rfl
              · rfl

/-- What a session shows of a key is what the actions that concern it make of its dossier. -/
theorem glimpses_eq (quiet : ∀ handler key value, (script handler key value).isQuiet = true)
    (depth : Nat) (session : List (Clock × Action K V H))
    (installs : ∀ step ∈ session, step.2.InstallsLocal) (impartial : cache.Impartial) (key : K) :
    cache.glimpses script depth key session =
      (cache.dossier key).glimpses key (session.filter (·.2.concerns key)) := by
  induction session generalizing cache with
  | nil => rfl
  | cons step rest ih =>
      obtain ⟨clock, action⟩ := step
      have own := installs (clock, action) List.mem_cons_self
      have later := ih (fun step listed => installs step (List.mem_cons_of_mem _ listed))
        (impartial.act quiet depth clock own)
      rw [dossier_act quiet depth impartial] at later
      rw [glimpses, List.filter_cons]
      simp only [later]
      cases concerned : action.concerns key with
      | true =>
          simp only [if_true]
          rw [Dossier.glimpses, glimpse_eq depth impartial]
      | false =>
          simp only [Bool.false_eq_true, if_false]
          rw [Dossier.act_of_unconcerned concerned]

/-- Local checks are installed in a session if the actions that concern a key install no others. -/
theorem installs_of_concerned {key : K} {left right : List (Clock × Action K V H)}
    (same : left.filter (·.2.concerns key) = right.filter (·.2.concerns key))
    (installs : ∀ step ∈ left, step.2.InstallsLocal) :
    ∀ step ∈ right, step.2.InstallsLocal := by
  intro step listed
  cases concerned : step.2.concerns key with
  | true =>
      have shared : step ∈ left.filter (·.2.concerns key) :=
        same ▸ List.mem_filter.mpr ⟨listed, concerned⟩
      exact installs step (List.mem_filter.mp shared).1
  | false =>
      obtain ⟨clock, action⟩ := step
      cases action with
      | call call =>
          cases call with
          | onCheck verdict => cases concerned
          | _ => trivial
      | _ => trivial

/--
Keys do not interfere.  Two sessions of a cache with quiet handlers and local
checks that agree on the actions that name a key or none show the same of this
key: what its calls report, and what the passes evict and ask about it.
-/
theorem others_invisible_to_key
    (quiet : ∀ handler key value, (script handler key value).isQuiet = true) (depth : Nat)
    (clock : Clock) (sharedLifetime : Option Duration) (skipRenewal : Bool)
    (handlers : Handlers K V H)
    (rule : ∀ installed ∈ handlers.check, ExpiryCheck.Local installed.verdict)
    (key : K) {left right : List (Clock × Action K V H)}
    (installs : ∀ step ∈ left, step.2.InstallsLocal)
    (same : left.filter (·.2.concerns key) = right.filter (·.2.concerns key)) :
    let cache := create clock sharedLifetime skipRenewal handlers
    cache.glimpses script depth key left = cache.glimpses script depth key right := by
  intro cache
  have impartial : cache.Impartial :=
    ⟨valid_create clock sharedLifetime skipRenewal handlers, .of_local rule⟩
  calc cache.glimpses script depth key left
    _ = (cache.dossier key).glimpses key (left.filter (·.2.concerns key)) :=
        glimpses_eq quiet depth left installs impartial key
    _ = (cache.dossier key).glimpses key (right.filter (·.2.concerns key)) := by rw [same]
    _ = cache.glimpses script depth key right :=
        (glimpses_eq quiet depth right (installs_of_concerned same installs) impartial key).symm

/-- A key that is vetoed once, evicted and stored again, with no other key around. -/
def lonelySession : List (Clock × Action Nat Nat Unit) :=
  [({}, .call (.set 1 10 (.lasting (.ofSeconds 2)))),
    ({ elapsed := .ofSeconds 4 }, .sweep),
    ({ elapsed := .ofSeconds 5 }, .call (.getLease 1)),
    ({ elapsed := .ofSeconds 9 }, .sweep),
    ({ elapsed := .ofSeconds 9 }, .call (.touch 1)),
    ({ elapsed := .ofSeconds 9 }, .call (.set 1 11 .inherited))]

/-- The same with other keys that take its slot and its place at the root of the queue. -/
def crowdedSession : List (Clock × Action Nat Nat Unit) :=
  [({}, .call (.set 2 20 (.lasting (.ofSeconds 1)))),
    ({}, .call (.set 1 10 (.lasting (.ofSeconds 2)))),
    ({}, .call (.remove 2)),
    ({ elapsed := .ofSeconds 3 }, .call (.set 3 30 .unlimited)),
    ({ elapsed := .ofSeconds 4 }, .sweep),
    ({ elapsed := .ofSeconds 5 }, .call (.getLease 1)),
    ({ elapsed := .ofSeconds 5 }, .call (.set 4 40 (.lasting (.ofSeconds 1)))),
    ({ elapsed := .ofSeconds 9 }, .sweep),
    ({ elapsed := .ofSeconds 9 }, .call (.get 4)),
    ({ elapsed := .ofSeconds 9 }, .call (.touch 1)),
    ({ elapsed := .ofSeconds 9 }, .call (.set 1 11 .inherited))]

theorem crowdedSession_like_lonelySession :
    (∀ installed ∈ (some { vetoFirst := 1 : VetoRule Nat }.check : Option (ExpiryCheck Nat Nat)),
        ExpiryCheck.Local installed.verdict) ∧
      (∀ step ∈ lonelySession, step.2.InstallsLocal) ∧
      lonelySession.filter (·.2.concerns 1) = crowdedSession.filter (·.2.concerns 1) ∧
      ((create {} none false
          { onInsert := some (), onEvict := some (),
            check := some { vetoFirst := 1 : VetoRule Nat }.check }).glimpses
          (fun _ _ _ => .fail) 1 1 lonelySession) =
        ((create {} none false
          { onInsert := some (), onEvict := some (),
            check := some { vetoFirst := 1 : VetoRule Nat }.check }).glimpses
          (fun _ _ _ => .fail) 1 1 crowdedSession) := by
  have rule : ∀ installed ∈
      (some { vetoFirst := 1 : VetoRule Nat }.check : Option (ExpiryCheck Nat Nat)),
      ExpiryCheck.Local installed.verdict := by
    rintro installed ⟨⟩
    exact VetoRule.local_verdict { vetoFirst := 1 }
  have installs : ∀ step ∈ lonelySession, step.2.InstallsLocal := by
    simp [lonelySession, Action.InstallsLocal]
  have same : lonelySession.filter (·.2.concerns 1) =
      crowdedSession.filter (·.2.concerns 1) := rfl
  exact ⟨rule, installs, same, others_invisible_to_key (fun _ _ _ => rfl) 1 {} none false
    { onInsert := some (), onEvict := some (),
      check := some { vetoFirst := 1 : VetoRule Nat }.check } rule 1 installs same⟩

end Cache

end ExpiringCache
