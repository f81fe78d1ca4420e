import ExpiringCache.Proofs.Cache.Outlook
import ExpiringCache.Proofs.Ledger.Machine
import ExpiringCache.Proofs.Store.PassByKey

/-!
# Dossiers

Everything in a cache that bears on one key: what is stored under it, expired or
not, the settings, and what the check was asked about it.  Slots, places in the
queue and other keys are not part of it, and what a call makes of the dossier of
a key depends on nothing else.
-/

namespace ExpiringCache

def Call.name? {K V H : Type} : Call K V H → Option K
  | .set key _ _ => some key
  | .get key => some key
  | .getLease key => some key
  | .touch key => some key
  | .remove key => some key
  | _ => none

@[ext] structure Dossier (K V : Type) where
  entry : Option (Entry K V)
  sharedLifetime : Option Duration
  skipRenewal : Bool
  closed : Bool
  /-- The installed check with its questions about the key. -/
  check : Option (ExpiryCheck K V)

namespace Dossier

variable {K V H : Type} [DecidableEq K]

def live? (dossier : Dossier K V) (now : Instant) : Option (Entry K V) :=
  dossier.entry.filter (!·.isExpired now)

def keptOnRead (dossier : Dossier K V) (entry : Entry K V) (now : Instant) : Entry K V :=
  if dossier.skipRenewal then entry else entry.renew now dossier.sharedLifetime

def read (dossier : Dossier K V) (now : Instant) : Dossier K V :=
  if dossier.closed then dossier
  else
    match dossier.live? now with
    | none => dossier
    | some entry => { dossier with entry := some (dossier.keptOnRead entry now) }

def lease (dossier : Dossier K V) (now : Instant) : Option (V × Option Duration) :=
  if dossier.closed then none
  else (dossier.live? now).map fun entry =>
    (entry.value, (dossier.keptOnRead entry now).remaining now)

def touch (dossier : Dossier K V) (now : Instant) : Dossier K V :=
  match dossier.live? now with
  | none => dossier
  | some entry => { dossier with entry := some (entry.renew now dossier.sharedLifetime) }

def write (dossier : Dossier K V) (key : K) (value : V) (lifetime : Lifetime) (now : Instant) :
    Dossier K V :=
  if dossier.closed then dossier
  else
    { dossier with
      entry := some (({ key, value, lifetime } : Entry K V).renew now dossier.sharedLifetime) }

def drop (dossier : Dossier K V) : Dossier K V :=
  { dossier with entry := none }

def atReading (dossier : Dossier K V) (clock : Clock) (body : Instant → Dossier K V) :
    Dossier K V :=
  match clock.now with
  | .error _ => dossier
  | .ok now => body now

def step (key : K) (dossier : Dossier K V) (clock : Clock) : Call K V H → Dossier K V
  | .set name value lifetime =>
      if name = key then dossier.atReading clock (dossier.write key value lifetime) else dossier
  | .get name => if name = key then dossier.atReading clock dossier.read else dossier
  | .getLease name => if name = key then dossier.atReading clock dossier.read else dossier
  | .touch name => if name = key then dossier.atReading clock dossier.touch else dossier
  | .remove name => if name = key then dossier.drop else dossier
  | .setSharedLifetime duration =>
      { dossier with sharedLifetime := Duration.positive? (some duration) }
  | .skipRenewal skip => { dossier with skipRenewal := skip }
  | .onCheck verdict => { dossier with check := some { verdict } }
  | .purge => dossier.drop
  | .close => if dossier.closed then dossier else { dossier.drop with closed := true }
  | _ => dossier

omit [DecidableEq K] in
theorem entry_of_live? {dossier : Dossier K V} {now : Instant} {entry : Entry K V}
    (live : dossier.live? now = some entry) : dossier.entry = some entry :=
  (Option.filter_eq_some_iff.mp live).1

omit [DecidableEq K] in
/-- A read that skips the renewal leaves the dossier. -/
theorem read_of_skip {dossier : Dossier K V} (skips : dossier.skipRenewal = true)
    (now : Instant) : dossier.read now = dossier := by
  unfold read
  split
  · rfl
  · cases live : dossier.live? now with
    | none => rfl
    | some entry =>
        simp only [keptOnRead, skips, if_true]
        exact Dossier.ext (entry_of_live? live).symm rfl skips.symm rfl rfl

/-- A call on one key leaves the dossiers of the others. -/
theorem step_of_other {key name : K} {call : Call K V H} (names : call.name? = some name)
    (other : name ≠ key) (dossier : Dossier K V) (clock : Clock) :
    dossier.step key clock call = dossier := by
  cases call with
  | set named value lifetime =>
      obtain rfl := Option.some.inj names
      exact if_neg other
  | get named =>
      obtain rfl := Option.some.inj names
      exact if_neg other
  | getLease named =>
      obtain rfl := Option.some.inj names
      exact if_neg other
  | touch named =>
      obtain rfl := Option.some.inj names
      exact if_neg other
  | remove named =>
      obtain rfl := Option.some.inj names
      exact if_neg other
  | _ => cases names

def reportAt (clock : Clock) (body : Instant → Report K V (List (K × V))) :
    Report K V (List (K × V)) :=
  match clock.now with
  | .error fault => .fault fault
  | .ok now => body now

/-- What a call on the key reports. -/
def report (dossier : Dossier K V) (clock : Clock) :
    Call K V H → Option (Report K V (List (K × V)))
  | .set _ _ _ =>
      some (reportAt clock fun _ =>
        if dossier.closed then .ignored else .written dossier.entry.isNone)
  | .get _ =>
      some (reportAt clock fun now => .answer (.value ((dossier.lease now).map (·.1))))
  | .getLease _ => some (reportAt clock fun now => .answer (.lease (dossier.lease now)))
  | .touch _ => some (reportAt clock fun now => .answer (.flag (dossier.live? now).isSome))
  | .remove _ => some (.answer (.flag dossier.entry.isSome))
  | _ => none

end Dossier

namespace Cache

variable {K V H : Type} [DecidableEq K] {cache : Cache K V H}
  {script : H → K → V → Script K V H}

def dossier (cache : Cache K V H) (key : K) : Dossier K V where
  entry := cache.store.stored? key
  sharedLifetime := cache.store.sharedLifetime
  skipRenewal := cache.store.skipRenewal
  closed := cache.store.closed
  check := ExpiryCheck.about key cache.handlers.check

theorem live?_dossier (cache : Cache K V H) (key : K) (now : Instant) :
    (cache.dossier key).live? now = cache.store.live? key now := rfl

/-! ## Sections -/

theorem dossier_writeAt (valid : cache.store.Valid) (name : K) (value : V) (lifetime : Lifetime)
    (now : Instant) (key : K) :
    (cache.writeAt name value lifetime now).1.dossier key =
      if name = key then (cache.dossier key).write key value lifetime now
      else cache.dossier key := by
  cases closed : cache.store.closed with
  | true =>
      have seen : (cache.dossier key).closed = true := closed
      rw [writeAt, if_pos closed, Dossier.write, if_pos seen, ite_self]
  | false =>
      have seen : (cache.dossier key).closed ≠ true := ne_true_of_eq_false closed
      have stored := valid.stored?_write name value lifetime now key
      obtain ⟨index, schedule, frame⟩ := cache.store.write_frame name value lifetime now
      rw [writeAt, if_neg (ne_true_of_eq_false closed), Dossier.write, if_neg seen]
      simp only [dossier, signal]
      rw [stored, frame]
      split
      · rename_i same
        rw [same]
      · rfl

theorem dossier_readAt (valid : cache.store.Valid) (name : K) (now : Instant) (key : K) :
    (cache.readAt name now).1.dossier key =
      if name = key then (cache.dossier key).read now else cache.dossier key := by
  cases closed : cache.store.closed with
  | true =>
      have seen : (cache.dossier key).closed = true := closed
      rw [readAt_of_closed closed, Dossier.read, if_pos seen, ite_self]
  | false =>
      have seen : (cache.dossier key).closed ≠ true := ne_true_of_eq_false closed
      cases looked : cache.store.live? name now with
      | none =>
          rw [readAt_of_miss closed looked, Dossier.read, if_neg seen, live?_dossier]
          split
          · rename_i same
            rw [← same, looked]
            rfl
          · rfl
      | some entry =>
          obtain ⟨schedule, read, stored⟩ := readAt_of_hit valid closed looked
          rw [read, Dossier.read, if_neg seen, live?_dossier]
          split
          · rename_i same
            subst same
            rw [looked]
            exact Dossier.ext ((stored name).trans (if_pos rfl)) rfl rfl rfl rfl
          · rename_i different
            exact Dossier.ext ((stored key).trans (if_neg different)) rfl rfl rfl rfl

theorem readAt_snd (valid : cache.store.Valid) (key : K) (now : Instant) :
    (cache.readAt key now).2 = (cache.dossier key).lease now := by
  cases closed : cache.store.closed with
  | true =>
      have seen : (cache.dossier key).closed = true := closed
      rw [readAt_of_closed closed, Dossier.lease, if_pos seen]
  | false =>
      have seen : (cache.dossier key).closed ≠ true := ne_true_of_eq_false closed
      rw [Dossier.lease, if_neg seen, live?_dossier]
      cases looked : cache.store.live? key now with
      | none => rw [readAt_of_miss closed looked, Option.map_none]
      | some entry =>
          obtain ⟨schedule, read, -⟩ := readAt_of_hit valid closed looked
          rw [read, Option.map_some]
          rfl

theorem dossier_touchAt (valid : cache.store.Valid) (name : K) (now : Instant) (key : K) :
    (cache.touchAt name now).1.dossier key =
      if name = key then (cache.dossier key).touch now else cache.dossier key := by
  cases looked : cache.store.live? name now with
  | none =>
      rw [touchAt_of_miss looked, Dossier.touch, live?_dossier]
      split
      · rename_i same
        rw [← same, looked]
      · rfl
  | some entry =>
      obtain ⟨schedule, touched, stored⟩ := touchAt_of_hit valid looked
      rw [touched, Dossier.touch, live?_dossier]
      split
      · rename_i same
        subst same
        rw [looked]
        exact Dossier.ext ((stored name).trans (if_pos rfl)) rfl rfl rfl rfl
      · rename_i different
        exact Dossier.ext ((stored key).trans (if_neg different)) rfl rfl rfl rfl

theorem touchAt_snd (valid : cache.store.Valid) (key : K) (now : Instant) :
    (cache.touchAt key now).2 = ((cache.dossier key).live? now).isSome := by
  rw [live?_dossier]
  cases looked : cache.store.live? key now with
  | none => rw [touchAt_of_miss looked, Option.isSome_none]
  | some entry =>
      obtain ⟨schedule, touched, -⟩ := touchAt_of_hit valid looked
      rw [touched, Option.isSome_some]

theorem dossier_remove (valid : cache.store.Valid) (name key : K) :
    (cache.remove name).1.dossier key =
      if name = key then (cache.dossier key).drop else cache.dossier key := by
  have stored := valid.stored?_remove name key
  obtain ⟨index, schedule, frame⟩ := cache.store.remove_frame name
  have settings : (cache.remove name).1.dossier key =
      { cache.dossier key with entry := (cache.store.remove name).1.stored? key } := by
    simp only [remove, dossier]
    rw [frame]
  rw [settings, stored]
  split
  · rfl
  · rfl

theorem remove_snd (valid : cache.store.Valid) (key : K) :
    (cache.remove key).2 = (cache.dossier key).entry.isSome :=
  (cache.store.remove_snd key).trans (valid.isSome_stored? key).symm

theorem dossier_purge (cache : Cache K V H) (key : K) :
    cache.purge.dossier key = (cache.dossier key).drop :=
  Dossier.ext (cache.store.stored?_purge key) rfl rfl rfl rfl

theorem dossier_close (cache : Cache K V H) (key : K) :
    cache.close.dossier key =
      if (cache.dossier key).closed then cache.dossier key
      else { (cache.dossier key).drop with closed := true } := by
  rw [close_eq]
  change _ = if cache.store.closed = true then _ else _
  split
  · rfl
  · rename_i opened
    rw [dossier_purge, markClosed, if_neg opened]
    rfl

/-! ## Calls -/

theorem dossier_record (cache : Cache K V H) (events : List (Event K V)) (key : K) :
    (cache.record events).dossier key = cache.dossier key := rfl

/-- A section that needs the time changes the dossier at the reading of the clock. -/
theorem dossier_atReading {α : Type} (key : K) {body : Instant → Cache K V H × Except Fault α}
    {dossierBody : Instant → Dossier K V} {concerned : Prop} [Decidable concerned]
    (same : ∀ now, (body now).1.dossier key =
      if concerned then dossierBody now else cache.dossier key) :
    (cache.atReading body).1.dossier key =
      if concerned then (cache.dossier key).atReading cache.clock dossierBody
      else cache.dossier key := by
  unfold atReading Dossier.atReading
  cases cache.clock.now with
  | error fault => exact (ite_self _).symm
  | ok now => exact same now

/-- What a call makes of the dossier of a key. -/
theorem dossier_perform
    (quiet : ∀ handler key value, (script handler key value).isQuiet = true) (depth : Nat)
    (valid : cache.store.Valid) (call : Call K V H) (key : K) :
    (cache.perform script depth call).1.dossier key =
      (cache.dossier key).step key cache.clock call := by
  cases call with
  | set name value lifetime =>
      unfold Dossier.step Dossier.atReading
      cases reading : cache.clock.now with
      | error fault => simp only [perform, atReading, reading, ite_self]
      | ok now =>
          obtain ⟨events, performed⟩ :=
            perform_set_of_quiet quiet depth reading name value lifetime
          rw [performed, dossier_record]
          exact dossier_writeAt valid name value lifetime now key
  | get name =>
      unfold perform
      exact dossier_atReading key fun now => dossier_readAt valid name now key
  | getLease name =>
      unfold perform
      exact dossier_atReading key fun now => dossier_readAt valid name now key
  | touch name =>
      unfold perform
      exact dossier_atReading key fun now => dossier_touchAt valid name now key
  | remove name =>
      unfold perform
      exact dossier_remove valid name key
  | keys =>
      unfold perform atReading
      cases cache.clock.now <;> rfl
  | purge =>
      unfold perform
      exact dossier_purge cache key
  | close =>
      unfold perform
      exact dossier_close cache key
  | _ =>
      unfold perform
      rfl

theorem dossier_planSleep (cache : Cache K V H) (key : K) :
    cache.planSleep.1.dossier key = cache.dossier key :=
  atReading_keeps (P := fun reached => reached.dossier key = cache.dossier key) rfl fun _ => rfl

/-! ## Reports -/

omit [DecidableEq K] in
theorem ofResult_atReading {body : Instant → Cache K V H × Except Fault (Answer K V)}
    {shown : Instant → Report K V (List (K × V))}
    (same : ∀ now, .ofResult (body now).2 = shown now) :
    .ofResult (cache.atReading body).2 = Dossier.reportAt cache.clock shown := by
  unfold atReading Dossier.reportAt
  cases cache.clock.now with
  | error fault => rfl
  | ok now => exact same now

theorem isNew_write (valid : cache.store.Valid) (key : K) (value : V) (lifetime : Lifetime)
    (now : Instant) :
    (cache.store.write key value lifetime now).2.isNew = (cache.dossier key).entry.isNone := by
  have present := valid.isSome_stored? key
  change _ = (cache.store.stored? key).isNone
  rw [Store.write_eq, ← Option.not_isSome, ← Option.not_isSome, present]

/-- A call on a key reports what its dossier tells. -/
theorem report_of_dossier (depth : Nat) (valid : cache.store.Valid) (clock : Clock)
    {call : Call K V H} {key : K} (names : call.name? = some key) :
    some (cache.report script depth clock (.call call)) =
      (cache.dossier key).report clock call := by
  have started : { cache with clock }.store.Valid := valid
  cases call with
  | set name value lifetime =>
      obtain rfl := Option.some.inj names
      simp only [report, Dossier.report, Dossier.reportAt, isNew_write valid]
      rfl
  | get name =>
      obtain rfl := Option.some.inj names
      unfold report perform
      exact congrArg some (ofResult_atReading fun now => by
        simp only [readAt_snd started]
        rfl)
  | getLease name =>
      obtain rfl := Option.some.inj names
      unfold report perform
      exact congrArg some (ofResult_atReading fun now => by
        simp only [readAt_snd started]
        rfl)
  | touch name =>
      obtain rfl := Option.some.inj names
      unfold report perform
      exact congrArg some (ofResult_atReading fun now => by
        simp only [touchAt_snd started]
        rfl)
  | remove name =>
      obtain rfl := Option.some.inj names
      unfold report perform
      simp only [remove_snd started]
      rfl
  | _ => cases names

/-! ## Passes -/

/-- A pass leaves the settings. -/
theorem dossier_sweepAt (valid : cache.store.Valid) (now : Instant) (key : K) :
    (cache.sweepAt now).1.dossier key =
      { cache.dossier key with
        entry := (cache.store.sweep cache.handlers.check now).store.stored? key
        check := ExpiryCheck.about key (cache.store.sweep cache.handlers.check now).check } := by
  obtain ⟨rulings, settles⟩ := valid.sweep_settles cache.handlers.check now
  obtain ⟨index, schedule, frame⟩ := settles.frame
  have settings : (cache.store.sweep cache.handlers.check now).store.sharedLifetime =
        cache.store.sharedLifetime ∧
      (cache.store.sweep cache.handlers.check now).store.skipRenewal = cache.store.skipRenewal ∧
      (cache.store.sweep cache.handlers.check now).store.closed = cache.store.closed := by
    rw [frame]
    exact ⟨rfl, rfl, rfl⟩
  exact Dossier.ext rfl settings.1 settings.2.1 settings.2.2 rfl

end Cache

end ExpiringCache
