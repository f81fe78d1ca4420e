import ExpiringCache.Proofs.Cache.Invariant
import ExpiringCache.Proofs.Cache.Outcome
import ExpiringCache.Proofs.Cache.Quiet
import ExpiringCache.Proofs.Store.SteadyPass

/-!
# Outlooks

What a reader can tell of a store at an instant: the entries that have not
expired, the settings, and how often it was read.  The outlook after a call
depends only on the outlook before it, and the sweeper does not change it.
-/

namespace ExpiringCache

/-- The counters of look-ups alone. -/
def Counters.ofReads (counters : Counters) : Counters :=
  { counters with inserted := 0, evicted := 0 }

/-- What a clock would show if it could show every instant. -/
def Clock.instant (clock : Clock) : Instant := ⟨clock.start.nanos + clock.elapsed.nanos⟩

theorem Clock.instant_of_now {clock : Clock} {now : Instant} (reading : clock.now = .ok now) :
    clock.instant = now :=
  Instant.ext (Clock.now_eq_ok_iff.mp reading).1

@[ext] structure Outlook (K V : Type) where
  live : K → Option (Entry K V)
  sharedLifetime : Option Duration
  skipRenewal : Bool
  closed : Bool
  /-- The counters of look-ups; the others are left at zero. -/
  counters : Counters

namespace Outlook

variable {K V H : Type} [DecidableEq K]

/-- The outlook at a later instant, if nothing happens until then. -/
def age (outlook : Outlook K V) (now : Instant) : Outlook K V :=
  { outlook with live := fun key => (outlook.live key).filter (!·.isExpired now) }

def put (outlook : Outlook K V) (key : K) (left : Option (Entry K V)) : Outlook K V :=
  { outlook with live := fun name => if key = name then left else outlook.live name }

def clear (outlook : Outlook K V) : Outlook K V :=
  { outlook with live := fun _ => none }

def keptOnRead (outlook : Outlook K V) (entry : Entry K V) (now : Instant) : Entry K V :=
  if outlook.skipRenewal then entry else entry.renew now outlook.sharedLifetime

def read (outlook : Outlook K V) (key : K) (now : Instant) : Outlook K V :=
  if outlook.closed then outlook
  else
    match outlook.live key with
    | none => { outlook with counters := outlook.counters.countMiss }
    | some entry =>
        { outlook.put key (some (outlook.keptOnRead entry now)) with
          counters := outlook.counters.countHit }

def lease (outlook : Outlook K V) (key : K) (now : Instant) : Option (V × Option Duration) :=
  if outlook.closed then none
  else (outlook.live key).map fun entry =>
    (entry.value, (outlook.keptOnRead entry now).remaining now)

def touch (outlook : Outlook K V) (key : K) (now : Instant) : Outlook K V :=
  match outlook.live key with
  | none => outlook
  | some entry => outlook.put key (some (entry.renew now outlook.sharedLifetime))

def write (outlook : Outlook K V) (key : K) (value : V) (lifetime : Lifetime) (now : Instant) :
    Outlook K V :=
  if outlook.closed then outlook
  else
    outlook.put key
      (some (({ key, value, lifetime } : Entry K V).renew now outlook.sharedLifetime))

def atReading (outlook : Outlook K V) (clock : Clock) (body : Instant → Outlook K V) :
    Outlook K V :=
  match clock.now with
  | .error _ => outlook
  | .ok now => body now

def step (outlook : Outlook K V) (clock : Clock) : Call K V H → Outlook K V
  | .set key value lifetime => outlook.atReading clock (outlook.write key value lifetime)
  | .get key => outlook.atReading clock (outlook.read key)
  | .getLease key => outlook.atReading clock (outlook.read key)
  | .touch key => outlook.atReading clock (outlook.touch key)
  | .remove key => outlook.put key none
  | .setSharedLifetime duration =>
      { outlook with sharedLifetime := Duration.positive? (some duration) }
  | .skipRenewal skip => { outlook with skipRenewal := skip }
  | .purge => outlook.clear
  | .close => if outlook.closed then outlook else { outlook.clear with closed := true }
  | _ => outlook

omit [DecidableEq K] in
/-- What has expired early has also expired late. -/
theorem filter_filter_live (stored : Option (Entry K V)) {early late : Instant}
    (later : early ≤ late) :
    (stored.filter (!·.isExpired early)).filter (!·.isExpired late) =
      stored.filter (!·.isExpired late) := by
  rw [Option.filter_filter]
  congr 1
  funext entry
  cases fresh : entry.isExpired late with
  | true => exact Bool.and_false _
  | false =>
      rw [Entry.isExpired_of_later later fresh]
      rfl

omit [DecidableEq K] in
theorem age_age (outlook : Outlook K V) {early late : Instant} (later : early ≤ late) :
    (outlook.age early).age late = outlook.age late := by
  simp only [age, filter_filter_live _ later]

end Outlook

namespace Store

variable {K V : Type} [DecidableEq K] {store : Store K V}

def outlook (store : Store K V) (now : Instant) : Outlook K V where
  live key := store.live? key now
  sharedLifetime := store.sharedLifetime
  skipRenewal := store.skipRenewal
  closed := store.closed
  counters := store.counters.ofReads

theorem outlook_later (store : Store K V) {early late : Instant} (later : early ≤ late) :
    store.outlook late = (store.outlook early).age late := by
  simp only [outlook, Outlook.age, live?, Outlook.filter_filter_live _ later]

theorem outlook_age (store : Store K V) (now : Instant) :
    store.outlook now = (store.outlook now).age now :=
  store.outlook_later (Instant.le_iff.mpr (Nat.le_refl _))

/-- A change of one key that leaves no expired entry under it. -/
theorem live?_of_change {other : Store K V} {key : K} {left : Option (Entry K V)}
    (now : Instant)
    (stored : ∀ name, other.stored? name = if key = name then left else store.stored? name)
    (fresh : ∀ entry ∈ left, entry.isExpired now = false) (name : K) :
    other.live? name now = if key = name then left else store.live? name now := by
  rw [live?, stored]
  split
  · cases left with
    | none => rfl
    | some entry => simp [fresh entry rfl]
  · rfl

/-- A pass without vetoes drops only what no reader can see. -/
theorem Valid.outlook_sweep (valid : store.Valid) {check : Option (ExpiryCheck K V)}
    (permissive : ExpiryCheck.Permissive check) (now : Instant) :
    (store.sweep check now).store.outlook now = store.outlook now := by
  obtain ⟨rulings, settles⟩ := valid.sweep_settles check now
  have stored := settles.stored?_eq valid (valid.sweep check now)
    (settles.steady_of_permissive permissive)
  have live (key : K) : (store.sweep check now).store.live? key now = store.live? key now := by
    simp only [live?, stored]
    cases store.stored? key with
    | none => rfl
    | some entry =>
        rw [Option.bind_some, Entry.settled?, permissive.permits, if_pos rfl]
        cases expired : entry.isExpired now with
        | true => simp [Option.filter_some, expired]
        | false => simp [Option.filter_some, expired]
  obtain ⟨index, schedule, frame⟩ := settles.frame
  rw [frame] at live ⊢
  exact Outlook.ext (funext live) rfl rfl rfl rfl

theorem permissive_sweep (valid : store.Valid) {check : Option (ExpiryCheck K V)}
    (permissive : ExpiryCheck.Permissive check) (now : Instant) :
    ExpiryCheck.Permissive (store.sweep check now).check := by
  obtain ⟨rulings, settles⟩ := valid.sweep_settles check now
  rw [settles.check_eq]
  exact permissive.askedAll _

end Store

/-! ## Calls -/

namespace Cache

variable {K V H : Type} [DecidableEq K] {cache : Cache K V H} {now : Instant}

theorem outlook_writeAt (valid : cache.store.Valid) (key : K) (value : V) (lifetime : Lifetime)
    (now : Instant) :
    (cache.writeAt key value lifetime now).1.store.outlook now =
      (cache.store.outlook now).write key value lifetime now := by
  rw [store_writeAt, Outlook.write]
  change _ = if cache.store.closed = true then _ else _
  split
  · rfl
  · have live := Store.live?_of_change now (valid.stored?_write key value lifetime now)
      (by rintro _ ⟨⟩; exact Entry.isExpired_renew _ now cache.store.sharedLifetime)
    obtain ⟨index, schedule, frame⟩ := cache.store.write_frame key value lifetime now
    rw [frame] at live ⊢
    refine Outlook.ext (funext live) rfl rfl rfl ?_
    change Counters.ofReads (if _ then _ else _) = cache.store.counters.ofReads
    split
    · rfl
    · rfl

theorem outlook_readAt (valid : cache.store.Valid) (key : K) (now : Instant) :
    (cache.readAt key now).1.store.outlook now = (cache.store.outlook now).read key now ∧
      (cache.readAt key now).2 = (cache.store.outlook now).lease key now := by
  cases closed : cache.store.closed with
  | true =>
      have seen : (cache.store.outlook now).closed = true := closed
      rw [readAt_of_closed closed, Outlook.read, Outlook.lease, if_pos seen, if_pos seen]
      exact ⟨rfl, rfl⟩
  | false =>
      have seen : (cache.store.outlook now).closed ≠ true := ne_true_of_eq_false closed
      cases looked : cache.store.live? key now with
      | none =>
          have here : (cache.store.outlook now).live key = none := looked
          rw [readAt_of_miss closed looked, Outlook.read, Outlook.lease, if_neg seen, if_neg seen,
            here]
          exact ⟨rfl, rfl⟩
      | some entry =>
          have here : (cache.store.outlook now).live key = some entry := looked
          have fresh : (cache.keptOnRead entry now).isExpired now = false := by
            unfold keptOnRead
            split
            · exact (Store.live?_eq_some_iff.mp looked).2
            · exact entry.isExpired_renew now cache.store.sharedLifetime
          obtain ⟨schedule, read, stored⟩ := readAt_of_hit valid closed looked
          have live := Store.live?_of_change now stored (by rintro _ ⟨⟩; exact fresh)
          rw [read, Outlook.read, Outlook.lease, if_neg seen, if_neg seen, here]
          refine ⟨?_, rfl⟩
          exact Outlook.ext (funext live) rfl rfl rfl rfl

theorem outlook_touchAt (valid : cache.store.Valid) (key : K) (now : Instant) :
    (cache.touchAt key now).1.store.outlook now = (cache.store.outlook now).touch key now ∧
      (cache.touchAt key now).2 = ((cache.store.outlook now).live key).isSome := by
  cases looked : cache.store.live? key now with
  | none =>
      have here : (cache.store.outlook now).live key = none := looked
      rw [touchAt_of_miss looked, Outlook.touch, here]
      exact ⟨rfl, rfl⟩
  | some entry =>
      have here : (cache.store.outlook now).live key = some entry := looked
      obtain ⟨schedule, touched, stored⟩ := touchAt_of_hit valid looked
      have live := Store.live?_of_change now stored
        (by rintro _ ⟨⟩; exact entry.isExpired_renew now cache.store.sharedLifetime)
      rw [touched, Outlook.touch, here]
      exact ⟨Outlook.ext (funext live) rfl rfl rfl rfl, rfl⟩

theorem outlook_remove (valid : cache.store.Valid) (key : K) (now : Instant) :
    (cache.remove key).1.store.outlook now = (cache.store.outlook now).put key none := by
  have live := Store.live?_of_change now (valid.stored?_remove key)
    (fun _ absent => nomatch absent)
  obtain ⟨index, schedule, frame⟩ := cache.store.remove_frame key
  change (cache.store.remove key).1.outlook now = _
  rw [frame] at live ⊢
  exact Outlook.ext (funext live) rfl rfl rfl rfl

theorem outlook_purge (store : Store K V) (now : Instant) :
    store.purge.outlook now = (store.outlook now).clear := by
  have live (key : K) : store.purge.live? key now = none := by
    rw [Store.live?, Store.stored?_purge]
    rfl
  exact Outlook.ext (funext live) rfl rfl rfl rfl

theorem outlook_close (cache : Cache K V H) (now : Instant) :
    cache.close.store.outlook now =
      if (cache.store.outlook now).closed then cache.store.outlook now
      else { (cache.store.outlook now).clear with closed := true } := by
  rw [close_eq]
  change _ = if cache.store.closed = true then _ else _
  split
  · rfl
  · rename_i opened
    rw [markClosed, if_neg opened]
    exact outlook_purge _ now

/-- A section that needs the time shows at the reading of the clock. -/
theorem outlook_atReading {α : Type} {body : Instant → Cache K V H × Except Fault α}
    {outlookBody : Instant → Outlook K V}
    (same : (body cache.clock.instant).1.store.outlook cache.clock.instant =
      outlookBody cache.clock.instant) :
    (cache.atReading body).1.store.outlook cache.clock.instant =
      (cache.store.outlook cache.clock.instant).atReading cache.clock outlookBody := by
  unfold atReading Outlook.atReading
  cases reading : cache.clock.now with
  | error fault => rfl
  | ok now =>
      obtain rfl := Clock.instant_of_now reading
      exact same

/-- What a call makes of the outlook. -/
theorem outlook_perform {script : H → K → V → Script K V H}
    (quiet : ∀ handler key value, (script handler key value).isQuiet = true) (depth : Nat)
    (valid : cache.store.Valid) (call : Call K V H) :
    (cache.perform script depth call).1.store.outlook cache.clock.instant =
      (cache.store.outlook cache.clock.instant).step cache.clock call := by
  cases call with
  | set key value lifetime =>
      unfold Outlook.step Outlook.atReading
      cases reading : cache.clock.now with
      | error fault =>
          rw [perform, atReading, reading]
      | ok now =>
          obtain rfl := Clock.instant_of_now reading
          obtain ⟨events, performed⟩ := perform_set_of_quiet quiet depth reading key value lifetime
          rw [performed]
          exact outlook_writeAt valid key value lifetime cache.clock.instant
  | get key =>
      unfold perform
      exact outlook_atReading (outlook_readAt valid key cache.clock.instant).1
  | getLease key =>
      unfold perform
      exact outlook_atReading (outlook_readAt valid key cache.clock.instant).1
  | touch key =>
      unfold perform
      exact outlook_atReading (outlook_touchAt valid key cache.clock.instant).1
  | keys =>
      unfold perform atReading
      cases cache.clock.now <;> rfl
  | remove key =>
      unfold perform
      exact outlook_remove valid key cache.clock.instant
  | purge =>
      unfold perform
      exact outlook_purge cache.store cache.clock.instant
  | close =>
      unfold perform
      exact outlook_close cache cache.clock.instant
  | _ =>
      unfold perform
      rfl

end Cache

end ExpiringCache
