import ExpiringCache.Proofs.Cache.Overtaking
import ExpiringCache.Proofs.Cache.ReadPaths
import ExpiringCache.Proofs.Service.States

/-!
# Storing and reading over HTTP

A pair that a request stores is what a request for its key reads at the same
time, with the lifetime that the request and the settings give it.
-/

namespace ExpiringCache

/-! ## A write and a read at one time -/

theorem Dossier.keptOnRead_renewed {K V : Type} (dossier : Dossier K V) (entry : Entry K V)
    (now : Instant) :
    dossier.keptOnRead (entry.renew now dossier.sharedLifetime) now =
      entry.renew now dossier.sharedLifetime := by
  unfold keptOnRead
  split
  · rfl
  · exact entry.renew_renew now now _ _

/-- What is written is read at once, with its whole lifetime if that ends in time. -/
theorem Dossier.lease_write {K V : Type} [DecidableEq K] {dossier : Dossier K V}
    (opened : dossier.closed = false) (key : K) (value : V) (lifetime : Lifetime)
    (now : Instant) :
    (dossier.write key value lifetime now).lease now =
      some (value, (lifetime.resolve dossier.sharedLifetime).filter
        fun length => (now.add? length).isSome) := by
  let entry : Entry K V := { key, value, lifetime }
  have fresh : (entry.renew now dossier.sharedLifetime).isExpired now = false :=
    entry.isExpired_renew now dossier.sharedLifetime
  have live : (dossier.write key value lifetime now).live? now =
      some (entry.renew now dossier.sharedLifetime) := by
    rw [write, if_neg (ne_true_of_eq_false opened), live?, Option.filter_some, fresh]
    rfl
  have frame : (dossier.write key value lifetime now).closed = false ∧
      (dossier.write key value lifetime now).keptOnRead = dossier.keptOnRead := by
    rw [write, if_neg (ne_true_of_eq_false opened)]
    exact ⟨opened, rfl⟩
  obtain ⟨still, same⟩ := frame
  rw [lease, if_neg (ne_true_of_eq_false still), live, Option.map_some, same, keptOnRead_renewed,
    entry.remaining_renew]
  rfl

theorem Cache.readAt_writeAt {K V H : Type} [DecidableEq K] {cache : Cache K V H}
    (valid : cache.store.Valid) (opened : cache.store.closed = false) (key : K) (value : V)
    (lifetime : Lifetime) (now : Instant) :
    ((cache.writeAt key value lifetime now).1.readAt key now).2 =
      some (value, (lifetime.resolve cache.store.sharedLifetime).filter
        fun length => (now.add? length).isSome) := by
  have validAfter : (cache.writeAt key value lifetime now).1.store.Valid :=
    valid_after valid (.client (.write key value lifetime now))
  rw [readAt_snd validAfter, dossier_writeAt valid, if_pos rfl]
  exact Dossier.lease_write opened key value lifetime now

/-! ## What a request asks for -/

namespace WriteRequest

/-- The request asks for something that the service does not store. -/
def OutOfBounds (request : WriteRequest) : Prop :=
  request.key = "" ∨ 256 < request.key.utf8ByteSize ∨
    ∃ seconds, request.ttl = some seconds ∧ 315360000 < seconds

theorem objection?_eq_none_iff {request : WriteRequest} :
    request.objection? = none ↔ ¬ request.OutOfBounds := by
  have wish : request.ttl.any ((maxSeconds : Int) < ·) = true ↔
      ∃ seconds, request.ttl = some seconds ∧ 315360000 < seconds := by
    cases request.ttl with
    | none => simp
    | some seconds =>
        constructor
        · intro large
          exact ⟨seconds, rfl, of_decide_eq_true large⟩
        · rintro ⟨other, same, large⟩
          obtain rfl := Option.some.inj same
          exact decide_eq_true large
  unfold objection? OutOfBounds maxKeyBytes
  rw [← wish]
  by_cases empty : request.key = ""
  · simp [empty]
  by_cases long : 256 < request.key.utf8ByteSize
  · simp [empty, long]
  · simp [empty, long]

end WriteRequest

/--
The seconds that an entry lives if it is stored with the given wish: none if it
lives for ever.
-/
def Settings.seconds? (settings : Settings) (ttl : Option Int) : Option Nat :=
  if ttl.getD 0 < 0 then none
  else
    let seconds := if ttl.getD 0 = 0 then settings.defaultTtl else (ttl.getD 0).toNat
    if seconds = 0 then none else some seconds

theorem Duration.ofSeconds_ne_zero {seconds : Nat} (positive : seconds ≠ 0) :
    Duration.ofSeconds seconds ≠ .zero := by
  intro same
  have nanos : seconds * nanosPerSecond = 0 := congrArg Duration.nanos same
  rcases Nat.mul_eq_zero.mp nanos with zero | zero
  · exact positive zero
  · cases zero

theorem Duration.positive?_ofSeconds (seconds : Nat) :
    Duration.positive? (some (.ofSeconds seconds)) =
      (if seconds = 0 then none else some seconds).map Duration.ofSeconds := by
  by_cases zero : seconds = 0
  · rw [if_pos zero, zero]
    rfl
  · rw [if_neg zero]
    exact Duration.positive?_eq_some_iff.mpr ⟨rfl, ofSeconds_ne_zero zero⟩

theorem Duration.positive?_positive? (setting : Option Duration) :
    Duration.positive? (Duration.positive? setting) = Duration.positive? setting := by
  simp [positive?]

theorem WriteRequest.resolve_lifetime (settings : Settings) {request : WriteRequest}
    (accepted : ¬ request.OutOfBounds) :
    request.lifetime.resolve (Duration.positive? (some settings.sharedLifetime)) =
      (settings.seconds? request.ttl).map Duration.ofSeconds := by
  have inherited : Lifetime.inherited.resolve
      (Duration.positive? (some settings.sharedLifetime)) =
        (if settings.defaultTtl = 0 then none else some settings.defaultTtl).map
          Duration.ofSeconds := by
    rw [Lifetime.resolve, Duration.positive?_positive?]
    exact Duration.positive?_ofSeconds settings.defaultTtl
  unfold lifetime Settings.seconds?
  cases wish : request.ttl with
  | none => exact inherited
  | some seconds =>
      simp only [Option.getD_some]
      by_cases zero : seconds = 0
      · subst zero
        exact inherited
      by_cases negative : seconds < 0
      · rw [if_neg zero, if_pos negative, if_pos negative]
        rfl
      · have within : seconds ≤ 315360000 := by
          apply Int.not_lt.mp
          intro large
          exact accepted (.inr (.inr ⟨seconds, wish, large⟩))
        have bounded : seconds.toNat ≤ maxSeconds := by
          have most : maxSeconds = 315360000 := rfl
          omega
        have positive : seconds.toNat ≠ 0 := by omega
        rw [if_neg zero, if_neg negative, if_neg negative, if_neg zero, if_neg positive,
          Nat.min_eq_left bounded]
        exact Lifetime.resolve_lasting (Duration.ofSeconds_ne_zero positive) _

/-! ## Over HTTP -/

namespace App

variable {cache : TextCache} {now : Instant}

theorem put_of_objection {request : WriteRequest} (outOfBounds : request.OutOfBounds) :
    (put cache request).1 = cache ∧ (put cache request).2.status = 400 := by
  cases objected : request.objection? with
  | none => exact absurd outOfBounds (WriteRequest.objection?_eq_none_iff.mp objected)
  | some objection =>
      rw [put, objected]
      exact ⟨rfl, rfl⟩

theorem put_of_accepted (reads : cache.clock.now = .ok now) {request : WriteRequest}
    (accepted : ¬ request.OutOfBounds) :
    put cache request =
      ((cache.writeAt request.key request.value request.lifetime now).1,
        .json 200 (.stored request.key)) := by
  rw [put, WriteRequest.objection?_eq_none_iff.mpr accepted, perform_set_at reads]

theorem get_of_found (reads : cache.clock.now = .ok now) {key value : String}
    {remaining : Option Duration}
    (found : (cache.readAt key now).2 = some (value, remaining)) :
    (get cache key).2 = .json 200
      (.found key value (remaining.map fun left => min left.millis maxMillis)) := by
  have performed : perform (.getLease key) cache =
      ((cache.readAt key now).1, .ok (.lease (some (value, remaining)))) := by
    rw [← found]
    exact Cache.perform_getLease_at _ _ reads key
  rw [get, performed]

/-- The milliseconds shown for a lifetime are a thousand to the second, as far as they fit. -/
theorem shown_seconds (seconds : Option Nat) (now : Instant) :
    ((seconds.map Duration.ofSeconds).filter fun length => (now.add? length).isSome).map
        (fun left => min left.millis maxMillis) =
      (seconds.filter fun seconds => (now.add? (.ofSeconds seconds)).isSome).map
        fun seconds => min (1000 * seconds) (Nat.pow 2 64 - 1) := by
  cases seconds with
  | none => rfl
  | some seconds =>
      have millis : (Duration.ofSeconds seconds).millis = 1000 * seconds := by
        change seconds * 1000000000 / 1000000 = 1000 * seconds
        omega
      rw [Option.map_some, Option.filter_some, Option.filter_some]
      split
      · rw [Option.map_some, Option.map_some, millis]
        rfl
      · rfl

/--
What is put is got.  A request to store is refused exactly if its key is empty
or longer than 256 bytes or it wishes for more than 315360000 seconds, and then
leaves the whole cache as it was.  Any other is accepted, and a request for its
key at the same time is answered with its value and the time it has left: none
for a negative wish, none without a lifetime, none if the lifetime ends beyond
the last instant, and else a thousand milliseconds to the second, as far as they
fit.
-/
theorem put_is_got (clock : Clock) (settings : Settings) {cache : TextCache}
    (reached : Reached clock settings cache) (opened : cache.store.closed = false)
    {now : Instant} (reads : cache.clock.now = .ok now) (request : WriteRequest) :
    ((put cache request).2.status = 400 ↔ request.OutOfBounds) ∧
      (request.OutOfBounds → (put cache request).1 = cache) ∧
      (¬ request.OutOfBounds →
        (put cache request).2 = .json 200 (.stored request.key) ∧
        (get (put cache request).1 request.key).2 = .json 200
          (.found request.key request.value
            (((settings.seconds? request.ttl).filter fun seconds =>
              (now.add? (.ofSeconds seconds)).isSome).map fun seconds =>
                min (1000 * seconds) (Nat.pow 2 64 - 1)))) := by
  obtain ⟨valid, inForce⟩ := reached.keepsSettings
  refine ⟨⟨?_, fun outOfBounds => (put_of_objection outOfBounds).2⟩,
    fun outOfBounds => (put_of_objection outOfBounds).1, ?_⟩
  · intro refused
    apply Classical.byContradiction
    intro accepted
    rw [put_of_accepted reads accepted] at refused
    cases refused
  · intro accepted
    rw [put_of_accepted reads accepted]
    refine ⟨rfl, ?_⟩
    have still : (cache.writeAt request.key request.value request.lifetime now).1.clock.now =
        .ok now := by
      rw [Cache.clock_writeAt, reads]
    have found := Cache.readAt_writeAt valid opened request.key request.value request.lifetime now
    rw [get_of_found still found, inForce, request.resolve_lifetime settings accepted,
      shown_seconds]

/-- The settings of a service whose reads leave lifetimes alone. -/
def restfulSettings : Settings := { defaultTtl := 300, skipRenewal := true }

def foreverCache : TextCache :=
  (cacheOf {} restfulSettings).after (.client (.write "key" "old" .unlimited ⟨5⟩))

theorem foreverCache_put_is_got :
    let request : WriteRequest := { key := "key", value := "new", ttl := none }
    Reached {} restfulSettings foreverCache ∧ foreverCache.store.closed = false ∧
      foreverCache.clock.now = .ok ⟨0⟩ ∧ ¬ request.OutOfBounds ∧
      (get (put foreverCache request).1 "key").2 =
        .json 200 (.found "key" "new" (some 300000)) := by
  intro request
  have reached : Reached {} restfulSettings foreverCache := .change rfl .start
  have opened : foreverCache.store.closed = false := rfl
  have reads : foreverCache.clock.now = .ok ⟨0⟩ := by decide
  have accepted : ¬ request.OutOfBounds := by
    rintro (empty | long | ⟨seconds, wish, -⟩)
    · exact absurd empty (by decide)
    · exact absurd long (by decide)
    · cases wish
  obtain ⟨-, -, answered⟩ := put_is_got {} restfulSettings reached opened reads request
  have lifetime : restfulSettings.seconds? request.ttl = some 300 := rfl
  have inTime : (Instant.add? ⟨0⟩ (.ofSeconds 300)).isSome = true := by decide +kernel
  have read := (answered accepted).2
  rw [lifetime, Option.filter_some, if_pos inTime] at read
  exact ⟨reached, opened, reads, accepted, read⟩

end App

end ExpiringCache
