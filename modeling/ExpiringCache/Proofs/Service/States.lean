import ExpiringCache.Proofs.Cache.Alike
import ExpiringCache.Proofs.Cache.SharedLifetime
import ExpiringCache.Service.App

/-!
# The states of a service

A request makes at most one change to the cache of a service, and none that
sets the shared lifetime, so the lifetime of the settings stays in force.
-/

namespace ExpiringCache.App

variable {cache : TextCache}

/-- The state is the same, or what one change made of it that does not set the shared lifetime. -/
def ChangesOnce (cache reached : TextCache) : Prop :=
  reached = cache ∨ ∃ change : Change String String Empty, change.setsLifetime = false ∧
    reached = cache.after change

/-- No handler is told of a new entry, since there is none. -/
theorem writeAt_snd (cache : TextCache) (key value : String) (lifetime : Lifetime)
    (now : Instant) : (cache.writeAt key value lifetime now).2 = none := by
  cases (cache.writeAt key value lifetime now).2 with
  | none => rfl
  | some handler => exact handler.elim

theorem changesOnce_atReading {α : Type} {body : Instant → TextCache × Except Fault α}
    (each : ∀ now, ChangesOnce cache (body now).1) : ChangesOnce cache (cache.atReading body).1 :=
  Cache.atReading_keeps (.inl rfl) each

theorem perform_set_at {now : Instant} (reads : cache.clock.now = .ok now) (key value : String)
    (lifetime : Lifetime) :
    perform (.set key value lifetime) cache =
      ((cache.writeAt key value lifetime now).1, .ok .done) :=
  Cache.perform_set_of_none _ _ reads (writeAt_snd cache key value lifetime now)

theorem changesOnce_perform_set (cache : TextCache) (key value : String) (lifetime : Lifetime) :
    ChangesOnce cache (perform (.set key value lifetime) cache).1 := by
  cases reads : cache.clock.now with
  | error fault =>
      rw [perform, Cache.perform_set_of_fault _ _ reads]
      exact .inl rfl
  | ok now =>
      rw [perform_set_at reads]
      exact .inr ⟨.client (.write key value lifetime now), rfl, rfl⟩

theorem changesOnce_put (cache : TextCache) (request : WriteRequest) :
    ChangesOnce cache (put cache request).1 := by
  unfold put
  split
  · exact .inl rfl
  · have once := changesOnce_perform_set cache request.key request.value request.lifetime
    split <;> next performed => rwa [performed] at once

theorem changesOnce_get (cache : TextCache) (key : String) :
    ChangesOnce cache (get cache key).1 := by
  have once : ChangesOnce cache (perform (.getLease key) cache).1 := by
    unfold perform Cache.perform
    exact changesOnce_atReading fun now => .inr ⟨.client (.read key now), rfl, rfl⟩
  unfold get
  split <;> next performed => rwa [performed] at once

theorem changesOnce_delete (cache : TextCache) (key : String) :
    ChangesOnce cache (delete cache key).1 := by
  have once : ChangesOnce cache (perform (.remove key) cache).1 := by
    unfold perform Cache.perform
    exact .inr ⟨.client (.remove key), rfl, rfl⟩
  unfold delete
  split <;> next performed => rwa [performed] at once

theorem changesOnce_receive (cache : TextCache) (request : HttpRequest) :
    ChangesOnce cache (receive cache request).1 := by
  unfold receive
  split
  · exact .inl rfl
  split
  · exact .inl rfl
  split
  · exact changesOnce_put cache _
  · exact .inl rfl

theorem changesOnce_withKey (encodedKey : String)
    {act : TextCache → String → TextCache × HttpResponse}
    (each : ∀ key, ChangesOnce cache (act cache key).1) :
    ChangesOnce cache (withKey cache encodedKey act).1 := by
  unfold withKey
  split
  · exact each _
  · exact .inl rfl

theorem changesOnce_answer (timestamp : String) (cache : TextCache) (resource : Resource)
    (request : HttpRequest) : ChangesOnce cache (answer timestamp cache resource request).1 := by
  unfold answer
  cases resource with
  | set =>
      simp only
      split
      · exact changesOnce_receive cache request
      · exact .inl rfl
  | get key =>
      simp only
      split
      · exact changesOnce_withKey key (changesOnce_get cache)
      · exact .inl rfl
  | del key =>
      simp only
      split
      · exact changesOnce_withKey key (changesOnce_delete cache)
      · exact .inl rfl
  | stats =>
      simp only
      split <;> exact .inl rfl
  | health =>
      simp only
      split <;> exact .inl rfl

/-- A request makes at most one change. -/
theorem changesOnce_handle (timestamp : String) (cache : TextCache) (request : HttpRequest) :
    ChangesOnce cache (handle timestamp cache request).1 := by
  unfold handle
  simp only
  split
  · exact .inl rfl
  split
  · exact changesOnce_answer timestamp cache _ request
  · exact .inl rfl

/--
The states in which the cache of a service is found.  Besides requests there are
the steps of the sweeper, moves of the clock and the sections of any other
client that does not set the shared lifetime.
-/
inductive Reached (clock : Clock) (settings : Settings) : TextCache → Prop
  | start : Reached clock settings (cacheOf clock settings)
  | request (timestamp : String) (request : HttpRequest) {cache : TextCache} :
      Reached clock settings cache → Reached clock settings (handle timestamp cache request).1
  | change {change : Change String String Empty} {cache : TextCache} :
      change.setsLifetime = false → Reached clock settings cache →
      Reached clock settings (cache.after change)

/-- The lifetime of the settings is in force, and the store is sound. -/
def KeepsSettings (settings : Settings) (cache : TextCache) : Prop :=
  cache.store.Valid ∧
    cache.store.sharedLifetime = Duration.positive? (some settings.sharedLifetime)

theorem KeepsSettings.after {settings : Settings} (keeps : KeepsSettings settings cache)
    {change : Change String String Empty} (mild : change.setsLifetime = false) :
    KeepsSettings settings (cache.after change) := by
  obtain ⟨valid, inForce⟩ := keeps
  refine ⟨Cache.valid_after valid change, ?_⟩
  rw [Cache.sharedLifetime_after valid "" mild, inForce]

theorem Reached.keepsSettings {clock : Clock} {settings : Settings}
    (reached : Reached clock settings cache) : KeepsSettings settings cache := by
  induction reached with
  | start => exact ⟨Cache.valid_create clock _ _ _, rfl⟩
  | request timestamp request before ih =>
      rcases changesOnce_handle timestamp _ request with same | ⟨change, mild, same⟩
      · rw [same]
        exact ih
      · rw [same]
        exact ih.after mild
  | change mild before ih => exact ih.after mild

end ExpiringCache.App
