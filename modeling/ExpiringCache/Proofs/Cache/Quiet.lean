import ExpiringCache.Proofs.Cache.Section

/-!
# Quiet handlers

Handlers that make no calls leave notes on the record and nothing else, whether
they fail or not.
-/

namespace ExpiringCache

namespace Cache

variable {K V H : Type}

theorem record_nil (cache : Cache K V H) : cache.record [] = cache := by
  rw [record, List.append_nil]

theorem record_record (cache : Cache K V H) (early late : List (Event K V)) :
    (cache.record early).record late = cache.record (early ++ late) := by
  simp only [record, List.append_assoc]

end Cache

theorem Script.run_of_quiet {K V H : Type} {script : Script K V H} (quiet : script.isQuiet = true)
    (failure : Fault)
    (perform : Call K V H → Cache K V H → Cache K V H × Except Fault (Answer K V))
    (cache : Cache K V H) :
    ∃ events, (script.run failure perform cache).1 = cache.record events := by
  induction script generalizing cache with
  | done => exact ⟨[], cache.record_nil.symm⟩
  | fail => exact ⟨[], cache.record_nil.symm⟩
  | note event rest ih =>
      obtain ⟨events, ran⟩ := ih quiet (cache.record [event])
      exact ⟨[event] ++ events, ran.trans (cache.record_record [event] events)⟩
  | call request next ih => cases quiet

namespace Cache

variable {K V H : Type} [DecidableEq K] {script : H → K → V → Script K V H}

/-- Up to the record, a write is its section. -/
theorem perform_set_of_quiet
    (quiet : ∀ handler key value, (script handler key value).isQuiet = true) (depth : Nat)
    {cache : Cache K V H} {now : Instant} (reading : cache.clock.now = .ok now) (key : K)
    (value : V) (lifetime : Lifetime) :
    ∃ events, (cache.perform script depth (.set key value lifetime)).1 =
      (cache.writeAt key value lifetime now).1.record events := by
  rw [perform, atReading, reading]
  cases wrote : cache.writeAt key value lifetime now with
  | mk written told =>
      cases told with
      | none => exact ⟨[], by simp only [wrote, record_nil]⟩
      | some handler =>
          cases depth with
          | zero => exact ⟨[], by simp only [wrote, record_nil]⟩
          | succ inner =>
              obtain ⟨events, ran⟩ := Script.run_of_quiet (quiet handler key value)
                .insertHandlerFailed (perform script inner) (written.record [.inserted key value])
              refine ⟨[.inserted key value] ++ events, ?_⟩
              simp only [wrote]
              exact ran.trans (written.record_record [.inserted key value] events)

/-- A handler whose scripts only leave records leaves only records of a whole batch. -/
theorem announceEvicted_of_recording (depth : Nat) {handler : H}
    (records : ∀ key value (cache : Cache K V H), ∃ events,
      ((script handler key value).run .evictHandlerFailed (perform script depth) cache).1 =
        cache.record events)
    (batch : List (K × V)) (cache : Cache K V H) :
    ∃ events, cache.announceEvicted script depth handler batch = cache.record events := by
  induction batch generalizing cache with
  | nil => exact ⟨[], cache.record_nil.symm⟩
  | cons pair rest ih =>
      obtain ⟨key, value⟩ := pair
      obtain ⟨noted, ran⟩ := records key value (cache.record [.evicted key value])
      obtain ⟨events, announced⟩ := ih (cache.record ([.evicted key value] ++ noted))
      refine ⟨[.evicted key value] ++ noted ++ events, ?_⟩
      rw [announceEvicted, ran, record_record, announced, record_record]

/-- Up to the record, a pass is its section. -/
theorem sweep_of_quiet
    (quiet : ∀ handler key value, (script handler key value).isQuiet = true) (depth : Nat)
    {cache : Cache K V H} {now : Instant} (reading : cache.clock.now = .ok now) :
    ∃ events, (cache.sweep script depth).1 = (cache.sweepAt now).1.record events := by
  rw [sweep, atReading, reading]
  cases told : (cache.sweepAt now).1.handlers.onEvict with
  | none => exact ⟨[], by simp only [told, record_nil]⟩
  | some handler =>
      obtain ⟨events, announced⟩ := announceEvicted_of_recording depth
        (fun key value => Script.run_of_quiet (quiet handler key value) .evictHandlerFailed
          (perform script depth))
        (cache.sweepAt now).2 (cache.sweepAt now).1
      refine ⟨events, ?_⟩
      simp only [told]
      exact announced

theorem act_sweep_of_fault (depth : Nat) {cache : Cache K V H} {clock : Clock} {fault : Fault}
    (reading : clock.now = .error fault) :
    cache.act script depth clock .sweep = { cache with clock } := by
  rw [act, sweep, atReading, reading]

theorem act_sweep_of_quiet
    (quiet : ∀ handler key value, (script handler key value).isQuiet = true) (depth : Nat)
    {cache : Cache K V H} {clock : Clock} {now : Instant} (reading : clock.now = .ok now) :
    ∃ events, cache.act script depth clock .sweep =
      ({ cache with clock }.sweepAt now).1.record events := by
  rw [act]
  exact sweep_of_quiet quiet depth reading

end Cache

end ExpiringCache
