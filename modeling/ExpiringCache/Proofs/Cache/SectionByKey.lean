import ExpiringCache.Proofs.Cache.Visibility

/-!
# Sections key by key

What one critical section makes of one key, whatever reading of the clock it
brings, and what a pass of the sweeper leaves under a key.
-/

namespace ExpiringCache

namespace Section

variable {K V H : Type}

/-- The reading of the clock that a section brings. -/
def reading? : Section K V H → Option Instant
  | .write _ _ _ now => some now
  | .read _ now => some now
  | .touch _ now => some now
  | _ => none

/-- Whether a section ends or replaces what is stored under a key. -/
def ends [DecidableEq K] (key : K) : Section K V H → Bool
  | .write name _ _ _ => name = key
  | .remove name => name = key
  | .purge => true
  | .markClosed => true
  | _ => false

end Section

namespace Dossier

variable {K V H : Type} [DecidableEq K]

/-- The dossier of a key after a section. -/
def enter (key : K) (dossier : Dossier K V) : Section K V H → Dossier K V
  | .write name value lifetime now =>
      if name = key then dossier.write key value lifetime now else dossier
  | .read name now => if name = key then dossier.read now else dossier
  | .touch name now => if name = key then dossier.touch now else dossier
  | .remove name => if name = key then dossier.drop else dossier
  | .setSharedLifetime duration =>
      { dossier with sharedLifetime := Duration.positive? (some duration) }
  | .setSkipRenewal skip => { dossier with skipRenewal := skip }
  | .install handlers => { dossier with check := ExpiryCheck.about key handlers.check }
  | .purge => dossier.drop
  | .markClosed => { dossier with closed := true }
  | .note _ => dossier
  | .moveClock _ => dossier

end Dossier

namespace Cache

variable {K V H : Type} [DecidableEq K] {cache : Cache K V H}

/-- What a section makes of a key depends on nothing but the dossier of the key. -/
theorem dossier_enter (valid : cache.store.Valid) (entered : Section K V H) (key : K) :
    (cache.enter entered).dossier key = (cache.dossier key).enter key entered := by
  cases entered with
  | write name value lifetime now => exact dossier_writeAt valid name value lifetime now key
  | read name now => exact dossier_readAt valid name now key
  | touch name now => exact dossier_touchAt valid name now key
  | remove name => exact dossier_remove valid name key
  | purge => exact dossier_purge cache key
  | markClosed =>
      change cache.markClosed.1.dossier key = { cache.dossier key with closed := true }
      unfold markClosed
      split
      · rename_i closed
        exact Dossier.ext rfl rfl rfl closed rfl
      · rfl
  | _ => rfl

/-- A pass drops what has expired or, after a veto, renews it, and leaves the rest. -/
theorem stored?_sweepAt (valid : cache.store.Valid) (now : Instant) (key : K) :
    (cache.sweepAt now).1.store.stored? key =
      (cache.store.stored? key).bind fun entry =>
        if entry.isExpired now then
          if key ∈ cache.vetoed now then some (entry.renew now cache.store.sharedLifetime)
          else none
        else some entry := by
  obtain ⟨rulings, settles⟩ := valid.sweep_settles cache.handlers.check now
  have passValid := valid.sweep cache.handlers.check now
  have due := settles.on?_entry valid key
  have vetoed := mem_vetoed_iff settles valid key
  change (cache.store.sweep cache.handlers.check now).store.stored? key = _
  cases ruled : Ruling.on? rulings key with
  | none =>
      rw [settles.stored?_of_unruled valid passValid ruled]
      cases stored : cache.store.stored? key with
      | none => rfl
      | some entry =>
          have live : entry.isExpired now ≠ true := by
            intro expired
            rw [ruled, stored, Option.filter_some, if_pos expired] at due
            cases due
          rw [Option.bind_some, if_neg live]
  | some ruling =>
      rw [ruled, Option.map_some] at due
      obtain ⟨stored, expired⟩ := Option.filter_eq_some_iff.mp due.symm
      rw [settles.stored?_of_ruled valid passValid ruled, stored, Option.bind_some,
        if_pos expired]
      cases permitted : ruling.permitted with
      | true =>
          have gone : key ∉ cache.vetoed now := fun listed => by
            obtain ⟨again, same, veto⟩ := vetoed.mp listed
            obtain rfl := Option.some.inj (ruled.symm.trans same)
            cases permitted.symm.trans veto
          rw [if_pos rfl, if_neg gone]
      | false =>
          have kept : key ∈ cache.vetoed now := vetoed.mpr ⟨ruling, ruled, permitted⟩
          rw [if_neg Bool.false_ne_true, if_pos kept]

/-- A pass asks only about what has expired. -/
theorem expired_of_mem_vetoed (valid : cache.store.Valid) {now : Instant} {key : K}
    (vetoed : key ∈ cache.vetoed now) :
    ∃ entry, cache.store.stored? key = some entry ∧ entry.isExpired now = true := by
  obtain ⟨rulings, settles⟩ := valid.sweep_settles cache.handlers.check now
  obtain ⟨ruling, ruled, -⟩ := (mem_vetoed_iff settles valid key).mp vetoed
  have due := settles.on?_entry valid key
  rw [ruled, Option.map_some] at due
  exact ⟨ruling.entry, Option.filter_eq_some_iff.mp due.symm⟩

/-- A pass does not touch what has not expired. -/
theorem stored?_sweepAt_of_live (valid : cache.store.Valid) {now : Instant} {key : K}
    {entry : Entry K V} (live : cache.store.live? key now = some entry) :
    (cache.sweepAt now).1.store.stored? key = some entry := by
  obtain ⟨stored, fresh⟩ := Store.live?_eq_some_iff.mp live
  rw [stored?_sweepAt valid, stored, Option.bind_some, if_neg (ne_true_of_eq_false fresh)]

end Cache

end ExpiringCache
