import ExpiringCache.Time

/-!
# Lifetime

What a writer asks for when it stores an entry, and how that request is
resolved against the lifetime shared by the whole cache.
-/

namespace ExpiringCache

inductive Lifetime where
  /-- The shared lifetime at the moment the entry is renewed. -/
  | inherited
  /-- No automatic expiry. -/
  | unlimited
  /-- Expiry this long after the last renewal; zero means `inherited`. -/
  | lasting (duration : Duration)
  deriving DecidableEq, Repr, Inhabited

namespace Lifetime

/-- The finite lifetime an entry has under a shared lifetime, if it has one. -/
def resolve (lifetime : Lifetime) (shared : Option Duration) : Option Duration :=
  match lifetime with
  | .unlimited => none
  | .inherited => Duration.positive? shared
  | .lasting duration => if duration = .zero then Duration.positive? shared else some duration

@[simp] theorem resolve_unlimited (shared : Option Duration) :
    unlimited.resolve shared = none := rfl

@[simp] theorem resolve_lasting_zero (shared : Option Duration) :
    (lasting .zero).resolve shared = inherited.resolve shared := rfl

theorem resolve_lasting {duration : Duration} (positive : duration ≠ .zero)
    (shared : Option Duration) : (lasting duration).resolve shared = some duration := by
  simp [resolve, positive]

/-- A resolved lifetime is never empty. -/
theorem resolve_ne_zero {lifetime : Lifetime} {shared : Option Duration} {duration : Duration}
    (resolved : lifetime.resolve shared = some duration) : duration ≠ .zero := by
  cases lifetime with
  | unlimited => simp at resolved
  | inherited => exact (Duration.positive?_eq_some_iff.mp resolved).2
  | lasting requested =>
      by_cases zero : requested = .zero
      · subst zero
        exact (Duration.positive?_eq_some_iff.mp resolved).2
      · simp_all [resolve]

end Lifetime

end ExpiringCache
