import ExpiringCache.Entry
import ExpiringCache.Proofs.Limbs
import Mathlib.Data.ENat.Basic

/-!
# Deadlines

What a renewal makes of a reading of the clock and a lifetime.  The deadline is
their exact sum, if its seconds fit, and reading an entry compares and subtracts
exactly.  An entry without a deadline counts as one whose deadline is infinitely
far; so read, the deadline grows with the reading and with the lifetime, and no
later renewal brings it forward unless the lifetime is shortened.
-/

namespace ExpiringCache

open Duration (nanosPerSecond)

/-! ## The lifetime in force -/

/--
A finite lifetime that is in force: one that is not empty, and is the requested one
or, where that is inherited or empty, the shared one.
-/
def Lifetime.ComesTo (lifetime : Lifetime) (shared : Option Duration) (length : Duration) : Prop :=
  length ≠ .zero ∧ (lifetime = .lasting length ∨
    (lifetime = .inherited ∨ lifetime = .lasting .zero) ∧ shared = some length)

theorem Lifetime.resolve_eq_some_iff {lifetime : Lifetime} {shared : Option Duration}
    {length : Duration} :
    lifetime.resolve shared = some length ↔ lifetime.ComesTo shared length := by
  constructor
  · intro resolved
    refine ⟨resolve_ne_zero resolved, ?_⟩
    cases lifetime with
    | inherited => exact .inr ⟨.inl rfl, (Duration.positive?_eq_some_iff.mp resolved).1⟩
    | unlimited => cases resolved
    | lasting requested =>
        by_cases empty : requested = .zero
        · subst empty
          exact .inr ⟨.inr rfl, (Duration.positive?_eq_some_iff.mp resolved).1⟩
        · rw [resolve_lasting empty] at resolved
          exact .inl (congrArg lasting (Option.some.inj resolved))
  · rintro ⟨positive, rfl | ⟨rfl | rfl, rfl⟩⟩
    · exact resolve_lasting positive shared
    · exact Duration.positive?_eq_some_iff.mpr ⟨rfl, positive⟩
    · exact Duration.positive?_eq_some_iff.mpr ⟨rfl, positive⟩

/-! ## Times that may be infinite -/

/-- The nanoseconds of a lifetime, infinitely many where it is not finite. -/
def Duration.orForever (length : Option Duration) : ℕ∞ := length.elim ⊤ fun length => length.nanos

/-- The nanoseconds before a deadline, infinitely many where there is none. -/
def Instant.orNever (deadline : Option Instant) : ℕ∞ :=
  deadline.elim ⊤ fun deadline => deadline.nanos

/-- What cannot be represented as an instant is never reached. -/
def Instant.cut (nanos : ℕ∞) : ℕ∞ := if nanos < limit.nanos then nanos else ⊤

theorem Instant.cut_mono {early late : ℕ∞} (order : early ≤ late) : cut early ≤ cut late := by
  unfold cut
  by_cases fits : late < limit.nanos
  · rw [if_pos fits, if_pos (lt_of_le_of_lt order fits)]
    exact order
  · rw [if_neg fits]
    exact le_top

theorem Instant.orNever_add? (now : Instant) (length : Option Duration) :
    orNever (length.bind now.add?) = cut (now.nanos + Duration.orForever length) := by
  cases length with
  | none => simp [orNever, cut, Duration.orForever]
  | some length =>
      have whole : (now.nanos : ℕ∞) + Duration.orForever (some length) =
          ((now.nanos + length.nanos : Nat) : ℕ∞) := (Nat.cast_add _ _).symm
      rw [Option.bind_some, whole, cut]
      by_cases fits : now.nanos + length.nanos < limit.nanos
      · rw [if_pos (Nat.cast_lt.mpr fits), Instant.add?, if_pos fits]
        rfl
      · rw [if_neg (mt Nat.cast_lt.mp fits), Instant.add?, if_neg fits]
        rfl

namespace Entry

variable {K V : Type}

/-! ## The deadline of a renewed entry -/

/-- The deadline is the exact sum of the reading and the lifetime, if its seconds fit. -/
theorem deadline_renew_eq_some_iff {entry : Entry K V} {now : Instant} {shared : Option Duration}
    {deadline : Instant} :
    (entry.renew now shared).deadline = some deadline ↔
      ∃ length, entry.lifetime.resolve shared = some length ∧
        deadline.nanos = now.nanos + length.nanos ∧
        deadline.nanos / nanosPerSecond < Nat.pow 2 63 := by
  rw [deadline_renew, Option.bind_eq_some_iff]
  refine exists_congr fun length => and_congr_right fun _ => ?_
  rw [Instant.add?_eq_some_iff, Limbs.seconds_fit_iff, eq_comm]

theorem orNever_deadline_renew (entry : Entry K V) (now : Instant) (shared : Option Duration) :
    Instant.orNever (entry.renew now shared).deadline =
      Instant.cut (now.nanos + Duration.orForever (entry.lifetime.resolve shared)) := by
  rw [deadline_renew, Instant.orNever_add?]

/-- A later reading and a longer lifetime lead to a later deadline. -/
theorem deadline_renew_mono {entry other : Entry K V} {now later : Instant}
    {shared otherShared : Option Duration} (order : now ≤ later)
    (longer : Duration.orForever (entry.lifetime.resolve shared) ≤
      Duration.orForever (other.lifetime.resolve otherShared)) :
    Instant.orNever (entry.renew now shared).deadline ≤
      Instant.orNever (other.renew later otherShared).deadline := by
  rw [orNever_deadline_renew, orNever_deadline_renew]
  exact Instant.cut_mono (add_le_add (Nat.cast_le.mpr order) longer)

/-- The entry after renewals, each at a reading and under a shared lifetime. -/
def renewAll (entry : Entry K V) (renewals : List (Instant × Option Duration)) : Entry K V :=
  renewals.foldl (fun entry renewal => entry.renew renewal.1 renewal.2) entry

/-- The second of two renewals is at no earlier reading, with no shorter lifetime. -/
def Extends (lifetime : Lifetime) (early late : Instant × Option Duration) : Prop :=
  early.1 ≤ late.1 ∧
    Duration.orForever (lifetime.resolve early.2) ≤ Duration.orForever (lifetime.resolve late.2)

/-- Renewals at later and later readings never bring the deadline forward. -/
theorem deadline_renewAll_mono {entry : Entry K V} {first : Instant × Option Duration}
    {renewals : List (Instant × Option Duration)}
    (extended : List.IsChain (Extends entry.lifetime) (first :: renewals)) :
    Instant.orNever (entry.renew first.1 first.2).deadline ≤
      Instant.orNever ((entry.renew first.1 first.2).renewAll renewals).deadline := by
  induction renewals generalizing entry first with
  | nil => exact le_refl _
  | cons second rest ih =>
      obtain ⟨⟨order, longer⟩, further⟩ := List.isChain_cons_cons.mp extended
      calc Instant.orNever (entry.renew first.1 first.2).deadline
          ≤ Instant.orNever (entry.renew second.1 second.2).deadline :=
            deadline_renew_mono order longer
        _ ≤ Instant.orNever ((entry.renew second.1 second.2).renewAll rest).deadline := ih further
        _ = Instant.orNever ((entry.renew first.1 first.2).renewAll (second :: rest)).deadline := by
            rw [renewAll, renewAll, List.foldl_cons, renew_renew]

/-- The deadline is what carrying from limb to limb makes of the reading and the lifetime. -/
theorem deadline_renew_limbs {entry : Entry K V} {shared : Option Duration} {width : Nat}
    {span : Limbs width} (resolved : entry.lifetime.resolve shared = some span.duration)
    (now : Limbs 63) :
    (entry.renew now.instant shared).deadline = (now.add? span).map Limbs.instant := by
  rw [deadline_renew, resolved, Option.bind_some, Limbs.instant_add?]

theorem exists_limbs_of_renew {entry : Entry K V} {now : Instant} {shared : Option Duration}
    {deadline : Instant} (dated : (entry.renew now shared).deadline = some deadline) :
    ∃ limbs : Limbs 63, limbs.instant = deadline := by
  obtain ⟨-, -, -, fits⟩ := deadline_renew_eq_some_iff.mp dated
  exact Limbs.exists_instant (Limbs.seconds_fit_iff.mp fits)

/-! ## Reading the deadline -/

theorem remaining_eq_some_iff {entry : Entry K V} {now : Instant} {left : Duration} :
    entry.remaining now = some left ↔
      ∃ deadline, entry.deadline = some deadline ∧
        (left.nanos : Int) = max 0 ((deadline.nanos : Int) - now.nanos) := by
  unfold remaining
  rw [Option.map_eq_some_iff]
  refine exists_congr fun deadline => and_congr_right fun _ => ?_
  rw [Duration.ext_iff]
  change deadline.nanos - now.nanos = left.nanos ↔ _
  omega

/-- Nothing remains of an entry that has expired. -/
theorem remaining_of_isExpired {entry : Entry K V} {now : Instant}
    (expired : entry.isExpired now = true) : entry.remaining now = some .zero := by
  obtain ⟨deadline, dated, passed⟩ := isExpired_iff.mp expired
  rw [Instant.lt_iff] at passed
  refine remaining_eq_some_iff.mpr ⟨deadline, dated, ?_⟩
  change (0 : Int) = _
  omega

theorem isExpired_of_remaining {entry : Entry K V} {now : Instant} {left : Duration}
    (remains : entry.remaining now = some left) (positive : left ≠ .zero) :
    entry.isExpired now = false := by
  refine Bool.eq_false_iff.mpr fun expired => positive ?_
  exact Option.some.inj (remains.symm.trans (remaining_of_isExpired expired))

theorem isExpired_limbs {entry : Entry K V} {deadline : Limbs 63}
    (dated : entry.deadline = some deadline.instant) (now : Limbs 63) :
    entry.isExpired now.instant = true ↔ deadline < now := by
  rw [isExpired_of_dated dated]
  exact Limbs.lt_iff_total_lt.symm

theorem remaining_limbs {entry : Entry K V} {deadline : Limbs 63}
    (dated : entry.deadline = some deadline.instant) (now : Limbs 63) :
    entry.remaining now.instant = some (now.timeUntil deadline).duration := by
  rw [remaining, dated, Option.map_some, Limbs.instant_timeUntil]

/--
Deadlines are exact and grow.  After a renewal at the reading `now`, the lifetime in
force is the requested one, or the shared one where that is inherited or empty, and
is never empty itself.  The deadline is the sum of the reading and the lifetime in
nanoseconds, if the seconds of that are below `2 ^ 63`, and else there is none; adding
limb by limb leads to the same.  At a reading `t` the entry has expired exactly if its
deadline is before `t`, and what remains is their difference, or zero; comparing and
subtracting limb by limb lead to the same.  Of an expired entry nothing remains, and
one of which something remains has not expired.  The deadline, infinitely far if there
is none, grows with the reading and with the lifetime, so that renewals at later and
later readings never bring it forward while the lifetime is not shortened.
-/
theorem deadlines_exact_and_monotone (entry : Entry K V) (shared : Option Duration)
    (now t : Limbs 63) :
    let inForce := entry.lifetime.resolve shared
    let renewed := entry.renew now.instant shared
    (∀ length, inForce = some length ↔ entry.lifetime.ComesTo shared length) ∧
    ((∀ deadline, renewed.deadline = some deadline ↔
        ∃ length, inForce = some length ∧ deadline.nanos = now.total + length.nanos ∧
          deadline.nanos / nanosPerSecond < Nat.pow 2 63) ∧
      ∀ span : Limbs 64, inForce = some span.duration →
        renewed.deadline = (now.add? span).map Limbs.instant) ∧
    ((renewed.isExpired t.instant = true ↔
        ∃ deadline, renewed.deadline = some deadline ∧ deadline.nanos < t.total) ∧
      (∀ left, renewed.remaining t.instant = some left ↔
        ∃ deadline, renewed.deadline = some deadline ∧
          (left.nanos : Int) = max 0 ((deadline.nanos : Int) - t.total)) ∧
      ∀ deadline, renewed.deadline = some deadline →
        ∃ limbs : Limbs 63, limbs.instant = deadline ∧
          (renewed.isExpired t.instant = true ↔ limbs < t) ∧
          renewed.remaining t.instant = some (t.timeUntil limbs).duration) ∧
    ((renewed.isExpired t.instant = true → renewed.remaining t.instant = some .zero) ∧
      ∀ left, renewed.remaining t.instant = some left → left ≠ .zero →
        renewed.isExpired t.instant = false) ∧
    (∀ (other : Entry K V) (otherShared : Option Duration) (later : Instant),
      now.instant ≤ later →
      Duration.orForever inForce ≤ Duration.orForever (other.lifetime.resolve otherShared) →
      Instant.orNever renewed.deadline ≤
        Instant.orNever (other.renew later otherShared).deadline) ∧
    ∀ renewals, List.IsChain (Extends entry.lifetime) ((now.instant, shared) :: renewals) →
      Instant.orNever renewed.deadline ≤
        Instant.orNever (renewed.renewAll renewals).deadline := by
  intro inForce renewed
  refine ⟨fun _ => Lifetime.resolve_eq_some_iff,
    ⟨fun _ => deadline_renew_eq_some_iff, fun _ resolved => deadline_renew_limbs resolved now⟩,
    ⟨isExpired_iff, fun _ => remaining_eq_some_iff, ?_⟩,
    ⟨remaining_of_isExpired, fun _ => isExpired_of_remaining⟩,
    fun _ _ _ order longer => deadline_renew_mono order longer,
    fun _ extended => deadline_renewAll_mono extended⟩
  intro deadline dated
  obtain ⟨limbs, rfl⟩ := exists_limbs_of_renew dated
  exact ⟨limbs, rfl, isExpired_limbs dated t, remaining_limbs dated t⟩

/-- An entry that asks for an empty lifetime, and so for the shared one. -/
def heir : Entry Nat Nat := { key := 1, value := 10, lifetime := .lasting .zero }

def beforeLast : Limbs 63 := ⟨Nat.pow 2 63 - 2, 2, by decide, by decide⟩

def last : Limbs 63 := ⟨Nat.pow 2 63 - 1, 2, by decide, by decide⟩

def nearlySecond : Limbs 64 := ⟨0, 999999999, by decide, by decide⟩

/-- The sum carries into the last second, and a second later it carries past it. -/
theorem heir_renewed :
    let shared := some nearlySecond.duration
    let renewed := heir.renew beforeLast.instant shared
    let again := renewed.renewAll [(last.instant, shared)]
    renewed.deadline = some ⟨(Nat.pow 2 63 - 1) * nanosPerSecond + 1⟩ ∧
      renewed.isExpired last.instant = true ∧ renewed.remaining last.instant = some .zero ∧
      again.deadline = none ∧
      Instant.orNever renewed.deadline ≤ Instant.orNever again.deadline := by
  intro shared renewed again
  have inForce : heir.lifetime.resolve shared = some nearlySecond.duration := by decide +kernel
  obtain ⟨-, ⟨-, byLimbs⟩, -, ⟨nothingLeft, -⟩, -, series⟩ :=
    deadlines_exact_and_monotone heir shared beforeLast last
  have carried : renewed.deadline = some ⟨(Nat.pow 2 63 - 1) * nanosPerSecond + 1⟩ :=
    (byLimbs nearlySecond inForce).trans (by decide +kernel)
  have expired : renewed.isExpired last.instant = true := by decide +kernel
  have later : beforeLast.instant ≤ last.instant := by decide +kernel
  have chained : List.IsChain (Extends heir.lifetime)
      [(beforeLast.instant, shared), (last.instant, shared)] :=
    .cons_cons ⟨later, le_refl _⟩ (.singleton _)
  exact ⟨carried, expired, nothingLeft expired, by decide +kernel, series _ chained⟩

end Entry

end ExpiringCache
