import ExpiringCache.Time

/-!
# Time in two limbs

A time can be kept as whole seconds, which fit a word of a fixed width, and the
nanoseconds beyond them.  A sum then carries into the seconds, a difference
borrows from them, and the seconds are compared first.  This arithmetic agrees
with counting nanoseconds: a sum is refused exactly if its seconds do not fit the
word, and is exact otherwise.  So an instant is two limbs with seconds of 63 bits,
and a representable duration two limbs with seconds of 64 bits.
-/

namespace ExpiringCache

open Duration (nanosPerSecond)

/-- A time in two limbs, the seconds of which fit a word of the given width. -/
@[ext] structure Limbs (width : Nat) where
  seconds : Nat
  nanos : Nat
  seconds_lt : seconds < Nat.pow 2 width
  nanos_lt : nanos < nanosPerSecond
  deriving DecidableEq, Repr

namespace Limbs

variable {width spanWidth : Nat}

instance : LT (Limbs width) := ⟨fun left right =>
  left.seconds < right.seconds ∨ left.seconds = right.seconds ∧ left.nanos < right.nanos⟩

instance : DecidableLT (Limbs width) := fun left right =>
  inferInstanceAs (Decidable
    (left.seconds < right.seconds ∨ left.seconds = right.seconds ∧ left.nanos < right.nanos))

def zero : Limbs width := ⟨0, 0, Nat.two_pow_pos width, by decide⟩

/--
The sum, limb by limb.  The seconds have to fit before the nanoseconds are looked
at; a whole second among these is carried over, and the seconds have to fit again.
-/
def add? (start : Limbs width) (span : Limbs spanWidth) : Option (Limbs width) :=
  if fits : start.seconds + span.seconds < Nat.pow 2 width then
    if short : start.nanos + span.nanos < nanosPerSecond then
      some ⟨start.seconds + span.seconds, start.nanos + span.nanos, fits, short⟩
    else if carried : start.seconds + span.seconds + 1 < Nat.pow 2 width then
      some ⟨start.seconds + span.seconds + 1, start.nanos + span.nanos - nanosPerSecond, carried,
        by have := start.nanos_lt; have := span.nanos_lt; omega⟩
    else none
  else none

/--
The time from `now` to `deadline`, zero once that has passed.  Nanoseconds that are
too few borrow a second.
-/
def timeUntil (now deadline : Limbs width) : Limbs width :=
  if deadline < now then zero
  else if enough : now.nanos ≤ deadline.nanos then
    ⟨deadline.seconds - now.seconds, deadline.nanos - now.nanos,
      Nat.lt_of_le_of_lt (Nat.sub_le _ _) deadline.seconds_lt,
      Nat.lt_of_le_of_lt (Nat.sub_le _ _) deadline.nanos_lt⟩
  else
    ⟨deadline.seconds - now.seconds - 1, deadline.nanos + nanosPerSecond - now.nanos,
      by have := deadline.seconds_lt; omega, by have := now.nanos_lt; omega⟩

/-! ## Counting nanoseconds -/

def total (limbs : Limbs width) : Nat := limbs.seconds * nanosPerSecond + limbs.nanos

theorem total_lt (limbs : Limbs width) : limbs.total < Nat.pow 2 width * nanosPerSecond := by
  have seconds := Nat.mul_le_mul_right nanosPerSecond (Nat.succ_le_of_lt limbs.seconds_lt)
  rw [Nat.succ_mul] at seconds
  have nanos := limbs.nanos_lt
  unfold total
  omega

theorem total_div (limbs : Limbs width) : limbs.total / nanosPerSecond = limbs.seconds := by
  have short : limbs.nanos / nanosPerSecond = 0 := Nat.div_eq_of_lt limbs.nanos_lt
  rw [total, Nat.mul_comm, Nat.mul_add_div (by decide), short, Nat.add_zero]

theorem total_mod (limbs : Limbs width) : limbs.total % nanosPerSecond = limbs.nanos := by
  rw [total, Nat.mul_comm, Nat.mul_add_mod, Nat.mod_eq_of_lt limbs.nanos_lt]

theorem total_injective {left right : Limbs width} (same : left.total = right.total) :
    left = right := by
  ext
  · rw [← total_div, same, total_div]
  · rw [← total_mod, same, total_mod]

@[simp] theorem total_zero : (zero : Limbs width).total = 0 := by
  simp [zero, total]

/-- A count whose seconds fit the word has its two limbs. -/
theorem exists_total {count : Nat} (fits : count / nanosPerSecond < Nat.pow 2 width) :
    ∃ limbs : Limbs width, limbs.total = count :=
  ⟨⟨count / nanosPerSecond, count % nanosPerSecond, fits, Nat.mod_lt _ (by decide)⟩,
    Nat.div_add_mod' count nanosPerSecond⟩

theorem lt_iff_total_lt {left right : Limbs width} : left < right ↔ left.total < right.total := by
  have leftShort := left.nanos_lt
  have rightShort := right.nanos_lt
  change left.seconds < right.seconds ∨ left.seconds = right.seconds ∧ left.nanos < right.nanos ↔ _
  simp only [total, nanosPerSecond] at *
  omega

/-- Adding by limbs is exact, or else the nanoseconds pass the last that fit. -/
theorem add?_cases (start : Limbs width) (span : Limbs spanWidth) :
    (∃ sum, start.add? span = some sum ∧ sum.total = start.total + span.total) ∨
      (start.add? span = none ∧
        Nat.pow 2 width * nanosPerSecond ≤ start.total + span.total) := by
  have startShort := start.nanos_lt
  have spanShort := span.nanos_lt
  by_cases fits : start.seconds + span.seconds < Nat.pow 2 width
  · by_cases short : start.nanos + span.nanos < nanosPerSecond
    · refine .inl ⟨_, by rw [add?, dif_pos fits, dif_pos short], ?_⟩
      simp only [total, Nat.add_mul]
      omega
    · by_cases carried : start.seconds + span.seconds + 1 < Nat.pow 2 width
      · refine .inl ⟨_, by rw [add?, dif_pos fits, dif_neg short, dif_pos carried], ?_⟩
        simp only [total, Nat.add_mul]
        omega
      · -- The seconds fit without the carry alone: they are the last that do.
        have last : Nat.pow 2 width = start.seconds + span.seconds + 1 := by omega
        refine .inr ⟨by rw [add?, dif_pos fits, dif_neg short, dif_neg carried], ?_⟩
        rw [last]
        simp only [total, Nat.add_mul]
        omega
  · have passed := Nat.mul_le_mul_right nanosPerSecond (Nat.not_lt.mp fits)
    refine .inr ⟨by rw [add?, dif_neg fits], ?_⟩
    rw [Nat.add_mul] at passed
    simp only [total]
    omega

theorem add?_eq_some_iff {start : Limbs width} {span : Limbs spanWidth} {sum : Limbs width} :
    start.add? span = some sum ↔ sum.total = start.total + span.total := by
  rcases start.add?_cases span with ⟨reached, added, counted⟩ | ⟨refused, passed⟩
  · rw [added, Option.some.injEq]
    constructor
    · rintro rfl
      exact counted
    · intro same
      exact total_injective (counted.trans same.symm)
  · rw [refused]
    constructor
    · intro none
      cases none
    · intro counted
      have := sum.total_lt
      omega

theorem add?_eq_none_iff {start : Limbs width} {span : Limbs spanWidth} :
    start.add? span = none ↔
      Nat.pow 2 width * nanosPerSecond ≤ start.total + span.total := by
  rcases start.add?_cases span with ⟨sum, added, counted⟩ | ⟨refused, passed⟩
  · have := sum.total_lt
    rw [added]
    constructor
    · intro none
      cases none
    · intro passed
      omega
  · exact ⟨fun _ => passed, fun _ => refused⟩

/-- The difference by limbs is exact, and zero where it would be negative. -/
theorem total_timeUntil (now deadline : Limbs width) :
    (now.timeUntil deadline).total = deadline.total - now.total := by
  have nowShort := now.nanos_lt
  have deadlineShort := deadline.nanos_lt
  by_cases passed : deadline < now
  · have order : deadline.total < now.total := lt_iff_total_lt.mp passed
    rw [timeUntil, if_pos passed, total_zero]
    omega
  · have order : now.total ≤ deadline.total := Nat.not_lt.mp (mt lt_iff_total_lt.mpr passed)
    rw [timeUntil, if_neg passed]
    by_cases enough : now.nanos ≤ deadline.nanos
    · rw [dif_pos enough]
      simp only [total, nanosPerSecond] at *
      omega
    · rw [dif_neg enough]
      simp only [total, nanosPerSecond] at *
      omega

/-! ## Instants and durations -/

def instant (limbs : Limbs 63) : Instant := ⟨limbs.total⟩

def duration (limbs : Limbs width) : Duration := .ofParts limbs.seconds limbs.nanos

theorem seconds_fit_iff {count : Nat} :
    count / nanosPerSecond < Nat.pow 2 63 ↔ count < Instant.limit.nanos :=
  Nat.div_lt_iff_lt_mul (by decide)

/-- Every instant before the limit is two limbs. -/
theorem exists_instant {instant : Instant} (fits : instant.nanos < Instant.limit.nanos) :
    ∃ limbs : Limbs 63, limbs.instant = instant := by
  obtain ⟨limbs, counted⟩ := exists_total (seconds_fit_iff.mpr fits)
  exact ⟨limbs, Instant.ext counted⟩

theorem instant_add? (start : Limbs 63) (span : Limbs spanWidth) :
    start.instant.add? span.duration = (start.add? span).map instant := by
  cases added : start.add? span with
  | none => exact Instant.add?_eq_none_iff.mpr (add?_eq_none_iff.mp added)
  | some sum =>
      exact Instant.add?_eq_some_iff.mpr ⟨(add?_eq_some_iff.mp added).symm, sum.total_lt⟩

theorem instant_timeUntil (now deadline : Limbs 63) :
    now.instant.timeUntil deadline.instant = (now.timeUntil deadline).duration :=
  Duration.ext (total_timeUntil now deadline).symm

end Limbs

end ExpiringCache
