import Mathlib.Data.List.Nodup
import ExpiringCache.ExpiryCheck

/-!
# Local checks

The verdicts of a local check on a key depend only on what it was asked about
this key.  Such a check cannot tell in which order a pass goes through the
expired entries.
-/

namespace ExpiringCache

namespace ExpiryCheck

variable {K V : Type}

/-- Whether an expired pair may go; where no check is installed it always may. -/
def permits (check : Option (ExpiryCheck K V)) (key : K) (value : V) : Bool :=
  check.all fun asked => (asked.verdict asked.history key value).permits

def asked (check : Option (ExpiryCheck K V)) (key : K) (value : V) : Option (ExpiryCheck K V) :=
  check.map fun check => (check.consult key value).1

/-- A question as it shows on the record. -/
def question? (check : Option (ExpiryCheck K V)) (key : K) (value : V) :
    Option (Consultation K V) :=
  check.map fun check => (check.consult key value).2

def askedAll (check : Option (ExpiryCheck K V)) (pairs : List (K × V)) :
    Option (ExpiryCheck K V) :=
  pairs.foldl (fun check pair => asked check pair.1 pair.2) check

theorem askedAll_none (pairs : List (K × V)) :
    askedAll (none : Option (ExpiryCheck K V)) pairs = none := by
  induction pairs with
  | nil => rfl
  | cons pair rest ih => exact ih

theorem askedAll_some (check : ExpiryCheck K V) (pairs : List (K × V)) :
    askedAll (some check) pairs =
      some { check with history := pairs.reverse ++ check.history } := by
  induction pairs generalizing check with
  | nil => rfl
  | cons pair rest ih =>
      rw [askedAll, List.foldl_cons]
      refine (ih (check.consult pair.1 pair.2).1).trans ?_
      rw [List.reverse_cons, List.append_assoc]
      rfl

/-- A check that never vetoes.  Where no check is installed, nothing is vetoed either. -/
def Permissive (check : Option (ExpiryCheck K V)) : Prop :=
  ∀ installed ∈ check, ∀ history key value,
    (installed.verdict history key value).permits = true

namespace Permissive

variable {check : Option (ExpiryCheck K V)}

theorem of_none : Permissive (none : Option (ExpiryCheck K V)) := by
  rintro _ ⟨⟩

theorem permits (permissive : Permissive check) (key : K) (value : V) :
    permits check key value = true := by
  cases check with
  | none => rfl
  | some installed => exact permissive installed rfl installed.history key value

theorem askedAll (permissive : Permissive check) (pairs : List (K × V)) :
    Permissive (askedAll check pairs) := by
  cases check with
  | none =>
      rw [askedAll_none]
      exact permissive
  | some installed =>
      rw [askedAll_some]
      rintro _ ⟨⟩
      exact permissive installed rfl

end Permissive

variable [DecidableEq K]

/-- A rule for verdicts that looks only at the earlier questions about the same key. -/
def Local (verdict : List (K × V) → K → V → Verdict) : Prop :=
  ∀ history key value,
    verdict history key value = verdict (history.filter (·.1 = key)) key value

theorem Local.congr {verdict : List (K × V) → K → V → Verdict} (rule : Local verdict)
    {left right : List (K × V)} {key : K}
    (same : left.filter (·.1 = key) = right.filter (·.1 = key)) (value : V) :
    verdict left key value = verdict right key value := by
  rw [rule left, rule right, same]

/-- Checks that follow one local rule and were asked the same about each key. -/
inductive Alike : Option (ExpiryCheck K V) → Option (ExpiryCheck K V) → Prop where
  | none : Alike none none
  | some {verdict : List (K × V) → K → V → Verdict} {left right : List (K × V)}
      (rule : Local verdict)
      (same : ∀ key, left.filter (·.1 = key) = right.filter (·.1 = key)) :
      Alike (some ⟨verdict, left⟩) (some ⟨verdict, right⟩)

namespace Alike

variable {left right : Option (ExpiryCheck K V)}

theorem of_local {check : Option (ExpiryCheck K V)}
    (rule : ∀ installed ∈ check, Local installed.verdict) : Alike check check := by
  cases check with
  | none => exact .none
  | some installed => exact .some (rule installed rfl) fun _ => rfl

theorem permits (alike : Alike left right) (key : K) (value : V) :
    permits left key value = permits right key value := by
  cases alike with
  | none => rfl
  | some rule same => simp only [ExpiryCheck.permits, Option.all_some, rule.congr (same key)]

/-- Questions about other keys change no verdict. -/
theorem permits_asked (alike : Alike left right) {key other : K} (different : key ≠ other)
    (value otherValue : V) :
    ExpiryCheck.permits (asked left key value) other otherValue =
      ExpiryCheck.permits left other otherValue := by
  cases alike with
  | none => rfl
  | @some verdict left right rule same =>
      have elsewhere : ((key, value) :: left).filter (·.1 = other) =
          left.filter (·.1 = other) := by simp [different]
      simp only [ExpiryCheck.permits, asked, consult, Option.map_some, Option.all_some,
        rule.congr elsewhere]

theorem refl_left (alike : Alike left right) : Alike left left := by
  cases alike with
  | none => exact .none
  | some rule same => exact .some rule fun _ => rfl

theorem refl_right (alike : Alike left right) : Alike right right := by
  cases alike with
  | none => exact .none
  | some rule same => exact .some rule fun _ => rfl

/-- A pass may put its questions in any order, as long as no key comes twice. -/
theorem askedAll (alike : Alike left right) {pairs others : List (K × V)}
    (perm : pairs.Perm others) (nodup : (pairs.map (·.1)).Nodup) :
    Alike (askedAll left pairs) (askedAll right others) := by
  cases alike with
  | none =>
      rw [askedAll_none, askedAll_none]
      exact .none
  | @some verdict left right rule same =>
      rw [askedAll_some, askedAll_some]
      refine .some rule ?_
      intro key
      have reversed : (pairs.reverse.filter (·.1 = key)).Perm (others.reverse.filter (·.1 = key)) :=
        (((List.reverse_perm pairs).trans perm).trans (List.reverse_perm others).symm).filter _
      have single : (pairs.reverse.filter (·.1 = key)).length ≤ 1 := by
        rw [← List.countP_eq_length_filter, List.countP_reverse]
        have once := List.nodup_iff_count_le_one.mp nodup key
        rw [List.count, List.countP_map] at once
        exact le_of_eq_of_le (List.countP_congr fun pair _ => by simp) once
      have asked : pairs.reverse.filter (·.1 = key) = others.reverse.filter (·.1 = key) := by
        cases first : pairs.reverse.filter (·.1 = key) with
        | nil =>
            rw [first] at reversed
            exact (List.nil_perm.mp reversed).symm
        | cons pair rest =>
            rw [first] at reversed single
            obtain rfl : rest = [] := List.eq_nil_of_length_eq_zero (by simpa using single)
            exact List.singleton_perm.mp reversed
      rw [List.filter_append, List.filter_append, asked, same]

end Alike

end ExpiryCheck

namespace ExpiryCheck

variable {K V : Type} [DecidableEq K]

def about (key : K) (check : Option (ExpiryCheck K V)) : Option (ExpiryCheck K V) :=
  check.map fun installed =>
    { installed with history := installed.history.filter (·.1 = key) }

theorem about_askedAll (key : K) (check : Option (ExpiryCheck K V)) (pairs : List (K × V)) :
    about key (askedAll check pairs) = askedAll (about key check) (pairs.filter (·.1 = key)) := by
  cases check with
  | none => rw [askedAll_none, about, Option.map_none, askedAll_none]
  | some installed =>
      rw [askedAll_some, about, about, Option.map_some, Option.map_some, askedAll_some,
        List.filter_append, List.filter_reverse]

namespace Alike

variable {check : Option (ExpiryCheck K V)}

/-- A local check needs its questions about a key alone to answer one more about it. -/
theorem question?_about (alike : Alike check check) (key : K) (value : V) :
    question? (about key check) key value = question? check key value := by
  cases alike with
  | none => rfl
  | some rule same =>
      simp only [question?, about, consult, Option.map_some]
      rw [← rule]

theorem permits_about (alike : Alike check check) (key : K) (value : V) :
    ExpiryCheck.permits (about key check) key value = ExpiryCheck.permits check key value := by
  cases alike with
  | none => rfl
  | some rule same =>
      simp only [ExpiryCheck.permits, about, Option.map_some, Option.all_some]
      rw [← rule]

/-- Questions about other keys change no question about this one. -/
theorem question?_asked (alike : Alike check check) {key other : K} (different : key ≠ other)
    (value otherValue : V) :
    question? (asked check key value) other otherValue = question? check other otherValue := by
  cases alike with
  | none => rfl
  | @some verdict left right rule same =>
      have elsewhere : ((key, value) :: left).filter (·.1 = other) =
          left.filter (·.1 = other) := by simp [different]
      simp only [question?, asked, consult, Option.map_some, rule.congr elsewhere]

end Alike

end ExpiryCheck

/-- A fixed rule counts the questions about each key apart. -/
theorem VetoRule.local_verdict {K V : Type} [DecidableEq K] (rule : VetoRule K) :
    ExpiryCheck.Local (rule.verdict (V := V)) := by
  intro history key value
  unfold verdict
  rw [List.countP_filter]
  simp only [Bool.and_self]

end ExpiringCache
