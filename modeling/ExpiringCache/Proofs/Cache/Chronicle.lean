import ExpiringCache.Proofs.Cache.Outlook
import ExpiringCache.Proofs.Ledger.Machine

/-!
# Chronicles

The incidents of a session that bear on what can be read: writes, renewals,
removals and purges, as its calls report them and its passes rule.  They tell
what stands under a key, and since when its lifetime counts.
-/

namespace ExpiringCache

inductive Incident (K V : Type) where
  /-- A pair is stored, at an instant and under a shared lifetime in force. -/
  | stored (key : K) (value : V) (lifetime : Lifetime) (now : Instant)
      (shared : Option Duration)
  /-- The lifetime under a key begins anew. -/
  | renewed (key : K) (now : Instant) (shared : Option Duration)
  | removed (key : K)
  /-- The cache is purged or closed. -/
  | cleared
  deriving DecidableEq

namespace Incident

variable {K V : Type} [DecidableEq K]

/-- Whether what was stored under a key before is gone or replaced. -/
def ends (key : K) : Incident K V → Bool
  | .stored name _ _ _ _ => name = key
  | .renewed _ _ _ => false
  | .removed name => name = key
  | .cleared => true

/-- When and under which shared lifetime a lifetime under the key begins. -/
def begins? (key : K) : Incident K V → Option (Instant × Option Duration)
  | .stored name _ _ now shared => if name = key then some (now, shared) else none
  | .renewed name now shared => if name = key then some (now, shared) else none
  | _ => none

end Incident

/--
The last write of a key that nothing has undone stored the given pair, and its
lifetime last began at the given instant, under the given shared lifetime.
-/
def Stands {K V : Type} [DecidableEq K] (history : List (Incident K V)) (key : K) (value : V)
    (lifetime : Lifetime) (since : Instant) (shared : Option Duration) : Prop :=
  ∃ early late written inForce,
    history = early ++ .stored key value lifetime written inForce :: late ∧
    (∀ incident ∈ late, incident.ends key = false) ∧
    ((.stored key value lifetime written inForce :: late).filterMap (·.begins? key)).getLast? =
      some (since, shared)

/-- What stands under a key. -/
structure Standing (V : Type) where
  value : V
  lifetime : Lifetime
  since : Instant
  shared : Option Duration

namespace Standing

variable {K V : Type} [DecidableEq K]

def entry (standing : Standing V) (key : K) : Entry K V :=
  ({ key, value := standing.value, lifetime := standing.lifetime } : Entry K V).renew
    standing.since standing.shared

def begun (standing : Standing V) (start : Instant × Option Duration) : Standing V :=
  { standing with since := start.1, shared := start.2 }

def meet (key : K) (standing : Option (Standing V)) : Incident K V → Option (Standing V)
  | .stored name value lifetime since shared =>
      if name = key then some { value, lifetime, since, shared } else standing
  | .renewed name now shared =>
      if name = key then standing.map (·.begun (now, shared)) else standing
  | .removed name => if name = key then none else standing
  | .cleared => none

def after (key : K) (standing : Option (Standing V)) (history : List (Incident K V)) :
    Option (Standing V) :=
  history.foldl (meet key) standing

theorem after_append (key : K) (standing : Option (Standing V))
    (early late : List (Incident K V)) :
    after key standing (early ++ late) = after key (after key standing early) late :=
  List.foldl_append

/-- An incident that does not end what stands at most begins its lifetime anew. -/
theorem meet_of_lasting {key : K} {incident : Incident K V} (lasting : incident.ends key = false)
    (standing : Standing V) :
    meet key (some standing) incident =
      some ((incident.begins? key).elim standing standing.begun) := by
  cases incident with
  | stored name value lifetime now shared =>
      have other : name ≠ key := of_decide_eq_false lasting
      rw [meet, Incident.begins?, if_neg other, if_neg other]
      rfl
  | renewed name now shared =>
      rw [meet, Incident.begins?]
      split
      · rfl
      · rfl
  | removed name =>
      have other : name ≠ key := of_decide_eq_false lasting
      rw [meet, if_neg other]
      rfl
  | cleared => cases lasting

/-- Where nothing ends what stands, its lifetime counts from the last incident that began one. -/
theorem after_of_lasting {key : K} {late : List (Incident K V)}
    (lasting : ∀ incident ∈ late, incident.ends key = false) (standing : Standing V) :
    after key (some standing) late =
      some ((late.filterMap (·.begins? key)).getLast?.elim standing standing.begun) := by
  induction late generalizing standing with
  | nil => rfl
  | cons incident rest ih =>
      have later := ih (fun other listed => lasting other (List.mem_cons_of_mem _ listed))
      rw [after, List.foldl_cons, meet_of_lasting (lasting incident List.mem_cons_self)]
      refine (later _).trans ?_
      rw [List.filterMap_cons]
      cases incident.begins? key with
      | none => rfl
      | some start =>
          rw [List.getLast?_cons]
          cases (rest.filterMap (·.begins? key)).getLast? <;> rfl

theorem after_none_of_lasting {key : K} {late : List (Incident K V)}
    (lasting : ∀ incident ∈ late, incident.ends key = false) :
    after key (none : Option (Standing V)) late = none := by
  induction late with
  | nil => rfl
  | cons incident rest ih =>
      have first := lasting incident List.mem_cons_self
      have met : meet key (none : Option (Standing V)) incident = none := by
        cases incident with
        | stored name value lifetime now shared => exact if_neg (of_decide_eq_false first)
        | renewed name now shared => exact ite_self _
        | removed name => exact ite_self _
        | cleared => rfl
      rw [after, List.foldl_cons, met]
      exact ih fun other listed => lasting other (List.mem_cons_of_mem _ listed)

/-- After a lasting write stands what it stored, since the last beginning of its lifetime. -/
theorem after_write {key : K} {late : List (Incident K V)}
    (lasting : ∀ incident ∈ late, incident.ends key = false) (standing : Option (Standing V))
    (value : V) (lifetime : Lifetime) (now : Instant) (shared : Option Duration) :
    ∃ start, ((.stored key value lifetime now shared :: late).filterMap
        (·.begins? key)).getLast? = some start ∧
      after key standing (.stored key value lifetime now shared :: late) =
        some { value, lifetime, since := start.1, shared := start.2 } := by
  rw [after, List.foldl_cons, List.filterMap_cons, meet, Incident.begins?, if_pos rfl, if_pos rfl,
    List.getLast?_cons]
  refine ⟨_, rfl, (after_of_lasting lasting _).trans ?_⟩
  cases (late.filterMap (·.begins? key)).getLast? <;> rfl

/-- The last incident of a history that ends what stood, if there is one. -/
theorem last_end (key : K) (history : List (Incident K V)) :
    (∃ early incident late, history = early ++ incident :: late ∧ incident.ends key = true ∧
      ∀ other ∈ late, other.ends key = false) ∨
    ∀ incident ∈ history, incident.ends key = false := by
  induction history with
  | nil => exact .inr fun _ absent => (nomatch absent)
  | cons first rest ih =>
      rcases ih with ⟨early, incident, late, rfl, ends, lasting⟩ | lasting
      · exact .inl ⟨first :: early, incident, late, rfl, ends, lasting⟩
      · cases ends : first.ends key with
        | true => exact .inl ⟨[], first, rest, rfl, ends, lasting⟩
        | false => exact .inr (List.forall_mem_cons.mpr ⟨ends, lasting⟩)

/-- What stands after a history is what its last lasting write and renewal say. -/
theorem after_eq_some_iff {key : K} {history : List (Incident K V)} {standing : Standing V} :
    after key none history = some standing ↔
      Stands history key standing.value standing.lifetime standing.since standing.shared := by
  constructor
  · intro stands
    rcases last_end key history with ⟨early, incident, late, rfl, ends, lasting⟩ | lasting
    · rw [after_append] at stands
      cases incident with
      | stored name value lifetime now shared =>
          obtain rfl : name = key := of_decide_eq_true ends
          obtain ⟨start, last, reached⟩ :=
            after_write lasting (after name none early) value lifetime now shared
          obtain rfl := Option.some.inj (reached.symm.trans stands)
          exact ⟨early, late, now, shared, rfl, lasting, last⟩
      | renewed name now shared => cases ends
      | removed name =>
          rw [after, List.foldl_cons, meet, if_pos (of_decide_eq_true ends)] at stands
          cases (after_none_of_lasting lasting).symm.trans stands
      | cleared => cases (after_none_of_lasting lasting).symm.trans stands
    · cases (after_none_of_lasting lasting).symm.trans stands
  · rintro ⟨early, late, written, inForce, rfl, lasting, last⟩
    obtain ⟨start, lastStart, reached⟩ := after_write lasting (after key none early)
      standing.value standing.lifetime written inForce
    obtain rfl := Option.some.inj (lastStart.symm.trans last)
    rw [after_append]
    exact reached

/-- Renewals count for a key if they are about it. -/
theorem after_renewals (key : K) (standing : Option (Standing V)) (names : List K)
    (now : Instant) (shared : Option Duration) :
    after key standing (names.map fun name => .renewed name now shared) =
      if key ∈ names then standing.map (·.begun (now, shared)) else standing := by
  induction names generalizing standing with
  | nil => rfl
  | cons name rest ih =>
      rw [List.map_cons, after, List.foldl_cons, meet]
      refine (ih _).trans ?_
      by_cases same : name = key
      · subst same
        rw [if_pos rfl, if_pos List.mem_cons_self]
        split
        · exact Option.map_map _ _ _
        · rfl
      · simp [same, Ne.symm same]

end Standing

/-! ## Incidents of a session -/

structure Policy where
  sharedLifetime : Option Duration
  skipRenewal : Bool

namespace Policy

variable {K V H : Type}

/-- The settings after an action; only the calls that set them matter. -/
def after (policy : Policy) : Action K V H → Policy
  | .call (.setSharedLifetime duration) =>
      { policy with sharedLifetime := Duration.positive? (some duration) }
  | .call (.skipRenewal skip) => { policy with skipRenewal := skip }
  | _ => policy

def afterAll (policy : Policy) (session : List (Clock × Action K V H)) : Policy :=
  session.foldl (fun policy step => policy.after step.2) policy

end Policy

/-- What a call amounts to that reports the given. -/
def Call.incidents {K V H : Type} (now : Instant) (policy : Policy) :
    Call K V H → Report K V (List (K × V)) → List (Incident K V)
  | .set key value lifetime, .written _ =>
      [.stored key value lifetime now policy.sharedLifetime]
  | .get key, .answer (.value (some _)) =>
      if policy.skipRenewal then [] else [.renewed key now policy.sharedLifetime]
  | .getLease key, .answer (.lease (some _)) =>
      if policy.skipRenewal then [] else [.renewed key now policy.sharedLifetime]
  | .touch key, .answer (.flag true) => [.renewed key now policy.sharedLifetime]
  | .remove key, _ => [.removed key]
  | .purge, _ => [.cleared]
  | .close, _ => [.cleared]
  | _, _ => []

namespace Cache

variable {K V H : Type} [DecidableEq K] (script : H → K → V → Script K V H) (depth : Nat)

/-- The keys that the check keeps at a pass. -/
def vetoed (cache : Cache K V H) (now : Instant) : List K :=
  ((cache.store.sweep cache.handlers.check now).consultations.filter
    (!·.verdict.permits)).map Consultation.key

/-- What an action amounts to that begins when the clock stands as given. -/
def incidents (policy : Policy) (cache : Cache K V H) (clock : Clock) :
    Action K V H → List (Incident K V)
  | .call request =>
      request.incidents clock.instant policy
        (cache.report script depth clock (.call request))
  | .planSleep => []
  | .sweep =>
      match clock.now with
      | .error _ => []
      | .ok now => (cache.vetoed now).map fun key => .renewed key now policy.sharedLifetime

/-- The incidents of a session that begins with the given settings. -/
def chronicle : Policy → List (Clock × Action K V H) → Cache K V H → List (Incident K V)
  | _, [], _ => []
  | policy, (clock, action) :: rest, cache =>
      cache.incidents script depth policy clock action ++
        chronicle (policy.after action) rest (cache.act script depth clock action)

end Cache

end ExpiringCache
