import Mathlib.Data.List.Forall2
import ExpiringCache.Proofs.Cache.Outlook

/-!
# Readers

Two sessions with the same calls show the same to their readers, wherever the
sweeper plans and passes in between.  Every answer that readers get is
determined by the outlook, and the outlook by the calls.
-/

namespace ExpiringCache

namespace Call

variable {K V H : Type}

/--
The answer may depend on expired entries that are still stored.  Among these
calls is `set`, since the handler of new entries, which may fail, is not run for
a key that is still stored.
-/
def showsLeftovers : Call K V H → Bool
  | .set _ _ _ => true
  | .remove _ => true
  | .count => true
  | .counters => true
  | _ => false

/-- A call that installs no check with vetoes. -/
def InstallsPermissive : Call K V H → Prop
  | .onCheck verdict => ∀ history key value, (verdict history key value).permits = true
  | _ => True

end Call

/-- Answers that are the same up to the order of keys. -/
inductive SameAnswer {K V : Type} :
    Except Fault (Answer K V) → Except Fault (Answer K V) → Prop where
  | same (answer : Except Fault (Answer K V)) : SameAnswer answer answer
  | keys {left right : List K} (perm : left.Perm right) :
      SameAnswer (.ok (.keys left)) (.ok (.keys right))

/-- What readers see of a call: its answer, and how look-ups have gone until after it. -/
structure View (K V : Type) where
  /-- The answer, unless it may show leftovers. -/
  answer : Option (Except Fault (Answer K V))
  counters : Counters

structure View.Same {K V : Type} (left right : View K V) : Prop where
  answer : Option.Rel SameAnswer left.answer right.answer
  counters : left.counters = right.counters

def clients {K V H : Type} (session : List (Clock × Action K V H)) : List (Clock × Call K V H) :=
  session.filterMap fun step =>
    match step.2 with
    | .call call => some (step.1, call)
    | _ => none

/-- The clock does not go back during a session. -/
def Ascends {K V H : Type} (session : List (Clock × Action K V H)) : Prop :=
  session.Pairwise fun early late => early.1.instant ≤ late.1.instant

namespace Cache

variable {K V H : Type} [DecidableEq K] (script : H → K → V → Script K V H) (depth : Nat)

def view (cache : Cache K V H) (clock : Clock) (call : Call K V H) : View K V :=
  let (reached, answer) := { cache with clock }.perform script depth call
  { answer := if call.showsLeftovers then none else some answer
    counters := reached.store.counters.ofReads }

/-- What readers see of the calls of a session. -/
def views : List (Clock × Action K V H) → Cache K V H → List (View K V)
  | [], _ => []
  | (clock, .call call) :: rest, cache =>
      cache.view script depth clock call ::
        views rest (cache.act script depth clock (.call call))
  | (clock, action) :: rest, cache => views rest (cache.act script depth clock action)

def actAll (cache : Cache K V H) (session : List (Clock × Action K V H)) : Cache K V H :=
  session.foldl (fun cache step => cache.act script depth step.1 step.2) cache

end Cache

namespace Outlook

variable {K V H : Type} [DecidableEq K]

/-- The outlooks that a sequence of calls finds, each with its call. -/
def trace : List (Clock × Call K V H) → Outlook K V → List (Outlook K V × Clock × Call K V H)
  | [], _ => []
  | (clock, call) :: rest, outlook =>
      (outlook.age clock.instant, clock, call) ::
        trace rest ((outlook.age clock.instant).step clock call)

/-- The outlook after a sequence of calls. -/
def after : List (Clock × Call K V H) → Outlook K V → Outlook K V
  | [], outlook => outlook
  | (clock, call) :: rest, outlook => after rest ((outlook.age clock.instant).step clock call)

end Outlook

namespace Cache

variable {K V H : Type} [DecidableEq K] {cache left right : Cache K V H}
  {script : H → K → V → Script K V H}

/-! ## Answers -/

omit [DecidableEq K] in
theorem sameAnswer_atReading (clocks : left.clock = right.clock)
    {leftBody rightBody : Instant → Cache K V H × Except Fault (Answer K V)}
    (same : SameAnswer (leftBody left.clock.instant).2 (rightBody left.clock.instant).2) :
    SameAnswer (left.atReading leftBody).2 (right.atReading rightBody).2 := by
  unfold atReading
  rw [← clocks]
  cases reading : left.clock.now with
  | error fault => exact .same _
  | ok now =>
      obtain rfl := Clock.instant_of_now reading
      exact same

theorem liveKeys_perm {first second : Store K V} (firstValid : first.Valid)
    (secondValid : second.Valid) {now : Instant}
    (same : first.outlook now = second.outlook now) :
    (first.liveKeys now).Perm (second.liveKeys now) := by
  refine (List.perm_ext_iff_of_nodup (firstValid.nodup_liveKeys now)
    (secondValid.nodup_liveKeys now)).mpr ?_
  intro key
  have live : first.live? key now = second.live? key now :=
    congrFun (congrArg Outlook.live same) key
  rw [firstValid.mem_liveKeys_iff, secondValid.mem_liveKeys_iff, live]

/-- Caches with the same outlook give the same answers. -/
theorem sameAnswer_perform (depth : Nat) (leftValid : left.store.Valid)
    (rightValid : right.store.Valid) (clocks : left.clock = right.clock)
    (same : left.store.outlook left.clock.instant = right.store.outlook left.clock.instant)
    {call : Call K V H} (hidden : call.showsLeftovers = false) :
    SameAnswer (left.perform script depth call).2 (right.perform script depth call).2 := by
  have read (key : K) : (left.readAt key left.clock.instant).2 =
      (right.readAt key left.clock.instant).2 := by
    rw [(outlook_readAt leftValid key _).2, (outlook_readAt rightValid key _).2, same]
  unfold perform
  cases call with
  | get key =>
      apply sameAnswer_atReading clocks
      simp only [read key]
      exact .same _
  | getLease key =>
      apply sameAnswer_atReading clocks
      simp only [read key]
      exact .same _
  | touch key =>
      apply sameAnswer_atReading clocks
      simp only [(outlook_touchAt leftValid key _).2, (outlook_touchAt rightValid key _).2, same]
      exact .same _
  | keys =>
      apply sameAnswer_atReading clocks
      exact .keys (liveKeys_perm leftValid rightValid same)
  | isClosed =>
      have closed : left.store.closed = right.store.closed := congrArg Outlook.closed same
      simp only [closed]
      exact .same _
  | set key value lifetime => cases hidden
  | remove key => cases hidden
  | count => cases hidden
  | counters => cases hidden
  | _ => exact .same _

theorem view_same (quiet : ∀ handler key value, (script handler key value).isQuiet = true)
    (depth : Nat) (leftValid : left.store.Valid) (rightValid : right.store.Valid) {clock : Clock}
    (same : left.store.outlook clock.instant = right.store.outlook clock.instant)
    (call : Call K V H) :
    (left.view script depth clock call).Same (right.view script depth clock call) := by
  have leftStarted : { left with clock }.store.Valid := leftValid
  have rightStarted : { right with clock }.store.Valid := rightValid
  have leftReached := outlook_perform quiet depth leftStarted call
  have rightReached := outlook_perform quiet depth rightStarted call
  have reached := leftReached.trans
    ((congrArg (Outlook.step · clock call) same).trans rightReached.symm)
  refine ⟨?_, congrArg Outlook.counters reached⟩
  unfold view
  simp only
  split
  · exact .none
  · rename_i hidden
    exact .some (sameAnswer_perform depth leftStarted rightStarted rfl same
      (eq_false_of_ne_true hidden))

/-! ## Lenience is kept -/

/-- Nothing that comes due in a lenient cache is vetoed. -/
structure Lenient (cache : Cache K V H) : Prop where
  valid : cache.store.Valid
  permissive : ExpiryCheck.Permissive cache.handlers.check

theorem handlers_writeAt (cache : Cache K V H) (key : K) (value : V) (lifetime : Lifetime)
    (now : Instant) : (cache.writeAt key value lifetime now).1.handlers = cache.handlers := by
  unfold writeAt
  split
  · rfl
  · rfl

theorem handlers_readAt (cache : Cache K V H) (key : K) (now : Instant) :
    (cache.readAt key now).1.handlers = cache.handlers := by
  unfold readAt
  split
  · rfl
  · split
    · rfl
    · rfl

theorem handlers_touchAt (cache : Cache K V H) (key : K) (now : Instant) :
    (cache.touchAt key now).1.handlers = cache.handlers := by
  unfold touchAt
  split
  · rfl
  · rfl

theorem check_perform (quiet : ∀ handler key value, (script handler key value).isQuiet = true)
    (depth : Nat) {call : Call K V H} (kept : ∀ verdict, call ≠ .onCheck verdict) :
    (cache.perform script depth call).1.handlers.check = cache.handlers.check := by
  cases call with
  | set key value lifetime =>
      cases reading : cache.clock.now with
      | error fault =>
          rw [perform, atReading, reading]
      | ok now =>
          obtain ⟨events, performed⟩ := perform_set_of_quiet quiet depth reading key value lifetime
          rw [performed]
          exact congrArg Handlers.check (handlers_writeAt cache key value lifetime now)
  | get key =>
      unfold perform
      exact atReading_keeps (P := fun reached => reached.handlers.check = cache.handlers.check) rfl
        fun now => congrArg Handlers.check (handlers_readAt cache key now)
  | getLease key =>
      unfold perform
      exact atReading_keeps (P := fun reached => reached.handlers.check = cache.handlers.check) rfl
        fun now => congrArg Handlers.check (handlers_readAt cache key now)
  | touch key =>
      unfold perform
      exact atReading_keeps (P := fun reached => reached.handlers.check = cache.handlers.check) rfl
        fun now => congrArg Handlers.check (handlers_touchAt cache key now)
  | keys =>
      unfold perform
      exact atReading_keeps (P := fun reached => reached.handlers.check = cache.handlers.check) rfl
        fun _ => rfl
  | close =>
      rw [perform, close_eq]
      split
      · rfl
      · unfold markClosed
        split
        · rfl
        · rfl
  | onCheck verdict => exact absurd rfl (kept verdict)
  | _ =>
      unfold perform
      rfl

namespace Lenient

theorem perform (quiet : ∀ handler key value, (script handler key value).isQuiet = true)
    (depth : Nat) (lenient : cache.Lenient) {call : Call K V H}
    (installs : call.InstallsPermissive) : (cache.perform script depth call).1.Lenient := by
  refine ⟨(perform_reaches script depth call cache).1.valid lenient.valid, ?_⟩
  cases call with
  | onCheck verdict =>
      unfold Cache.perform
      rintro _ ⟨⟩
      exact installs
  | _ =>
      rw [check_perform quiet depth (by rintro _ ⟨⟩)]
      exact lenient.permissive

theorem sweep (quiet : ∀ handler key value, (script handler key value).isQuiet = true)
    (depth : Nat) (lenient : cache.Lenient) : (cache.sweep script depth).1.Lenient := by
  cases reading : cache.clock.now with
  | error fault =>
      rw [Cache.sweep, atReading, reading]
      exact lenient
  | ok now =>
      obtain ⟨events, swept⟩ := sweep_of_quiet quiet depth reading
      rw [swept]
      exact ⟨lenient.valid.sweep cache.handlers.check now,
        Store.permissive_sweep lenient.valid lenient.permissive now⟩

theorem planSleep (lenient : cache.Lenient) : cache.planSleep.1.Lenient :=
  atReading_keeps lenient fun _ => ⟨lenient.valid.of_same rfl rfl, lenient.permissive⟩

end Lenient

/-! ## The sweeper changes no outlook -/

theorem outlook_sweep (quiet : ∀ handler key value, (script handler key value).isQuiet = true)
    (depth : Nat) (lenient : cache.Lenient) :
    (cache.sweep script depth).1.store.outlook cache.clock.instant =
      cache.store.outlook cache.clock.instant := by
  cases reading : cache.clock.now with
  | error fault =>
      rw [sweep, atReading, reading]
  | ok now =>
      obtain rfl := Clock.instant_of_now reading
      obtain ⟨events, swept⟩ := sweep_of_quiet quiet depth reading
      rw [swept]
      exact lenient.valid.outlook_sweep lenient.permissive cache.clock.instant

theorem outlook_planSleep (cache : Cache K V H) (now : Instant) :
    cache.planSleep.1.store.outlook now = cache.store.outlook now :=
  atReading_keeps (P := fun reached => reached.store.outlook now = cache.store.outlook now) rfl
    fun _ => rfl

/-! ## Sessions -/

/-- A cache that is found in a given outlook by a call shows the view. -/
def Shows (script : H → K → V → Script K V H) (depth : Nat) (view : View K V)
    (found : Outlook K V × Clock × Call K V H) : Prop :=
  ∃ cache : Cache K V H, cache.store.Valid ∧ cache.store.outlook found.2.1.instant = found.1 ∧
    view = cache.view script depth found.2.1 found.2.2

/-- A session shows what the trace of its calls tells, and ends with their outlook. -/
theorem views_of_trace (quiet : ∀ handler key value, (script handler key value).isQuiet = true)
    (depth : Nat) (session : List (Clock × Action K V H)) {last : Instant}
    (later : ∀ step ∈ session, last ≤ step.1.instant) (ascends : Ascends session)
    (installs : ∀ request ∈ clients session, request.2.InstallsPermissive)
    (lenient : cache.Lenient) {outlook : Outlook K V}
    (agrees : cache.store.outlook last = outlook.age last) :
    List.Forall₂ (Shows script depth) (cache.views script depth session)
        (outlook.trace (clients session)) ∧
      ∃ ended, (cache.actAll script depth session).store.outlook ended =
        (outlook.after (clients session)).age ended := by
  induction session generalizing cache outlook last with
  | nil => exact ⟨.nil, last, agrees⟩
  | cons step rest ih =>
      obtain ⟨clock, action⟩ := step
      have reached := later (clock, action) List.mem_cons_self
      obtain ⟨restLater, restAscends⟩ := List.pairwise_cons.mp ascends
      have aged : cache.store.outlook clock.instant = outlook.age clock.instant := by
        rw [cache.store.outlook_later reached, agrees, outlook.age_age reached]
      have started : { cache with clock }.Lenient := ⟨lenient.valid, lenient.permissive⟩
      cases action with
      | call call =>
          have own := installs (clock, call) List.mem_cons_self
          have stepped : ({ cache with clock }.perform script depth call).1.store.outlook
              clock.instant = (outlook.age clock.instant).step clock call :=
            (outlook_perform quiet depth started.valid call).trans
              (congrArg (Outlook.step · clock call) aged)
          have agreesAfter := (Store.outlook_age _ clock.instant).trans
            (congrArg (Outlook.age · clock.instant) stepped)
          obtain ⟨shown, ended⟩ := ih restLater restAscends
            (fun request listed => installs request (List.mem_cons_of_mem _ listed))
            (started.perform quiet depth own) agreesAfter
          exact ⟨.cons ⟨cache, lenient.valid, aged, rfl⟩ shown, ended⟩
      | planSleep =>
          exact ih restLater restAscends installs started.planSleep
            ((outlook_planSleep { cache with clock } clock.instant).trans aged)
      | sweep =>
          exact ih restLater restAscends installs (started.sweep quiet depth)
            ((outlook_sweep quiet depth started).trans aged)

/-- Views of the same trace are the same. -/
theorem same_of_shows (quiet : ∀ handler key value, (script handler key value).isQuiet = true)
    (depth : Nat) {first second : List (View K V)}
    {trace : List (Outlook K V × Clock × Call K V H)}
    (shown : List.Forall₂ (Shows script depth) first trace)
    (alsoShown : List.Forall₂ (Shows script depth) second trace) :
    List.Forall₂ View.Same first second := by
  induction shown generalizing second with
  | nil =>
      cases alsoShown with
      | nil => exact .nil
  | cons head _ ih =>
      cases alsoShown with
      | cons otherHead otherRest =>
          obtain ⟨left, leftValid, leftFound, rfl⟩ := head
          obtain ⟨right, rightValid, rightFound, rfl⟩ := otherHead
          exact .cons (view_same quiet depth leftValid rightValid
            (leftFound.trans rightFound.symm) _) (ih otherRest)

/--
The sweeper is invisible to readers.  Two sessions of a cache with the same calls
at the same readings of the clock show the same answers and counters at each call
and end with the same counters, wherever the sweeper plans and passes in each.
-/
theorem sweeper_invisible_to_readers
    (quiet : ∀ handler key value, (script handler key value).isQuiet = true) (depth : Nat)
    (clock : Clock) (sharedLifetime : Option Duration) (skipRenewal : Bool)
    (handlers : Handlers K V H) (permissive : ExpiryCheck.Permissive handlers.check)
    {left right : List (Clock × Action K V H)} (leftAscends : Ascends left)
    (rightAscends : Ascends right) (same : clients left = clients right)
    (installs : ∀ request ∈ clients left, request.2.InstallsPermissive) :
    let cache := create clock sharedLifetime skipRenewal handlers
    List.Forall₂ View.Same (cache.views script depth left) (cache.views script depth right) ∧
      (cache.actAll script depth left).store.counters.ofReads =
        (cache.actAll script depth right).store.counters.ofReads := by
  intro cache
  have lenient : cache.Lenient :=
    ⟨valid_create clock sharedLifetime skipRenewal handlers, permissive⟩
  have agrees : cache.store.outlook .origin = (cache.store.outlook .origin).age .origin :=
    cache.store.outlook_age .origin
  have begins (session : List (Clock × Action K V H)) :
      ∀ step ∈ session, Instant.origin ≤ step.1.instant :=
    fun step _ => Instant.le_iff.mpr (Nat.zero_le _)
  obtain ⟨leftShown, leftEnd, leftEnded⟩ :=
    views_of_trace quiet depth left (begins left) leftAscends installs lenient agrees
  obtain ⟨rightShown, rightEnd, rightEnded⟩ :=
    views_of_trace quiet depth right (begins right) rightAscends (same ▸ installs) lenient agrees
  rw [← same] at rightShown rightEnded
  refine ⟨same_of_shows quiet depth leftShown rightShown, ?_⟩
  calc (cache.actAll script depth left).store.counters.ofReads
    _ = ((cache.store.outlook .origin).after (clients left)).counters :=
        congrArg Outlook.counters leftEnded
    _ = (cache.actAll script depth right).store.counters.ofReads :=
        (congrArg Outlook.counters rightEnded).symm

/-- A session in which an entry expires and is touched, overwritten and read. -/
def calmSession : List (Clock × Action Nat Nat Unit) :=
  [({}, .call (.set 1 10 (.lasting (.ofSeconds 2)))),
    ({}, .call (.set 2 20 .inherited)),
    ({ elapsed := .ofSeconds 1 }, .call (.getLease 1)),
    ({ elapsed := .ofSeconds 4 }, .call (.touch 1)),
    ({ elapsed := .ofSeconds 4 }, .call (.set 1 11 .inherited)),
    ({ elapsed := .ofSeconds 5 }, .call (.setSharedLifetime (.ofSeconds 9))),
    ({ elapsed := .ofSeconds 6 }, .call (.get 1)),
    ({ elapsed := .ofSeconds 6 }, .call .keys)]

/-- The same calls with a sweeper that evicts the entry before it is overwritten. -/
def sweptSession : List (Clock × Action Nat Nat Unit) :=
  [({}, .call (.set 1 10 (.lasting (.ofSeconds 2)))),
    ({}, .planSleep),
    ({}, .call (.set 2 20 .inherited)),
    ({ elapsed := .ofSeconds 1 }, .call (.getLease 1)),
    ({ elapsed := .ofSeconds 4 }, .sweep),
    ({ elapsed := .ofSeconds 4 }, .call (.touch 1)),
    ({ elapsed := .ofSeconds 4 }, .call (.set 1 11 .inherited)),
    ({ elapsed := .ofSeconds 5 }, .call (.setSharedLifetime (.ofSeconds 9))),
    ({ elapsed := .ofSeconds 6 }, .sweep),
    ({ elapsed := .ofSeconds 6 }, .call (.get 1)),
    ({ elapsed := .ofSeconds 6 }, .call .keys)]

/-- Handlers that fail, if they are run at all, make no difference. -/
theorem sweptSession_like_calmSession :
    Ascends calmSession ∧ Ascends sweptSession ∧ clients calmSession = clients sweptSession ∧
      List.Forall₂ View.Same
        ((create {} (some (.ofSeconds 5)) false { onInsert := some (), onEvict := some () }).views
          (fun _ _ _ => .fail) 1 calmSession)
        ((create {} (some (.ofSeconds 5)) false { onInsert := some (), onEvict := some () }).views
          (fun _ _ _ => .fail) 1 sweptSession) := by
  have calmAscends : Ascends calmSession := by
    unfold Ascends
    decide
  have sweptAscends : Ascends sweptSession := by
    unfold Ascends
    decide
  have same : clients calmSession = clients sweptSession := rfl
  refine ⟨calmAscends, sweptAscends, same, (sweeper_invisible_to_readers (fun _ _ _ => rfl) 1 {}
    (some (.ofSeconds 5)) false { onInsert := some (), onEvict := some () }
    (fun _ absent => nomatch absent) calmAscends sweptAscends same ?_).1⟩
  simp [clients, calmSession, Call.InstallsPermissive]

end Cache

end ExpiringCache
