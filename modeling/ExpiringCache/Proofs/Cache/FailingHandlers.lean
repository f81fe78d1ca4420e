import ExpiringCache.Proofs.Cache.Alike
import ExpiringCache.Proofs.Ledger.Machine

/-!
# Failing handlers

Handlers and checks that always fail do not disturb a cache: it does all that it
would do without them, except that a write of an absent key ends with the failure
of the handler that is told of it.
-/

namespace ExpiringCache

/-! ## Handlers that stay -/

/-- A call other than the installation of a handler of new entries. -/
def Call.LeavesOnInsert {K V H : Type} (call : Call K V H) : Prop :=
  ∀ handler, call ≠ .onInsert handler

def Script.LeavesOnInsert {K V H : Type} : Script K V H → Prop
  | .done => True
  | .fail => True
  | .note _ rest => rest.LeavesOnInsert
  | .call request next => request.LeavesOnInsert ∧ ∀ answer, (next answer).LeavesOnInsert

def Action.LeavesOnInsert {K V H : Type} : Action K V H → Prop
  | .call request => request.LeavesOnInsert
  | _ => True

theorem Script.onInsert_run {K V H : Type} {told : Script K V H}
    (leaves : told.LeavesOnInsert) (failure : Fault)
    {perform : Call K V H → Cache K V H → Cache K V H × Except Fault (Answer K V)}
    (each : ∀ call cache, call.LeavesOnInsert →
      (perform call cache).1.handlers.onInsert = cache.handlers.onInsert) (cache : Cache K V H) :
    (told.run failure perform cache).1.handlers.onInsert = cache.handlers.onInsert := by
  induction told generalizing cache with
  | done => rfl
  | fail => rfl
  | note event rest ih => exact ih leaves (cache.record [event])
  | call request next ih =>
      obtain ⟨first, later⟩ := leaves
      have kept := each request cache first
      cases performed : perform request cache with
      | mk reached outcome =>
          rw [performed] at kept
          rw [run, performed]
          cases outcome with
          | error fault => exact kept
          | ok answer => exact (ih answer (later answer) reached).trans kept

namespace Cache

variable {K V H : Type} [DecidableEq K] {script : H → K → V → Script K V H}

omit [DecidableEq K] in
theorem onInsert_atReading {α : Type} (cache : Cache K V H)
    {body : Instant → Cache K V H × Except Fault α}
    (each : ∀ now, (body now).1.handlers = cache.handlers) :
    (cache.atReading body).1.handlers.onInsert = cache.handlers.onInsert :=
  atReading_keeps (P := fun reached => reached.handlers.onInsert = cache.handlers.onInsert) rfl
    fun now => congrArg Handlers.onInsert (each now)

theorem onInsert_perform (stays : ∀ handler key value, (script handler key value).LeavesOnInsert)
    (depth : Nat) (call : Call K V H) (cache : Cache K V H) (leaves : call.LeavesOnInsert) :
    (cache.perform script depth call).1.handlers.onInsert = cache.handlers.onInsert := by
  induction depth using Nat.strongRecOn generalizing call cache with
  | ind depth ih =>
      cases call with
      | set key value lifetime =>
          cases reading : cache.clock.now with
          | error fault => rw [perform_set_of_fault script depth reading]
          | ok now =>
              have written := handlers_writeAt cache key value lifetime now
              cases told : (cache.writeAt key value lifetime now).2 with
              | none =>
                  rw [perform_set_of_none script depth reading told]
                  exact congrArg Handlers.onInsert written
              | some handler =>
                  rw [perform_set_of_some script depth reading told, ← written]
                  cases depth with
                  | zero => rfl
                  | succ inner =>
                      exact Script.onInsert_run (stays handler key value) .insertHandlerFailed
                        (ih inner (Nat.lt_succ_self inner)) _
      | get key =>
          unfold perform
          exact onInsert_atReading cache (handlers_readAt cache key)
      | getLease key =>
          unfold perform
          exact onInsert_atReading cache (handlers_readAt cache key)
      | touch key =>
          unfold perform
          exact onInsert_atReading cache (handlers_touchAt cache key)
      | keys =>
          unfold perform
          exact onInsert_atReading cache fun _ => rfl
      | close =>
          rw [perform, close_eq]
          split
          · rfl
          · unfold markClosed
            split
            · rfl
            · rfl
      | onInsert handler => exact absurd rfl (leaves handler)
      | _ =>
          unfold perform
          rfl

theorem onInsert_announceEvicted
    (stays : ∀ handler key value, (script handler key value).LeavesOnInsert) (depth : Nat)
    (handler : H) (batch : List (K × V)) (cache : Cache K V H) :
    (cache.announceEvicted script depth handler batch).handlers.onInsert =
      cache.handlers.onInsert := by
  induction batch generalizing cache with
  | nil => rfl
  | cons pair rest ih =>
      obtain ⟨key, value⟩ := pair
      exact (ih _).trans (Script.onInsert_run (stays handler key value) .evictHandlerFailed
        (onInsert_perform stays depth) (cache.record [.evicted key value]))

theorem onInsert_sweep (stays : ∀ handler key value, (script handler key value).LeavesOnInsert)
    (depth : Nat) (cache : Cache K V H) :
    (cache.sweep script depth).1.handlers.onInsert = cache.handlers.onInsert := by
  apply atReading_keeps (P := fun reached =>
    reached.handlers.onInsert = cache.handlers.onInsert) rfl
  intro now
  dsimp only
  split
  · rfl
  · exact onInsert_announceEvicted stays depth _ _ _

theorem onInsert_act (stays : ∀ handler key value, (script handler key value).LeavesOnInsert)
    (depth : Nat) (cache : Cache K V H) (clock : Clock) {action : Action K V H}
    (leaves : action.LeavesOnInsert) :
    (cache.act script depth clock action).handlers.onInsert = cache.handlers.onInsert := by
  cases action with
  | call call => exact onInsert_perform stays depth call { cache with clock } leaves
  | planSleep => exact onInsert_atReading { cache with clock } fun _ => rfl
  | sweep => exact onInsert_sweep stays depth { cache with clock }

/-- A handler of new entries stays until another one is installed. -/
theorem onInsert_actAll (stays : ∀ handler key value, (script handler key value).LeavesOnInsert)
    (depth : Nat) (cache : Cache K V H) {session : List (Clock × Action K V H)}
    (leaves : ∀ step ∈ session, step.2.LeavesOnInsert) :
    (cache.actAll script depth session).handlers.onInsert = cache.handlers.onInsert := by
  induction session generalizing cache with
  | nil => rfl
  | cons step rest ih =>
      obtain ⟨first, later⟩ := List.forall_mem_cons.mp leaves
      exact (ih (cache.act script depth step.1 step.2) later).trans
        (onInsert_act stays depth cache step.1 first)

end Cache

/-! ## Sessions -/

/-- How an action ends for the one who takes it. -/
inductive Upshot (K V : Type) where
  | answer (answer : Except Fault (Answer K V))
  | sleep (duration : Except Fault Duration)
  | evicted (size : Except Fault Nat)

namespace Cache

variable {K V H : Type} [DecidableEq K] {script : H → K → V → Script K V H}

/-- How an action ends that begins when the clock stands as given. -/
def upshot (script : H → K → V → Script K V H) (depth : Nat) (cache : Cache K V H)
    (clock : Clock) : Action K V H → Upshot K V
  | .call call => .answer ({ cache with clock }.perform script depth call).2
  | .planSleep => .sleep { cache with clock }.planSleep.2
  | .sweep => .evicted ({ cache with clock }.sweep script depth).2

/-- Whether an action writes a key that is absent to a cache that is open. -/
def adds (cache : Cache K V H) (clock : Clock) : Action K V H → Bool
  | .call request => { cache with clock }.makesEntry request
  | _ => false

namespace Alike

variable {same : Bool} {loud quiet : Cache K V H}

theorem signals (depth : Nat) (alike : Alike script same loud quiet) (clock : Clock)
    (action : Action K V H)
    (careful : same = true ∨ quiet.ActsAddingLast script depth clock action) :
    loud.signals script depth clock action = quiet.signals script depth clock action := by
  have calm : Alike script same { loud with wake := false } { quiet with wake := false } :=
    { alike with wake := rfl }
  have heedful : same = true ∨
      { quiet with wake := false }.ActsAddingLast script depth clock action := by
    cases action with
    | sweep => exact careful
    | _ => exact .inr trivial
  exact (calm.act depth clock action heedful).wake

/-- Only writes of absent keys end differently. -/
theorem upshot (depth : Nat) (alike : Alike script same loud quiet) (clock : Clock)
    (action : Action K V H)
    (careful : same = true ∨ quiet.ActsAddingLast script (depth + 1) clock action) :
    loud.upshot script (depth + 1) clock action =
      if loud.handlers.onInsert.isSome && quiet.handlers.onInsert.isNone &&
          quiet.adds clock action then
        .answer (.error .insertHandlerFailed)
      else quiet.upshot script (depth + 1) clock action := by
  have began : Alike script same { loud with clock } { quiet with clock } :=
    { alike with clock := rfl }
  cases action with
  | call request =>
      by_cases kept : loud.handlers.onInsert = quiet.handlers.onInsert
      · rw [kept, ← Option.not_isSome, Bool.and_not_self, Bool.false_and, if_neg Bool.false_ne_true]
        exact congrArg Upshot.answer
          ((keepsAlike script (depth + 1) same).answered began request (.inl kept))
      · obtain ⟨handler, -, here, there⟩ := alike.onInsert.failing_of_ne kept
        obtain ⟨-, ends⟩ := began.perform_differing kept (depth + 1) request
        rw [if_neg (Nat.succ_ne_zero depth)] at ends
        rw [here, there, Option.isSome_some, Option.isNone_none, Bool.and_self, Bool.true_and]
        exact (congrArg Upshot.answer ends).trans (apply_ite Upshot.answer _ _ _)
  | planSleep =>
      have adds : quiet.adds clock .planSleep = false := rfl
      rw [adds, Bool.and_false, if_neg Bool.false_ne_true]
      exact congrArg Upshot.sleep began.planSleep.2
  | sweep =>
      have adds : quiet.adds clock .sweep = false := rfl
      rw [adds, Bool.and_false, if_neg Bool.false_ne_true]
      exact congrArg Upshot.evicted
        (began.sweep (depth + 1) (careful.imp_right fun last => last quiet.wake)).2

end Alike

/--
Failing handlers leave no trace.  Take two sets of handlers for one cache, of which
the first may have handlers that always fail where the second has none, and checks
that never veto, as those that always fail, where the second has others or none.
After every session both caches have the same store and the same wake-ups, every
further action wakes the sweeper in both or in neither, and it ends in the same way,
except that a write of an absent key fails with its handler, which stays until
another one is installed.

Handlers that stay may do anything, with one exception.  Where it is the handler of
new entries that fails, its failure ends the script of a handler of evicted entries
that adds an entry, so that in the run without it such a script must not go on with
anything but notes.  If all handlers fail, there is no such script.
-/
theorem failing_handlers_leave_no_trace (depth : Nat) (cache : Cache K V H)
    {loud quiet : Handlers K V H} (onInsert : Dropped script loud.onInsert quiet.onInsert)
    (onEvict : Dropped script loud.onEvict quiet.onEvict)
    (check : loud.check = quiet.check ∨
      ExpiryCheck.Permissive loud.check ∧ ExpiryCheck.Permissive quiet.check)
    (session : List (Clock × Action K V H)) (clock : Clock) (action : Action K V H)
    (careful : loud.onInsert = quiet.onInsert ∨
      (∀ handler key value, (script handler key value).isFailing = true) ∨
      { cache with handlers := quiet }.AddsLast script (depth + 1)
        (session ++ [(clock, action)])) :
    let failing := { cache with handlers := loud }.actAll script (depth + 1) session
    let spared := { cache with handlers := quiet }.actAll script (depth + 1) session
    failing.store = spared.store ∧ failing.wake = spared.wake ∧
      failing.signals script (depth + 1) clock action =
        spared.signals script (depth + 1) clock action ∧
      (failing.upshot script (depth + 1) clock action =
        if failing.handlers.onInsert.isSome && spared.handlers.onInsert.isNone &&
            spared.adds clock action then
          .answer (.error .insertHandlerFailed)
        else spared.upshot script (depth + 1) clock action) ∧
      ((∀ handler key value, (script handler key value).LeavesOnInsert) →
        (∀ step ∈ session, step.2.LeavesOnInsert) →
          failing.handlers.onInsert = loud.onInsert ∧
            spared.handlers.onInsert = quiet.onInsert) := by
  intro failing spared
  obtain ⟨same, begins, heedful⟩ : ∃ same,
      Alike script same { cache with handlers := loud } { cache with handlers := quiet } ∧
        (same = true ∨ { cache with handlers := quiet }.AddsLast script (depth + 1)
          (session ++ [(clock, action)])) := by
    have alike : Alike script false { cache with handlers := loud }
        { cache with handlers := quiet } := ⟨rfl, rfl, rfl, onInsert, onEvict, check, nofun⟩
    obtain kept | fails | last := careful
    · exact ⟨true, alike.remember kept, .inl rfl⟩
    · refine ⟨false, alike, .inr (addsLast_of_scripts ?_ _ _)⟩
      exact fun handler key value => Script.addsLast_of_failing (fails handler key value) _ _
    · exact ⟨false, alike, .inr last⟩
  have parts := heedful.imp_right addsLast_append.mp
  have next := parts.imp_right fun last => last.2.1
  have alike : Alike script same failing spared :=
    begins.actAll (depth + 1) session (parts.imp_right And.left)
  refine ⟨alike.store, alike.wake, alike.signals (depth + 1) clock action next,
    alike.upshot depth clock action next, ?_⟩
  intro stays leaves
  exact ⟨onInsert_actAll stays (depth + 1) _ leaves, onInsert_actAll stays (depth + 1) _ leaves⟩

/--
A handler of new entries that fails, and one of evicted entries that reads one key,
stores another, and then looks how many there are.
-/
def observer : Bool → Nat → Nat → Script Nat Nat Bool
  | true, _, _ => .fail
  | false, _, _ =>
      .call (.get 2) fun _ => .call (.set 4 40 .unlimited) fun _ => .call .count fun _ => .done

/-- A session in which one entry of three expires and is evicted. -/
def shortSession : List (Clock × Action Nat Nat Bool) :=
  [({}, .call (.set 1 10 (.lasting (.ofSeconds 2)))), ({}, .planSleep),
    ({ elapsed := .ofSeconds 1 }, .call (.set 2 20 .unlimited)),
    ({ elapsed := .ofSeconds 1 }, .call (.set 3 30 .unlimited)),
    ({ elapsed := .ofSeconds 5 }, .sweep)]

/-- The observer's key is stored although its write fails, and a check that fails vetoes nothing. -/
theorem observer_leaves_no_trace :
    let loud : Handlers Nat Nat Bool := {
      onInsert := some true
      onEvict := some false
      check := some { verdict := fun _ _ _ => .fail } }
    let quiet : Handlers Nat Nat Bool := { onEvict := some false }
    let failing := (create {} none false loud).actAll observer 1 shortSession
    let spared := (create {} none false quiet).actAll observer 1 shortSession
    let clock : Clock := { elapsed := .ofSeconds 6 }
    failing.store = spared.store ∧ failing.store.liveKeys ⟨6000000000⟩ = [2, 3, 4] ∧
      failing.upshot observer 1 clock (.call (.set 1 11 .inherited)) =
        .answer (.error .insertHandlerFailed) ∧
      failing.upshot observer 1 clock (.call (.set 2 21 .inherited)) =
        spared.upshot observer 1 clock (.call (.set 2 21 .inherited)) := by
  intro loud quiet failing spared clock
  have last (handler : Bool) (key value : Nat) (cache : Cache Nat Nat Bool) :
      (observer handler key value).AddsLast .evictHandlerFailed (perform observer 1) cache := by
    cases handler with
    | true => trivial
    | false =>
        refine .call nofun fun _ _ => .call ?_ fun _ _ => .call nofun fun _ _ => trivial
        exact fun _ _ reached => ⟨[], reached.record_nil.symm⟩
  have onInsert : Dropped observer loud.onInsert quiet.onInsert := .failing fun _ _ => rfl
  have permissive : ExpiryCheck.Permissive loud.check := by
    rintro _ ⟨⟩ history key value
    rfl
  have stays : ∀ handler key value, (observer handler key value).LeavesOnInsert := by
    rintro (_ | _) key value <;> simp [observer, Script.LeavesOnInsert, Call.LeavesOnInsert]
  have leaves : ∀ step ∈ shortSession, step.2.LeavesOnInsert := by
    simp [shortSession, Action.LeavesOnInsert, Call.LeavesOnInsert]
  have absent : spared.adds clock (.call (.set 1 11 .inherited)) = true := by decide +kernel
  have present : spared.adds clock (.call (.set 2 21 .inherited)) ≠ true := by decide +kernel
  have differ : (loud.onInsert.isSome && quiet.onInsert.isNone) = true := rfl
  obtain ⟨store, -, -, ends, handlers⟩ := failing_handlers_leave_no_trace 0
    (create {} none false {}) onInsert (.same _) (.inr ⟨permissive, .of_none⟩) shortSession clock
    (.call (.set 1 11 .inherited)) (.inr (.inr (addsLast_of_scripts last _ _)))
  obtain ⟨-, -, -, endsAgain, -⟩ := failing_handlers_leave_no_trace 0
    (create {} none false {}) onInsert (.same _) (.inr ⟨permissive, .of_none⟩) shortSession clock
    (.call (.set 2 21 .inherited)) (.inr (.inr (addsLast_of_scripts last _ _)))
  obtain ⟨installed, missing⟩ := handlers stays leaves
  rw [installed, missing, differ, Bool.true_and] at ends endsAgain
  refine ⟨store, ?_, ends.trans (if_pos absent), endsAgain.trans (if_neg present)⟩
  decide +kernel

/-- The same failing handler, and one of evicted entries that goes on after a write. -/
def replacer : Bool → Nat → Nat → Script Nat Nat Bool
  | true, _, _ => .fail
  | false, _, _ => .call (.set 4 40 .unlimited) fun _ => .call (.remove 3) fun _ => .done

/--
Where the handler of new entries fails, the replacer adds its key but no longer
removes the other one.  And a write of an absent key to an open cache does not get
as far as that handler if the clock cannot be read.
-/
theorem replacer_leaves_trace :
    let loud : Handlers Nat Nat Bool := { onInsert := some true, onEvict := some false }
    let quiet : Handlers Nat Nat Bool := { onEvict := some false }
    let failing := (create {} none false loud).actAll replacer 1 shortSession
    let spared := (create {} none false quiet).actAll replacer 1 shortSession
    let late : Clock := { elapsed := .ofSeconds (Nat.pow 2 63) }
    (failing.store.liveKeys ⟨6000000000⟩ = [2, 3, 4] ∧
        spared.store.liveKeys ⟨6000000000⟩ = [2, 4] ∧ failing.store ≠ spared.store) ∧
      failing.admits 1 = true ∧
        failing.upshot replacer 1 late (.call (.set 1 11 .inherited)) =
          .answer (.error .instantOverflow) := by
  intro loud quiet failing spared late
  have kept : failing.store.liveKeys ⟨6000000000⟩ = [2, 3, 4] := by decide +kernel
  have removed : spared.store.liveKeys ⟨6000000000⟩ = [2, 4] := by decide +kernel
  refine ⟨⟨kept, removed, ?_⟩, by decide +kernel, ?_⟩
  · intro same
    rw [same, removed] at kept
    cases kept
  · have past : late.start.add? late.elapsed = none := by decide +kernel
    have unread : { failing with clock := late }.clock.now = .error .instantOverflow := by
      rw [Clock.now, past]
    exact congrArg (fun performed => Upshot.answer performed.2)
      (perform_set_of_fault replacer 1 unread 1 11 .inherited)

end Cache

end ExpiringCache
