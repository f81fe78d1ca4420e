import ExpiringCache.Proofs.Cache.Record
import ExpiringCache.Proofs.Cache.SectionByKey
import ExpiringCache.Proofs.Cache.Threads

/-!
# Announcements

A batch of evicted pairs is fixed before the first of them is announced.  The
handler that was installed when the pass was made is run once for each pair,
whatever it does: it may store evicted keys again, take others out, close the
cache, install another handler, or fail.  What is left is the cache after the
pass with the calls of the handler made one after the other.
-/

namespace ExpiringCache

/-- One thing that a script gets done. -/
inductive Move (K V H : Type) where
  | note (event : Event K V)
  | call (request : Call K V H)

/-- What a script gets done before it ends, fails, or makes a call that fails. -/
def Script.moves {K V H : Type}
    (perform : Call K V H → Cache K V H → Cache K V H × Except Fault (Answer K V)) :
    Script K V H → Cache K V H → List (Move K V H)
  | .done, _ => []
  | .fail, _ => []
  | .note event rest, cache => .note event :: rest.moves perform (cache.record [event])
  | .call request next, cache =>
      .call request ::
        match perform request cache with
        | (_, .error _) => []
        | (reached, .ok answer) => (next answer).moves perform reached

namespace Cache

variable {K V H : Type} [DecidableEq K] (script : H → K → V → Script K V H) (depth : Nat)

def move (cache : Cache K V H) : Move K V H → Cache K V H
  | .note event => cache.record [event]
  | .call request => (cache.perform script depth request).1

def moveAll (cache : Cache K V H) (moves : List (Move K V H)) : Cache K V H :=
  moves.foldl (move script depth) cache

/-- The moves of several scripts, each of which begins where the one before it left off. -/
def movesInTurn : List (Script K V H) → Cache K V H → List (List (Move K V H))
  | [], _ => []
  | task :: rest, cache =>
      let made := task.moves (perform script depth) cache
      made :: movesInTurn rest (cache.moveAll script depth made)

variable {script depth} {cache : Cache K V H}

theorem moveAll_append (early late : List (Move K V H)) :
    cache.moveAll script depth (early ++ late) =
      (cache.moveAll script depth early).moveAll script depth late :=
  List.foldl_append

/-- A script leads to where its moves lead, whether it fails or not. -/
theorem run_eq_moveAll (script : H → K → V → Script K V H) (depth : Nat) (failure : Fault)
    (task : Script K V H) (cache : Cache K V H) :
    (task.run failure (perform script depth) cache).1 =
      cache.moveAll script depth (task.moves (perform script depth) cache) := by
  induction task generalizing cache with
  | done => rfl
  | fail => rfl
  | note event rest ih => exact ih (cache.record [event])
  | call request next ih =>
      rw [Script.moves, moveAll, List.foldl_cons]
      have first : move script depth cache (.call request) =
          (perform script depth request cache).1 := rfl
      rw [Script.run, first]
      cases perform script depth request cache with
      | mk reached outcome =>
          cases outcome with
          | error fault => rfl
          | ok answer => exact ih answer reached

theorem length_movesInTurn (tasks : List (Script K V H)) (cache : Cache K V H) :
    (cache.movesInTurn script depth tasks).length = tasks.length := by
  induction tasks generalizing cache with
  | nil => rfl
  | cons task rest ih =>
      rw [movesInTurn, List.length_cons, ih, List.length_cons]

/-- Each script runs from where the moves before it lead. -/
theorem getElem?_movesInTurn (tasks : List (Script K V H)) (cache : Cache K V H) (turn : Nat) :
    (cache.movesInTurn script depth tasks)[turn]? =
      tasks[turn]?.map fun task => task.moves (perform script depth)
        (cache.moveAll script depth
          ((cache.movesInTurn script depth tasks).take turn).flatten) := by
  induction tasks generalizing cache turn with
  | nil => rfl
  | cons task rest ih =>
      cases turn with
      | zero => rfl
      | succ turn =>
          rw [movesInTurn, List.getElem?_cons_succ, List.getElem?_cons_succ, List.take_succ_cons,
            List.flatten_cons, moveAll_append, ih]

/-- Announcing a batch is running the scripts of its pairs in turn. -/
theorem announceEvicted_eq_moveAll (handler : H) (batch : List (K × V)) (cache : Cache K V H) :
    cache.announceEvicted script depth handler batch =
      cache.moveAll script depth
        (cache.movesInTurn script depth (announcements script (some handler) batch)).flatten := by
  induction batch generalizing cache with
  | nil => rfl
  | cons pair rest ih =>
      obtain ⟨key, value⟩ := pair
      have split : announcements script (some handler) ((key, value) :: rest) =
          .note (.evicted key value) (script handler key value) ::
            announcements script (some handler) rest := rfl
      have told := run_eq_moveAll script depth .evictHandlerFailed
        (.note (.evicted key value) (script handler key value)) cache
      rw [split, movesInTurn, List.flatten_cons, moveAll_append, ← told]
      exact ih _

/-- A pass leads to where the announcement of its batch leads, and answers with its size. -/
theorem sweep_eq_moveAll {now : Instant} (reads : cache.clock.now = .ok now) :
    let swept := (cache.sweepAt now).1
    let batch := (cache.sweepAt now).2
    cache.sweep script depth =
      (swept.moveAll script depth
        (swept.movesInTurn script depth
          (announcements script swept.handlers.onEvict batch)).flatten, .ok batch.length) := by
  intro swept batch
  have concerned : (cache.sweepAt now).1.handlers.onEvict = swept.handlers.onEvict := rfl
  rw [sweep, atReading, reads]
  dsimp only
  rw [concerned]
  cases swept.handlers.onEvict with
  | none => rfl
  | some handler => exact congrArg (·, _) (announceEvicted_eq_moveAll handler batch swept)

/-! ## The batch of a pass -/

/-- A pass evicts what was stored before it, had expired, and is not stored after it. -/
theorem mem_sweepAt_iff (valid : cache.store.Valid) (now : Instant) (key : K) (value : V) :
    (key, value) ∈ (cache.sweepAt now).2 ↔
      (∃ entry, cache.store.stored? key = some entry ∧ entry.value = value ∧
        entry.isExpired now = true) ∧
      (cache.sweepAt now).1.store.stored? key = none := by
  obtain ⟨rulings, settles⟩ := valid.sweep_settles cache.handlers.check now
  have due := settles.on?_entry valid key
  have named : (key, value) ∈ (cache.sweepAt now).2 ↔
      (key, value) ∈ (cache.sweepAt now).2.filter (·.1 = key) := by
    simp [List.mem_filter]
  rw [named]
  change (key, value) ∈ (cache.store.sweep cache.handlers.check now).evicted.filter (·.1 = key) ↔
    _ ∧ (cache.store.sweep cache.handlers.check now).store.stored? key = none
  rw [settles.evicted_filter valid]
  cases ruled : Ruling.on? rulings key with
  | none =>
      rw [ruled] at due
      refine iff_of_false List.not_mem_nil ?_
      rintro ⟨⟨entry, stored, -, expired⟩, -⟩
      rw [stored, Option.filter_some, if_pos expired] at due
      cases due
  | some ruling =>
      rw [ruled, Option.map_some] at due
      obtain ⟨stored, expired⟩ := Option.filter_eq_some_iff.mp due.symm
      obtain ⟨-, carried⟩ := Ruling.mem_of_on? ruled
      rw [settles.stored?_of_ruled valid (valid.sweep cache.handlers.check now) ruled, stored,
        Option.filter_some]
      cases permitted : ruling.permitted with
      | false =>
          refine iff_of_false List.not_mem_nil ?_
          rintro ⟨-, gone⟩
          cases gone
      | true =>
          simp only [if_true, Option.toList_some, List.map_cons, List.map_nil, List.mem_singleton,
            and_true]
          constructor
          · intro same
            exact ⟨ruling.entry, rfl, (congrArg Prod.snd same).symm, expired⟩
          · rintro ⟨entry, same, rfl, -⟩
            obtain rfl := Option.some.inj same
            exact Prod.ext carried.symm rfl

/-- No key is evicted twice by one pass. -/
theorem nodup_sweepAt (valid : cache.store.Valid) (now : Instant) :
    ((cache.sweepAt now).2.map Prod.fst).Nodup := by
  obtain ⟨rulings, settles⟩ := valid.sweep_settles cache.handlers.check now
  have batch : (cache.sweepAt now).2 = (rulings.filter Ruling.permitted).map Ruling.pair :=
    settles.evicted_eq
  rw [batch, List.map_map]
  exact (settles.keys_nodup valid).sublist (List.filter_sublist.map _)

/-- A pass asks only about what was stored before it and had expired. -/
theorem expired_of_mem_consultations (valid : cache.store.Valid) {now : Instant}
    {asked : Consultation K V}
    (listed : asked ∈ (cache.store.sweep cache.handlers.check now).consultations) :
    ∃ entry, cache.store.stored? asked.key = some entry ∧ entry.isExpired now = true := by
  obtain ⟨rulings, settles⟩ := valid.sweep_settles cache.handlers.check now
  rw [settles.consultations_eq] at listed
  obtain ⟨ruling, member, question⟩ := List.mem_filterMap.mp listed
  obtain ⟨here, expired⟩ := settles.content?_of_mem member
  have carried := (settles.follow.of_mem member).1 asked question
  exact ⟨ruling.entry, valid.stored?_eq_some_iff.mpr ⟨ruling.slot, here, carried.symm⟩, expired⟩

/-! ## The announcement of a batch -/

/--
The batch of a pass is fixed before its announcement.  It consists of what was
stored and had expired and is stored no longer, each key once, and the pass asks
about nothing else.  The handler installed at the time of the pass gets one run
for each pair, in order, each from where the ones before it led, and however
they ended; the cache that is left comes from the one after the pass by the
moves of these runs.  The answer is the size of the batch.  If the notes of
handlers do not pass for events of passes, then nothing of the kind but the
questions of the pass and its announcements goes on record.
-/
theorem batch_fixed_before_announcement (script : H → K → V → Script K V H) (depth : Nat)
    (clock : Clock) (sharedLifetime : Option Duration) (skipRenewal : Bool)
    (handlers : Handlers K V H) (changes : List (Change K V H)) {now : Instant}
    (reads : ((create clock sharedLifetime skipRenewal handlers).afterAll changes).clock.now =
      .ok now) :
    let cache := (create clock sharedLifetime skipRenewal handlers).afterAll changes
    let asked := (cache.store.sweep cache.handlers.check now).consultations
    let swept := (cache.sweepAt now).1
    let batch := (cache.sweepAt now).2
    let tasks := announcements script cache.handlers.onEvict batch
    let made := swept.movesInTurn script depth tasks
    ((batch.map Prod.fst).Nodup ∧
        (∀ key value, (key, value) ∈ batch ↔
          (∃ entry, cache.store.stored? key = some entry ∧ entry.value = value ∧
            entry.isExpired now = true) ∧ swept.store.stored? key = none) ∧
        ∀ question ∈ asked, ∃ entry, cache.store.stored? question.key = some entry ∧
          entry.isExpired now = true) ∧
      (made.length = tasks.length ∧
        ∀ (turn : Nat) (task : Script K V H), tasks[turn]? = some task →
          made[turn]? = some (task.moves (perform script depth)
            (swept.moveAll script depth (made.take turn).flatten))) ∧
      cache.sweep script depth =
        (swept.moveAll script depth made.flatten, .ok batch.length) ∧
      ((∀ handler key value, (script handler key value).Truthful) →
        (cache.sweep script depth).1.passRecord =
          cache.passRecord ++ asked.map .checked ++
            cache.handlers.onEvict.toList.flatMap fun _ =>
              batch.map fun pair => .evicted pair.1 pair.2) := by
  intro cache asked swept batch tasks made
  have valid : cache.store.Valid :=
    valid_afterAll (valid_create clock sharedLifetime skipRenewal handlers) changes
  refine ⟨⟨nodup_sweepAt valid now, mem_sweepAt_iff valid now,
    fun _ listed => expired_of_mem_consultations valid listed⟩,
    ⟨length_movesInTurn tasks swept, ?_⟩, ?_, fun truthful => passRecord_sweep truthful depth reads⟩
  · intro turn task here
    rw [getElem?_movesInTurn, here]
    rfl
  · exact sweep_eq_moveAll reads

/-- A handler that stores another evicted key again, installs a second handler, and fails. -/
def unruly : Bool → Nat → Nat → Script Nat Nat Bool
  | true, _, _ =>
      .call (.set 2 99 .unlimited) fun _ => .call (.onEvict false) fun _ => .fail
  | false, _, _ => .call .close fun _ => .done

def unrulyChanges : List (Change Nat Nat Bool) :=
  [.client (.write 1 10 (.lasting ⟨5⟩) ⟨0⟩), .client (.write 2 20 (.lasting ⟨7⟩) ⟨0⟩),
    .client (.write 3 30 .unlimited ⟨0⟩), .client (.moveClock { elapsed := ⟨8⟩ })]

/-- Both pairs are announced to the first handler, the second one with the value it had. -/
theorem unruly_announced :
    let cache := (create {} none false { onEvict := some true }).afterAll unrulyChanges
    let left := (cache.sweep unruly 1).1
    (cache.sweepAt ⟨8⟩).2 = [(1, 10), (2, 20)] ∧ (cache.sweep unruly 1).2 = .ok 2 ∧
      left.passRecord = [.evicted 1 10, .evicted 2 20] ∧ left.store.liveKeys ⟨8⟩ = [3, 2] ∧
      left.handlers.onEvict = some false := by
  intro cache left
  have truthful : ∀ handler key value, (unruly handler key value).Truthful := by
    rintro (_ | _) key value
    · exact fun _ => trivial
    · exact fun _ _ => trivial
  have batch : (cache.sweepAt ⟨8⟩).2 = [(1, 10), (2, 20)] := by decide +kernel
  obtain ⟨-, -, ends, record⟩ := batch_fixed_before_announcement unruly 1 {} none false
    { onEvict := some true } unrulyChanges (show _ = Except.ok ⟨8⟩ by decide +kernel)
  refine ⟨batch, (congrArg Prod.snd ends).trans ?_, (record truthful).trans ?_, ?_, ?_⟩
  · exact congrArg (fun pairs => Except.ok pairs.length) batch
  · decide +kernel
  · decide +kernel
  · decide +kernel

end Cache

end ExpiringCache
