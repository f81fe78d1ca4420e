import ExpiringCache.Proofs.Cache.Course
import ExpiringCache.Proofs.Cache.Readers

/-!
# The record of passes

Passes ask the check and have the handler of evicted entries run, and both go on
record.  Calls leave nothing of the kind, whatever their handlers do, as long as
the notes of handlers do not pass for it.  The record of a session is therefore
what its passes ask and evict, one pass after the other.
-/

namespace ExpiringCache

/-- A question put to the check, or a run of the handler of evicted entries. -/
def Event.ofPass {K V : Type} : Event K V → Bool
  | .checked _ => true
  | .evicted _ _ => true
  | _ => false

/-- A script whose notes do not pass for events of a pass. -/
def Script.Truthful {K V H : Type} : Script K V H → Prop
  | .done => True
  | .fail => True
  | .note event rest => event.ofPass = false ∧ rest.Truthful
  | .call _ next => ∀ answer, (next answer).Truthful

/-- A change that adds no event of a pass and leaves a handler of evicted entries installed. -/
def Change.Modest {K V H : Type} : Change K V H → Prop
  | .client (.note events) => events.filter Event.ofPass = []
  | .client (.install handlers) => handlers.onEvict.isSome = true
  | .sweep _ => False
  | _ => True

namespace Cache

variable {K V H : Type}

/-- What passes have asked, and what the handler of evicted entries was told of. -/
def passRecord (cache : Cache K V H) : List (Event K V) :=
  cache.events.filter Event.ofPass

theorem passRecord_record (cache : Cache K V H) (events : List (Event K V)) :
    (cache.record events).passRecord = cache.passRecord ++ events.filter Event.ofPass := by
  rw [passRecord, record, List.filter_append]
  rfl

variable [DecidableEq K] {cache : Cache K V H} {script : H → K → V → Script K V H}

/-! ## What a change adds -/

theorem events_writeAt (cache : Cache K V H) (key : K) (value : V) (lifetime : Lifetime)
    (now : Instant) : (cache.writeAt key value lifetime now).1.events = cache.events := by
  unfold writeAt
  split
  · rfl
  · rfl

theorem events_readAt (cache : Cache K V H) (key : K) (now : Instant) :
    (cache.readAt key now).1.events = cache.events := by
  unfold readAt
  split
  · rfl
  · split
    · rfl
    · rfl

theorem events_touchAt (cache : Cache K V H) (key : K) (now : Instant) :
    (cache.touchAt key now).1.events = cache.events := by
  unfold touchAt
  split
  · rfl
  · rfl

/-- The record of passes is as it was, and there is a handler to tell of the next pass. -/
structure Discreet (before after : Cache K V H) : Prop where
  passRecord : after.passRecord = before.passRecord
  told : after.handlers.onEvict.isSome = true

namespace Discreet

omit [DecidableEq K] in
theorem of_same {before after : Cache K V H} (told : before.handlers.onEvict.isSome = true)
    (events : after.events = before.events) (handlers : after.handlers = before.handlers) :
    Discreet before after where
  passRecord := congrArg (List.filter Event.ofPass) events
  told := handlers ▸ told

omit [DecidableEq K] in
theorem trans {first second third : Cache K V H} (early : Discreet first second)
    (late : Discreet second third) : Discreet first third where
  passRecord := late.passRecord.trans early.passRecord
  told := late.told

theorem after (told : cache.handlers.onEvict.isSome = true) {change : Change K V H}
    (modest : change.Modest) : Discreet cache (cache.after change) := by
  cases change with
  | client entered =>
      cases entered with
      | write key value lifetime now =>
          exact .of_same told (events_writeAt cache key value lifetime now)
            (handlers_writeAt cache key value lifetime now)
      | read key now =>
          exact .of_same told (events_readAt cache key now) (handlers_readAt cache key now)
      | touch key now =>
          exact .of_same told (events_touchAt cache key now) (handlers_touchAt cache key now)
      | markClosed =>
          change Discreet cache cache.markClosed.1
          unfold markClosed
          split
          · exact .of_same told rfl rfl
          · exact .of_same told rfl rfl
      | install handlers => exact ⟨rfl, modest⟩
      | note events =>
          refine ⟨?_, told⟩
          have none : events.filter Event.ofPass = [] := modest
          exact (cache.passRecord_record events).trans (by rw [none, List.append_nil])
      | _ => exact .of_same told rfl rfl
  | sweep now => exact absurd modest id
  | planSleep now => exact .of_same told rfl rfl
  | takeWake => exact .of_same told rfl rfl

theorem afterAll (told : cache.handlers.onEvict.isSome = true) {changes : List (Change K V H)}
    (modest : ∀ change ∈ changes, change.Modest) : Discreet cache (cache.afterAll changes) := by
  induction changes generalizing cache with
  | nil => exact .of_same told rfl rfl
  | cons change rest ih =>
      obtain ⟨first, others⟩ := List.forall_mem_cons.mp modest
      have here := Discreet.after told first
      exact here.trans (ih here.told others)

end Discreet

/-! ## Calls and handlers -/

omit [DecidableEq K] in
theorem modest_courseAtReading (cache : Cache K V H) {entered : Instant → Change K V H}
    (each : ∀ now, (entered now).Modest) :
    ∀ change ∈ cache.courseAtReading entered, change.Modest := by
  unfold courseAtReading
  cases cache.clock.now with
  | error fault => exact fun _ absent => absurd absent List.not_mem_nil
  | ok now => exact List.forall_mem_singleton.mpr (each now)

/-- A truthful script makes modest changes if its calls do. -/
theorem modest_course {task : Script K V H} (truthful : task.Truthful)
    {perform : Call K V H → Cache K V H → Cache K V H × Except Fault (Answer K V)}
    {changes : Call K V H → Cache K V H → List (Change K V H)}
    (arrives : ∀ call (cache : Cache K V H),
      cache.afterAll (changes call cache) = (perform call cache).1)
    (each : ∀ call (cache : Cache K V H), cache.handlers.onEvict.isSome = true →
      ∀ change ∈ changes call cache, change.Modest)
    (told : cache.handlers.onEvict.isSome = true) :
    ∀ change ∈ task.course perform changes cache, change.Modest := by
  induction task generalizing cache with
  | done => exact fun _ absent => absurd absent List.not_mem_nil
  | fail => exact fun _ absent => absurd absent List.not_mem_nil
  | note event rest ih =>
      have single : (Change.client (.note [event]) : Change K V H).Modest := by
        rw [Change.Modest, List.filter_singleton, truthful.1]
        rfl
      refine List.forall_mem_cons.mpr ⟨single, ih truthful.2 ?_⟩
      exact (Discreet.after told single).told
  | call request next ih =>
      have early := each request cache told
      unfold Script.course
      refine List.forall_mem_append.mpr ⟨early, ?_⟩
      have reached := (Discreet.afterAll told early).told
      rw [arrives] at reached
      cases performed : perform request cache with
      | mk middle outcome =>
          rw [performed] at reached
          cases outcome with
          | error fault => exact fun _ absent => absurd absent List.not_mem_nil
          | ok answer => exact ih answer (truthful answer) reached

/-- A write makes modest changes if the calls of its handler do. -/
theorem modest_set (truthful : ∀ handler key value, (script handler key value).Truthful)
    (depth : Nat)
    (inside : ∀ inner, depth = inner + 1 → ∀ call (cache : Cache K V H),
      cache.handlers.onEvict.isSome = true →
        ∀ change ∈ cache.callCourse script inner call, change.Modest)
    (key : K) (value : V) (lifetime : Lifetime) (told : cache.handlers.onEvict.isSome = true) :
    ∀ change ∈ cache.callCourse script depth (.set key value lifetime), change.Modest := by
  unfold callCourse
  cases cache.clock.now with
  | error fault => exact fun _ absent => absurd absent List.not_mem_nil
  | ok now =>
      have written := handlers_writeAt cache key value lifetime now
      refine List.forall_mem_cons.mpr ⟨trivial, ?_⟩
      generalize cache.writeAt key value lifetime now = outcome at written ⊢
      obtain ⟨reached, insertion⟩ := outcome
      cases insertion with
      | none => exact fun _ absent => absurd absent List.not_mem_nil
      | some handler =>
          cases depth with
          | zero => exact fun _ absent => absurd absent List.not_mem_nil
          | succ inner =>
              refine List.forall_mem_cons.mpr ⟨rfl, ?_⟩
              refine modest_course (truthful handler key value) ?_ (inside inner rfl) ?_
              · exact fun call cache => (perform_traverses script inner call cache).arrives
              · exact (congrArg (·.onEvict.isSome) written).trans told

theorem modest_plain (depth : Nat) {call : Call K V H}
    (plain : ∀ key value lifetime, call ≠ .set key value lifetime)
    (told : cache.handlers.onEvict.isSome = true) :
    ∀ change ∈ cache.callCourse script depth call, change.Modest := by
  have nothing : ∀ change ∈ ([] : List (Change K V H)), change.Modest :=
    fun _ absent => absurd absent List.not_mem_nil
  unfold callCourse
  cases call with
  | set key value lifetime => exact absurd rfl (plain key value lifetime)
  | get key => exact modest_courseAtReading cache fun _ => trivial
  | getLease key => exact modest_courseAtReading cache fun _ => trivial
  | touch key => exact modest_courseAtReading cache fun _ => trivial
  | close =>
      refine List.forall_mem_cons.mpr ⟨trivial, ?_⟩
      split
      · exact nothing
      · exact List.forall_mem_singleton.mpr trivial
  | onInsert handler =>
      refine List.forall_mem_singleton.mpr ?_
      exact told
  | onEvict handler =>
      refine List.forall_mem_singleton.mpr ?_
      exact Option.isSome_some
  | onCheck verdict =>
      refine List.forall_mem_singleton.mpr ?_
      exact told
  | count => exact nothing
  | keys => exact nothing
  | counters => exact nothing
  | isClosed => exact nothing
  | _ => exact List.forall_mem_singleton.mpr trivial

/-- A call and the handlers it runs make modest changes. -/
theorem modest_callCourse (truthful : ∀ handler key value, (script handler key value).Truthful)
    (depth : Nat) (call : Call K V H) (cache : Cache K V H)
    (told : cache.handlers.onEvict.isSome = true) :
    ∀ change ∈ cache.callCourse script depth call, change.Modest := by
  induction depth generalizing call cache with
  | zero =>
      cases call with
      | set key value lifetime => exact modest_set truthful 0 nofun key value lifetime told
      | _ => exact modest_plain 0 (by rintro _ _ _ ⟨⟩) told
  | succ inner ih =>
      cases call with
      | set key value lifetime =>
          refine modest_set truthful (inner + 1) ?_ key value lifetime told
          rintro smaller ⟨⟩
          exact ih
      | _ => exact modest_plain (inner + 1) (by rintro _ _ _ ⟨⟩) told

theorem discreet_run (truthful : ∀ handler key value, (script handler key value).Truthful)
    (depth : Nat) (failure : Fault) {task : Script K V H} (truth : task.Truthful)
    (told : cache.handlers.onEvict.isSome = true) :
    Discreet cache (task.run failure (perform script depth) cache).1 := by
  have ran := Script.run_traverses failure (perform_traverses script depth) task cache
  rw [← ran.arrives]
  exact .afterAll told (modest_course truth
    (fun call cache => (perform_traverses script depth call cache).arrives)
    (modest_callCourse truthful depth) told)

/-- Telling a handler of a batch puts each pair on record once, in order. -/
theorem passRecord_announceEvicted
    (truthful : ∀ handler key value, (script handler key value).Truthful) (depth : Nat)
    (handler : H) (batch : List (K × V)) (told : cache.handlers.onEvict.isSome = true) :
    (cache.announceEvicted script depth handler batch).passRecord =
        cache.passRecord ++ batch.map (fun pair => .evicted pair.1 pair.2) ∧
      (cache.announceEvicted script depth handler batch).handlers.onEvict.isSome = true := by
  induction batch generalizing cache with
  | nil => exact ⟨(List.append_nil _).symm, told⟩
  | cons pair rest ih =>
      obtain ⟨key, value⟩ := pair
      have noted : (cache.record [.evicted key value]).handlers.onEvict.isSome = true := told
      have ran := discreet_run truthful depth .evictHandlerFailed (truthful handler key value) noted
      obtain ⟨recorded, still⟩ := ih ran.told
      rw [announceEvicted]
      refine ⟨?_, still⟩
      rw [recorded, ran.passRecord, passRecord_record, List.append_assoc]
      rfl

/-! ## Passes and sessions -/

/-- What a change puts on the record of passes. -/
def eventsOf (cache : Cache K V H) : Change K V H → List (Event K V)
  | .sweep now =>
      (cache.store.sweep cache.handlers.check now).consultations.map .checked ++
        (cache.sweepAt now).2.map fun pair => .evicted pair.1 pair.2
  | _ => []

/-- What the passes among some changes put on the record. -/
def passEvents : List (Change K V H) → Cache K V H → List (Event K V)
  | [], _ => []
  | change :: rest, cache => cache.eventsOf change ++ passEvents rest (cache.after change)

theorem passEvents_append (early late : List (Change K V H)) (cache : Cache K V H) :
    cache.passEvents (early ++ late) =
      cache.passEvents early ++ (cache.afterAll early).passEvents late := by
  induction early generalizing cache with
  | nil => rfl
  | cons change rest ih =>
      rw [List.cons_append, passEvents, ih, passEvents, List.append_assoc]
      rfl

theorem passEvents_of_no_sweep {changes : List (Change K V H)}
    (unswept : ∀ now, .sweep now ∉ changes) (cache : Cache K V H) :
    cache.passEvents changes = [] := by
  induction changes generalizing cache with
  | nil => rfl
  | cons change rest ih =>
      have here : cache.eventsOf change = [] := by
        cases change with
        | sweep now => exact absurd List.mem_cons_self (unswept now)
        | _ => rfl
      rw [passEvents, here, ih fun now listed => unswept now (List.mem_cons_of_mem _ listed)]
      rfl

theorem passEvents_of_modest {changes : List (Change K V H)}
    (modest : ∀ change ∈ changes, change.Modest) (cache : Cache K V H) :
    cache.passEvents changes = [] :=
  passEvents_of_no_sweep (fun _ listed => modest _ listed) cache

theorem no_sweep_evictedCourse
    (truthful : ∀ handler key value, (script handler key value).Truthful) (depth : Nat)
    (handler : H) (batch : List (K × V)) (told : cache.handlers.onEvict.isSome = true)
    (now : Instant) : .sweep now ∉ cache.evictedCourse script depth handler batch := by
  induction batch generalizing cache with
  | nil => exact List.not_mem_nil
  | cons pair rest ih =>
      obtain ⟨key, value⟩ := pair
      have noted : (cache.record [.evicted key value]).handlers.onEvict.isSome = true := told
      have modest := modest_course (truthful handler key value)
        (fun call cache => (perform_traverses script depth call cache).arrives)
        (modest_callCourse truthful depth) noted
      intro listed
      rcases List.mem_append.mp listed with early | late
      · rcases List.mem_cons.mp early with first | inside
        · cases first
        · exact modest _ inside
      · exact ih (discreet_run truthful depth .evictHandlerFailed (truthful handler key value)
          noted).told late

omit [DecidableEq K] in
theorem passRecord_checked (cache : Cache K V H) (consultations : List (Consultation K V)) :
    (cache.record (consultations.map .checked)).passRecord =
      cache.passRecord ++ consultations.map .checked := by
  have all : (consultations.map Event.checked).filter Event.ofPass =
      consultations.map (Event.checked : Consultation K V → Event K V) := by
    rw [List.filter_eq_self]
    intro event listed
    obtain ⟨consultation, -, rfl⟩ := List.mem_map.mp listed
    rfl
  rw [passRecord_record, all]

/-- A pass puts on record what it asks and then, if a handler is told, what it evicts. -/
theorem passRecord_sweep (truthful : ∀ handler key value, (script handler key value).Truthful)
    (depth : Nat) {now : Instant} (reading : cache.clock.now = .ok now) :
    (cache.sweep script depth).1.passRecord =
      cache.passRecord ++
        (cache.store.sweep cache.handlers.check now).consultations.map .checked ++
        cache.handlers.onEvict.toList.flatMap fun _ =>
          (cache.sweepAt now).2.map fun pair => .evicted pair.1 pair.2 := by
  have asked : (cache.sweepAt now).1.passRecord = cache.passRecord ++
      (cache.store.sweep cache.handlers.check now).consultations.map .checked :=
    passRecord_checked _ _
  have installed : (cache.sweepAt now).1.handlers.onEvict = cache.handlers.onEvict := rfl
  rw [sweep, atReading, reading]
  dsimp only
  rw [← installed]
  cases told : (cache.sweepAt now).1.handlers.onEvict with
  | none => exact asked.trans (List.append_nil _).symm
  | some handler =>
      have known : (cache.sweepAt now).1.handlers.onEvict.isSome = true := by
        rw [told]
        rfl
      refine (passRecord_announceEvicted truthful depth handler _ known).1.trans ?_
      rw [asked, Option.toList_some, List.flatMap_singleton]

theorem told_sweep (truthful : ∀ handler key value, (script handler key value).Truthful)
    (depth : Nat) (told : cache.handlers.onEvict.isSome = true) :
    (cache.sweep script depth).1.handlers.onEvict.isSome = true := by
  refine atReading_keeps (P := fun reached => reached.handlers.onEvict.isSome = true) told ?_
  intro now
  have swept : (cache.sweepAt now).1.handlers.onEvict.isSome = true := told
  dsimp only
  split
  · exact swept
  · exact (passRecord_announceEvicted truthful depth _ _ swept).2

/-- An action puts on record what its pass does, if it is one. -/
theorem passRecord_act (truthful : ∀ handler key value, (script handler key value).Truthful)
    (depth : Nat) (told : cache.handlers.onEvict.isSome = true) (clock : Clock)
    (action : Action K V H) :
    (cache.act script depth clock action).passRecord =
        cache.passRecord ++ cache.passEvents (cache.actCourse script depth clock action) ∧
      (cache.act script depth clock action).handlers.onEvict.isSome = true := by
  have modestly (modest : ∀ change ∈ cache.actCourse script depth clock action, change.Modest) :
      (cache.act script depth clock action).passRecord =
          cache.passRecord ++ cache.passEvents (cache.actCourse script depth clock action) ∧
        (cache.act script depth clock action).handlers.onEvict.isSome = true := by
    have discreet := Discreet.afterAll told modest
    rw [(act_traverses script depth cache clock action).arrives] at discreet
    rw [passEvents_of_modest modest, List.append_nil]
    exact ⟨discreet.passRecord, discreet.told⟩
  cases action with
  | call call =>
      exact modestly (List.forall_mem_cons.mpr
        ⟨trivial, modest_callCourse truthful depth call { cache with clock } told⟩)
  | planSleep =>
      exact modestly (List.forall_mem_cons.mpr
        ⟨trivial, modest_courseAtReading _ fun _ => trivial⟩)
  | sweep =>
      refine ⟨?_, told_sweep truthful depth told⟩
      have began : { cache with clock }.handlers.onEvict = cache.handlers.onEvict := rfl
      unfold act actCourse
      cases reading : clock.now with
      | error fault =>
          rw [sweep, atReading, reading]
          exact (List.append_nil _).symm
      | ok now =>
          obtain ⟨handler, installed⟩ := Option.isSome_iff_exists.mp told
          have swept : ({ cache with clock }.sweepAt now).1.handlers.onEvict = some handler :=
            installed
          have known : ({ cache with clock }.sweepAt now).1.handlers.onEvict.isSome = true := told
          have unswept := passEvents_of_no_sweep (no_sweep_evictedCourse truthful depth handler
            ({ cache with clock }.sweepAt now).2 known) ({ cache with clock }.sweepAt now).1
          refine (passRecord_sweep truthful depth reading).trans ?_
          rw [began, installed, Option.toList_some, List.flatMap_singleton, List.append_assoc]
          refine congrArg (cache.passRecord ++ ·) ?_
          dsimp only
          rw [swept, Option.toList_some, List.flatMap_singleton, passEvents, passEvents]
          change _ = [] ++ (_ ++ ({ cache with clock }.sweepAt now).1.passEvents _)
          rw [unswept, List.append_nil, List.nil_append]
          rfl

/-- A session puts on record what its passes ask and evict. -/
theorem passRecord_actAll (truthful : ∀ handler key value, (script handler key value).Truthful)
    (depth : Nat) (told : cache.handlers.onEvict.isSome = true)
    (session : List (Clock × Action K V H)) :
    (cache.actAll script depth session).passRecord =
      cache.passRecord ++ cache.passEvents (cache.sessionCourse script depth session) := by
  induction session generalizing cache with
  | nil => exact (List.append_nil _).symm
  | cons step rest ih =>
      obtain ⟨clock, action⟩ := step
      obtain ⟨recorded, still⟩ := passRecord_act truthful depth told clock action
      rw [sessionCourse, passEvents_append,
        (act_traverses script depth cache clock action).arrives, ← List.append_assoc, ← recorded]
      exact ih still

end Cache

end ExpiringCache
