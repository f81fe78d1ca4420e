import Mathlib.Algebra.GroupWithZero.Nat
import ExpiringCache.Proofs.Cache.Course
import ExpiringCache.Proofs.Cache.Outcome
import ExpiringCache.Proofs.Store.Pass

/-!
# Accounts

The books of a cache: what its sections report of arriving and leaving keys and
of look-ups.  Nothing that arrives is lost or leaves twice, and the counters are
the totals of the books.
-/

namespace ExpiringCache

/-- A movement on the books. -/
inductive Posting (K V : Type) where
  /-- A write stores a key that was absent. -/
  | arrived (key : K)
  /-- A read of an open cache returns a value or not. -/
  | looked (hit : Bool)
  /-- A removal finds its key. -/
  | removed (key : K)
  /-- A purge drops all keys. -/
  | dropped (keys : List K)
  /-- A pass evicts a batch. -/
  | evicted (batch : List (K × V))
  deriving DecidableEq

namespace Posting

variable {K V : Type}

def arrives : Posting K V → List K
  | .arrived key => [key]
  | _ => []

def leaves : Posting K V → List K
  | .removed key => [key]
  | .dropped keys => keys
  | .evicted batch => batch.map Prod.fst
  | _ => []

def isRemoval : Posting K V → Bool
  | .removed _ => true
  | _ => false

def isLook : Posting K V → Bool
  | .looked _ => true
  | _ => false

def isHit : Posting K V → Bool
  | .looked hit => hit
  | _ => false

def drops : Posting K V → Nat
  | .dropped keys => keys.length
  | _ => 0

def evicts : Posting K V → Nat
  | .evicted batch => batch.length
  | _ => 0

theorem mem_arrives_iff {posting : Posting K V} {key : K} :
    key ∈ posting.arrives ↔ posting = .arrived key := by
  cases posting with
  | arrived other =>
      rw [arrives, List.mem_singleton, Posting.arrived.injEq]
      exact eq_comm
  | _ => simp [arrives]

/-- Every departure is a removal, a drop by a purge or an eviction. -/
theorem length_leaves (journal : List (Posting K V)) :
    (journal.flatMap leaves).length =
      (journal.map evicts).sum + journal.countP isRemoval + (journal.map drops).sum := by
  induction journal with
  | nil => rfl
  | cons posting rest ih =>
      rw [List.flatMap_cons, List.length_append, ih, List.map_cons, List.map_cons, List.sum_cons,
        List.sum_cons, List.countP_cons]
      cases posting with
      | arrived key => simp [leaves, evicts, drops, isRemoval]
      | looked hit => simp [leaves, evicts, drops, isRemoval]
      | removed key =>
          simp only [leaves, evicts, drops, isRemoval, List.length_singleton, if_true]
          omega
      | dropped keys =>
          simp only [leaves, evicts, drops, isRemoval, Bool.false_eq_true, if_false]
          omega
      | evicted batch =>
          simp only [leaves, evicts, drops, isRemoval, Bool.false_eq_true, if_false,
            List.length_map]
          omega

end Posting

def Counters.book {K V : Type} (counters : Counters) : Posting K V → Counters
  | .arrived _ => counters.countInsertion
  | .looked true => counters.countHit
  | .looked false => counters.countMiss
  | .evicted batch => { counters with evicted := counters.evicted + batch.length }
  | _ => counters

namespace Counters

variable {K V : Type}

/-- The counters have grown by the totals of what is booked. -/
structure Grows (counters : Counters) (journal : List (Posting K V)) (after : Counters) : Prop where
  inserted : after.inserted = counters.inserted + (journal.flatMap Posting.arrives).length
  evicted : after.evicted = counters.evicted + (journal.map Posting.evicts).sum
  retrieved : after.retrieved = counters.retrieved + journal.countP Posting.isLook
  hits : after.hits = counters.hits + journal.countP Posting.isHit
  misses : after.hits + after.misses =
    counters.hits + counters.misses + journal.countP Posting.isLook

theorem grows_nil (counters : Counters) : counters.Grows ([] : List (Posting K V)) counters :=
  ⟨rfl, rfl, rfl, rfl, rfl⟩

theorem grows_book (counters : Counters) (posting : Posting K V) :
    counters.Grows [posting] (counters.book posting) := by
  cases posting with
  | looked hit =>
      cases hit with
      | true => exact ⟨rfl, rfl, rfl, rfl, Nat.succ_add _ _⟩
      | false => exact ⟨rfl, rfl, rfl, rfl, rfl⟩
  | _ => exact ⟨rfl, rfl, rfl, rfl, rfl⟩

theorem Grows.append {first second third : Counters} {early late : List (Posting K V)}
    (before : first.Grows early second) (behind : second.Grows late third) :
    first.Grows (early ++ late) third where
  inserted := by
    rw [behind.inserted, before.inserted, List.flatMap_append, List.length_append, Nat.add_assoc]
  evicted := by
    rw [behind.evicted, before.evicted, List.map_append, List.sum_append, Nat.add_assoc]
  retrieved := by
    rw [behind.retrieved, before.retrieved, List.countP_append, Nat.add_assoc]
  hits := by rw [behind.hits, before.hits, List.countP_append, Nat.add_assoc]
  misses := by rw [behind.misses, before.misses, List.countP_append, Nat.add_assoc]

end Counters

namespace Store

variable {K V : Type} [DecidableEq K] {store : Store K V}

def keys (store : Store K V) : List K := store.index.keys

theorem keys_write (store : Store K V) (key : K) (value : V) (lifetime : Lifetime)
    (now : Instant) :
    (store.write key value lifetime now).1.keys =
      if (store.write key value lifetime now).2.isNew then store.keys ++ [key]
      else store.keys := by
  rw [write_eq]
  unfold keys placeEntry
  cases found : store.index.find? key with
  | some id => simp
  | none => simp

theorem keys_remove (valid : store.Valid) (key : K) :
    ((store.remove key).1.keys ++ if (store.remove key).2 then [key] else []).Perm store.keys := by
  cases found : store.index.find? key with
  | none =>
      rw [remove_of_absent found, if_neg Bool.false_ne_true, List.append_nil]
  | some id =>
      have listed : key ∈ store.index.keys :=
        KeyIndex.isSome_find?_iff.mp (Option.isSome_of_eq_some found)
      rw [remove_of_present found, if_pos rfl]
      exact KeyIndex.keys_erase_perm valid.keys_nodup listed

omit [DecidableEq K] in
theorem length_keys (store : Store K V) : store.keys.length = store.count :=
  List.length_map _

/-- One round of a pass takes out the key of the root or none. -/
theorem keys_round (valid : store.Valid) {check : Option (ExpiryCheck K V)} {now : Instant}
    {round : Round K V} (goesOn : store.round? check now = some round) :
    (round.store.keys ++ round.evicted.toList.map Prod.fst).Perm store.keys := by
  obtain ⟨id, entry, root, found, -, rfl⟩ := round?_cases goesOn
  rw [judge_eq]
  by_cases permitted : ExpiryCheck.permits check entry.key entry.value = true
  · rw [if_pos permitted, if_pos permitted]
    have indexed : store.index.find? entry.key = some id := by
      rw [valid.indexed, found]
      rfl
    have listed : entry.key ∈ store.index.keys :=
      KeyIndex.isSome_find?_iff.mp (Option.isSome_of_eq_some indexed)
    exact KeyIndex.keys_erase_perm valid.keys_nodup listed
  · rw [if_neg permitted, if_neg permitted]
    simp only [keys, index_renew, Option.toList_none, List.map_nil, List.append_nil,
      List.Perm.refl]

/-- What a pass evicts is missing afterwards and nothing else. -/
theorem keys_sweep (valid : store.Valid) (check : Option (ExpiryCheck K V)) (now : Instant) :
    ((store.sweep check now).store.keys ++ (store.sweep check now).evicted.map Prod.fst).Perm
      store.keys := by
  fun_induction Store.sweep store check now with
  | case1 => rw [List.map_nil, List.append_nil]
  | case2 store check round goesOn rest ih =>
      have later := ih (valid.round goesOn)
      have first := keys_round valid goesOn
      let gone := round.evicted.toList.map Prod.fst
      let goneLater := rest.evicted.map Prod.fst
      have swapped : (rest.store.keys ++ (gone ++ goneLater)).Perm
          (rest.store.keys ++ goneLater ++ gone) := by
        rw [List.append_assoc]
        exact List.perm_append_comm.append_left _
      rw [List.map_append]
      exact swapped.trans ((later.append_right gone).trans first)

theorem counters_sweep (valid : store.Valid) (check : Option (ExpiryCheck K V)) (now : Instant) :
    (store.sweep check now).store.counters =
      store.counters.book (.evicted (store.sweep check now).evicted) := by
  obtain ⟨rulings, settles⟩ := valid.sweep_settles check now
  obtain ⟨index, schedule, frame⟩ := settles.frame
  rw [frame]
  rfl

end Store

namespace Cache

variable {K V H : Type} [DecidableEq K] {cache : Cache K V H}

/-- What a change has to be booked as, if anything. -/
def posting? (cache : Cache K V H) : Change K V H → Option (Posting K V)
  | .client (.write key value lifetime now) =>
      if cache.store.closed = false ∧ (cache.store.write key value lifetime now).2.isNew then
        some (.arrived key)
      else none
  | .client (.read key now) =>
      if cache.store.closed then none else some (.looked (cache.readAt key now).2.isSome)
  | .client (.remove key) => if (cache.remove key).2 then some (.removed key) else none
  | .client .purge => some (.dropped cache.store.keys)
  | .sweep now => some (.evicted (cache.sweepAt now).2)
  | _ => none

/-- The books of a run, from its beginning on. -/
def postings : List (Change K V H) → Cache K V H → List (Posting K V)
  | [], _ => []
  | change :: rest, cache =>
      (cache.posting? change).toList ++ postings rest (cache.after change)

/-- A run moves keys and counters as it is booked. -/
structure Moves (cache : Cache K V H) (journal : List (Posting K V)) (after : Cache K V H) :
    Prop where
  keys : (after.store.keys ++ journal.flatMap Posting.leaves).Perm
    (cache.store.keys ++ journal.flatMap Posting.arrives)
  counters : cache.store.counters.Grows journal after.store.counters

omit [DecidableEq K] in
theorem Moves.of_same {after : Cache K V H} (keys : after.store.keys = cache.store.keys)
    (counters : after.store.counters = cache.store.counters) : cache.Moves [] after where
  keys := by rw [keys, List.flatMap_nil, List.flatMap_nil]
  counters := counters ▸ Counters.grows_nil _

omit [DecidableEq K] in
/-- A single movement. -/
theorem Moves.of_posting {after : Cache K V H} {posting : Posting K V}
    (keys : (after.store.keys ++ posting.leaves).Perm (cache.store.keys ++ posting.arrives))
    (counters : after.store.counters = cache.store.counters.book posting) :
    cache.Moves [posting] after where
  keys := by rwa [List.flatMap_singleton, List.flatMap_singleton]
  counters := counters ▸ Counters.grows_book _ _

theorem Moves.append {first second third : Cache K V H} {early late : List (Posting K V)}
    (before : first.Moves early second) (behind : second.Moves late third) :
    first.Moves (early ++ late) third where
  keys := by
    rw [List.perm_iff_count]
    intro key
    have earlier := before.keys.count_eq key
    have later := behind.keys.count_eq key
    simp only [List.flatMap_append, List.count_append] at earlier later ⊢
    omega
  counters := before.counters.append behind.counters

theorem moves_write (cache : Cache K V H) (key : K) (value : V) (lifetime : Lifetime)
    (now : Instant) :
    cache.Moves (cache.posting? (.client (.write key value lifetime now))).toList
      (cache.writeAt key value lifetime now).1 := by
  rw [posting?]
  cases closed : cache.store.closed with
  | true =>
      rw [if_neg fun both => Bool.noConfusion both.1, writeAt, if_pos closed]
      exact .of_same rfl rfl
  | false =>
      have keys := cache.store.keys_write key value lifetime now
      obtain ⟨index, schedule, frame⟩ := cache.store.write_frame key value lifetime now
      have counters := congrArg Store.counters frame
      have isNew : (cache.store.write key value lifetime now).2.isNew =
          (cache.store.index.find? key).isNone := by
        rw [Store.write_eq]
      rw [writeAt, if_neg (ne_true_of_eq_false closed)]
      cases new : (cache.store.write key value lifetime now).2.isNew with
      | true =>
          rw [new, if_pos rfl] at keys
          rw [← isNew, new] at counters
          rw [if_pos ⟨rfl, rfl⟩]
          exact .of_posting (.of_eq ((List.append_nil _).trans keys)) counters
      | false =>
          rw [new, if_neg Bool.false_ne_true] at keys
          rw [← isNew, new] at counters
          rw [if_neg fun both => Bool.noConfusion both.2]
          exact .of_same keys counters

theorem moves_read (valid : cache.store.Valid) (key : K) (now : Instant) :
    cache.Moves (cache.posting? (.client (.read key now))).toList (cache.readAt key now).1 := by
  rw [posting?]
  cases closed : cache.store.closed with
  | true =>
      rw [if_pos rfl, readAt_of_closed closed]
      exact .of_same rfl rfl
  | false =>
      rw [if_neg Bool.false_ne_true]
      cases looked : cache.store.live? key now with
      | none =>
          rw [readAt_of_miss closed looked]
          exact .of_posting (.refl _) rfl
      | some entry =>
          obtain ⟨schedule, read, -⟩ := readAt_of_hit valid closed looked
          rw [read]
          exact .of_posting (.refl _) rfl

theorem moves_touch (valid : cache.store.Valid) (key : K) (now : Instant) :
    cache.Moves [] (cache.touchAt key now).1 := by
  cases looked : cache.store.live? key now with
  | none =>
      rw [touchAt_of_miss looked]
      exact .of_same rfl rfl
  | some entry =>
      obtain ⟨schedule, touched, -⟩ := touchAt_of_hit valid looked
      rw [touched]
      exact .of_same rfl rfl

theorem moves_remove (valid : cache.store.Valid) (key : K) :
    cache.Moves (cache.posting? (.client (.remove key))).toList (cache.remove key).1 := by
  have keys := Store.keys_remove valid key
  obtain ⟨index, schedule, frame⟩ := cache.store.remove_frame key
  have counters : (cache.store.remove key).1.counters = cache.store.counters := by
    rw [frame]
  rw [posting?]
  change cache.Moves (Option.toList (if (cache.store.remove key).2 then _ else _)) _
  cases present : (cache.store.remove key).2 with
  | true =>
      rw [present, if_pos rfl] at keys
      rw [if_pos rfl]
      exact .of_posting (keys.trans (.of_eq (List.append_nil _).symm)) counters
  | false =>
      rw [present, if_neg Bool.false_ne_true, List.append_nil] at keys
      rw [if_neg Bool.false_ne_true]
      exact {
        keys := keys.append_right []
        counters := counters ▸ Counters.grows_nil _ }

theorem moves_purge (cache : Cache K V H) :
    cache.Moves (cache.posting? (.client .purge)).toList cache.purge :=
  .of_posting (.of_eq (List.append_nil _).symm) rfl

theorem moves_sweep (valid : cache.store.Valid) (now : Instant) :
    cache.Moves (cache.posting? (.sweep now)).toList (cache.sweepAt now).1 := by
  have keys := Store.keys_sweep valid cache.handlers.check now
  exact .of_posting (keys.trans (.of_eq (List.append_nil _).symm))
    (Store.counters_sweep valid cache.handlers.check now)

/-- Every change moves keys and counters as it is booked. -/
theorem moves_after (valid : cache.store.Valid) (change : Change K V H) :
    cache.Moves (cache.posting? change).toList (cache.after change) := by
  cases change with
  | client entered =>
      cases entered with
      | write key value lifetime now => exact moves_write cache key value lifetime now
      | read key now => exact moves_read valid key now
      | touch key now => exact moves_touch valid key now
      | remove key => exact moves_remove valid key
      | purge => exact moves_purge cache
      | markClosed =>
          rw [after, enter, markClosed]
          split
          · exact .of_same rfl rfl
          · exact .of_same rfl rfl
      | _ => exact .of_same rfl rfl
  | sweep now => exact moves_sweep valid now
  | planSleep now => exact .of_same rfl rfl
  | takeWake => exact .of_same rfl rfl

theorem moves_afterAll (valid : cache.store.Valid) (changes : List (Change K V H)) :
    cache.Moves (cache.postings changes) (cache.afterAll changes) := by
  induction changes generalizing cache with
  | nil => exact .of_same rfl rfl
  | cons change rest ih => exact (moves_after valid change).append (ih (valid_after valid change))

/-! ## The balance -/

/--
The counters against the books: how many keys have arrived, and where they have
gone; how many were evicted; how many look-ups there were, with their outcomes.
-/
structure Balances (cache : Cache K V H) (journal : List (Posting K V)) : Prop where
  inserted : cache.store.counters.inserted = cache.store.count + cache.store.counters.evicted +
    journal.countP Posting.isRemoval + (journal.map Posting.drops).sum
  evicted : cache.store.counters.evicted = (journal.map Posting.evicts).sum
  retrieved : cache.store.counters.retrieved = journal.countP Posting.isLook
  hits : cache.store.counters.hits = journal.countP Posting.isHit
  misses : cache.store.counters.retrieved =
    cache.store.counters.hits + cache.store.counters.misses
  /-- Each key that has arrived is stored or has left as often as it arrived. -/
  keys : ∀ key, (journal.flatMap Posting.arrives).count key =
    cache.store.keys.count key + (journal.flatMap Posting.leaves).count key

theorem Moves.balances {start : Cache K V H} {journal : List (Posting K V)}
    (moves : start.Moves journal cache) (empty : start.store.keys = [])
    (zero : start.store.counters = {}) : cache.Balances journal := by
  have keys := moves.keys
  have counters := moves.counters
  rw [empty, List.nil_append] at keys
  rw [zero] at counters
  exact {
    inserted := by
      have total := keys.length_eq
      rw [List.length_append, Store.length_keys, Posting.length_leaves] at total
      have inserted := counters.inserted
      have evicted := counters.evicted
      dsimp only at inserted evicted
      omega
    evicted := by
      have evicted := counters.evicted
      dsimp only at evicted
      omega
    retrieved := by
      have retrieved := counters.retrieved
      dsimp only at retrieved
      omega
    hits := by
      have hits := counters.hits
      dsimp only at hits
      omega
    misses := by
      have retrieved := counters.retrieved
      have misses := counters.misses
      dsimp only at retrieved misses
      omega
    keys := by
      intro key
      rw [← keys.count_eq key, List.count_append] }

/-! ## One departure between two arrivals -/

/-- A movement in the middle of the books is that of a change in the middle of the run. -/
theorem postings_split {changes : List (Change K V H)} {early late : List (Posting K V)}
    {posting : Posting K V} (booked : cache.postings changes = early ++ posting :: late) :
    ∃ before change behind, changes = before ++ change :: behind ∧
      cache.postings before = early ∧ (cache.afterAll before).posting? change = some posting ∧
      ((cache.afterAll before).after change).postings behind = late := by
  induction changes generalizing cache early with
  | nil => cases List.append_ne_nil_of_right_ne_nil early (List.cons_ne_nil _ _) booked.symm
  | cons change rest ih =>
      rw [postings] at booked
      cases here : cache.posting? change with
      | none =>
          rw [here, Option.toList_none, List.nil_append] at booked
          obtain ⟨before, middle, behind, rfl, sameEarly, posted, sameLate⟩ := ih booked
          refine ⟨change :: before, middle, behind, rfl, ?_, posted, sameLate⟩
          rw [postings, here]
          exact sameEarly
      | some first =>
          rw [here, Option.toList_some, List.singleton_append] at booked
          cases early with
          | nil =>
              obtain ⟨rfl, sameLate⟩ := List.cons.inj booked
              exact ⟨[], change, rest, rfl, rfl, here, sameLate⟩
          | cons head tail =>
              obtain ⟨rfl, restBooked⟩ := List.cons.inj booked
              obtain ⟨before, middle, behind, rfl, sameEarly, posted, sameLate⟩ := ih restBooked
              refine ⟨change :: before, middle, behind, rfl, ?_, posted, sameLate⟩
              rw [postings, here, sameEarly]
              rfl

/-- Only a key that is not stored can arrive. -/
theorem absent_of_arrived {change : Change K V H} {key : K}
    (arrived : cache.posting? change = some (.arrived key)) : key ∉ cache.store.keys := by
  cases change with
  | client entered =>
      cases entered with
      | write name value lifetime now =>
          rw [posting?] at arrived
          obtain ⟨⟨-, isNew⟩, same⟩ := Option.ite_none_right_eq_some.mp arrived
          obtain rfl := Posting.arrived.inj (Option.some.inj same)
          rw [Store.write_eq] at isNew
          exact KeyIndex.find?_eq_none_iff.mp (Option.isNone_iff_eq_none.mp isNew)
      | read name now =>
          rw [posting?] at arrived
          split at arrived
          · cases arrived
          · cases arrived
      | remove name =>
          rw [posting?] at arrived
          split at arrived
          · cases arrived
          · cases arrived
      | _ => cases arrived
  | _ => cases arrived

/-- Between two arrivals of a key it departs exactly once. -/
theorem one_departure (valid : cache.store.Valid) {changes : List (Change K V H)}
    {early middle late : List (Posting K V)} {key : K}
    (booked : cache.postings changes =
      early ++ .arrived key :: (middle ++ .arrived key :: late))
    (between : .arrived key ∉ middle) : (middle.flatMap Posting.leaves).count key = 1 := by
  obtain ⟨before, first, rest, rfl, -, arrived, restBooked⟩ := postings_split booked
  obtain ⟨inside, second, behind, rfl, rfl, again, -⟩ := postings_split restBooked
  have validBefore := valid_afterAll valid before
  have moves := (moves_after validBefore first).append
    (moves_afterAll (valid_after validBefore first) inside)
  rw [arrived] at moves
  have balance := moves.keys.count_eq key
  have absent := List.count_eq_zero.mpr (absent_of_arrived arrived)
  have absentAgain := List.count_eq_zero.mpr (absent_of_arrived again)
  have noArrival : (List.flatMap Posting.arrives
      (((cache.afterAll before).after first).postings inside)).count key = 0 := by
    rw [List.count_eq_zero, List.mem_flatMap]
    rintro ⟨posting, listed, arrives⟩
    exact between (Posting.mem_arrives_iff.mp arrives ▸ listed)
  simp only [Option.toList_some, List.singleton_append, List.flatMap_cons, List.count_append,
    Posting.leaves, Posting.arrives, List.count_nil, List.count_cons_self] at balance
  omega

/--
Nothing is lost or counted twice.  The counters of a new cache balance against
its books after every sequence of changes, in whichever order they come, and in
every state that a session shows to its handlers, whatever these do: the books
are then those of the first changes of the session.  Between two arrivals of a
key it departs exactly once.
-/
theorem books_balance_whenever_unlocked (clock : Clock) (sharedLifetime : Option Duration)
    (skipRenewal : Bool) (handlers : Handlers K V H) :
    let created := create clock sharedLifetime skipRenewal handlers
    (∀ changes : List (Change K V H),
      (created.afterAll changes).Balances (created.postings changes)) ∧
    (∀ (script : H → K → V → Script K V H) (depth : Nat) (session : List (Clock × Action K V H)),
      ∀ state ∈ created.sessionTrail script depth session,
        ∃ changes, changes <+: created.sessionCourse script depth session ∧
          created.afterAll changes = state ∧ state.Balances (created.postings changes)) ∧
    ∀ (changes : List (Change K V H)) (early middle late : List (Posting K V)) (key : K),
      created.postings changes = early ++ .arrived key :: (middle ++ .arrived key :: late) →
      .arrived key ∉ middle → (middle.flatMap Posting.leaves).count key = 1 := by
  intro created
  have valid : created.store.Valid := valid_create clock sharedLifetime skipRenewal handlers
  have balances (changes : List (Change K V H)) :
      (created.afterAll changes).Balances (created.postings changes) :=
    (moves_afterAll valid changes).balances rfl rfl
  refine ⟨balances, ?_, ?_⟩
  · intro script depth session state member
    obtain ⟨last, traverses⟩ := session_traverses script depth session created
    obtain ⟨changes, isPrefix, rfl⟩ := traverses.passes state member
    exact ⟨changes, isPrefix, rfl, balances changes⟩
  · intro changes early middle late key booked between
    exact one_departure valid booked between

/-- The handler of new entries fails, and that of evicted pairs stores them again. -/
def revivingScript (onInsert : Bool) (key value : Nat) : Script Nat Nat Bool :=
  if onInsert then .fail else .call (.set key value .inherited) fun _ => .done

def revivingCache : Cache Nat Nat Bool :=
  create {} none false { onInsert := some true, onEvict := some false }

def revivingSession : List (Clock × Action Nat Nat Bool) :=
  [({}, .call (.set 1 10 (.lasting (.ofSeconds 2)))), ({}, .call (.get 1)),
    ({ elapsed := .ofSeconds 3 }, .sweep), ({ elapsed := .ofSeconds 3 }, .call (.get 2)),
    ({ elapsed := .ofSeconds 3 }, .call (.remove 1)),
    ({ elapsed := .ofSeconds 3 }, .call (.set 3 30 .unlimited)),
    ({ elapsed := .ofSeconds 3 }, .call .purge)]

/-- The first key is evicted once between its two arrivals, and the books balance. -/
theorem revivingSession_balances :
    let changes := revivingCache.sessionCourse revivingScript 1 revivingSession
    revivingCache.postings changes =
        [.arrived 1, .looked true, .evicted [(1, 10)], .arrived 1, .looked false, .removed 1,
          .arrived 3, .dropped [3]] ∧
      (revivingCache.afterAll changes).Balances (revivingCache.postings changes) ∧
      ([.looked true, .evicted [(1, 10)]].flatMap (Posting.leaves (K := Nat) (V := Nat))).count 1 =
        1 := by
  intro changes
  have booked : revivingCache.postings changes =
      [.arrived 1, .looked true, .evicted [(1, 10)], .arrived 1, .looked false, .removed 1,
        .arrived 3, .dropped [3]] := by
    decide +kernel
  obtain ⟨balances, -, departs⟩ := books_balance_whenever_unlocked (H := Bool) (K := Nat) (V := Nat)
    {} none false { onInsert := some true, onEvict := some false }
  refine ⟨booked, balances changes, ?_⟩
  exact departs changes [] [.looked true, .evicted [(1, 10)]] _ 1 booked (by decide)

end Cache

end ExpiringCache
