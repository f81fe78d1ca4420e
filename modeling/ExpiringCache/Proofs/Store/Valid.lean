import ExpiringCache.Proofs.Keys
import ExpiringCache.Proofs.Schedule.Valid
import ExpiringCache.Store.Sweep

/-!
# Valid stores

The invariant that ties the key index, the slots and the deadline heap of a
store together, and its preservation by every critical section.
-/

namespace ExpiringCache

namespace Store

variable {K V : Type} [DecidableEq K] {store : Store K V}

/-- The representation invariant of a store. -/
structure Valid (store : Store K V) : Prop where
  keys_nodup : store.index.keys.Nodup
  /-- Keys and occupied slots correspond, and the entry in a slot carries its key. -/
  indexed : ∀ key id, store.index.find? key = some id ↔
    (store.entry? id).map Entry.key = some key
  schedule : store.schedule.Valid

/-- The entry in a slot without its place in the heap. -/
def content? (store : Store K V) (id : SlotId) : Option (Entry K V) :=
  store.schedule.contents.get? id

omit [DecidableEq K] in
theorem content?_eq (store : Store K V) (id : SlotId) :
    store.content? id = (store.entry? id).map Entry.unplaced := by
  simp [content?, entry?, Schedule.contents]

omit [DecidableEq K] in
theorem map_key_content? (store : Store K V) (id : SlotId) :
    (store.content? id).map Entry.key = (store.entry? id).map Entry.key := by
  rw [content?_eq, Option.map_map]
  rfl

/-- A store is valid if its index names the keys of its contents. -/
theorem Valid.of_contents (keys_nodup : store.index.keys.Nodup)
    (indexed : ∀ key id, store.index.find? key = some id ↔
      (store.content? id).map Entry.key = some key)
    (schedule : store.schedule.Valid) : store.Valid where
  keys_nodup := keys_nodup
  indexed key id := by rw [indexed, map_key_content?]
  schedule := schedule

namespace Valid

theorem find?_eq_some_iff (valid : store.Valid) {key : K} {id : SlotId} :
    store.index.find? key = some id ↔ (store.content? id).map Entry.key = some key := by
  rw [valid.indexed, map_key_content?]

/-- The slot of a key is occupied by an entry with this key. -/
theorem content?_of_find? (valid : store.Valid) {key : K} {id : SlotId}
    (found : store.index.find? key = some id) :
    ∃ entry, store.content? id = some entry ∧ entry.key = key :=
  Option.map_eq_some_iff.mp (valid.find?_eq_some_iff.mp found)

theorem find?_of_content? (valid : store.Valid) {id : SlotId} {entry : Entry K V}
    (stored : store.content? id = some entry) : store.index.find? entry.key = some id := by
  rw [valid.find?_eq_some_iff, stored]
  rfl

/-- No two slots hold the same key. -/
theorem slot_unique (valid : store.Valid) {left right : SlotId} {first second : Entry K V}
    (atLeft : store.content? left = some first) (atRight : store.content? right = some second)
    (same : first.key = second.key) : left = right := by
  have leftSlot := valid.find?_of_content? atLeft
  have rightSlot := valid.find?_of_content? atRight
  rw [same, rightSlot] at leftSlot
  exact (Option.some.inj leftSlot).symm

/-- Changes that keep index, keys and schedule in order keep the store valid. -/
theorem congr {other : Store K V} (valid : store.Valid) (index : other.index = store.index)
    (keys : ∀ id, (other.content? id).map Entry.key = (store.content? id).map Entry.key)
    (schedule : other.schedule.Valid) : other.Valid := by
  refine .of_contents (index ▸ valid.keys_nodup) ?_ schedule
  intro key id
  rw [index, keys, valid.find?_eq_some_iff]

end Valid

/-! ## An empty store -/

theorem valid_of_empty (index : store.index = {}) (schedule : store.schedule = {}) :
    store.Valid := by
  refine .of_contents ?_ ?_ (schedule ▸ Schedule.valid_empty)
  · simp [index, KeyIndex.keys]
  · intro key id
    rw [index, content?_eq, entry?, schedule]
    simp

theorem valid_purge (store : Store K V) : store.purge.Valid :=
  valid_of_empty rfl rfl

/-! ## Renewal -/

omit [DecidableEq K] in
theorem content?_update (schedule : Schedule K V) (id other : SlotId)
    (change changeContent : Entry K V → Entry K V)
    (shown : ∀ entry, (change entry).unplaced = changeContent entry.unplaced) :
    (schedule.update id change).contents.get? other =
      if id = other then (schedule.contents.get? other).map changeContent
      else schedule.contents.get? other := by
  simp only [Schedule.contents, Schedule.update, SlotTable.get?_map, SlotTable.get?_modify]
  split
  · simp only [Option.map_map]
    congr 1
    funext entry
    exact shown entry
  · rfl

omit [DecidableEq K] in
theorem renew_of_entry {id : SlotId} {entry : Entry K V} (found : store.entry? id = some entry)
    (now : Instant) :
    (store.renew id now).1 =
      { store with
        schedule := (store.schedule.update id (·.renew now store.sharedLifetime)).requeue id
          (entry.renew now store.sharedLifetime).deadline entry.position } := by
  rw [renew, found]
  rfl

omit [DecidableEq K] in
theorem renew_of_empty {id : SlotId} (empty : store.entry? id = none) (now : Instant) :
    (store.renew id now).1 = store := by
  rw [renew, empty]

omit [DecidableEq K] in
/-- Renewal changes nothing but the schedule. -/
theorem renew_eq (store : Store K V) (id : SlotId) (now : Instant) :
    ∃ schedule, (store.renew id now).1 = { store with schedule } := by
  cases found : store.entry? id with
  | none => exact ⟨store.schedule, renew_of_empty found now⟩
  | some entry => exact ⟨_, renew_of_entry found now⟩

omit [DecidableEq K] in
@[simp] theorem index_renew (store : Store K V) (id : SlotId) (now : Instant) :
    (store.renew id now).1.index = store.index := by
  obtain ⟨_, same⟩ := store.renew_eq id now
  rw [same]

omit [DecidableEq K] in
/-- Renewal changes no entry but the one in the slot. -/
theorem content?_renew (store : Store K V) (id : SlotId) (now : Instant) (other : SlotId) :
    (store.renew id now).1.content? other =
      if id = other then (store.content? other).map (·.renew now store.sharedLifetime)
      else store.content? other := by
  cases found : store.entry? id with
  | none =>
      rw [renew_of_empty found]
      split
      · rename_i same
        subst same
        simp [content?_eq, found]
      · rfl
  | some entry =>
      rw [renew_of_entry found, content?, Schedule.contents_requeue]
      exact content?_update store.schedule id other _ _ fun _ => rfl

theorem Valid.renew (valid : store.Valid) (id : SlotId) (now : Instant) :
    (store.renew id now).1.Valid := by
  refine valid.congr (index_renew store id now) ?_ ?_
  · intro other
    rw [content?_renew]
    split
    · rw [Option.map_map]
      rfl
    · rfl
  · cases found : store.entry? id with
    | none =>
        rw [renew_of_empty found]
        exact valid.schedule
    | some entry =>
        rw [renew_of_entry found]
        exact valid.schedule.requeue found (·.renew now store.sharedLifetime) fun _ => rfl

/-! ## Writing -/

/-- The store in which a pair is stored, before its entry is renewed, and the slot of the pair. -/
def placeEntry (store : Store K V) (key : K) (value : V) (lifetime : Lifetime) :
    Store K V × SlotId :=
  match store.index.find? key with
  | some id =>
      ({ store with
          schedule := store.schedule.update id fun entry => { entry with value, lifetime } }, id)
  | none =>
      let inserted := store.schedule.insert { key, value, lifetime }
      ({ store with
          schedule := inserted.1
          index := store.index.insert key inserted.2
          counters := store.counters.countInsertion }, inserted.2)

/-- A write stores the pair and renews its entry. -/
theorem write_eq (store : Store K V) (key : K) (value : V) (lifetime : Lifetime)
    (now : Instant) :
    store.write key value lifetime now =
      let placed := store.placeEntry key value lifetime
      let renewed := placed.1.renew placed.2 now
      (renewed.1, { isNew := (store.index.find? key).isNone, wake := renewed.2 }) := by
  unfold write placeEntry
  cases store.index.find? key <;> rfl

namespace Valid

/-- The entry of the pair is like a new one up to its deadline, which is yet to come. -/
theorem content?_placeEntry_self (valid : store.Valid) (key : K) (value : V)
    (lifetime : Lifetime) :
    ∃ deadline, (store.placeEntry key value lifetime).1.content?
      (store.placeEntry key value lifetime).2 = some { key, value, lifetime, deadline } := by
  unfold placeEntry
  cases found : store.index.find? key with
  | some id =>
      obtain ⟨entry, stored, carried⟩ := valid.content?_of_find? found
      have unplaced : entry.position = none := by
        rw [content?_eq] at stored
        obtain ⟨_, -, rfl⟩ := Option.map_eq_some_iff.mp stored
        rfl
      have looked : (store.schedule.update id
          fun entry => { entry with value, lifetime }).contents.get? id =
          (store.content? id).map fun entry => { entry with value, lifetime } := by
        have shown := content?_update store.schedule id id _
          (fun entry => { entry with value, lifetime })
          (fun entry => (rfl : ({ entry with value, lifetime } : Entry K V).unplaced = _))
        rw [if_pos rfl] at shown
        exact shown
      refine ⟨entry.deadline, ?_⟩
      simp only [content?] at looked ⊢
      rw [looked]
      simp only [content?] at stored
      simp [stored, ← carried, unplaced]
  | none =>
      refine ⟨none, ?_⟩
      have looked := Schedule.get?_insert_entries valid.schedule.slots
        ({ key, value, lifetime } : Entry K V)
        (store.schedule.insert { key, value, lifetime }).2
      rw [if_pos rfl] at looked
      simp only
      rw [content?_eq, entry?, looked]
      rfl

theorem content?_placeEntry_of_ne (valid : store.Valid) (key : K) (value : V)
    (lifetime : Lifetime) (other : SlotId)
    (different : (store.placeEntry key value lifetime).2 ≠ other) :
    (store.placeEntry key value lifetime).1.content? other = store.content? other := by
  unfold placeEntry at different ⊢
  cases found : store.index.find? key with
  | some id =>
      rw [found] at different
      have looked := content?_update store.schedule id other _
        (fun entry => { entry with value, lifetime })
        (fun entry => (rfl : ({ entry with value, lifetime } : Entry K V).unplaced = _))
      rw [if_neg different] at looked
      exact looked
  | none =>
      rw [found] at different
      have looked := Schedule.get?_insert_entries valid.schedule.slots
        ({ key, value, lifetime } : Entry K V) other
      rw [if_neg different] at looked
      simp only
      rw [content?_eq, entry?, looked, content?_eq]
      rfl

/-- The slot of a new key was empty before. -/
theorem content?_fresh (valid : store.Valid) (entry : Entry K V) :
    store.content? (store.schedule.insert entry).2 = none := by
  rw [content?_eq, entry?, Schedule.get?_insert_fresh valid.schedule.slots]
  rfl

theorem placeEntry (valid : store.Valid) (key : K) (value : V) (lifetime : Lifetime) :
    (store.placeEntry key value lifetime).1.Valid := by
  have own := valid.content?_placeEntry_self key value lifetime
  have others := valid.content?_placeEntry_of_ne key value lifetime
  unfold Store.placeEntry at own others ⊢
  cases found : store.index.find? key with
  | some id =>
      obtain ⟨entry, stored, carried⟩ := valid.content?_of_find? found
      rw [found] at own others
      refine valid.congr rfl ?_ (valid.schedule.update id (fun _ => rfl) fun _ => rfl)
      intro other
      by_cases same : id = other
      · subst same
        obtain ⟨deadline, written⟩ := own
        rw [written, stored, Option.map_some, Option.map_some, carried]
      · rw [others other same]
  | none =>
      have empty := valid.content?_fresh { key, value, lifetime }
      rw [found] at own others
      simp only at own others ⊢
      obtain ⟨deadline, written⟩ := own
      refine .of_contents (KeyIndex.nodup_keys_insert valid.keys_nodup found _) ?_
        (valid.schedule.insert rfl rfl)
      intro other id
      rw [KeyIndex.find?_insert]
      by_cases here : (store.schedule.insert { key, value, lifetime }).2 = id
      · subst here
        have unknown (other : K) :
            store.index.find? other ≠ some (store.schedule.insert { key, value, lifetime }).2 := by
          intro known
          rw [valid.find?_eq_some_iff, empty] at known
          cases known
        rw [written, Option.map_some, Option.some.injEq]
        by_cases same : key = other
        · subst same
          simp [found]
        · simp [same, unknown other]
      · rw [others id here]
        rw [← valid.find?_eq_some_iff]
        by_cases same : key = other
        · subst same
          simp [found, here]
        · simp [same]

theorem write (valid : store.Valid) (key : K) (value : V) (lifetime : Lifetime)
    (now : Instant) : (store.write key value lifetime now).1.Valid := by
  rw [write_eq]
  exact (valid.placeEntry key value lifetime).renew _ now

end Valid

/-- A write adds a missing key and counts it, and changes the schedule. -/
theorem write_frame (store : Store K V) (key : K) (value : V) (lifetime : Lifetime)
    (now : Instant) :
    ∃ index schedule, (store.write key value lifetime now).1 =
      { store with
        index
        schedule
        counters := if (store.index.find? key).isNone then store.counters.countInsertion
          else store.counters } := by
  rw [write_eq]
  obtain ⟨schedule, renewed⟩ := (store.placeEntry key value lifetime).1.renew_eq
    (store.placeEntry key value lifetime).2 now
  refine ⟨(store.placeEntry key value lifetime).1.index, schedule, ?_⟩
  simp only
  rw [renewed]
  unfold placeEntry
  cases found : store.index.find? key <;> rfl

/-! ## Removal -/

/-- A store without the entry in one slot, once its schedule has let go of it. -/
theorem Valid.without (valid : store.Valid) {id : SlotId} {entry : Entry K V}
    (stored : store.content? id = some entry) {schedule : Schedule K V}
    (contents : ∀ other, schedule.contents.get? other =
      if id = other then none else store.content? other)
    (scheduleValid : schedule.Valid) :
    { store with index := store.index.erase entry.key, schedule }.Valid := by
  refine .of_contents (KeyIndex.nodup_keys_erase valid.keys_nodup entry.key) ?_ scheduleValid
  intro key other
  rw [KeyIndex.find?_erase, content?, contents]
  by_cases here : id = other
  · subst here
    rw [if_pos rfl]
    split
    · simp
    · rename_i different
      rw [valid.find?_eq_some_iff, stored]
      simp [different]
  · rw [if_neg here]
    split
    · rename_i same
      subst same
      constructor
      · rintro ⟨⟩
      · intro carried
        obtain ⟨twin, atOther, same⟩ := Option.map_eq_some_iff.mp carried
        exact absurd (valid.slot_unique stored atOther same.symm) here
    · exact valid.find?_eq_some_iff

omit [DecidableEq K] in
theorem get?_contents_discard (schedule : Schedule K V) (id other : SlotId) :
    (schedule.discard id).1.contents.get? other =
      if id = other then none else schedule.contents.get? other := by
  simp only [Schedule.contents, SlotTable.get?_map, Schedule.get?_discard_entries]
  split <;> rfl

theorem remove_of_absent {key : K} (absent : store.index.find? key = none) :
    store.remove key = (store, false) := by
  rw [remove, absent]

theorem remove_of_present {key : K} {id : SlotId} (present : store.index.find? key = some id) :
    store.remove key =
      ({ store with
          index := store.index.erase key
          schedule := ((store.schedule.remove id).1.discard id).1 }, true) := by
  rw [remove, present]

theorem remove_frame (store : Store K V) (key : K) :
    ∃ index schedule, (store.remove key).1 = { store with index, schedule } := by
  cases found : store.index.find? key with
  | none => exact ⟨store.index, store.schedule, by rw [remove_of_absent found]⟩
  | some id => exact ⟨_, _, by rw [remove_of_present found]⟩

theorem Valid.remove (valid : store.Valid) (key : K) : (store.remove key).1.Valid := by
  cases found : store.index.find? key with
  | none =>
      rw [remove_of_absent found]
      exact valid
  | some id =>
      obtain ⟨entry, stored, rfl⟩ := valid.content?_of_find? found
      rw [remove_of_present found]
      refine valid.without stored ?_ (valid.schedule.remove_discard id)
      intro other
      rw [get?_contents_discard, Schedule.contents_remove]
      rfl

/-! ## One round of a pass -/

/-- The root of the queue is stored. -/
theorem Valid.entry?_first (valid : store.Valid) {id : SlotId}
    (root : store.schedule.first? = some id) : ∃ entry, store.entry? id = some entry :=
  Option.isSome_iff_exists.mp (valid.schedule.placed.isSome_get? root)

theorem content?_evictRoot (store : Store K V) (id : SlotId) (entry : Entry K V)
    (other : SlotId) :
    (store.evictRoot id entry).content? other =
      if id = other then none else store.content? other := by
  unfold evictRoot content?
  rw [get?_contents_discard, Schedule.contents_pop]

theorem Valid.evictRoot (valid : store.Valid) {id : SlotId} {entry : Entry K V}
    (root : store.schedule.first? = some id) (found : store.entry? id = some entry) :
    (store.evictRoot id entry).Valid := by
  have stored : store.content? id = some entry.unplaced := by
    rw [content?_eq, found]
    rfl
  have shorter := valid.without stored (content?_evictRoot store id entry)
    (valid.schedule.pop_discard root)
  exact shorter.congr rfl (fun _ => rfl) shorter.schedule

/-- What one round of a pass can do: evict the expired root or renew it. -/
theorem round?_cases {check : Option (ExpiryCheck K V)} {now : Instant} {round : Round K V}
    (goesOn : store.round? check now = some round) :
    ∃ id entry, store.schedule.first? = some id ∧ store.entry? id = some entry ∧
      entry.isExpired now = true ∧ round = store.judge check id entry now := by
  unfold round? at goesOn
  cases root : store.schedule.first? with
  | none => simp [root] at goesOn
  | some id =>
      cases found : store.entry? id with
      | none => simp [root, found] at goesOn
      | some entry =>
          simp only [root, found] at goesOn
          split at goesOn
          · rename_i expired
            exact ⟨id, entry, rfl, found, expired, (Option.some.inj goesOn).symm⟩
          · cases goesOn

theorem Valid.round (valid : store.Valid) {check : Option (ExpiryCheck K V)} {now : Instant}
    {round : Round K V} (goesOn : store.round? check now = some round) : round.store.Valid := by
  obtain ⟨id, entry, root, found, -, rfl⟩ := round?_cases goesOn
  unfold judge
  cases check with
  | none => exact valid.evictRoot root found
  | some asked =>
      simp only
      split
      · exact valid.evictRoot root found
      · exact valid.renew id now

/-- A pass keeps a store valid whatever the check answers. -/
theorem Valid.sweep (valid : store.Valid) (check : Option (ExpiryCheck K V)) (now : Instant) :
    (store.sweep check now).store.Valid := by
  fun_induction Store.sweep store check now with
  | case1 => exact valid
  | case2 store check round goesOn rest ih => exact ih (valid.round goesOn)

/-! ## Reading -/

/-- Renewal on a read is a renewal or nothing. -/
theorem Valid.renewOnRead (valid : store.Valid) (id : SlotId) (now : Instant) :
    (store.renewOnRead id now).1.Valid := by
  unfold Store.renewOnRead
  split
  · exact valid
  · exact valid.renew id now

theorem lookup_fst (store : Store K V) (key : K) (now : Instant) :
    ∃ counters, (store.lookup key now).1 = { store with counters } := by
  unfold lookup
  split
  · exact ⟨_, rfl⟩
  · exact ⟨_, rfl⟩

/-- Counters, settings and the planned wake-up do not matter. -/
theorem Valid.of_same {other : Store K V} (valid : store.Valid)
    (index : other.index = store.index) (schedule : other.schedule = store.schedule) :
    other.Valid := by
  refine valid.congr index ?_ (schedule ▸ valid.schedule)
  intro id
  rw [content?, schedule]
  rfl

theorem Valid.lookup (valid : store.Valid) (key : K) (now : Instant) :
    (store.lookup key now).1.Valid := by
  obtain ⟨counters, same⟩ := lookup_fst store key now
  rw [same]
  exact valid.of_same rfl rfl

theorem Valid.touch (valid : store.Valid) (key : K) (now : Instant) :
    (store.touch key now).1.Valid := by
  unfold Store.touch
  split
  · exact valid
  · exact valid.renew _ now

end Store

end ExpiringCache
