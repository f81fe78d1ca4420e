import ExpiringCache.Proofs.Store.Valid

/-!
# Contents by key

What a store holds under each key, and how its operations change that.  Slots
and heap places no longer show here.
-/

namespace ExpiringCache

namespace Store

variable {K V : Type} [DecidableEq K] {store : Store K V}

/-- The entry under a key without its place in the heap, expired or not. -/
def stored? (store : Store K V) (key : K) : Option (Entry K V) :=
  (store.index.find? key).bind store.content?

theorem stored?_of_find? {key : K} {id : SlotId} (found : store.index.find? key = some id) :
    store.stored? key = store.content? id := by
  simp [stored?, found]

theorem stored?_of_absent {key : K} (absent : store.index.find? key = none) :
    store.stored? key = none := by
  simp [stored?, absent]

@[simp] theorem stored?_purge (store : Store K V) (key : K) : store.purge.stored? key = none := by
  rw [stored?_of_absent]
  rfl

namespace Valid

theorem stored?_eq_some_iff (valid : store.Valid) {key : K} {entry : Entry K V} :
    store.stored? key = some entry ↔ ∃ id, store.content? id = some entry ∧ entry.key = key := by
  constructor
  · intro stored
    obtain ⟨id, found, here⟩ := Option.bind_eq_some_iff.mp stored
    obtain ⟨carried, there, same⟩ := valid.content?_of_find? found
    obtain rfl := Option.some.inj (there.symm.trans here)
    exact ⟨id, here, same⟩
  · rintro ⟨id, here, rfl⟩
    rw [stored?_of_find? (valid.find?_of_content? here), here]

theorem key_of_stored? (valid : store.Valid) {key : K} {entry : Entry K V}
    (stored : store.stored? key = some entry) : entry.key = key := by
  obtain ⟨_, _, same⟩ := valid.stored?_eq_some_iff.mp stored
  exact same

theorem isSome_stored? (valid : store.Valid) (key : K) :
    (store.stored? key).isSome = (store.index.find? key).isSome := by
  cases found : store.index.find? key with
  | none =>
      rw [stored?_of_absent found]
      rfl
  | some id =>
      obtain ⟨entry, here, _⟩ := valid.content?_of_find? found
      rw [stored?_of_find? found, here]
      rfl

/-- A change in the one slot that can hold a key shows under this key alone. -/
theorem stored?_of_change {other : Store K V} (valid : store.Valid) (otherValid : other.Valid)
    {id : SlotId} {key : K}
    (owns : ∀ slot entry, store.content? slot = some entry → (entry.key = key ↔ id = slot))
    {after : Option (Entry K V)} (named : ∀ entry, after = some entry → entry.key = key)
    (contents : ∀ slot, other.content? slot = if id = slot then after else store.content? slot)
    (name : K) :
    other.stored? name = if key = name then after else store.stored? name := by
  refine Option.ext fun entry => ?_
  rw [otherValid.stored?_eq_some_iff]
  by_cases here : key = name
  · subst here
    rw [if_pos rfl]
    constructor
    · rintro ⟨slot, there, same⟩
      rw [contents] at there
      split at there
      · exact there
      · rename_i elsewhere
        exact absurd ((owns slot entry there).mp same) elsewhere
    · intro written
      exact ⟨id, by rw [contents, if_pos rfl, written], named entry written⟩
  · rw [if_neg here, valid.stored?_eq_some_iff]
    constructor
    · rintro ⟨slot, there, rfl⟩
      rw [contents] at there
      split at there
      · exact absurd (named entry there).symm here
      · exact ⟨slot, there, rfl⟩
    · rintro ⟨slot, there, rfl⟩
      refine ⟨slot, ?_, rfl⟩
      rw [contents, if_neg, there]
      intro same
      exact here ((owns slot entry there).mpr same).symm

theorem owns_of_find? (valid : store.Valid) {key : K} {id : SlotId}
    (found : store.index.find? key = some id) (slot : SlotId) (entry : Entry K V)
    (stored : store.content? slot = some entry) : entry.key = key ↔ id = slot := by
  have own := valid.find?_of_content? stored
  constructor
  · rintro rfl
    exact Option.some.inj (found.symm.trans own)
  · rintro rfl
    obtain ⟨carried, here, same⟩ := valid.content?_of_find? found
    obtain rfl := Option.some.inj (here.symm.trans stored)
    exact same

/-! ## After each operation -/

theorem stored?_renew (valid : store.Valid) {key : K} {id : SlotId}
    (found : store.index.find? key = some id) (now : Instant) (name : K) :
    (store.renew id now).1.stored? name =
      if key = name then (store.stored? key).map (·.renew now store.sharedLifetime)
      else store.stored? name := by
  refine valid.stored?_of_change (valid.renew id now) (valid.owns_of_find? found) ?_ ?_ name
  · intro entry renewed
    obtain ⟨before, stored, rfl⟩ := Option.map_eq_some_iff.mp renewed
    exact (valid.key_of_stored? stored : before.key = key)
  · intro slot
    rw [content?_renew, stored?_of_find? found]
    split
    · rename_i same
      rw [same]
    · rfl

theorem content?_write (valid : store.Valid) (key : K) (value : V) (lifetime : Lifetime)
    (now : Instant) (slot : SlotId) :
    (store.write key value lifetime now).1.content? slot =
      if (store.placeEntry key value lifetime).2 = slot then
        some (({ key, value, lifetime } : Entry K V).renew now store.sharedLifetime)
      else store.content? slot := by
  have settings : (store.placeEntry key value lifetime).1.sharedLifetime =
      store.sharedLifetime := by
    unfold Store.placeEntry
    split <;> rfl
  rw [write_eq]
  simp only
  rw [content?_renew, settings]
  split
  · rename_i same
    obtain ⟨deadline, placed⟩ := valid.content?_placeEntry_self key value lifetime
    rw [← same, placed]
    rfl
  · rename_i elsewhere
    exact valid.content?_placeEntry_of_ne key value lifetime slot elsewhere

/-- The slot of a write holds the written key and no other. -/
theorem owns_placeEntry (valid : store.Valid) (key : K) (value : V) (lifetime : Lifetime)
    (slot : SlotId) (entry : Entry K V) (stored : store.content? slot = some entry) :
    entry.key = key ↔ (store.placeEntry key value lifetime).2 = slot := by
  unfold Store.placeEntry
  cases found : store.index.find? key with
  | some id => exact valid.owns_of_find? found slot entry stored
  | none =>
      have fresh := valid.content?_fresh { key, value, lifetime }
      constructor
      · rintro rfl
        rw [valid.find?_of_content? stored] at found
        cases found
      · rintro rfl
        rw [fresh] at stored
        cases stored

/-- An overwritten entry is like a new one, whatever was there before. -/
theorem stored?_write (valid : store.Valid) (key : K) (value : V) (lifetime : Lifetime)
    (now : Instant) (name : K) :
    (store.write key value lifetime now).1.stored? name =
      if key = name then
        some (({ key, value, lifetime } : Entry K V).renew now store.sharedLifetime)
      else store.stored? name := by
  refine valid.stored?_of_change (valid.write key value lifetime now)
    (valid.owns_placeEntry key value lifetime) ?_
    (valid.content?_write key value lifetime now) name
  rintro entry ⟨⟩
  rfl

theorem stored?_remove (valid : store.Valid) (key name : K) :
    (store.remove key).1.stored? name = if key = name then none else store.stored? name := by
  cases found : store.index.find? key with
  | none =>
      rw [remove_of_absent found]
      split
      · rename_i same
        rw [← same, stored?_of_absent found]
      · rfl
  | some id =>
      refine valid.stored?_of_change (valid.remove key) (valid.owns_of_find? found)
        (by rintro _ ⟨⟩) ?_ name
      intro slot
      rw [remove_of_present found, content?, get?_contents_discard, Schedule.contents_remove]
      rfl

end Valid

theorem remove_snd (store : Store K V) (key : K) :
    (store.remove key).2 = (store.index.find? key).isSome := by
  cases found : store.index.find? key with
  | none => rw [remove_of_absent found]; rfl
  | some id => rw [remove_of_present found]; rfl

/-! ## Wake-ups -/

omit [DecidableEq K] in
/-- A renewal calls for a wake-up exactly if the sweeper sleeps past the new deadline. -/
theorem renew_snd (store : Store K V) (id : SlotId) (now : Instant) :
    (store.renew id now).2 =
      (store.content? id).any fun entry =>
        store.sleepsPast (entry.renew now store.sharedLifetime).deadline := by
  rw [renew, content?_eq]
  cases store.entry? id <;> rfl

omit [DecidableEq K] in
theorem sleepsPast_congr {other : Store K V} (same : other.nextWake = store.nextWake)
    (deadline : Option Instant) : other.sleepsPast deadline = store.sleepsPast deadline := by
  unfold sleepsPast
  rw [same]

theorem Valid.write_wake (valid : store.Valid) (key : K) (value : V) (lifetime : Lifetime)
    (now : Instant) :
    (store.write key value lifetime now).2.wake =
      store.sleepsPast
        (({ key, value, lifetime } : Entry K V).renew now store.sharedLifetime).deadline := by
  obtain ⟨deadline, placed⟩ := valid.content?_placeEntry_self key value lifetime
  have shared : (store.placeEntry key value lifetime).1.sharedLifetime =
      store.sharedLifetime := by
    unfold Store.placeEntry
    split <;> rfl
  have wake : (store.placeEntry key value lifetime).1.nextWake = store.nextWake := by
    unfold Store.placeEntry
    split <;> rfl
  rw [write_eq]
  simp only
  rw [renew_snd, placed, Option.any_some, sleepsPast_congr wake, shared]
  rfl

/-! ## Live entries -/

def live? (store : Store K V) (key : K) (now : Instant) : Option (Entry K V) :=
  (store.stored? key).filter (!·.isExpired now)

omit [DecidableEq K] in
theorem any_entry?_eq (store : Store K V) (id : SlotId) (now : Instant) :
    (store.entry? id).any (!·.isExpired now) = (store.content? id).any (!·.isExpired now) := by
  rw [content?_eq]
  cases store.entry? id <;> rfl

theorem liveSlot?_eq_some_iff {key : K} {now : Instant} {id : SlotId} :
    store.liveSlot? key now = some id ↔
      store.index.find? key = some id ∧ ∃ entry, store.content? id = some entry ∧
        store.live? key now = some entry := by
  rw [liveSlot?, live?, Option.filter_eq_some_iff, any_entry?_eq]
  constructor
  · rintro ⟨found, live⟩
    refine ⟨found, ?_⟩
    rw [stored?_of_find? found]
    cases here : store.content? id with
    | none => simp [here] at live
    | some entry =>
        rw [here, Option.any_some] at live
        exact ⟨entry, rfl, Option.filter_eq_some_iff.mpr ⟨rfl, live⟩⟩
  · rintro ⟨found, entry, here, live⟩
    have fresh := (Option.filter_eq_some_iff.mp live).2
    exact ⟨found, by simpa [here] using fresh⟩

/-! ## The earliest deadline -/

omit [DecidableEq K] in
theorem deadlineOf_eq_content? (store : Store K V) (id : SlotId) :
    store.schedule.deadlineOf id = (store.content? id).bind Entry.deadline := by
  rw [content?_eq, Schedule.deadlineOf]
  change (store.entry? id).bind Entry.deadline = _
  cases store.entry? id <;> rfl

theorem deadlineOf_of_stored? {key : K} {entry : Entry K V}
    (stored : store.stored? key = some entry) :
    ∃ id, store.schedule.deadlineOf id = entry.deadline := by
  obtain ⟨id, -, here⟩ := Option.bind_eq_some_iff.mp stored
  exact ⟨id, by rw [deadlineOf_eq_content?, here, Option.bind_some]⟩

namespace Valid

theorem deadline_of_earliest_none (valid : store.Valid)
    (nothing : store.earliestDeadline? = none) {key : K} {entry : Entry K V}
    (stored : store.stored? key = some entry) : entry.deadline = none := by
  obtain ⟨id, same⟩ := deadlineOf_of_stored? stored
  rw [← same]
  cases root : store.schedule.first? with
  | none => exact valid.schedule.deadlineOf_eq_none root id
  | some first =>
      obtain ⟨due, dated⟩ := valid.schedule.first?_dated root
      rw [earliestDeadline?, root, Option.bind_some, dated] at nothing
      cases nothing

theorem earliest_le (valid : store.Valid) {earliest : Instant}
    (first : store.earliestDeadline? = some earliest) {key : K} {entry : Entry K V}
    (stored : store.stored? key = some entry) {due : Instant} (dated : entry.deadline = some due) :
    earliest ≤ due := by
  obtain ⟨root, here, rootDue⟩ := Option.bind_eq_some_iff.mp first
  obtain ⟨id, same⟩ := deadlineOf_of_stored? stored
  exact valid.schedule.first?_le here rootDue (same.trans dated)

/-- The earliest deadline belongs to a stored entry. -/
theorem exists_earliest (valid : store.Valid) {earliest : Instant}
    (first : store.earliestDeadline? = some earliest) :
    ∃ key entry, store.stored? key = some entry ∧ entry.deadline = some earliest := by
  obtain ⟨root, -, rootDue⟩ := Option.bind_eq_some_iff.mp first
  rw [deadlineOf_eq_content?] at rootDue
  obtain ⟨entry, here, dated⟩ := Option.bind_eq_some_iff.mp rootDue
  exact ⟨entry.key, entry, valid.stored?_eq_some_iff.mpr ⟨root, here, rfl⟩, dated⟩

end Valid

end Store

end ExpiringCache
