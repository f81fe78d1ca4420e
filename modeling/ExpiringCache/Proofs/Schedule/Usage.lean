import ExpiringCache.Proofs.Schedule.Valid

/-!
# Use of the queue

What a client of the queue can rely on.  It queues stored entries, takes them
out in any order, and has the queue repaired when it changes the deadline of a
queued entry.  The queue then holds what was queued and not given back, each
slot once and at the place its entry knows, and gives it back by deadline.
-/

namespace ExpiringCache

namespace Schedule

variable {K V : Type}

/-- One operation on the entries or on their queue. -/
inductive Operation (K V : Type) where
  /-- Stores a new entry, which is not queued. -/
  | insert (key : K) (value : V) (lifetime : Lifetime) (deadline : Option Instant)
  /-- Takes an entry out of its slot without looking at the queue. -/
  | discard (id : SlotId)
  | rewrite (id : SlotId) (value : V) (lifetime : Lifetime)
  /-- Changes a deadline without looking at the queue. -/
  | redate (id : SlotId) (deadline : Option Instant)
  /-- Changes a deadline and repairs the queue. -/
  | reschedule (id : SlotId) (deadline : Option Instant)
  | push (id : SlotId)
  | pop
  | remove (id : SlotId)
  | fix (id : SlotId)
  /-- Drops all entries together with the queue. -/
  | clear
  deriving DecidableEq, Repr

def perform (schedule : Schedule K V) : Operation K V → Schedule K V
  | .insert key value lifetime deadline =>
      (schedule.insert { key, value, lifetime, deadline }).1
  | .discard id => (schedule.discard id).1
  | .rewrite id value lifetime => schedule.update id fun entry => { entry with value, lifetime }
  | .redate id deadline => schedule.update id fun entry => { entry with deadline }
  | .reschedule id deadline =>
      (schedule.update id fun entry => { entry with deadline }).fix id
  | .push id => schedule.push id
  | .pop => schedule.pop.1
  | .remove id => (schedule.remove id).1
  | .fix id => schedule.fix id
  | .clear => {}

/-- A schedule and the slots that were pushed and neither popped nor removed since. -/
structure Usage (K V : Type) where
  schedule : Schedule K V := {}
  waiting : List SlotId := []

namespace Usage

/-- The slots that wait after one more operation; what the queue answers is taken at its word. -/
def waitingAfter (usage : Usage K V) : Operation K V → List SlotId
  | .push id => id :: usage.waiting
  | .pop => usage.schedule.pop.2.elim usage.waiting usage.waiting.erase
  | .remove id =>
      if (usage.schedule.remove id).2 then usage.waiting.erase id else usage.waiting
  | .clear => []
  | _ => usage.waiting

def after (usage : Usage K V) (operation : Operation K V) : Usage K V where
  schedule := usage.schedule.perform operation
  waiting := usage.waitingAfter operation

def afterAll (usage : Usage K V) (operations : List (Operation K V)) : Usage K V :=
  operations.foldl after usage

/--
What a client owes the queue: it pushes only stored slots that do not wait, and
neither discards a waiting slot nor changes its deadline without a repair.
-/
def Allows (usage : Usage K V) : Operation K V → Prop
  | .push id => (usage.schedule.entries.get? id).isSome = true ∧ id ∉ usage.waiting
  | .discard id | .redate id _ => id ∉ usage.waiting
  | _ => True

instance (usage : Usage K V) : DecidablePred usage.Allows
  | .push _ => inferInstanceAs (Decidable (_ ∧ _))
  | .discard _ | .redate _ _ => inferInstanceAs (Decidable (¬ _))
  | .insert .. | .rewrite .. | .reschedule .. | .pop | .remove _ | .fix _ | .clear =>
      inferInstanceAs (Decidable True)

/-- Operations of which each is allowed when its turn comes. -/
def AllowsAll (usage : Usage K V) : List (Operation K V) → Prop
  | [] => True
  | operation :: rest => usage.Allows operation ∧ (usage.after operation).AllowsAll rest

instance decidableAllowsAll (usage : Usage K V) :
    (operations : List (Operation K V)) → Decidable (usage.AllowsAll operations)
  | [] => inferInstanceAs (Decidable True)
  | operation :: rest =>
      have := (usage.after operation).decidableAllowsAll rest
      inferInstanceAs (Decidable (usage.Allows operation ∧ _))

/-- The invariant of a queue whose client keeps to the rules. -/
structure Sound (usage : Usage K V) : Prop where
  slots : usage.schedule.entries.Valid
  placed : usage.schedule.Placed
  ordered : usage.schedule.Ordered
  waiting_nodup : usage.waiting.Nodup
  /-- The waiting slots are those with a place. -/
  queued : ∀ id, id ∈ usage.waiting ↔ (usage.schedule.positionOf id).isSome = true

theorem sound_empty : ({} : Usage K V).Sound where
  slots := valid_empty.slots
  placed := valid_empty.placed
  ordered := valid_empty.ordered
  waiting_nodup := List.nodup_nil
  queued id := by simp [positionOf]

namespace Sound

variable {usage : Usage K V}

/-! ## One operation -/

theorem unqueued (sound : usage.Sound) {id : SlotId} (idle : id ∉ usage.waiting) :
    usage.schedule.positionOf id = none := by
  rw [sound.queued, Bool.not_eq_true] at idle
  exact Option.isNone_iff_eq_none.mp (Option.isSome_eq_false_iff.mp idle)

/-- Operations that move nothing between queued and unqueued leave the waiting slots alone. -/
theorem keep (sound : usage.Sound) {schedule : Schedule K V} (slots : schedule.entries.Valid)
    (placed : schedule.Placed) (ordered : schedule.Ordered)
    (positions : ∀ id, (schedule.positionOf id).isSome = (usage.schedule.positionOf id).isSome) :
    ({ usage with schedule } : Usage K V).Sound where
  slots := slots
  placed := placed
  ordered := ordered
  waiting_nodup := sound.waiting_nodup
  queued id := by
    rw [positions]
    exact sound.queued id

/-- A pop and a removal alike: one slot loses its place and waits no longer. -/
theorem takeOut (sound : usage.Sound) {taken : Schedule K V} {id : SlotId}
    (same : taken.contents = usage.schedule.contents) (placed : taken.Placed)
    (ordered : taken.Ordered)
    (positions : ∀ other, (taken.positionOf other).isSome =
      if id = other then false else (usage.schedule.positionOf other).isSome) :
    ({ schedule := taken, waiting := usage.waiting.erase id } : Usage K V).Sound where
  slots := slots_congr sound.slots same
  placed := placed
  ordered := ordered
  waiting_nodup := sound.waiting_nodup.erase id
  queued other := by
    rw [sound.waiting_nodup.mem_erase_iff, positions, sound.queued]
    by_cases here : id = other
    · simp [here]
    · simp [here, Ne.symm here]

theorem insert (sound : usage.Sound) (key : K) (value : V) (lifetime : Lifetime)
    (deadline : Option Instant) :
    (usage.after (.insert key value lifetime deadline)).Sound :=
  sound.keep (sound.slots.insert _) (sound.placed.insert sound.slots rfl)
    (sound.ordered.insert sound.placed sound.slots _)
    fun id => congrArg Option.isSome (positionOf_insert sound.slots rfl id)

theorem discard (sound : usage.Sound) {id : SlotId} (idle : id ∉ usage.waiting) :
    (usage.after (.discard id)).Sound :=
  have unqueued := sound.unqueued idle
  sound.keep (sound.slots.erase id) (sound.placed.discard unqueued)
    (sound.ordered.discard sound.placed unqueued)
    fun other => congrArg Option.isSome (positionOf_discard_of_unqueued unqueued other)

theorem rewrite (sound : usage.Sound) (id : SlotId) (value : V) (lifetime : Lifetime) :
    (usage.after (.rewrite id value lifetime)).Sound :=
  sound.keep (sound.slots.modify id _) (sound.placed.update id fun _ => rfl)
    (sound.ordered.update_of_kept id fun _ => rfl)
    fun other => congrArg Option.isSome
      (positionOf_update usage.schedule id other fun _ => rfl)

theorem redate (sound : usage.Sound) {id : SlotId} (idle : id ∉ usage.waiting)
    (deadline : Option Instant) : (usage.after (.redate id deadline)).Sound :=
  sound.keep (sound.slots.modify id _) (sound.placed.update id fun _ => rfl)
    (sound.ordered.update_of_unqueued sound.placed (sound.unqueued idle) _)
    fun other => congrArg Option.isSome
      (positionOf_update usage.schedule id other fun _ => rfl)

theorem fix (sound : usage.Sound) (id : SlotId) : (usage.after (.fix id)).Sound := by
  refine sound.keep (slots_congr sound.slots (contents_fix _ id)) (sound.placed.fix id) ?_
    (isSome_positionOf_fix sound.placed id)
  cases recorded : usage.schedule.positionOf id with
  | none =>
      rw [perform, Schedule.fix, recorded]
      exact sound.ordered
  | some place => exact (sound.ordered.orderedBut place).fix sound.placed recorded

/-- The repair closes the gap that a new deadline opens at the place of its entry. -/
theorem reschedule (sound : usage.Sound) (id : SlotId) (deadline : Option Instant) :
    (usage.after (.reschedule id deadline)).Sound := by
  by_cases waits : id ∈ usage.waiting
  · obtain ⟨place, recorded⟩ := Option.isSome_iff_exists.mp ((sound.queued id).mp waits)
    let redated := usage.schedule.update id fun entry => { entry with deadline }
    have kept (other : SlotId) : redated.positionOf other = usage.schedule.positionOf other :=
      positionOf_update usage.schedule id other fun _ => rfl
    have placed : redated.Placed := sound.placed.update id fun _ => rfl
    have gap := sound.ordered.update sound.placed recorded fun entry => { entry with deadline }
    refine sound.keep (slots_congr (sound.slots.modify id _) (contents_fix _ id)) (placed.fix id)
      (gap.fix placed ((kept id).trans recorded)) ?_
    intro other
    exact (isSome_positionOf_fix placed id other).trans (congrArg Option.isSome (kept other))
  · -- The slot has no place, so the repair has nothing to do.
    exact (sound.redate waits deadline).fix id

theorem push (sound : usage.Sound) {id : SlotId}
    (stored : (usage.schedule.entries.get? id).isSome = true) (idle : id ∉ usage.waiting) :
    (usage.after (.push id)).Sound where
  slots := slots_congr sound.slots (contents_push _ id)
  placed := sound.placed.push stored (sound.unqueued idle)
  ordered := sound.ordered.push id
  waiting_nodup := List.nodup_cons.mpr ⟨idle, sound.waiting_nodup⟩
  queued other := by
    change other ∈ id :: usage.waiting ↔ ((usage.schedule.push id).positionOf other).isSome = true
    rw [isSome_positionOf_push sound.placed stored (sound.unqueued idle), List.mem_cons,
      sound.queued]
    by_cases here : id = other
    · simp [here]
    · simp [here, Ne.symm here]

theorem pop (sound : usage.Sound) : (usage.after .pop).Sound := by
  rw [after, perform, waitingAfter, pop_snd]
  cases root : usage.schedule.first? with
  | none =>
      rw [pop_of_empty root]
      exact sound
  | some id =>
      exact sound.takeOut (contents_pop _) (sound.placed.pop root)
        (sound.ordered.pop sound.placed root) (isSome_positionOf_pop sound.placed root)

theorem remove (sound : usage.Sound) (id : SlotId) : (usage.after (.remove id)).Sound := by
  rw [after, perform, waitingAfter, remove_snd]
  split
  · exact sound.takeOut (contents_remove _ id) (sound.placed.remove id)
      (sound.ordered.remove sound.placed id) (isSome_positionOf_remove sound.placed id)
  · rename_i unqueued
    rw [Bool.not_eq_true, Option.isSome_eq_false_iff, Option.isNone_iff_eq_none] at unqueued
    rw [remove_of_unqueued unqueued]
    exact sound

theorem after (sound : usage.Sound) {operation : Operation K V}
    (allowed : usage.Allows operation) : (usage.after operation).Sound := by
  cases operation with
  | insert key value lifetime deadline => exact sound.insert key value lifetime deadline
  | discard id => exact sound.discard allowed
  | rewrite id value lifetime => exact sound.rewrite id value lifetime
  | redate id deadline => exact sound.redate allowed deadline
  | reschedule id deadline => exact sound.reschedule id deadline
  | push id => exact sound.push allowed.1 allowed.2
  | pop => exact sound.pop
  | remove id => exact sound.remove id
  | fix id => exact sound.fix id
  | clear => exact sound_empty

/-! ## All operations -/

theorem afterAll (sound : usage.Sound) {operations : List (Operation K V)}
    (allowed : usage.AllowsAll operations) : (usage.afterAll operations).Sound := by
  induction operations generalizing usage with
  | nil => exact sound
  | cons operation rest ih => exact ih (sound.after allowed.1) allowed.2

/-- The heap holds the waiting slots in some order. -/
theorem heap_perm (sound : usage.Sound) : usage.schedule.heap.toList.Perm usage.waiting := by
  refine (List.perm_ext_iff_of_nodup sound.placed.nodup_heap sound.waiting_nodup).mpr ?_
  intro id
  rw [Array.mem_toList_iff, sound.placed.mem_heap_iff, sound.queued]

end Sound

/--
The queue of a client that keeps to the rules.  After any sequence of
operations the heap holds the waiting slots, each once and at the place its
entry knows.  The root, which is what a pop returns, waits and is due no later
than any waiting slot.  Taking a slot out succeeds exactly if it waits, and
draining returns every waiting slot once, by deadline; slots without a deadline
come last.
-/
theorem serves_waiting_by_deadline (operations : List (Operation K V))
    (allowed : ({} : Usage K V).AllowsAll operations) :
    let usage := ({} : Usage K V).afterAll operations
    let schedule := usage.schedule
    (usage.waiting.Nodup ∧ schedule.heap.toList.Perm usage.waiting ∧
      ∀ id place, schedule.positionOf id = some place ↔ schedule.heap[place]? = some id) ∧
    (schedule.pop.2 = schedule.first? ∧ (schedule.first? = none ↔ usage.waiting = []) ∧
      ∀ id ∈ schedule.first?, id ∈ usage.waiting ∧ ∀ other ∈ usage.waiting,
        NoLater (schedule.deadlineOf id) (schedule.deadlineOf other)) ∧
    (∀ id, (schedule.remove id).2 = true ↔ id ∈ usage.waiting) ∧
    (schedule.drain.1.heap = #[] ∧ schedule.drain.2.Perm usage.waiting ∧
      schedule.drain.2.Pairwise fun early late =>
        NoLater (schedule.deadlineOf early) (schedule.deadlineOf late)) := by
  intro usage schedule
  have sound : usage.Sound := sound_empty.afterAll allowed
  have perm := sound.heap_perm
  have listed (id : SlotId) : id ∈ schedule.heap ↔ id ∈ usage.waiting := by
    rw [← Array.mem_toList_iff]
    exact perm.mem_iff
  obtain ⟨emptied, drained, sorted⟩ := drain_by_deadline sound.placed sound.ordered
  refine ⟨⟨sound.waiting_nodup, perm, sound.placed⟩, ⟨pop_snd schedule, ?_, ?_⟩, ?_,
    emptied, drained.trans perm, sorted⟩
  · rw [← List.length_eq_zero_iff, ← perm.length_eq, Array.length_toList, first?,
      getElem?_eq_none_iff, Nat.not_lt, Nat.le_zero]
  · intro id root
    refine ⟨(listed id).mp (Array.mem_iff_getElem?.mpr ⟨0, root⟩), ?_⟩
    intro other waits
    exact sound.ordered.root_noLater root ((listed other).mpr waits)
  · intro id
    rw [remove_snd, sound.queued]

/-- Equal deadlines, none at all, new deadlines either way, and a slot that is used again. -/
def busyClient : List (Operation Nat Nat) :=
  [.insert 1 10 .inherited (some ⟨30⟩), .insert 2 20 .inherited (some ⟨10⟩),
    .insert 3 30 .unlimited none, .insert 4 40 .inherited (some ⟨10⟩), .insert 5 50 .inherited none,
    .push 0, .push 1, .push 2, .push 3, .push 4, .reschedule 0 (some ⟨5⟩), .pop, .discard 0,
    .redate 0 (some ⟨9⟩), .insert 6 60 .inherited (some ⟨7⟩), .push 0, .reschedule 4 (some ⟨10⟩),
    .remove 1, .remove 9, .rewrite 0 70 .unlimited, .reschedule 3 none, .fix 4]

theorem busyClient_served :
    let usage := ({} : Usage Nat Nat).afterAll busyClient
    ({} : Usage Nat Nat).AllowsAll busyClient ∧ usage.waiting = [0, 4, 3, 2] ∧
      usage.schedule.heap.toList.Perm usage.waiting ∧ usage.schedule.drain.2.Perm usage.waiting ∧
      usage.schedule.drain.2.Pairwise fun early late =>
        NoLater (usage.schedule.deadlineOf early) (usage.schedule.deadlineOf late) := by
  intro usage
  have allowed : ({} : Usage Nat Nat).AllowsAll busyClient := by decide +kernel
  obtain ⟨⟨-, held, -⟩, -, -, -, drained, sorted⟩ := serves_waiting_by_deadline busyClient allowed
  exact ⟨allowed, by decide +kernel, held, drained, sorted⟩

end Usage

end Schedule

end ExpiringCache
