import Mathlib.Logic.Function.Basic
import ExpiringCache.Proofs.Cache.SectionByKey

/-!
# Overtaking

A client reads the clock first and waits for the lock then, so a section can run
with a reading older than one that the entry has already been renewed at.  It
begins the lifetime anew at the older reading, which cuts the lifetime short.
What a write stores therefore lasts as long as it asked for only counted from
the oldest reading that waits for the key when the write is made.
-/

namespace ExpiringCache

/-- A cache with the sections that clients have taken a reading for and wait to run. -/
structure Lobby (T K V H : Type) where
  cache : Cache K V H
  waiting : T → Option (Section K V H) := fun _ => none

/-- A step of one client or of the sweeper; `T` names the clients. -/
inductive Beat (T K V H : Type) where
  | elapses (duration : Duration)
  /-- A client reads the clock for a section and begins to wait for the lock. -/
  | calls (who : T) (entered : Section K V H)
  /-- A client gets the lock and runs the section it waited for. -/
  | enters (who : T) (entered : Section K V H)
  | plans (now : Instant)
  | hears
  | sweeps (now : Instant)

/-- Whether a section that has got the lock ends or replaces what is stored under a key. -/
def Beat.ends {T K V H : Type} [DecidableEq K] (key : K) : Beat T K V H → Bool
  | .enters _ entered => entered.ends key
  | _ => false

theorem Clock.instant_le_advance {clock moved : Clock} {duration : Duration}
    (advanced : clock.advance duration = .ok moved) : clock.instant ≤ moved.instant := by
  unfold Clock.advance at advanced
  cases sum : clock.elapsed.add? duration with
  | none =>
      rw [sum] at advanced
      cases advanced
  | some elapsed =>
      rw [sum] at advanced
      obtain rfl := Except.ok.inj advanced
      have longer := (Duration.add?_eq_some_iff.mp sum).1
      simp only [Clock.instant, Instant.le_iff]
      omega

namespace Section

variable {K V H : Type} [DecidableEq K]

/-- Whether a section begins the lifetime under a key anew if it finds the key live. -/
def renews (key : K) : Section K V H → Bool
  | .read name _ => name = key
  | .touch name _ => name = key
  | _ => false

end Section

namespace Entry

variable {K V : Type} {entry : Entry K V} {length : Duration} {floor last now : Instant}

/-- An entry of the given lifetime that does not expire before an instant. -/
structure LastsTo (entry : Entry K V) (length : Duration) (last : Instant) : Prop where
  lifetime : entry.lifetime = .lasting length
  deadline : ∀ due, entry.deadline = some due → last ≤ due

theorem LastsTo.isExpired (lasts : entry.LastsTo length last) (early : now ≤ last) :
    entry.isExpired now = false := by
  refine Entry.isExpired_eq_false_iff.mpr fun due ends => ?_
  exact Nat.le_trans early (lasts.deadline due ends)

/-- A renewal at a reading that is not too old leaves enough time. -/
theorem LastsTo.of_renew (positive : length ≠ .zero) (ends : floor.add? length = some last)
    (lifetime : entry.lifetime = .lasting length) (fresh : floor ≤ now)
    (shared : Option Duration) : (entry.renew now shared).LastsTo length last where
  lifetime := lifetime
  deadline := by
    intro due renewed
    simp only [renew, lifetime, Lifetime.resolve_lasting positive, Option.bind_some] at renewed
    have early := (Instant.add?_eq_some_iff.mp ends).1
    have late := (Instant.add?_eq_some_iff.mp renewed).1
    rw [Instant.le_iff] at fresh ⊢
    omega

end Entry

namespace Dossier

variable {K V H : Type} {dossier : Dossier K V} {value : V} {length : Duration}
  {floor last now : Instant}

/-- A value that can be read until an instant. -/
structure Keeps (dossier : Dossier K V) (value : V) (length : Duration) (last : Instant) :
    Prop where
  opened : dossier.closed = false
  stored : ∃ entry, dossier.entry = some entry ∧ entry.value = value ∧ entry.LastsTo length last

theorem Keeps.lease (keeps : dossier.Keeps value length last) (early : now ≤ last) :
    (dossier.lease now).map Prod.fst = some value := by
  obtain ⟨entry, stored, rfl, lasts⟩ := keeps.stored
  rw [Dossier.lease, if_neg (ne_true_of_eq_false keeps.opened), live?, stored,
    Option.filter_some, lasts.isExpired early]
  rfl

/-- A change of the other parts of a dossier does not matter. -/
theorem Keeps.congr {other : Dossier K V} (keeps : dossier.Keeps value length last)
    (entry : other.entry = dossier.entry) (closed : other.closed = dossier.closed) :
    other.Keeps value length last where
  opened := closed.trans keeps.opened
  stored := entry ▸ keeps.stored

/-- What a write makes of the dossier of an open cache. -/
theorem Keeps.of_write (key : K) (opened : dossier.closed = false) (positive : length ≠ .zero)
    (ends : floor.add? length = some last) (fresh : floor ≤ now) :
    (dossier.write key value (.lasting length) now).Keeps value length last := by
  rw [write, if_neg (ne_true_of_eq_false opened)]
  exact {
    opened := opened
    stored := ⟨_, rfl, rfl, .of_renew positive ends rfl fresh _⟩ }

/-- A renewal at a reading that is not too old keeps the value. -/
theorem Keeps.renew (keeps : dossier.Keeps value length last) (positive : length ≠ .zero)
    (ends : floor.add? length = some last) (fresh : floor ≤ now) {entry : Entry K V}
    (stored : dossier.entry = some entry) (shared : Option Duration) :
    { dossier with entry := some (entry.renew now shared) }.Keeps value length last := by
  obtain ⟨found, same, rfl, lasts⟩ := keeps.stored
  obtain rfl := Option.some.inj (stored.symm.trans same)
  exact {
    opened := keeps.opened
    stored := ⟨_, rfl, rfl, .of_renew positive ends lasts.lifetime fresh shared⟩ }

theorem Keeps.touch (keeps : dossier.Keeps value length last) (positive : length ≠ .zero)
    (ends : floor.add? length = some last) (fresh : floor ≤ now) :
    (dossier.touch now).Keeps value length last := by
  unfold Dossier.touch
  cases live : dossier.live? now with
  | none => exact keeps
  | some entry => exact keeps.renew positive ends fresh (entry_of_live? live) _

theorem Keeps.read (keeps : dossier.Keeps value length last) (positive : length ≠ .zero)
    (ends : floor.add? length = some last) (fresh : floor ≤ now) :
    (dossier.read now).Keeps value length last := by
  by_cases skips : dossier.skipRenewal = true
  · rw [read_of_skip skips]
    exact keeps
  · rw [Dossier.read, if_neg (ne_true_of_eq_false keeps.opened)]
    cases live : dossier.live? now with
    | none => exact keeps
    | some entry =>
        simp only [keptOnRead, if_neg skips]
        exact keeps.renew positive ends fresh (entry_of_live? live) _

/-- A section keeps the value unless it ends it or renews it at a reading that is too old. -/
theorem Keeps.enter [DecidableEq K] {key : K} (keeps : dossier.Keeps value length last)
    (positive : length ≠ .zero) (ends : floor.add? length = some last) {entered : Section K V H}
    (lasting : entered.ends key = false)
    (fresh : entered.renews key = true → ∀ now, entered.reading? = some now → floor ≤ now) :
    (dossier.enter key entered).Keeps value length last := by
  cases entered with
  | write name other lifetime now =>
      rw [Dossier.enter, if_neg (of_decide_eq_false lasting)]
      exact keeps
  | remove name =>
      rw [Dossier.enter, if_neg (of_decide_eq_false lasting)]
      exact keeps
  | purge => cases lasting
  | markClosed => cases lasting
  | read name now =>
      rw [Dossier.enter]
      split
      · rename_i same
        exact keeps.read positive ends (fresh (decide_eq_true same) now rfl)
      · exact keeps
  | touch name now =>
      rw [Dossier.enter]
      split
      · rename_i same
        exact keeps.touch positive ends (fresh (decide_eq_true same) now rfl)
      · exact keeps
  | setSharedLifetime duration => exact keeps.congr rfl rfl
  | setSkipRenewal skip => exact keeps.congr rfl rfl
  | install handlers => exact keeps.congr rfl rfl
  | note events => exact keeps
  | moveClock clock => exact keeps

end Dossier

namespace Cache

variable {K V H : Type} [DecidableEq K] {cache : Cache K V H} {key : K} {value : V}
  {length : Duration} {last now : Instant}

theorem clock_writeAt (cache : Cache K V H) (key : K) (value : V) (lifetime : Lifetime)
    (now : Instant) : (cache.writeAt key value lifetime now).1.clock = cache.clock := by
  unfold writeAt
  split
  · rfl
  · rfl

theorem clock_readAt (cache : Cache K V H) (key : K) (now : Instant) :
    (cache.readAt key now).1.clock = cache.clock := by
  unfold readAt
  split
  · rfl
  · split
    · rfl
    · rfl

theorem clock_touchAt (cache : Cache K V H) (key : K) (now : Instant) :
    (cache.touchAt key now).1.clock = cache.clock := by
  unfold touchAt
  split
  · rfl
  · rfl

omit [DecidableEq K] in
theorem clock_markClosed (cache : Cache K V H) : cache.markClosed.1.clock = cache.clock := by
  unfold markClosed
  split
  · rfl
  · rfl

/-- No section of a client moves the clock. -/
theorem clock_enter {entered : Section K V H} (still : ∀ clock, entered ≠ .moveClock clock) :
    (cache.enter entered).clock = cache.clock := by
  cases entered with
  | write key value lifetime now => exact clock_writeAt cache key value lifetime now
  | read key now => exact clock_readAt cache key now
  | touch key now => exact clock_touchAt cache key now
  | markClosed => exact clock_markClosed cache
  | moveClock clock => exact absurd rfl (still clock)
  | _ => rfl

/-- A pass leaves what has not expired. -/
theorem keeps_sweepAt (valid : cache.store.Valid)
    (keeps : (cache.dossier key).Keeps value length last) (early : now ≤ last) :
    ((cache.sweepAt now).1.dossier key).Keeps value length last := by
  obtain ⟨entry, stored, same, lasts⟩ := keeps.stored
  have live : cache.store.live? key now = some entry :=
    Store.live?_eq_some_iff.mpr ⟨stored, lasts.isExpired early⟩
  rw [dossier_sweepAt valid]
  exact {
    opened := keeps.opened
    stored := ⟨entry, stored?_sweepAt_of_live valid live, same, lasts⟩ }

end Cache

namespace Lobby

variable {T K V H : Type} [DecidableEq T] [DecidableEq K]

def next (lobby : Lobby T K V H) : Beat T K V H → Lobby T K V H
  | .elapses duration => { lobby with cache := (lobby.cache.advance duration).1 }
  | .calls who entered =>
      { lobby with waiting := Function.update lobby.waiting who (some entered) }
  | .enters who entered =>
      { cache := lobby.cache.enter entered, waiting := Function.update lobby.waiting who none }
  | .plans now => { lobby with cache := (lobby.cache.planSleepAt now).1 }
  | .hears => { lobby with cache := lobby.cache.takeWake.1 }
  | .sweeps now => { lobby with cache := (lobby.cache.sweepAt now).1 }

/--
Whether a step can come next.  A client that waits for nothing may take a reading
for any section of its own.  The sweeper reads the clock for a pass while it has
the lock; it may plan with any reading.
-/
def Allows (lobby : Lobby T K V H) : Beat T K V H → Prop
  | .elapses _ => True
  | .calls who entered =>
      lobby.waiting who = none ∧ (∀ clock, entered ≠ .moveClock clock) ∧
        ∀ now, entered.reading? = some now → lobby.cache.clock.now = .ok now
  | .enters who entered => lobby.waiting who = some entered
  | .plans _ => True
  | .hears => True
  | .sweeps now => lobby.cache.clock.now = .ok now

omit [DecidableEq T] [DecidableEq K] in
theorem allows_calls {lobby : Lobby T K V H} {who : T} {entered : Section K V H} {now : Instant}
    (idle : lobby.waiting who = none) (brings : entered.reading? = some now)
    (reading : lobby.cache.clock.now = .ok now) : lobby.Allows (.calls who entered) := by
  refine ⟨idle, ?_, ?_⟩
  · rintro clock rfl
    cases brings
  · intro other same
    rw [reading, Option.some.inj (brings.symm.trans same)]

/-- The steps of clients and the sweeper in any order. -/
inductive Runs : Lobby T K V H → List (Beat T K V H) → Lobby T K V H → Prop where
  | nil (lobby : Lobby T K V H) : Runs lobby [] lobby
  | cons {lobby last : Lobby T K V H} {beat : Beat T K V H} {rest : List (Beat T K V H)}
      (allowed : lobby.Allows beat) (runs : Runs (lobby.next beat) rest last) :
      Runs lobby (beat :: rest) last

variable {lobby before after : Lobby T K V H} {beat : Beat T K V H} {key : K} {value : V}
  {length : Duration} {start floor last : Instant}

/-- Who waits after a step has waited before or has just taken the reading it brings. -/
theorem waiting_cases (allowed : lobby.Allows beat) {who : T} {entered : Section K V H}
    (waits : (lobby.next beat).waiting who = some entered) :
    lobby.waiting who = some entered ∨
      (∀ clock, entered ≠ .moveClock clock) ∧
        ∀ now, entered.reading? = some now → lobby.cache.clock.now = .ok now := by
  cases beat with
  | calls caller called =>
      change Function.update lobby.waiting caller (some called) who = some entered at waits
      by_cases same : who = caller
      · subst same
        rw [Function.update_self, Option.some_inj] at waits
        subst waits
        exact .inr allowed.2
      · rw [Function.update_of_ne same] at waits
        exact .inl waits
  | enters runner ran =>
      change Function.update lobby.waiting runner none who = some entered at waits
      by_cases same : who = runner
      · subst same
        rw [Function.update_self] at waits
        cases waits
      · rw [Function.update_of_ne same] at waits
        exact .inl waits
  | _ => exact .inl waits

/-- Every client waits with a reading that the clock has shown. -/
structure Timely (lobby : Lobby T K V H) : Prop where
  valid : lobby.cache.store.Valid
  still : ∀ who entered, lobby.waiting who = some entered → ∀ clock, entered ≠ .moveClock clock
  past : ∀ who entered now, lobby.waiting who = some entered → entered.reading? = some now →
    now ≤ lobby.cache.clock.instant

omit [DecidableEq T] in
theorem Timely.create (clock : Clock) (sharedLifetime : Option Duration) (skipRenewal : Bool)
    (handlers : Handlers K V H) :
    ({ cache := .create clock sharedLifetime skipRenewal handlers } : Lobby T K V H).Timely where
  valid := Cache.valid_create clock sharedLifetime skipRenewal handlers
  still := by
    intro _ _ waits
    cases waits
  past := by
    intro _ _ _ waits
    cases waits

theorem Timely.valid_next (timely : lobby.Timely) (beat : Beat T K V H) :
    (lobby.next beat).cache.store.Valid := by
  cases beat with
  | elapses duration =>
      rw [next, Cache.advance]
      split
      · exact timely.valid
      · exact timely.valid
  | calls who entered => exact timely.valid
  | enters who entered => exact Cache.valid_enter timely.valid entered
  | plans now => exact timely.valid.of_same rfl rfl
  | hears => exact timely.valid
  | sweeps now => exact timely.valid.sweep lobby.cache.handlers.check now

/-- The clock never goes back. -/
theorem Timely.clock_le (timely : lobby.Timely) (allowed : lobby.Allows beat) :
    lobby.cache.clock.instant ≤ (lobby.next beat).cache.clock.instant := by
  have same {clock : Clock} (kept : clock = lobby.cache.clock) :
      lobby.cache.clock.instant ≤ clock.instant := by
    rw [kept, Instant.le_iff]
  cases beat with
  | elapses duration =>
      rw [next, Cache.advance]
      split
      · rename_i advanced
        exact Clock.instant_le_advance advanced
      · exact same rfl
  | enters who entered => exact same (Cache.clock_enter (timely.still who entered allowed))
  | _ => exact same rfl

theorem Timely.next (timely : lobby.Timely) (allowed : lobby.Allows beat) :
    (lobby.next beat).Timely := by
  have later := timely.clock_le allowed
  exact {
    valid := timely.valid_next beat
    still := by
      intro who entered waits
      rcases waiting_cases allowed waits with waited | ⟨still, -⟩
      · exact timely.still who entered waited
      · exact still
    past := by
      intro who entered now waits brings
      rcases waiting_cases allowed waits with waited | ⟨-, reading⟩
      · have shown := timely.past who entered now waited brings
        rw [Instant.le_iff] at later shown ⊢
        omega
      · rw [← Clock.instant_of_now (reading now brings)]
        exact later }

theorem Timely.runs {beats : List (Beat T K V H)} (runs : Runs before beats after)
    (timely : before.Timely) : after.Timely := by
  induction runs with
  | nil lobby => exact timely
  | cons allowed rest ih => exact ih (timely.next allowed)

/--
A value is stored until an instant, and no reading that could cut its lifetime
short waits for its key.
-/
structure Shelters (lobby : Lobby T K V H) (key : K) (value : V) (length : Duration)
    (floor last : Instant) : Prop where
  timely : lobby.Timely
  keeps : (lobby.cache.dossier key).Keeps value length last
  shown : floor ≤ lobby.cache.clock.instant
  fresh : ∀ who entered now, lobby.waiting who = some entered → entered.renews key = true →
    entered.reading? = some now → floor ≤ now

theorem Shelters.next (shelters : lobby.Shelters key value length floor last)
    (positive : length ≠ .zero) (ends : floor.add? length = some last)
    (allowed : lobby.Allows beat) (lasting : beat.ends key = false)
    (inTime : ∀ now, beat = .sweeps now → now ≤ last) :
    (lobby.next beat).Shelters key value length floor last := by
  have valid := shelters.timely.valid
  have later := shelters.timely.clock_le allowed
  have shown := shelters.shown
  rw [Instant.le_iff] at later shown
  exact {
    timely := shelters.timely.next allowed
    keeps := by
      cases beat with
      | elapses duration =>
          rw [Lobby.next, Cache.advance]
          split
          · exact shelters.keeps
          · exact shelters.keeps
      | enters who entered =>
          rw [Lobby.next, Cache.dossier_enter valid]
          apply shelters.keeps.enter positive ends lasting
          intro renews now
          exact shelters.fresh who entered now allowed renews
      | sweeps now => exact Cache.keeps_sweepAt valid shelters.keeps (inTime now rfl)
      | _ => exact shelters.keeps
    shown := by
      rw [Instant.le_iff]
      omega
    fresh := by
      intro who entered now waits renews brings
      rcases waiting_cases allowed waits with waited | ⟨-, reading⟩
      · exact shelters.fresh who entered now waited renews brings
      · rw [← Clock.instant_of_now (reading now brings)]
        exact shelters.shown }

theorem Shelters.runs {beats : List (Beat T K V H)} (runs : Runs before beats after)
    (shelters : before.Shelters key value length floor last) (positive : length ≠ .zero)
    (ends : floor.add? length = some last) (lasting : ∀ beat ∈ beats, beat.ends key = false)
    (inTime : ∀ now, .sweeps now ∈ beats → now ≤ last) :
    after.Shelters key value length floor last := by
  induction runs with
  | nil lobby => exact shelters
  | cons allowed rest ih =>
      obtain ⟨first, others⟩ := List.forall_mem_cons.mp lasting
      apply ih _ others
      · intro now listed
        exact inTime now (List.mem_cons_of_mem _ listed)
      · apply shelters.next positive ends allowed first
        rintro now rfl
        exact inTime now List.mem_cons_self

/--
What a write asks for counts from the oldest reading.  Let a write of a positive
lifetime get the lock on an open cache, and let no read or touch of its key wait
for the lock with a reading before `floor`, which is not after the reading of
the write.  As long as the key is not written again, removed, purged or closed
and no pass runs after the lifetime counted from `floor`, every read with a
reading within that lifetime finds the value, whoever reads or touches the key
in between and with whatever readings.
-/
theorem lasts_from_oldest_reading (clock : Clock) (sharedLifetime : Option Duration)
    (skipRenewal : Bool) (handlers : Handlers K V H) {early late : List (Beat T K V H)}
    {before asked : Lobby T K V H} {setter : T}
    (began : Runs { cache := .create clock sharedLifetime skipRenewal handlers } early before)
    (opened : before.cache.store.closed = false) (positive : length ≠ .zero)
    (older : floor ≤ start) (ends : floor.add? length = some last)
    (oldest : ∀ who entered now, before.waiting who = some entered →
      entered.renews key = true → entered.reading? = some now → floor ≤ now)
    (runs : Runs before (.enters setter (.write key value (.lasting length) start) :: late) asked)
    (lasting : ∀ beat ∈ late, beat.ends key = false)
    (inTime : ∀ now, .sweeps now ∈ late → now ≤ last) {reading : Instant}
    (soon : reading ≤ last) :
    (asked.cache.readAt key reading).2.map Prod.fst = some value := by
  have timely : before.Timely := .runs began (.create clock sharedLifetime skipRenewal handlers)
  cases runs with
  | cons allowed runs =>
      have shown : floor ≤ before.cache.clock.instant := by
        have past := timely.past setter _ start allowed rfl
        rw [Instant.le_iff] at older past ⊢
        omega
      have stored : (before.next (.enters setter (.write key value (.lasting length)
          start))).Shelters key value length floor last := {
        timely := timely.next allowed
        keeps := by
          rw [Lobby.next, Cache.dossier_enter timely.valid, Dossier.enter, if_pos rfl]
          exact .of_write key opened positive ends older
        shown := by
          have later := timely.clock_le allowed
          rw [Instant.le_iff] at shown later ⊢
          omega
        fresh := by
          intro who entered now waits renews brings
          rcases waiting_cases allowed waits with waited | ⟨-, reading⟩
          · exact oldest who entered now waited renews brings
          · rw [← Clock.instant_of_now (reading now brings)]
            exact shown }
      have reached := stored.runs runs positive ends lasting inTime
      rw [Cache.readAt_snd reached.timely.valid]
      exact reached.keeps.lease soon

def follow (lobby : Lobby T K V H) (beats : List (Beat T K V H)) : Lobby T K V H :=
  beats.foldl next lobby

/-- A new cache that two clients, `true` and `false`, share. -/
def sharedLobby : Lobby Bool Nat Nat Unit := { cache := .create {} none false {} }

/-- One client reads the clock for a read at 8 s, the other for a write of 5 s at 10 s. -/
def slowReader : List (Beat Bool Nat Nat Unit) :=
  [.elapses (.ofSeconds 8), .calls true (.read 1 ⟨8000000000⟩), .elapses (.ofSeconds 2),
    .calls false (.write 1 20 (.lasting (.ofSeconds 5)) ⟨10000000000⟩)]

/-- The write gets the lock before the read.  The key is read again at 12 s. -/
def slowReaderOvertaken : List (Beat Bool Nat Nat Unit) :=
  [.enters false (.write 1 20 (.lasting (.ofSeconds 5)) ⟨10000000000⟩),
    .enters true (.read 1 ⟨8000000000⟩), .sweeps ⟨10000000000⟩, .elapses (.ofSeconds 2),
    .calls true (.read 1 ⟨12000000000⟩)]

/-- Counted from 8 s, the five seconds are not over at 12 s. -/
theorem slowReader_lasts :
    let before := sharedLobby.follow slowReader
    let asked := before.follow slowReaderOvertaken
    Runs sharedLobby slowReader before ∧ Runs before slowReaderOvertaken asked ∧
      asked.waiting true = some (.read 1 ⟨12000000000⟩) ∧
      (asked.cache.readAt 1 ⟨12000000000⟩).2.map Prod.fst = some 20 := by
  intro before asked
  have began : Runs sharedLobby slowReader before := by
    refine .cons trivial (.cons (allows_calls rfl rfl ?early)
      (.cons trivial (.cons (allows_calls rfl rfl ?late) (.nil _))))
    case early => decide +kernel
    case late => decide +kernel
  have runs : Runs before slowReaderOvertaken asked := by
    refine .cons rfl (.cons rfl (.cons ?pass
      (.cons trivial (.cons (allows_calls rfl rfl ?again) (.nil _)))))
    case pass =>
      change Clock.now _ = .ok _
      decide +kernel
    case again => decide +kernel
  have older : (⟨8000000000⟩ : Instant) ≤ ⟨10000000000⟩ := by decide
  have oldest : ∀ who entered now, before.waiting who = some entered →
      entered.renews 1 = true → entered.reading? = some now → (⟨8000000000⟩ : Instant) ≤ now := by
    rintro (_ | _) entered now waits renews brings
    · cases waits
      cases renews
    · cases waits
      cases brings
      decide
  have inTime : ∀ now, Beat.sweeps now ∈ slowReaderOvertaken.tail →
      now ≤ (⟨13000000000⟩ : Instant) := by
    intro now listed
    rcases listed with - | ⟨-, - | ⟨-, - | ⟨-, - | ⟨-, ⟨⟩⟩⟩⟩⟩
    decide
  refine ⟨began, runs, rfl, ?_⟩
  exact lasts_from_oldest_reading {} none false {} began (by decide +kernel) (by decide) older
    (by decide) oldest runs (by decide) inTime (by decide)

/-- The same clients, with a read that takes its reading at once. -/
def slowerReader : List (Beat Bool Nat Nat Unit) :=
  [.calls true (.read 1 ⟨0⟩), .elapses (.ofSeconds 10),
    .calls false (.write 1 20 (.lasting (.ofSeconds 5)) ⟨10000000000⟩)]

def slowerReaderOvertaken : List (Beat Bool Nat Nat Unit) :=
  [.enters false (.write 1 20 (.lasting (.ofSeconds 5)) ⟨10000000000⟩),
    .enters true (.read 1 ⟨0⟩), .elapses (.ofSeconds 2), .calls true (.read 1 ⟨12000000000⟩)]

/--
A read can shorten a life.  The write of 5 s at 10 s would last until 15 s, but
after a read from before the write the key cannot be read at 12 s.
-/
theorem slowerReader_shortens :
    let before := sharedLobby.follow slowerReader
    let asked := before.follow slowerReaderOvertaken
    Runs sharedLobby slowerReader before ∧ Runs before slowerReaderOvertaken asked ∧
      before.cache.store.closed = false ∧
      Instant.add? ⟨10000000000⟩ (.ofSeconds 5) = some ⟨15000000000⟩ ∧
      (∀ beat ∈ slowerReaderOvertaken.tail, beat.ends 1 = false) ∧
      (∀ now, .sweeps now ∉ slowerReaderOvertaken) ∧
      asked.waiting true = some (.read 1 ⟨12000000000⟩) ∧
      (asked.cache.readAt 1 ⟨12000000000⟩).2 = none := by
  intro before asked
  have began : Runs sharedLobby slowerReader before := by
    refine .cons (allows_calls rfl rfl ?early)
      (.cons trivial (.cons (allows_calls rfl rfl ?late) (.nil _)))
    case early => decide +kernel
    case late => decide +kernel
  have runs : Runs before slowerReaderOvertaken asked := by
    refine .cons rfl (.cons rfl (.cons trivial (.cons (allows_calls rfl rfl ?again) (.nil _))))
    case again => decide +kernel
  refine ⟨began, runs, by decide +kernel, by decide, by decide, ?_, rfl, by decide +kernel⟩
  intro now listed
  rcases listed with - | ⟨-, - | ⟨-, - | ⟨-, - | ⟨-, ⟨⟩⟩⟩⟩⟩

end Lobby

end ExpiringCache
