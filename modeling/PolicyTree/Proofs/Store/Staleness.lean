import PolicyTree.Proofs.Store.Accounting
/-
  A cache in front of a memory that is also written past it. The cache does not notice: a key that
  is looked up is answered as it was when it was last read from the memory, until a write through
  the cache or an invalidation drops it (`stale_until_dropped`).

  Nothing here is said of expiry. The lifetime is taken to outlast the run (`Outlasts`), so that
  an entry leaves the cache only by being dropped.

  The entry of a key is accounted for by the events alone: there is one exactly if the key was read
  and not dropped since (`LastRead`), and it has what the memory had then (`Accounts`). Each event
  keeps this (`Tracked.step`), whichever of the two ways it takes.
-/
namespace PolicyTree

/-! ## Events -/

/-- What happens to a cache and the memory behind it: the cache is asked for something, or the
memory is written or emptied past the cache. -/
inductive CacheEvent where
  | asked (request : CacheRequest)
  | written (key : PolicyKey) (policy : Policy)
  | emptied

namespace CacheEvent

/-- What an event does. Past the cache only the memory changes. -/
def perform (lifetime : Duration) (clock : Clock) : CacheEvent → Action (Cache Memory) CacheReply
  | asked request => request.onCache Memory.store lifetime clock
  | written key policy => .of fun cache =>
    (.ok (.saved policy), { cache with inner := cache.inner.put key policy })
  | emptied => .of fun cache => (.ok .done, { cache with inner := .empty })

/-- What an event does to the memory, whichever way it comes. -/
def onMemory (memory : Memory) : CacheEvent → Memory
  | asked (.save key policy) => memory.put key policy
  | written key policy => memory.put key policy
  | emptied => .empty
  | _ => memory

/-- The event is a look-up. -/
def isFind : CacheEvent → Bool
  | asked request => request.isFind
  | _ => false

/-- The event takes the key out of the cache: a write of it through the cache, or an invalidation
of it or of everything. -/
def Drops (key : PolicyKey) : CacheEvent → Prop
  | asked (.save other _) => other = key
  | asked (.invalidate other) => other = key
  | asked .invalidateAll => True
  | _ => False

/-- The event is a write of the key, on whichever way, or an invalidation of it. -/
def Concerns (key : PolicyKey) : CacheEvent → Prop
  | asked (.save other _) => other = key
  | asked (.invalidate other) => other = key
  | written other _ => other = key
  | _ => False

end CacheEvent

namespace Cache

variable {lifetime : Duration} {clock : Clock} {key : PolicyKey} {cache next : Cache Memory}
  {event : CacheEvent} {reply : Except Failure CacheReply}

/-! ## One event -/

/-- The memory behind a cache is changed by writes and emptied, and by nothing else. -/
theorem inner_perform (event : CacheEvent) (cache : Cache Memory) :
    ((event.perform lifetime clock).on cache).2.inner = event.onMemory cache.inner := by
  cases event with
  | written key policy => rfl
  | emptied => rfl
  | asked request =>
    have step : Step Memory.store lifetime clock cache request _ _ := step_onCache request
    rw [CacheEvent.perform]
    generalize (request.onCache Memory.store lifetime clock).on cache = result at step ⊢
    obtain ⟨reply, next⟩ := result
    cases step with
    | hit => rfl
    | failed forgotten loaded => cases loaded
    | passed forgotten loaded =>
      cases loaded
      rfl
    | undated forgotten loaded =>
      cases loaded
      rfl
    | filled forgotten loaded =>
      cases loaded
      rfl
    | refused loaded => cases loaded
    | saved loaded =>
      cases loaded
      exact inner_invalidate _ _
    | dropped => exact inner_invalidate _ _
    | cleared => rfl

theorem lookups_perform (event : CacheEvent) (cache : Cache Memory) :
    ((event.perform lifetime clock).on cache).2.lookups =
      cache.lookups + if event.isFind then 1 else 0 := by
  cases event with
  | written key policy => rfl
  | emptied => rfl
  | asked request =>
    have step : Step Memory.store lifetime clock cache request _ _ := step_onCache request
    exact step.lookups_eq

theorem dropped_or_kept (cache : Cache Memory) (own key : PolicyKey) :
    (own = key → (cache.invalidate own).entries.get? key = none) ∧
      (¬ own = key → (cache.invalidate own).entries.get? key = cache.entries.get? key) := by
  rw [get?_invalidate]
  exact ⟨fun same => if_pos same.symm, fun ne => if_neg (Ne.symm ne)⟩

variable (key) in
/-- An event that is no look-up leaves the entry of a key exactly as it is, unless it drops the
key. Writes and invalidations of other keys never touch it, whatever the keys are called. -/
theorem get?_perform_of_other (other : event.isFind = false) (cache : Cache Memory) :
    (event.Drops key → ((event.perform lifetime clock).on cache).2.entries.get? key = none) ∧
      (¬ event.Drops key → ((event.perform lifetime clock).on cache).2.entries.get? key =
        cache.entries.get? key) := by
  cases event with
  | written own policy => exact ⟨nofun, fun _ => rfl⟩
  | emptied => exact ⟨nofun, fun _ => rfl⟩
  | asked request =>
    cases request with
    | find own => cases other
    | save own policy =>
      exact dropped_or_kept { cache with
        inner := cache.inner.put own policy, generation := cache.generation + 1 } own key
    | invalidate own => exact dropped_or_kept cache own key
    | invalidateAll => exact ⟨fun _ => rfl, fun stays => absurd trivial stays⟩

theorem exists_entry_of_remembered {σ : Type} {cache : Cache σ} {now : Instant}
    {policy : Option Policy} (remembered : cache.remembered? key now = some policy) :
    ∃ entry, cache.entries.get? key = some entry ∧ entry.policy = policy := by
  unfold remembered? at remembered
  split at remembered
  · next entry held =>
    split at remembered
    · exact ⟨entry, held, Option.some.inj remembered⟩
    · cases remembered
  · cases remembered

/-- A look-up that nothing disturbs answers the entry of its key; or there is none, and it answers
what the memory has, and remembers that. -/
theorem Step.of_memory (step : Step Memory.store lifetime clock cache (.find key) reply next)
    (lasting : lifetime.isPositive = true)
    (calm : Undisturbed Memory.store lifetime clock cache key) :
    (∃ entry, cache.entries.get? key = some entry ∧ reply = .ok (.found entry.policy) ∧
        next.entries = cache.entries ∧ next.misses = cache.misses) ∨
      ∃ expires, cache.entries.get? key = none ∧ reply = .ok (.found (cache.inner.get? key)) ∧
        (clock cache.lookups).later? lifetime = some expires ∧
        next.entries = cache.entries.insert key ⟨cache.inner.get? key, expires⟩ ∧
        next.misses = cache.misses + 1 := by
  cases step with
  | hit remembered =>
    obtain ⟨entry, held, rfl⟩ := exists_entry_of_remembered remembered
    exact .inl ⟨entry, held, rfl, rfl, rfl⟩
  | failed forgotten loaded => cases loaded
  | passed forgotten loaded brief =>
    rw [lasting] at brief
    cases brief
  | undated forgotten loaded lasting late =>
    have dated := calm.dated
    rw [late] at dated
    cases dated
  | filled forgotten loaded lasting date =>
    cases loaded
    have there := calm.remembered_eq
    rw [forgotten] at there
    exact .inr ⟨_, Option.not_isSome_iff_eq_none.1 (Bool.eq_false_iff.1 there.symm), rfl, date, rfl,
      rfl⟩

/-! ## Runs of events -/

section runs

variable {memory : Memory} {before earlier : List CacheEvent}

variable (lifetime clock memory) in
/-- The cache that events leave of a new one. -/
def afterEvents (events : List CacheEvent) : Cache Memory :=
  (Action.replies (CacheEvent.perform lifetime clock) events (around memory)).2

variable (memory) in
/-- The memory that events leave. -/
def memoryAfter (events : List CacheEvent) : Memory := events.foldl CacheEvent.onMemory memory

variable (lifetime clock memory) in
/-- A look-up of the key that follows the events is handed on to the memory. -/
def ReachesMemory (before : List CacheEvent) (key : PolicyKey) : Prop :=
  (afterEvents lifetime clock memory (before ++ [.asked (.find key)])).misses =
    (afterEvents lifetime clock memory before).misses + 1

variable (lifetime clock memory) in
/-- The look-up of the key that followed `earlier` reached the memory; since then no other one did,
and nothing dropped the key. -/
def LastRead (before earlier : List CacheEvent) (key : PolicyKey) : Prop :=
  ∃ later, before = earlier ++ .asked (.find key) :: later ∧
    ReachesMemory lifetime clock memory earlier key ∧
    (∀ between rest, later = between ++ .asked (.find key) :: rest →
      ¬ ReachesMemory lifetime clock memory (earlier ++ .asked (.find key) :: between) key) ∧
    ∀ event ∈ later, ¬ event.Drops key

variable (lifetime clock) in
/-- An answer that is remembered at one of so many readings of the clock has not expired at that
one nor at any later one of them. -/
def Outlasts (readings : Nat) : Prop :=
  ∀ i j, i ≤ j → j < readings → ∃ expires, (clock i).later? lifetime = some expires ∧
    (clock j).isBefore expires = true

theorem afterEvents_concat (before : List CacheEvent) (event : CacheEvent) :
    afterEvents lifetime clock memory (before ++ [event]) =
      ((event.perform lifetime clock).on (afterEvents lifetime clock memory before)).2 := by
  unfold afterEvents
  rw [Action.replies_concat]

variable (lifetime clock memory) in
theorem inner_afterEvents (events : List CacheEvent) :
    (afterEvents lifetime clock memory events).inner = memoryAfter memory events := by
  induction events using List.reverseRecOn with
  | nil => rfl
  | append_singleton before event ih =>
    rw [afterEvents_concat, inner_perform, ih, memoryAfter, memoryAfter, List.foldl_concat]

variable (lifetime clock memory) in
theorem lookups_afterEvents (events : List CacheEvent) :
    (afterEvents lifetime clock memory events).lookups = events.countP CacheEvent.isFind := by
  induction events using List.reverseRecOn with
  | nil => rfl
  | append_singleton before event ih =>
    rw [afterEvents_concat, lookups_perform, ih, List.countP_append, List.countP_singleton]

theorem not_lastRead_nil : ¬ LastRead lifetime clock memory [] earlier key := by
  rintro ⟨later, split, -⟩
  exact List.append_ne_nil_of_right_ne_nil earlier (List.cons_ne_nil _ later) split.symm

/-- An event that reads the key takes the place of what was read last, and one that drops it leaves
nothing of it. -/
theorem lastRead_concat_iff : LastRead lifetime clock memory (before ++ [event]) earlier key ↔
    (event = .asked (.find key) ∧ ReachesMemory lifetime clock memory before key) ∧
        earlier = before ∨
      ¬ (event = .asked (.find key) ∧ ReachesMemory lifetime clock memory before key) ∧
        LastRead lifetime clock memory before earlier key ∧ ¬ event.Drops key := by
  constructor
  · rintro ⟨later, split, reached, latest, kept⟩
    rcases concat_eq_append_cons_iff.1 split with ⟨-, rfl, rfl⟩ | ⟨later, rfl, front⟩
    · exact .inl ⟨⟨rfl, reached⟩, rfl⟩
    · refine .inr ⟨?_, ⟨later, front, reached, ?_, ?_⟩, kept event (by simp)⟩
      · rintro ⟨rfl, again⟩
        rw [front] at again
        exact latest later [] rfl again
      · rintro between rest rfl
        exact latest between (rest ++ [event]) (by simp)
      · exact fun own mem => kept own (List.mem_append_left _ mem)
  · rintro (⟨⟨rfl, reached⟩, rfl⟩ | ⟨no_read, ⟨later, rfl, reached, latest, kept⟩, stays⟩)
    · refine ⟨[], rfl, reached, ?_, nofun⟩
      intro between rest split
      exact absurd split.symm (List.append_ne_nil_of_right_ne_nil between (List.cons_ne_nil _ rest))
    · refine ⟨later ++ [event], by simp, reached, ?_, ?_⟩
      · intro between rest split
        rcases concat_eq_append_cons_iff.1 split with ⟨-, rfl, rfl⟩ | ⟨rest, -, front⟩
        · exact fun again => no_read ⟨rfl, again⟩
        · exact latest between rest front
      · intro own mem
        rcases List.mem_append.1 mem with mem | mem
        · exact kept own mem
        · rw [List.mem_singleton.1 mem]
          exact stays

/-! ## What the entries are -/

variable (lifetime clock memory) in
/-- Without an entry the key was never read, or was dropped since. An entry has what the memory had
when the key was read last, and a date counted from an earlier reading of the clock. -/
def Accounts (before : List CacheEvent) (key : PolicyKey) : Option CacheEntry → Prop
  | none => ∀ earlier, ¬ LastRead lifetime clock memory before earlier key
  | some entry => (∃ earlier, LastRead lifetime clock memory before earlier key) ∧
    (∀ earlier, LastRead lifetime clock memory before earlier key →
      entry.policy = (memoryAfter memory earlier).get? key) ∧
    ∃ reading < before.countP CacheEvent.isFind,
      (clock reading).later? lifetime = some entry.expires

variable (lifetime clock memory) in
/-- Every entry that events leave, and every lack of one, is accounted for. -/
def Tracked (before : List CacheEvent) : Prop :=
  ∀ key, Accounts lifetime clock memory before key
    ((afterEvents lifetime clock memory before).entries.get? key)

variable (lifetime clock memory) in
/-- What a look-up of the key that follows the events is answered with. -/
def answerAfter (before : List CacheEvent) (key : PolicyKey) : Except Failure CacheReply :=
  (((CacheEvent.asked (.find key)).perform lifetime clock).on
    (afterEvents lifetime clock memory before)).1

/-- An event that neither reads nor drops the key leaves its entry accounted for. -/
theorem Accounts.concat {entry : Option CacheEntry}
    (accounts : Accounts lifetime clock memory before key entry)
    (no_read : ¬ (event = .asked (.find key) ∧ ReachesMemory lifetime clock memory before key))
    (stays : ¬ event.Drops key) : Accounts lifetime clock memory (before ++ [event]) key entry := by
  have same (earlier : List CacheEvent) :
      LastRead lifetime clock memory (before ++ [event]) earlier key ↔
        LastRead lifetime clock memory before earlier key := by
    rw [lastRead_concat_iff]
    exact ⟨fun read => (read.resolve_left fun reads => no_read reads.1).2.1,
      fun read => .inr ⟨no_read, read, stays⟩⟩
  cases entry with
  | none => exact fun earlier read => accounts earlier ((same earlier).1 read)
  | some entry =>
    obtain ⟨⟨earlier, read⟩, value, reading, less, date⟩ := accounts
    refine ⟨⟨earlier, (same earlier).2 read⟩, fun earlier read => ?_, reading, ?_, date⟩
    · exact value earlier ((same earlier).1 read)
    · rw [List.countP_append]
      omega

theorem Outlasts.isPositive {readings : Nat} (outlasts : Outlasts lifetime clock (readings + 1)) :
    lifetime.isPositive = true := by
  obtain ⟨expires, date, fresh⟩ := outlasts 0 0 (Nat.le_refl 0) (Nat.succ_pos readings)
  unfold Instant.later? at date
  split at date
  · cases date
    have behind : (clock 0).nanoseconds < (clock 0).nanoseconds + lifetime.nanoseconds :=
      of_decide_eq_true fresh
    refine decide_eq_true ?_
    omega
  · cases date

/-- Where the lifetime outlasts the run, nothing disturbs a look-up. -/
theorem Tracked.undisturbed (tracked : Tracked lifetime clock memory before)
    (outlasts : Outlasts lifetime clock (before.countP CacheEvent.isFind + 1)) :
    Undisturbed Memory.store lifetime clock (afterEvents lifetime clock memory before) key where
  fresh entry held := by
    have accounts := tracked key
    rw [held] at accounts
    obtain ⟨-, -, reading, less, date⟩ := accounts
    obtain ⟨expires, date', fresh⟩ :=
      outlasts reading _ (Nat.le_of_lt less) (Nat.lt_succ_self _)
    rw [date] at date'
    cases date'
    rw [lookups_afterEvents]
    exact fresh
  answered _ := ⟨_, _, rfl⟩
  dated := by
    obtain ⟨expires, date, -⟩ := outlasts _ _ (Nat.le_refl _) (Nat.lt_succ_self _)
    rw [lookups_afterEvents, date]
    rfl

/-- A look-up is answered by the entry of its key, or reaches the memory and brings in an entry. -/
theorem Tracked.find (tracked : Tracked lifetime clock memory before)
    (outlasts : Outlasts lifetime clock (before.countP CacheEvent.isFind + 1)) (key : PolicyKey) :
    (∃ entry, (afterEvents lifetime clock memory before).entries.get? key = some entry ∧
        ¬ ReachesMemory lifetime clock memory before key ∧
        answerAfter lifetime clock memory before key = .ok (.found entry.policy) ∧
        (afterEvents lifetime clock memory (before ++ [.asked (.find key)])).entries =
          (afterEvents lifetime clock memory before).entries) ∨
      ∃ expires, (afterEvents lifetime clock memory before).entries.get? key = none ∧
        ReachesMemory lifetime clock memory before key ∧
        answerAfter lifetime clock memory before key =
          .ok (.found ((memoryAfter memory before).get? key)) ∧
        (clock (before.countP CacheEvent.isFind)).later? lifetime = some expires ∧
        (afterEvents lifetime clock memory (before ++ [.asked (.find key)])).entries =
          (afterEvents lifetime clock memory before).entries.insert key
            ⟨(memoryAfter memory before).get? key, expires⟩ := by
  have step : Step Memory.store lifetime clock (afterEvents lifetime clock memory before)
      (.find key) (answerAfter lifetime clock memory before key)
      (afterEvents lifetime clock memory (before ++ [.asked (.find key)])) := by
    rw [afterEvents_concat]
    exact step_onCache _
  rw [← inner_afterEvents lifetime clock memory, ← lookups_afterEvents lifetime clock memory]
  unfold ReachesMemory
  rcases step.of_memory outlasts.isPositive (tracked.undisturbed outlasts) with
    ⟨entry, held, answer, same, misses⟩ | ⟨expires, absent, answer, date, same, misses⟩
  · exact .inl ⟨entry, held, by omega, answer, same⟩
  · exact .inr ⟨expires, absent, misses, answer, date, same⟩

theorem tracked_nil : Tracked lifetime clock memory [] := fun _ _ => not_lastRead_nil

/-- What is no look-up of the key leaves it accounted for, as what was read before or as dropped. -/
theorem Tracked.of_not_find (tracked : Tracked lifetime clock memory before)
    (other : event.isFind = false) : Tracked lifetime clock memory (before ++ [event]) := by
  intro key
  have no_read :
      ¬ (event = .asked (.find key) ∧ ReachesMemory lifetime clock memory before key) := by
    rintro ⟨rfl, -⟩
    cases other
  obtain ⟨dropped, stays⟩ := get?_perform_of_other key other
    (afterEvents lifetime clock memory before)
  rw [afterEvents_concat]
  by_cases drops : event.Drops key
  · rw [dropped drops]
    intro earlier read
    rcases lastRead_concat_iff.1 read with ⟨reads, -⟩ | ⟨-, -, kept⟩
    · exact no_read reads
    · exact kept drops
  · rw [stays drops]
    exact (tracked key).concat no_read drops

/-- A look-up leaves every other key accounted for as it was, and so its own if it does not reach
the memory. If it does, it is itself what was read last. -/
theorem Tracked.of_find (tracked : Tracked lifetime clock memory before) {own : PolicyKey}
    (outlasts : Outlasts lifetime clock (before.countP CacheEvent.isFind + 1)) :
    Tracked lifetime clock memory (before ++ [.asked (.find own)]) := by
  intro key
  have unread (no_read : ¬ (own = key ∧ ReachesMemory lifetime clock memory before key)) :
      Accounts lifetime clock memory (before ++ [.asked (.find own)]) key
        ((afterEvents lifetime clock memory before).entries.get? key) := by
    refine (tracked key).concat ?_ id
    rwa [CacheEvent.asked.injEq, CacheRequest.find.injEq]
  rcases tracked.find outlasts own with
    ⟨entry, -, kept, -, same⟩ | ⟨expires, -, reached, -, date, same⟩
  · rw [same]
    refine unread ?_
    rintro ⟨rfl, reached⟩
    exact kept reached
  · rw [same, OrderedMap.get?_insert]
    split
    · next found =>
      subst found
      refine ⟨⟨before, lastRead_concat_iff.2 (.inl ⟨⟨rfl, reached⟩, rfl⟩)⟩, fun earlier read => ?_,
        before.countP CacheEvent.isFind, ?_, date⟩
      · rcases lastRead_concat_iff.1 read with ⟨-, rfl⟩ | ⟨no_read, -⟩
        · rfl
        · exact absurd ⟨rfl, reached⟩ no_read
      · rw [List.countP_append]
        exact Nat.lt_succ_self _
    · next other => exact unread fun reads => other reads.1.symm

/-- Every event keeps the entries accounted for. -/
theorem Tracked.step (tracked : Tracked lifetime clock memory before)
    (outlasts : Outlasts lifetime clock ((before ++ [event]).countP CacheEvent.isFind)) :
    Tracked lifetime clock memory (before ++ [event]) := by
  rw [List.countP_append, List.countP_singleton] at outlasts
  by_cases look : event.isFind = true
  · rw [if_pos look] at outlasts
    cases event with
    | asked request =>
      cases request with
      | find own => exact tracked.of_find outlasts
      | _ => cases look
    | _ => cases look
  · exact tracked.of_not_find (Bool.eq_false_iff.2 look)

theorem Outlasts.of_le {readings fewer : Nat} (outlasts : Outlasts lifetime clock readings)
    (le : fewer ≤ readings) : Outlasts lifetime clock fewer :=
  fun i j le' less => outlasts i j le' (Nat.lt_of_lt_of_le less le)

theorem tracked_of_outlasts {events : List CacheEvent}
    (outlasts : Outlasts lifetime clock (events.countP CacheEvent.isFind)) :
    Tracked lifetime clock memory events := by
  induction events using List.reverseRecOn with
  | nil => exact tracked_nil
  | append_singleton before event ih =>
    have less : before.countP CacheEvent.isFind ≤ (before ++ [event]).countP CacheEvent.isFind := by
      rw [List.countP_append]
      exact Nat.le_add_right _ _
    exact (ih (outlasts.of_le less)).step outlasts

/-- Every look-up of a run finds the entries accounted for, and time left. -/
theorem tracked_of_split {events behind : List CacheEvent}
    (outlasts : Outlasts lifetime clock (events.countP CacheEvent.isFind))
    (split : events = before ++ .asked (.find key) :: behind) :
    Tracked lifetime clock memory before ∧
      Outlasts lifetime clock (before.countP CacheEvent.isFind + 1) := by
  have less : before.countP CacheEvent.isFind + 1 ≤ events.countP CacheEvent.isFind := by
    rw [split, List.countP_append, List.countP_cons_of_pos rfl]
    omega
  have fewer : before.countP CacheEvent.isFind ≤ events.countP CacheEvent.isFind := by omega
  exact ⟨tracked_of_outlasts (outlasts.of_le fewer), outlasts.of_le less⟩

/-! ## What a run answers -/

variable (lifetime clock memory) in
/-- What a cache answers over a run in which the memory behind it is changed past it as well. -/
structure Conceals (events : List CacheEvent) : Prop where
  hidden : ∀ before key behind earlier, events = before ++ .asked (.find key) :: behind →
    LastRead lifetime clock memory before earlier key →
      (Action.replies (CacheEvent.perform lifetime clock) events
        (around memory)).1[before.length]? =
          some (.ok (.found ((memoryAfter memory earlier).get? key)))
  current : ∀ before key behind, events = before ++ .asked (.find key) :: behind →
    (∀ earlier, ¬ LastRead lifetime clock memory before earlier key) →
      (Action.replies (CacheEvent.perform lifetime clock) events
        (around memory)).1[before.length]? =
          some (.ok (.found ((memoryAfter memory before).get? key)))
  reached : ∀ before key behind, events = before ++ .asked (.find key) :: behind →
    (ReachesMemory lifetime clock memory before key ↔
      ∀ earlier, ¬ LastRead lifetime clock memory before earlier key)
  behind : (afterEvents lifetime clock memory events).inner = memoryAfter memory events
  apart : ∀ (cache : Cache Memory) key own (event : CacheEvent), event.Concerns own → key ≠ own →
    ((event.perform lifetime clock).on cache).2.entries.get? key = cache.entries.get? key
  keyspaces : ∀ text, PolicyKey.type text ≠ .resource text

/-- A look-up is answered with what was read last and not dropped since. If there is no such, it
reaches the memory. -/
theorem Tracked.answer (tracked : Tracked lifetime clock memory before)
    (outlasts : Outlasts lifetime clock (before.countP CacheEvent.isFind + 1)) (key : PolicyKey) :
    ((∃ earlier, LastRead lifetime clock memory before earlier key) ∧
        ¬ ReachesMemory lifetime clock memory before key ∧
        ∀ earlier, LastRead lifetime clock memory before earlier key →
          answerAfter lifetime clock memory before key =
            .ok (.found ((memoryAfter memory earlier).get? key))) ∨
      (∀ earlier, ¬ LastRead lifetime clock memory before earlier key) ∧
        ReachesMemory lifetime clock memory before key ∧
        answerAfter lifetime clock memory before key =
          .ok (.found ((memoryAfter memory before).get? key)) := by
  have accounts := tracked key
  rcases tracked.find outlasts key with
    ⟨entry, held, kept, answer, -⟩ | ⟨expires, absent, reached, answer, -⟩
  · rw [held] at accounts
    obtain ⟨read, value, -⟩ := accounts
    refine .inl ⟨read, kept, fun earlier read => ?_⟩
    rw [answer, value earlier read]
  · rw [absent] at accounts
    exact .inr ⟨accounts, reached, answer⟩

theorem get?_perform_of_concerns {own : PolicyKey} (concerns : event.Concerns own) (ne : key ≠ own)
    (cache : Cache Memory) :
    ((event.perform lifetime clock).on cache).2.entries.get? key = cache.entries.get? key := by
  have other : event.isFind = false := by
    cases event with
    | asked request =>
      cases request with
      | find => exact concerns.elim
      | _ => rfl
    | _ => rfl
  have stays : ¬ event.Drops key := by
    cases event with
    | asked request =>
      cases request with
      | find => exact id
      | invalidateAll => exact concerns.elim
      | _ => exact fun drops => ne (drops.symm.trans concerns)
    | _ => exact id
  exact (get?_perform_of_other key other cache).2 stays

/-- A look-up answers what the memory had when the key was last read from it, until the key is
dropped; then it answers what the memory has. -/
theorem stale_until_dropped {events : List CacheEvent}
    (outlasts : Outlasts lifetime clock (events.countP CacheEvent.isFind)) :
    Conceals lifetime clock memory events := by
  have answers (before : List CacheEvent) (key : PolicyKey) (behind : List CacheEvent)
      (split : events = before ++ .asked (.find key) :: behind) :
      (Action.replies (CacheEvent.perform lifetime clock) events
        (around memory)).1[before.length]? =
          some (answerAfter lifetime clock memory before key) := by
    rw [split]
    exact Action.getElem?_replies _ before _ behind _
  constructor
  · intro before key behind earlier split read
    obtain ⟨tracked, lasting⟩ := tracked_of_split outlasts split
    rw [answers before key behind split]
    rcases tracked.answer lasting key with ⟨-, -, answer⟩ | ⟨unread, -⟩
    · rw [answer earlier read]
    · exact absurd read (unread earlier)
  · intro before key behind split unread
    obtain ⟨tracked, lasting⟩ := tracked_of_split outlasts split
    rw [answers before key behind split]
    rcases tracked.answer lasting key with ⟨⟨earlier, read⟩, -⟩ | ⟨-, -, answer⟩
    · exact absurd read (unread earlier)
    · rw [answer]
  · intro before key behind split
    obtain ⟨tracked, lasting⟩ := tracked_of_split outlasts split
    rcases tracked.answer lasting key with ⟨⟨earlier, read⟩, kept, -⟩ | ⟨unread, reached, -⟩
    · exact iff_of_false kept fun unread => unread earlier read
    · exact iff_of_true reached unread
  · exact inner_afterEvents lifetime clock memory events
  · intro cache key own event concerns ne
    exact get?_perform_of_concerns concerns ne cache
  · exact fun text same => PolicyKey.noConfusion same

end runs

namespace Sample

/-- A clock that shows a second more at each reading. -/
def ticking : Clock := fun n => ⟨n * 1000000000⟩

def first : Policy := .ofOwner (.named "u")

def second : Policy := .ofOwner (.named "v")

/-- A resource is read, written and emptied behind the cache, while a type of the same name is
dropped; in the end the resource is dropped as well. -/
def events : List CacheEvent :=
  [.written (.resource "a") first, .asked (.find (.resource "a")),
    .written (.resource "a") second, .asked (.find (.resource "a")),
    .asked (.invalidate (.type "a")), .emptied, .asked (.find (.resource "a")),
    .asked (.invalidate (.resource "a")), .asked (.find (.resource "a"))]

/-- What the events end with, behind a memory that is empty in the beginning. -/
def replies : List (Except Failure CacheReply) :=
  (Action.replies (CacheEvent.perform (.ofSeconds 300) ticking) events (around .empty)).1

end Sample

open Sample in
/-- The first policy is answered until the resource is dropped, although it was replaced, and then
everything taken away. -/
theorem stale_until_dropped_resource :
    Outlasts (.ofSeconds 300) ticking (events.countP CacheEvent.isFind) ∧
      Conceals (.ofSeconds 300) ticking .empty events ∧
      replies[3]? = some (.ok (.found (some first))) ∧
      replies[6]? = some (.ok (.found (some first))) ∧
      replies[8]? = some (.ok (.found none)) := by
  have outlasts : Outlasts (.ofSeconds 300) ticking (events.countP CacheEvent.isFind) := by
    intro i j le less
    have few : j < 4 := less
    have dated : (ticking i).nanoseconds + (Duration.ofSeconds 300).nanoseconds ≤
        Instant.latest.nanoseconds := by
      show (i : Int) * 1000000000 + 300 * 1000000000 ≤ 253402300799999999999
      omega
    refine ⟨_, if_pos dated, decide_eq_true ?_⟩
    show (j : Int) * 1000000000 < i * 1000000000 + 300 * 1000000000
    omega
  exact ⟨outlasts, stale_until_dropped outlasts, rfl, rfl, rfl⟩

end Cache

end PolicyTree
