import Mathlib.Data.Finset.Card
import PolicyTree.Proofs.Store.Forwarding
/-
  What the counters of a cache add up to. Every look-up is a hit or a miss, and every miss is one
  look-up in the store behind. An entry takes a miss to come in, and leaves by being dropped,
  which is counted; so the entries and the invalidations together never exceed the misses
  (`Step.held_le`). They may fall short of them: a load may fail, and the refill of an expired
  entry is a miss that brings in nothing new. Where neither happens, nothing is lost
  (`Step.held_eq`), and a key is held exactly if nothing has dropped it since it was last looked
  up (`Step.contains_iff`).

  The laws hold of every run from a new cache (`counters_conserved`), by induction on the requests
  from the last one.
-/
namespace PolicyTree

/-- The request is a look-up. -/
def CacheRequest.isFind : CacheRequest → Bool
  | .find _ => true
  | _ => false

namespace Cache

variable {σ : Type} {store : Store σ} {lifetime : Duration} {clock : Clock} {key : PolicyKey}
  {cache next : Cache σ} {request : CacheRequest} {reply : Except Failure CacheReply}

/-! ## The counters and one request -/

/-- The number of entries that came in and are there still or were dropped. -/
def held (cache : Cache σ) : Nat := cache.entries.size + cache.invalidations

theorem held_invalidate (cache : Cache σ) (key : PolicyKey) :
    (cache.invalidate key).held = cache.held := by
  unfold invalidate
  split
  · next contained =>
    have shrunk := OrderedMap.size_erase contained
    unfold held
    dsimp only
    omega
  · rfl

theorem counters_invalidate (cache : Cache σ) (key : PolicyKey) :
    (cache.invalidate key).hits = cache.hits ∧ (cache.invalidate key).misses = cache.misses := by
  unfold invalidate
  split <;> exact ⟨rfl, rfl⟩

theorem held_invalidateAll (cache : Cache σ) : cache.invalidateAll.held = cache.held := by
  have none : cache.invalidateAll.entries.size = 0 := rfl
  have dropped : cache.invalidateAll.invalidations = cache.invalidations + cache.entries.size := rfl
  unfold held
  omega

/-- Requests other than look-ups count neither hits nor misses, and what they take from the entries
they add to the invalidations. -/
theorem Step.counters_of_other (step : Step store lifetime clock cache request reply next)
    (other : request.isFind = false) :
    next.held = cache.held ∧ next.hits = cache.hits ∧ next.misses = cache.misses := by
  cases step with
  | refused loaded => exact ⟨rfl, rfl, rfl⟩
  | saved loaded => exact ⟨held_invalidate _ _, counters_invalidate _ _⟩
  | dropped => exact ⟨held_invalidate _ _, counters_invalidate _ _⟩
  | cleared => exact ⟨held_invalidateAll cache, rfl, rfl⟩
  | _ => cases other

/-- A look-up is a hit and brings in nothing, or it is a miss and brings in an entry at most. -/
theorem Step.counters_of_find (step : Step store lifetime clock cache (.find key) reply next) :
    next.hits = cache.hits + 1 ∧ next.misses = cache.misses ∧ next.held = cache.held ∨
      next.hits = cache.hits ∧ next.misses = cache.misses + 1 ∧
        next.held ≤ cache.held + 1 := by
  cases step with
  | hit remembered => exact .inl ⟨rfl, rfl, rfl⟩
  | @filled key policy inner expires forgotten loaded lasting date =>
    have grown := OrderedMap.size_insert cache.entries key ⟨policy, expires⟩
    refine .inr ⟨rfl, rfl, ?_⟩
    unfold held missed
    dsimp only
    split at grown <;> omega
  | _ => exact .inr ⟨rfl, rfl, Nat.le_succ _⟩

/-- Whatever comes in is paid for by a miss. -/
theorem Step.held_le (step : Step store lifetime clock cache request reply next) :
    next.held + cache.misses ≤ cache.held + next.misses := by
  cases request with
  | find key =>
    have counted := step.counters_of_find
    omega
  | _ =>
    have same := step.counters_of_other rfl
    omega

/-- A look-up is counted once, as a hit or as a miss, and nothing else is. -/
theorem Step.lookups_eq (step : Step store lifetime clock cache request reply next) :
    next.lookups = cache.lookups + if request.isFind then 1 else 0 := by
  unfold lookups
  cases request with
  | find key =>
    have counted := step.counters_of_find
    rw [CacheRequest.isFind, if_pos rfl]
    omega
  | _ =>
    obtain ⟨-, hits, misses⟩ := step.counters_of_other rfl
    rw [hits, misses]
    rfl

/-! ## Undisturbed look-ups -/

variable (store lifetime clock) in
/-- A look-up finds no expired entry, the store behind answers it if it is handed on, and the
answer can be dated. -/
structure Undisturbed (cache : Cache σ) (key : PolicyKey) : Prop where
  fresh : ∀ entry, cache.entries.get? key = some entry →
    (clock cache.lookups).isBefore entry.expires = true
  answered : cache.remembered? key (clock cache.lookups) = none →
    ∃ policy inner, (store.find key).on cache.inner = (.ok policy, inner)
  dated : ((clock cache.lookups).later? lifetime).isSome = true

/-- Where no entry has expired, a key is remembered if it is there. -/
theorem Undisturbed.remembered_eq (calm : Undisturbed store lifetime clock cache key) :
    (cache.remembered? key (clock cache.lookups)).isSome = cache.entries.contains key := by
  unfold remembered? OrderedMap.contains
  cases there : cache.entries.get? key with
  | none => rfl
  | some entry =>
    dsimp only
    rw [calm.fresh entry there, if_pos rfl]
    rfl

/-- An undisturbed look-up is a hit if the key is there, and else a miss that brings it in. -/
theorem Step.of_undisturbed (step : Step store lifetime clock cache (.find key) reply next)
    (lasting : lifetime.isPositive = true)
    (calm : Undisturbed store lifetime clock cache key) :
    cache.entries.contains key = true ∧ next.entries = cache.entries ∧
        next.hits = cache.hits + 1 ∧ next.misses = cache.misses ∧ next.held = cache.held ∨
      cache.entries.contains key = false ∧
        (∃ entry, next.entries = cache.entries.insert key entry) ∧
        next.hits = cache.hits ∧ next.misses = cache.misses + 1 ∧ next.held = cache.held + 1 := by
  have there := calm.remembered_eq
  cases step with
  | hit remembered =>
    rw [remembered] at there
    exact .inl ⟨there.symm, rfl, rfl, rfl, rfl⟩
  | failed forgotten loaded =>
    obtain ⟨policy, inner, answered⟩ := calm.answered forgotten
    rw [answered] at loaded
    cases loaded
  | passed forgotten loaded brief =>
    rw [lasting] at brief
    cases brief
  | undated forgotten loaded lasting late =>
    have dated := calm.dated
    rw [late] at dated
    cases dated
  | @filled key policy inner expires forgotten loaded lasting date =>
    rw [forgotten] at there
    have grown := OrderedMap.size_insert cache.entries key ⟨policy, expires⟩
    rw [← there] at grown
    refine .inr ⟨there.symm, ⟨_, rfl⟩, rfl, rfl, ?_⟩
    unfold held missed
    dsimp only
    simp only [Option.isSome_none, Bool.false_eq_true, if_false] at grown
    omega

/-- Undisturbed, every miss is there still or was dropped. -/
theorem Step.held_eq (step : Step store lifetime clock cache request reply next)
    (lasting : lifetime.isPositive = true)
    (calm : ∀ key, request = .find key → Undisturbed store lifetime clock cache key) :
    next.held + cache.misses = cache.held + next.misses := by
  cases request with
  | find key =>
    have counted := step.of_undisturbed lasting (calm key rfl)
    omega
  | _ =>
    have same := step.counters_of_other rfl
    omega

/-! ## What is retained -/

/-- The request, if it was answered so, takes the key out of the cache: a write of the key that
succeeded, or an invalidation of it or of everything. -/
def Drops (key : PolicyKey) : CacheRequest × Except Failure CacheReply → Prop
  | (.save other _, .ok _) => other = key
  | (.invalidate other, _) => other = key
  | (.invalidateAll, _) => True
  | _ => False

/-- The key was looked up, and since it was looked up last nothing has dropped it. -/
def Retained (key : PolicyKey) (history : List (CacheRequest × Except Failure CacheReply)) : Prop :=
  ∃ earlier reply later, history = earlier ++ (.find key, reply) :: later ∧
    ∀ step ∈ later, step.1 ≠ .find key ∧ ¬ Drops key step

theorem not_retained_nil : ¬ Retained key [] := by
  rintro ⟨earlier, reply, later, split, -⟩
  exact List.append_ne_nil_of_right_ne_nil earlier (List.cons_ne_nil _ later) split.symm

theorem retained_concat_iff {history : List (CacheRequest × Except Failure CacheReply)} :
    Retained key (history ++ [(request, reply)]) ↔
      request = .find key ∨ Retained key history ∧ ¬ Drops key (request, reply) := by
  constructor
  · rintro ⟨earlier, answer, later, split, kept⟩
    rcases concat_eq_append_cons_iff.1 split with ⟨-, -, same⟩ | ⟨later, rfl, front⟩
    · cases same
      exact .inl rfl
    · refine .inr ⟨⟨earlier, answer, later, front, fun step mem => kept step (by simp [mem])⟩, ?_⟩
      exact (kept (request, reply) (by simp)).2
  · by_cases again : request = .find key
    · intro _
      exact ⟨history, reply, [], by rw [again], nofun⟩
    · rintro (found | ⟨⟨earlier, answer, later, rfl, kept⟩, stays⟩)
      · exact absurd found again
      · refine ⟨earlier, answer, later ++ [(request, reply)], by simp, fun step mem => ?_⟩
        rcases List.mem_append.1 mem with mem | mem
        · exact kept step mem
        · rw [List.mem_singleton.1 mem]
          exact ⟨again, stays⟩

theorem contains_invalidate_iff {other : PolicyKey} :
    (cache.invalidate key).entries.contains other = true ↔
      cache.entries.contains other = true ∧ ¬ key = other := by
  unfold OrderedMap.contains
  rw [get?_invalidate]
  split
  · next eq => simp [eq]
  · next ne => simp [Ne.symm ne]

/-- Undisturbed, a key is there if it has just been looked up, or was there and is not dropped. -/
theorem Step.contains_iff (step : Step store lifetime clock cache request reply next)
    (lasting : lifetime.isPositive = true)
    (calm : ∀ own, request = .find own → Undisturbed store lifetime clock cache own) :
    next.entries.contains key = true ↔
      request = .find key ∨ cache.entries.contains key = true ∧ ¬ Drops key (request, reply) := by
  cases request with
  | find own =>
    have stays : ¬ Drops key (.find own, reply) := id
    rw [CacheRequest.find.injEq, and_iff_left stays]
    rcases step.of_undisturbed lasting (calm own rfl) with
      ⟨there, same, -⟩ | ⟨-, ⟨entry, same⟩, -⟩
    · rw [same]
      constructor
      · exact .inr
      · rintro (rfl | held)
        · exact there
        · exact held
    · rw [same, OrderedMap.contains_insert_iff, eq_comm]
  | save own policy =>
    rw [or_iff_right (nofun : ¬ CacheRequest.save own policy = .find key)]
    cases step with
    | refused loaded => exact (and_iff_left id).symm
    | saved loaded => exact contains_invalidate_iff
  | invalidate own =>
    rw [or_iff_right (nofun : ¬ CacheRequest.invalidate own = .find key)]
    cases step with
    | dropped => exact contains_invalidate_iff
  | invalidateAll =>
    rw [or_iff_right (nofun : ¬ CacheRequest.invalidateAll = .find key)]
    cases step with
    | cleared => exact iff_of_false nofun fun h => h.2 trivial

/-! ## Caches that remember nothing -/

/-- No hit was counted, and nothing came in. -/
def Idle (cache : Cache σ) : Prop := cache.hits = 0 ∧ cache.held = 0

theorem Idle.remembered? (idle : cache.Idle) (key : PolicyKey) (now : Instant) :
    cache.remembered? key now = none := by
  have none : cache.entries.size = 0 := Nat.eq_zero_of_add_eq_zero_right idle.2
  have absent : cache.entries.get? key = .none := by
    rw [OrderedMap.get?, List.eq_nil_of_length_eq_zero none]
    rfl
  unfold Cache.remembered?
  rw [absent]

/-- A cache whose lifetime is not positive stays idle. -/
theorem Step.idle (step : Step store lifetime clock cache request reply next)
    (brief : lifetime.isPositive = false) (idle : cache.Idle) : next.Idle := by
  cases request with
  | find key =>
    have nothing := idle.remembered? key (clock cache.lookups)
    cases step with
    | hit remembered =>
      rw [nothing] at remembered
      cases remembered
    | undated forgotten loaded lasting late =>
      rw [brief] at lasting
      cases lasting
    | filled forgotten loaded lasting date =>
      rw [brief] at lasting
      cases lasting
    | _ => exact idle
  | _ =>
    obtain ⟨held, hits, -⟩ := step.counters_of_other rfl
    exact ⟨hits.trans idle.1, held.trans idle.2⟩

/-! ## Look-ups in the store behind -/

/-- A look-up is a hit, and none is handed on, or a miss, and one of its key is. -/
def HandsOn (key : PolicyKey) (cache next : Cache (σ × List PolicyKey)) : Prop :=
  next.hits = cache.hits + 1 ∧ next.misses = cache.misses ∧ next.inner.2 = cache.inner.2 ∨
    next.hits = cache.hits ∧ next.misses = cache.misses + 1 ∧
      next.inner.2 = cache.inner.2 ++ [key]

section logged

variable {cache next : Cache (σ × List PolicyKey)}

theorem Step.handsOn (step : Step store.logged lifetime clock cache (.find key) reply next) :
    HandsOn key cache next := by
  cases step with
  | hit remembered => exact .inl ⟨rfl, rfl, rfl⟩
  | failed forgotten loaded => exact .inr ⟨rfl, rfl, Store.log_of_find loaded⟩
  | passed forgotten loaded brief => exact .inr ⟨rfl, rfl, Store.log_of_find loaded⟩
  | undated forgotten loaded lasting late => exact .inr ⟨rfl, rfl, Store.log_of_find loaded⟩
  | filled forgotten loaded lasting date => exact .inr ⟨rfl, rfl, Store.log_of_find loaded⟩

theorem Step.log_of_other (step : Step store.logged lifetime clock cache request reply next)
    (other : request.isFind = false) : next.inner.2 = cache.inner.2 := by
  cases step with
  | refused loaded => exact Store.log_of_save loaded
  | saved loaded =>
    rw [inner_invalidate]
    exact Store.log_of_save loaded
  | dropped => rw [inner_invalidate]
  | cleared => rfl
  | _ => cases other

/-- As many look-ups are handed on as misses are counted. -/
theorem Step.length_log (step : Step store.logged lifetime clock cache request reply next)
    (count : cache.inner.2.length = cache.misses) : next.inner.2.length = next.misses := by
  cases request with
  | find key =>
    rcases step.handsOn with ⟨-, misses, log⟩ | ⟨-, misses, log⟩
    · rw [log, misses, count]
    · rw [log, misses, List.length_append, count]
      rfl
  | _ =>
    obtain ⟨-, -, misses⟩ := step.counters_of_other rfl
    rw [step.log_of_other rfl, misses, count]

end logged

/-! ## Runs from a new cache -/

section runs

variable {inner : σ} {requests : List CacheRequest}

variable (store lifetime clock inner requests) in
/-- The cache that requests to a new one leave. -/
def after : Cache σ :=
  (Action.replies (CacheRequest.onCache store lifetime clock) requests (around inner)).2

variable (store lifetime clock inner requests) in
/-- The requests to a new cache, each with its reply. -/
def history : List (CacheRequest × Except Failure CacheReply) :=
  requests.zip
    (Action.replies (CacheRequest.onCache store lifetime clock) requests (around inner)).1

variable (store lifetime clock inner requests) in
/-- The last request is one step behind the others. -/
theorem exists_step_after (request : CacheRequest) : ∃ reply,
    Step store lifetime clock (after store lifetime clock inner requests) request reply
      (after store lifetime clock inner (requests ++ [request])) ∧
    history store lifetime clock inner (requests ++ [request]) =
      history store lifetime clock inner requests ++ [(request, reply)] := by
  unfold history after
  rw [Action.replies_concat]
  refine ⟨_, step_onCache request, ?_⟩
  rw [List.zip_append (Action.length_replies _ _ _).symm]
  rfl

theorem lookups_after : (after store lifetime clock inner requests).lookups =
    requests.countP CacheRequest.isFind := by
  induction requests using List.reverseRecOn with
  | nil => rfl
  | append_singleton requests request ih =>
    obtain ⟨reply, step, -⟩ := exists_step_after store lifetime clock inner requests request
    rw [step.lookups_eq, ih, List.countP_append, List.countP_singleton]

theorem held_after_le : (after store lifetime clock inner requests).held ≤
    (after store lifetime clock inner requests).misses := by
  induction requests using List.reverseRecOn with
  | nil => exact Nat.le_refl 0
  | append_singleton requests request ih =>
    obtain ⟨reply, step, -⟩ := exists_step_after store lifetime clock inner requests request
    have paid := step.held_le
    omega

theorem idle_after (brief : lifetime.isPositive = false) :
    (after store lifetime clock inner requests).Idle := by
  induction requests using List.reverseRecOn with
  | nil => exact ⟨rfl, rfl⟩
  | append_singleton requests request ih =>
    obtain ⟨reply, step, -⟩ := exists_step_after store lifetime clock inner requests request
    exact step.idle brief ih

theorem length_log_after :
    (after store.logged lifetime clock (inner, []) requests).inner.2.length =
      (after store.logged lifetime clock (inner, []) requests).misses := by
  induction requests using List.reverseRecOn with
  | nil => rfl
  | append_singleton requests request ih =>
    obtain ⟨reply, step, -⟩ :=
      exists_step_after store.logged lifetime clock (inner, []) requests request
    exact step.length_log ih

variable (store lifetime clock inner requests) in
/-- No look-up of the run is disturbed. -/
def UndisturbedRun : Prop :=
  ∀ before key behind, requests = before ++ .find key :: behind →
    Undisturbed store lifetime clock (after store lifetime clock inner before) key

theorem UndisturbedRun.of_append {more : List CacheRequest}
    (calm : UndisturbedRun store lifetime clock inner (requests ++ more)) :
    UndisturbedRun store lifetime clock inner requests := by
  rintro before key behind rfl
  refine calm before key (behind ++ more) ?_
  rw [List.append_assoc, List.cons_append]

theorem undisturbedRun_concat_iff :
    UndisturbedRun store lifetime clock inner (requests ++ [request]) ↔
      UndisturbedRun store lifetime clock inner requests ∧ ∀ key, request = .find key →
        Undisturbed store lifetime clock (after store lifetime clock inner requests) key := by
  constructor
  · intro calm
    refine ⟨calm.of_append, ?_⟩
    rintro key rfl
    exact calm requests key [] rfl
  · rintro ⟨calm, last⟩ before key behind split
    rcases concat_eq_append_cons_iff.1 split with ⟨-, rfl, same⟩ | ⟨behind, -, front⟩
    · exact last key same
    · exact calm before key behind front

theorem held_after_eq (lasting : lifetime.isPositive = true)
    (calm : UndisturbedRun store lifetime clock inner requests) :
    (after store lifetime clock inner requests).held =
      (after store lifetime clock inner requests).misses := by
  induction requests using List.reverseRecOn with
  | nil => rfl
  | append_singleton requests request ih =>
    obtain ⟨reply, step, -⟩ := exists_step_after store lifetime clock inner requests request
    obtain ⟨calm, last⟩ := undisturbedRun_concat_iff.1 calm
    have balanced := ih calm
    have paid := step.held_eq lasting last
    omega

/-- A cache holds what was looked up and not dropped since. -/
theorem contains_after_iff (lasting : lifetime.isPositive = true)
    (calm : UndisturbedRun store lifetime clock inner requests) (key : PolicyKey) :
    (after store lifetime clock inner requests).entries.contains key = true ↔
      Retained key (history store lifetime clock inner requests) := by
  induction requests using List.reverseRecOn with
  | nil => exact iff_of_false nofun not_retained_nil
  | append_singleton requests request ih =>
    obtain ⟨reply, step, extended⟩ := exists_step_after store lifetime clock inner requests request
    obtain ⟨calm, last⟩ := undisturbedRun_concat_iff.1 calm
    rw [step.contains_iff lasting last, ih calm, extended, retained_concat_iff]

/-! ## Conservation -/

variable (store lifetime clock inner requests) in
/-- If the store behind keeps a list of the look-ups made in it, nothing else changes, and the list
has one look-up for each miss, under its key. -/
structure Forwards : Prop where
  unnoticed : (Action.replies (CacheRequest.onCache store.logged lifetime clock) requests
      (around (inner, []))).1 =
    (Action.replies (CacheRequest.onCache store lifetime clock) requests (around inner)).1
  same : after store lifetime clock inner requests =
    (after store.logged lifetime clock (inner, []) requests).withInner
      (after store.logged lifetime clock (inner, []) requests).inner.1
  count : (after store.logged lifetime clock (inner, []) requests).inner.2.length =
    (after store lifetime clock inner requests).misses
  each : ∀ before key behind, requests = before ++ .find key :: behind →
    HandsOn key (after store.logged lifetime clock (inner, []) before)
      (after store.logged lifetime clock (inner, []) (before ++ [.find key]))

variable (store lifetime clock inner requests) in
theorem forwards : Forwards store lifetime clock inner requests := by
  have alike : ∀ request : CacheRequest, Action.Simulates (Alike Store.Logs)
      (request.onCache store.logged lifetime clock) (request.onCache store lifetime clock) :=
    onCache_simulates (Store.findsAlike_logged store) (Store.savesAlike_logged store)
  have start : Alike Store.Logs (around (inner, [])) (around inner) := ⟨inner, rfl, rfl⟩
  obtain ⟨unnoticed, plain, rfl, same⟩ := Action.replies_of_simulates alike requests start
  refine ⟨unnoticed, same, ?_, ?_⟩
  · have misses : (after store lifetime clock inner requests).misses =
        (after store.logged lifetime clock (inner, []) requests).misses := congrArg misses same
    rw [misses]
    exact length_log_after
  · rintro before key behind -
    obtain ⟨reply, step, -⟩ :=
      exists_step_after store.logged lifetime clock (inner, []) before (.find key)
    exact step.handsOn

variable (store lifetime clock inner requests) in
/-- What the counters of a cache have to do with the look-ups made, with those handed on and with
the keys held. -/
structure Conserved : Prop where
  lookups : (after store lifetime clock inner requests).hits +
    (after store lifetime clock inner requests).misses = requests.countP CacheRequest.isFind
  forwards : Forwards store lifetime clock inner requests
  entries : ∃ keys : Finset PolicyKey,
    (∀ key, key ∈ keys ↔ (after store lifetime clock inner requests).entries.contains key = true) ∧
      keys.card = (after store lifetime clock inner requests).entries.size
  bounded : (after store lifetime clock inner requests).entries.size +
    (after store lifetime clock inner requests).invalidations ≤
      (after store lifetime clock inner requests).misses
  balanced : lifetime.isPositive = true → UndisturbedRun store lifetime clock inner requests →
    (after store lifetime clock inner requests).entries.size +
      (after store lifetime clock inner requests).invalidations =
        (after store lifetime clock inner requests).misses
  hits : lifetime.isPositive = true → UndisturbedRun store lifetime clock inner requests →
    ∀ before key behind, requests = before ++ .find key :: behind →
      ((after store lifetime clock inner (before ++ [.find key])).hits =
          (after store lifetime clock inner before).hits + 1 ↔
        Retained key (history store lifetime clock inner before))
  idle : lifetime.isPositive = false → (after store lifetime clock inner requests).hits = 0 ∧
    (after store lifetime clock inner requests).entries.size = 0 ∧
      (after store lifetime clock inner requests).invalidations = 0

variable (store lifetime clock inner requests) in
/-- The laws that the counters of a new cache obey over every run of requests, whatever store
stands behind it. -/
theorem counters_conserved : Conserved store lifetime clock inner requests where
  lookups := lookups_after
  forwards := forwards store lifetime clock inner requests
  entries := by
    have nodup := (after store lifetime clock inner requests).entries.nodup
    refine ⟨(after store lifetime clock inner requests).entries.keys.toFinset, fun key => ?_, ?_⟩
    · rw [List.mem_toFinset, OrderedMap.contains_eq_true_iff]
    · rw [OrderedMap.size_eq_length_keys]
      exact List.toFinset_card_of_nodup nodup
  bounded := held_after_le
  balanced lasting calm := held_after_eq lasting calm
  hits lasting calm before key behind split := by
    subst split
    obtain ⟨reply, step, -⟩ :=
      exists_step_after store lifetime clock inner before (.find key)
    have undisturbed := calm before key behind rfl
    rw [← contains_after_iff lasting calm.of_append]
    rcases step.of_undisturbed lasting undisturbed with ⟨there, -, hits, -⟩ | ⟨absent, -, hits, -⟩
    · exact iff_of_true hits there
    · refine iff_of_false ?_ ?_
      · omega
      · rw [absent]
        exact Bool.false_ne_true
  idle brief := by
    have idle : (after store lifetime clock inner requests).Idle := idle_after brief
    obtain ⟨hits, held⟩ := idle
    exact ⟨hits, Nat.eq_zero_of_add_eq_zero_right held, Nat.eq_zero_of_add_eq_zero_left held⟩

/-! ## A clock that stands still -/

/-- A date lies behind the reading that it is counted from. -/
theorem isBefore_of_later? {now expires : Instant} (date : now.later? lifetime = some expires)
    (lasting : lifetime.isPositive = true) : now.isBefore expires = true := by
  have long : 0 < lifetime.nanoseconds := of_decide_eq_true lasting
  unfold Instant.later? at date
  split at date
  · cases date
    refine decide_eq_true ?_
    show now.nanoseconds < now.nanoseconds + lifetime.nanoseconds
    omega
  · cases date

/-- Nothing that was remembered expires before the clock moves. -/
theorem Step.fresh {now : Instant}
    (step : Step store lifetime (fun _ => now) cache request reply next)
    (fresh : ∀ key entry, cache.entries.get? key = some entry → now.isBefore entry.expires = true) :
    ∀ key entry, next.entries.get? key = some entry → now.isBefore entry.expires = true := by
  intro key entry held
  cases step with
  | filled forgotten loaded lasting date =>
    rw [OrderedMap.get?_insert] at held
    split at held
    · cases held
      exact isBefore_of_later? date lasting
    · exact fresh key entry held
  | saved loaded =>
    have before := get?_of_get?_invalidate held
    exact fresh key entry before
  | dropped => exact fresh key entry (get?_of_get?_invalidate held)
  | cleared => cases held
  | _ => exact fresh key entry held

/-- In front of a store that answers every look-up, no run is disturbed while the clock stands
still. -/
theorem undisturbedRun_of_still {now expires : Instant}
    (answers : ∀ key state, ∃ policy next, (store.find key).on state = (.ok policy, next))
    (date : now.later? lifetime = some expires) :
    UndisturbedRun store lifetime (fun _ => now) inner requests := by
  have fresh : ∀ before key entry,
      (after store lifetime (fun _ => now) inner before).entries.get? key = some entry →
      now.isBefore entry.expires = true := by
    intro before
    induction before using List.reverseRecOn with
    | nil => exact nofun
    | append_singleton before request ih =>
      obtain ⟨reply, step, -⟩ :=
        exists_step_after store lifetime (fun _ => now) inner before request
      exact step.fresh ih
  intro before key behind _
  exact ⟨fresh before key, fun _ => answers key _, Option.isSome_of_eq_some date⟩

end runs

namespace Sample

/-- A clock that stands still. -/
def still : Clock := fun _ => ⟨0⟩

/-- A key is looked up twice, written and looked up again; in the end everything is dropped. -/
def requests : List CacheRequest :=
  [.find (.type "a"), .find (.type "a"), .save (.type "a") default, .find (.type "a"),
    .find (.resource "a"), .invalidateAll]

/-- What requests to a new cache in front of an empty memory leave. -/
def left (requests : List CacheRequest) : Cache Memory :=
  after Memory.store (.ofSeconds 300) still .empty requests

theorem undisturbed : UndisturbedRun Memory.store (.ofSeconds 300) still .empty requests :=
  undisturbedRun_of_still (fun _ _ => ⟨_, _, rfl⟩) rfl

end Sample

open Sample in
/-- The second look-up is a hit and the one behind the write is not; the three misses were dropped,
one by the write and two in the end. -/
theorem counters_conserved_dropped :
    (Duration.ofSeconds 300).isPositive = true ∧
      UndisturbedRun Memory.store (.ofSeconds 300) still .empty requests ∧
      Conserved Memory.store (.ofSeconds 300) still .empty requests ∧
      (left requests).hits = 1 ∧ (left requests).misses = 3 ∧ (left requests).invalidations = 3 ∧
      Retained (.type "a") (history Memory.store (.ofSeconds 300) still .empty
        [.find (.type "a")]) ∧
      ¬ Retained (.type "a") (history Memory.store (.ofSeconds 300) still .empty
        [.find (.type "a"), .find (.type "a"), .save (.type "a") default]) := by
  have laws := counters_conserved Memory.store (.ofSeconds 300) still .empty requests
  have lasting : (Duration.ofSeconds 300).isPositive = true := rfl
  refine ⟨lasting, undisturbed, laws, rfl, rfl, rfl, ?_, fun retained => ?_⟩
  · exact (laws.hits lasting undisturbed [.find (.type "a")] _ _ rfl).1 rfl
  · have hit := (laws.hits lasting undisturbed
      [.find (.type "a"), .find (.type "a"), .save (.type "a") default] _ _ rfl).2 retained
    cases hit

end Cache

end PolicyTree
