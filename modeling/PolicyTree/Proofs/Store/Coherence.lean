import Mathlib.Logic.Function.Basic
import PolicyTree.Proofs.Map.Insertion
import PolicyTree.Proofs.Store.Simulation
import PolicyTree.Store.Cache
/-
  A cache in front of a memory that is written through the cache alone. Whatever it still
  remembers under a key, expired or not, is what the memory has there: this is `Coherent`, and
  look-ups, writes and invalidations keep it.

  Hence a run of requests to the cache is answered as by two maps that are written and read
  and know nothing of expiry (`replies_onCache`).
-/
namespace PolicyTree

namespace Cache

variable {σ : Type}

/-! ## Look-ups -/

section find

variable {store : Store σ} {lifetime : Duration} {clock : Clock} {meanwhile : Cache σ → Cache σ}
  {key : PolicyKey} {cache : Cache σ}

theorem find_of_remembered {policy : Option Policy}
    (remembered : cache.remembered? key (clock cache.lookups) = some policy) :
    (find store lifetime clock meanwhile key).on cache =
      (.ok policy, { cache with hits := cache.hits + 1 }) := by
  simp only [find, Action.on_of, remembered]

theorem find_of_failed {failure : Failure} {inner : σ}
    (forgotten : cache.remembered? key (clock cache.lookups) = none)
    (failed : (store.find key).on cache.inner = (.error failure, inner)) :
    (find store lifetime clock meanwhile key).on cache =
      (.error failure, { cache with inner := inner, misses := cache.misses + 1 }) := by
  simp only [find, Action.on_of, forgotten, failed]

theorem find_of_filled {policy : Option Policy} {inner : σ} {filled : Cache σ}
    (forgotten : cache.remembered? key (clock cache.lookups) = none)
    (found : (store.find key).on cache.inner = (.ok policy, inner))
    (fill : (meanwhile { cache with inner := inner, misses := cache.misses + 1 }).remember lifetime
      (clock cache.lookups) cache.generation key policy = .ok filled) :
    (find store lifetime clock meanwhile key).on cache = (.ok policy, filled) := by
  simp only [find, Action.on_of, forgotten, found, fill]

theorem find_of_undated {policy : Option Policy} {inner : σ} {failure : Failure}
    (forgotten : cache.remembered? key (clock cache.lookups) = none)
    (found : (store.find key).on cache.inner = (.ok policy, inner))
    (undated : (meanwhile { cache with inner := inner, misses := cache.misses + 1 }).remember
      lifetime (clock cache.lookups) cache.generation key policy = .error failure) :
    (find store lifetime clock meanwhile key).on cache =
      (.error failure, meanwhile { cache with inner := inner, misses := cache.misses + 1 }) := by
  simp only [find, Action.on_of, forgotten, found, undated]

end find

/-! ## Invalidation -/

@[simp] theorem inner_invalidate (cache : Cache σ) (key : PolicyKey) :
    (cache.invalidate key).inner = cache.inner := by
  unfold invalidate
  split <;> rfl

/-- An invalidation drops its own key, and no other. -/
theorem get?_invalidate (cache : Cache σ) (key other : PolicyKey) :
    (cache.invalidate key).entries.get? other =
      if other = key then none else cache.entries.get? other := by
  unfold invalidate
  by_cases eq : other = key
  · subst eq
    rw [if_pos rfl]
    split
    · exact OrderedMap.get?_erase_self cache.entries other
    · next absent => simpa [OrderedMap.contains] using absent
  · rw [if_neg eq]
    split
    · exact OrderedMap.get?_erase_of_ne cache.entries eq
    · rfl

/-- What is there after an invalidation was there before. -/
theorem get?_of_get?_invalidate {cache : Cache σ} {key other : PolicyKey} {entry : CacheEntry}
    (held : (cache.invalidate key).entries.get? other = some entry) :
    cache.entries.get? other = some entry := by
  rw [get?_invalidate] at held
  split at held
  · cases held
  · exact held

/-! ## Coherence -/

/-- Each entry is what the memory behind has under its key. -/
def Coherent (cache : Cache Memory) : Prop :=
  ∀ key entry, cache.entries.get? key = some entry → entry.policy = cache.inner.get? key

/-- The date at which a look-up expires can be represented whenever one is needed. -/
def Datable (lifetime : Duration) (clock : Clock) : Prop :=
  lifetime.isPositive = true → ∀ n, ((clock n).later? lifetime).isSome = true

theorem coherent_around (memory : Memory) : (around memory).Coherent := by
  intro key entry h
  cases h

variable {cache : Cache Memory}

theorem Coherent.remembered (h : cache.Coherent) {key : PolicyKey} {now : Instant}
    {policy : Option Policy} (found : cache.remembered? key now = some policy) :
    policy = cache.inner.get? key := by
  unfold remembered? at found
  split at found
  · next entry held =>
    split at found
    · cases found
      exact h key entry held
    · cases found
  · cases found

theorem Coherent.invalidate (h : cache.Coherent) (key : PolicyKey) :
    (cache.invalidate key).Coherent := by
  intro other entry held
  rw [inner_invalidate]
  exact h other entry (get?_of_get?_invalidate held)

theorem coherent_invalidateAll (cache : Cache Memory) : cache.invalidateAll.Coherent := by
  intro key entry held
  cases held

/-- What was just read from the memory may be remembered. -/
theorem Coherent.remember (h : cache.Coherent) {lifetime : Duration} {clock : Clock}
    (datable : Datable lifetime clock) (reading generation : Nat) (key : PolicyKey) :
    ∃ filled, cache.remember lifetime (clock reading) generation key (cache.inner.get? key) =
        .ok filled ∧ filled.inner = cache.inner ∧ filled.Coherent := by
  unfold Cache.remember
  split
  · next remembers =>
    rw [Bool.and_eq_true] at remembers
    obtain ⟨expires, date⟩ := Option.isSome_iff_exists.1 (datable remembers.1 reading)
    rw [date]
    refine ⟨_, rfl, rfl, ?_⟩
    intro other entry held
    rw [OrderedMap.get?_insert] at held
    split at held
    · next eq =>
      cases held
      rw [eq]
    · exact h other entry held
  · exact ⟨cache, rfl, rfl, h⟩

/-- A look-up answers what the memory has, and neither changes it nor breaks coherence. -/
theorem Coherent.find (h : cache.Coherent) {lifetime : Duration} {clock : Clock}
    (datable : Datable lifetime clock) (key : PolicyKey) :
    ∃ next, ((Cache.store Memory.store lifetime clock).find key).on cache =
        (.ok (cache.inner.get? key), next) ∧ next.inner = cache.inner ∧ next.Coherent := by
  cases remembered : cache.remembered? key (clock cache.lookups) with
  | some policy =>
    have current := h.remembered remembered
    subst current
    have hit : (Cache.find Memory.store lifetime clock id key).on cache = _ :=
      find_of_remembered remembered
    exact ⟨_, hit, rfl, h⟩
  | none =>
    -- The miss is counted before the answer is remembered, which coherence does not see.
    have counted : Coherent { cache with misses := cache.misses + 1 } := h
    obtain ⟨filled, fill, inner, coherent⟩ :=
      counted.remember datable cache.lookups cache.generation key
    have miss : (Cache.find Memory.store lifetime clock id key).on cache = _ :=
      find_of_filled remembered rfl fill
    exact ⟨filled, miss, inner, coherent⟩

/-- A write reaches the memory, and drops the entry that it makes stale. -/
theorem Coherent.save (h : cache.Coherent) (lifetime : Duration) (clock : Clock)
    (key : PolicyKey) (policy : Policy) :
    ∃ next, ((Cache.store Memory.store lifetime clock).save key policy).on cache =
        (.ok policy, next) ∧
      next.inner = cache.inner.put key policy ∧ next.Coherent := by
  refine ⟨_, rfl, inner_invalidate _ key, ?_⟩
  intro other entry held
  rw [get?_invalidate] at held
  split at held
  · cases held
  · next ne =>
    rw [inner_invalidate, Memory.get?_put, if_neg ne]
    exact h other entry held

/-! ## The cache as a store -/

/-- A coherent cache in front of a memory. -/
def Fronts (cache : Cache Memory) (memory : Memory) : Prop :=
  cache.inner = memory ∧ cache.Coherent

variable {lifetime : Duration} {clock : Clock}

theorem findsAlike (datable : Datable lifetime clock) :
    Store.FindsAlike Fronts (Cache.store Memory.store lifetime clock) Memory.store := by
  rintro key cache memory ⟨rfl, coherent⟩
  obtain ⟨next, found, inner, after⟩ := coherent.find datable key
  rw [found]
  exact ⟨rfl, inner, after⟩

theorem savesAlike :
    Store.SavesAlike Fronts (Cache.store Memory.store lifetime clock) Memory.store := by
  rintro key policy cache memory ⟨rfl, coherent⟩
  obtain ⟨next, saved, inner, after⟩ := coherent.save lifetime clock key policy
  rw [saved]
  exact ⟨rfl, inner, after⟩

/-- A coherent cache holds what the memory behind it holds. -/
theorem Coherent.holds (h : cache.Coherent) (datable : Datable lifetime clock) :
    (Cache.store Memory.store lifetime clock).Holds cache cache.inner.get? := by
  refine ⟨fun s => Fronts s cache.inner, ⟨rfl, h⟩, fun s fronts key => ?_⟩
  obtain ⟨same, after⟩ := findsAlike datable key s cache.inner fronts
  exact ⟨same, after⟩

/-- Nor does a coherent cache in front of a memory ever fail. -/
theorem Coherent.keeps (h : cache.Coherent) (datable : Datable lifetime clock) :
    (Cache.store Memory.store lifetime clock).Keeps cache cache.inner.get? :=
  cache.inner.keeps.of_alike (findsAlike datable) savesAlike ⟨rfl, h⟩

end Cache

/-! ## Two maps -/

/-- Policies under ids of resources, and policies under names of data types. -/
structure Maps where
  ofResource : String → Option Policy
  ofType : String → Option Policy

namespace Maps

/-- What a memory answers. -/
def of (memory : Memory) : Maps where
  ofResource id := memory.get? (.resource id)
  ofType name := memory.get? (.type name)

def get? (maps : Maps) : PolicyKey → Option Policy
  | .resource id => maps.ofResource id
  | .type name => maps.ofType name

/-- Set the value of a key in its map. -/
def put (maps : Maps) : PolicyKey → Policy → Maps
  | .resource id, policy =>
    { maps with ofResource := Function.update maps.ofResource id (some policy) }
  | .type name, policy => { maps with ofType := Function.update maps.ofType name (some policy) }

theorem get?_of (memory : Memory) (key : PolicyKey) : (of memory).get? key = memory.get? key := by
  cases key <;> rfl

theorem of_put (memory : Memory) (key : PolicyKey) (policy : Policy) :
    of (memory.put key policy) = (of memory).put key policy := by
  unfold of put
  cases key with
  | resource id =>
    congr 1
    · funext other
      simp [Memory.get?_put, Function.update_apply]
    · funext other
      simp [Memory.get?_put]
  | type name =>
    congr 1
    · funext other
      simp [Memory.get?_put]
    · funext other
      simp [Memory.get?_put, Function.update_apply]

end Maps

/-! ## Runs of requests to a cache -/

/-- What a cache can be asked to do. -/
inductive CacheRequest where
  | find (key : PolicyKey)
  | save (key : PolicyKey) (policy : Policy)
  | invalidate (key : PolicyKey)
  | invalidateAll

/-- What a request to a cache is answered with. -/
inductive CacheReply where
  | found (policy : Option Policy)
  | saved (policy : Policy)
  | done

namespace CacheRequest

/-- A request to a cache around a store. -/
def onCache {σ : Type} (inner : Store σ) (lifetime : Duration) (clock : Clock) :
    CacheRequest → Action (Cache σ) CacheReply
  | find key => return .found (← (Cache.store inner lifetime clock).find key)
  | save key policy => return .saved (← (Cache.store inner lifetime clock).save key policy)
  | invalidate key => .of fun cache => (.ok .done, cache.invalidate key)
  | invalidateAll => .of fun cache => (.ok .done, cache.invalidateAll)

/-- A request to two maps, which have nothing to drop. -/
def onMaps : CacheRequest → Action Maps CacheReply
  | find key => .of fun maps => (.ok (.found (maps.get? key)), maps)
  | save key policy => .of fun maps => (.ok (.saved policy), maps.put key policy)
  | invalidate _ => .of fun maps => (.ok .done, maps)
  | invalidateAll => .of fun maps => (.ok .done, maps)

/-- A coherent cache answers a request as the maps of its memory do. -/
theorem onCache_simulates {lifetime : Duration} {clock : Clock}
    (datable : Cache.Datable lifetime clock) (request : CacheRequest) :
    Action.Simulates (fun cache maps => maps = Maps.of cache.inner ∧ cache.Coherent)
      (onCache Memory.store lifetime clock request) (onMaps request) := by
  rintro cache maps ⟨rfl, coherent⟩
  cases request with
  | find key =>
    obtain ⟨next, found, inner, after⟩ := coherent.find datable key
    rw [onCache, Action.on_bind_of_ok found, onMaps, Action.on_of, Maps.get?_of]
    exact ⟨rfl, congrArg Maps.of inner.symm, after⟩
  | save key policy =>
    obtain ⟨next, saved, inner, after⟩ := coherent.save lifetime clock key policy
    rw [onCache, Action.on_bind_of_ok saved, onMaps, Action.on_of, ← Maps.of_put]
    exact ⟨rfl, congrArg Maps.of inner.symm, after⟩
  | invalidate key =>
    exact ⟨rfl, congrArg Maps.of (Cache.inner_invalidate cache key).symm, coherent.invalidate key⟩
  | invalidateAll => exact ⟨rfl, rfl, Cache.coherent_invalidateAll cache⟩

/-- A run of requests to a new cache is answered as by two maps. -/
theorem replies_onCache {lifetime : Duration} {clock : Clock}
    (datable : Cache.Datable lifetime clock) (memory : Memory) (requests : List CacheRequest) :
    (Action.replies (onCache Memory.store lifetime clock) requests (.around memory)).1 =
      (Action.replies onMaps requests (.of memory)).1 :=
  (Action.replies_of_simulates (onCache_simulates datable) requests
    ⟨rfl, Cache.coherent_around memory⟩).1

end CacheRequest

end PolicyTree
