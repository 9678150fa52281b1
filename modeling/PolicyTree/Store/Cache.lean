import PolicyTree.Instant
import PolicyTree.Map.Ordered
import PolicyTree.Store.Basic
/-
  A cache in front of a store. It remembers what a look-up answered, a policy or none, for a
  lifetime; a lifetime that is not positive remembers nothing. Writes go to the store behind
  and drop the written key.

  Other callers may work on the cache while a look-up waits for the store behind: `find` is
  given what they do as `meanwhile`. The answer of a look-up that overlaps a write is handed
  on and not remembered, which the generation, raised by every write, tells.

  The clock is read once for each look-up, so the number of look-ups so far says which
  reading is next.

  Hits, misses, invalidations and the generation are counted without bound. A program that
  counts them in words of 64 bits agrees with this for the first 2^64 look-ups and writes.
-/
namespace PolicyTree

/-- What is remembered of a look-up. -/
structure CacheEntry where
  policy : Option Policy
  expires : Instant

/-- A cache, with the state of the store behind it. -/
structure Cache (σ : Type) where
  inner : σ
  entries : OrderedMap PolicyKey CacheEntry
  generation : Nat
  hits : Nat
  misses : Nat
  invalidations : Nat

namespace Cache

variable {σ α : Type}

/-- A new cache around a state. -/
def around (inner : σ) : Cache σ := ⟨inner, .empty, 0, 0, 0, 0⟩

/-- The number of look-ups so far. -/
def lookups (cache : Cache σ) : Nat := cache.hits + cache.misses

/-- What is remembered under a key and has not expired. -/
def remembered? (cache : Cache σ) (key : PolicyKey) (now : Instant) : Option (Option Policy) :=
  match cache.entries.get? key with
  | some entry => if now.isBefore entry.expires then some entry.policy else none
  | none => none

/-- Remember an answer, unless nothing is to be remembered or a write came between. -/
def remember (cache : Cache σ) (lifetime : Duration) (now : Instant) (generation : Nat)
    (key : PolicyKey) (policy : Option Policy) : Except Failure (Cache σ) :=
  if lifetime.isPositive && cache.generation == generation then
    match now.later? lifetime with
    | some expires =>
      .ok { cache with entries := cache.entries.insert key ⟨policy, expires⟩ }
    | none => .error .expiryOutOfRange
  else .ok cache

/-- Drop a key; an invalidation counts only if something was dropped. -/
def invalidate (cache : Cache σ) (key : PolicyKey) : Cache σ :=
  if cache.entries.contains key then
    { cache with entries := cache.entries.erase key, invalidations := cache.invalidations + 1 }
  else cache

/-- Drop everything. -/
def invalidateAll (cache : Cache σ) : Cache σ :=
  { cache with entries := .empty, invalidations := cache.invalidations + cache.entries.size }

/-- Look a key up, here or else in the store behind. -/
def find (store : Store σ) (lifetime : Duration) (clock : Clock)
    (meanwhile : Cache σ → Cache σ) (key : PolicyKey) : Action (Cache σ) (Option Policy) :=
  .of fun cache =>
    let now := clock cache.lookups
    match cache.remembered? key now with
    | some policy => (.ok policy, { cache with hits := cache.hits + 1 })
    | none =>
      match (store.find key).on cache.inner with
      | (.error failure, inner) =>
        (.error failure, { cache with inner := inner, misses := cache.misses + 1 })
      | (.ok policy, inner) =>
        let after := meanwhile { cache with inner := inner, misses := cache.misses + 1 }
        match after.remember lifetime now cache.generation key policy with
        | .ok filled => (.ok policy, filled)
        | .error failure => (.error failure, after)

/-- Write to the store behind, then drop the key. -/
def save (store : Store σ) (key : PolicyKey) (policy : Policy) : Action (Cache σ) Policy :=
  .of fun cache =>
    match (store.save key policy).on cache.inner with
    | (.error failure, inner) => (.error failure, { cache with inner := inner })
    | (.ok stored, inner) =>
      (.ok stored, { cache with inner := inner, generation := cache.generation + 1 }.invalidate key)

/-- The cache as a store that nobody else works on. -/
def store (inner : Store σ) (lifetime : Duration) (clock : Clock) : Store (Cache σ) where
  find := find inner lifetime clock id
  save := save inner

end Cache

end PolicyTree
