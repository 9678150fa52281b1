import PolicyTree.Bootstrap.Basic
import PolicyTree.Proofs.Registry.Making
import PolicyTree.Proofs.Store.Coherence
/-
  The state that a service starts in. Its policies are written through the cache, and a write
  neither reads the clock nor remembers anything: the cache of a new service has not been read
  (`Cache.Unread`), and the memory behind it has rules of the registry only.
-/
namespace PolicyTree

/-! ## What a memory keeps -/

/-- Every policy that is kept was made by the registry. -/
def Memory.MadeBy (registry : Registry) (memory : Memory) : Prop :=
  ∀ key policy, memory.get? key = some policy → policy.MadeBy registry

theorem Memory.madeBy_empty (registry : Registry) : Memory.empty.MadeBy registry := by
  intro key policy held
  cases held

theorem Memory.MadeBy.put {registry : Registry} {memory : Memory} (h : memory.MadeBy registry)
    {policy : Policy} (made : policy.MadeBy registry) (key : PolicyKey) :
    (memory.put key policy).MadeBy registry :=
  forall_put h made key

/-! ## Caches that were not read -/

namespace Cache

/-- Nothing has been looked up, so nothing is remembered. -/
structure Unread {σ : Type} (cache : Cache σ) : Prop where
  entries : cache.entries = .empty
  lookups : cache.lookups = 0

theorem unread_around {σ : Type} (inner : σ) : (around inner).Unread := ⟨rfl, rfl⟩

variable {cache : Cache Memory}

theorem Unread.coherent (h : cache.Unread) : cache.Coherent := by
  intro key entry held
  rw [h.entries] at held
  cases held

/-- A write leaves nothing behind but what it writes. -/
theorem Unread.save (h : cache.Unread) (lifetime : Duration) (clock : Clock) (key : PolicyKey)
    (policy : Policy) :
    ∃ next, ((Cache.store Memory.store lifetime clock).save key policy).on cache =
        (.ok policy, next) ∧
      next.inner = cache.inner.put key policy ∧ next.Unread := by
  have nothing : cache.entries.contains key = false := by
    rw [h.entries]
    rfl
  refine ⟨_, rfl, inner_invalidate _ key, ?_⟩
  rw [invalidate, if_neg (by simp [nothing])]
  exact ⟨h.entries, h.lookups⟩

end Cache

/-! ## Writing -/

variable {registry : Registry}

namespace Inventory

variable {lifetime : Duration} {clock : Clock} {catalog : Catalog} {serial : Nat}
  {cache next : Cache Memory}

theorem madeBy_of_binding {policies : PolicyList} {row : PolicyRow} {key : PolicyKey}
    {policy : Policy}
    (bound : binding registry catalog serial policies row = .ok (key, policy)) :
    policy.MadeBy registry := by
  obtain ⟨_, -, bound⟩ := bind_eq_ok_iff.1 bound
  obtain ⟨_, built, bound⟩ := bind_eq_ok_iff.1 bound
  cases bound
  exact PolicyRow.madeBy_build (mapError_eq_ok_iff.1 built)

/-- Rows that are written leave the cache unread, and policies of the registry behind it. -/
theorem writeRows_unread {rows : List (PolicyList × PolicyRow)} (unread : cache.Unread)
    (made : cache.inner.MadeBy registry)
    (written : writeRows (Cache.store Memory.store lifetime clock) registry catalog rows serial
      cache = (.ok (), next)) :
    next.Unread ∧ next.inner.MadeBy registry := by
  induction rows generalizing serial cache with
  | nil =>
    cases written
    exact ⟨unread, made⟩
  | cons entry rest ih =>
    obtain ⟨policies, row⟩ := entry
    rw [writeRows] at written
    cases bound : binding registry catalog serial policies row with
    | error error =>
      rw [bound] at written
      cases written
    | ok entry =>
      obtain ⟨key, policy⟩ := entry
      obtain ⟨after, saved, inner, unread⟩ := unread.save lifetime clock key policy
      simp only [bound, saved] at written
      refine ih unread ?_ written
      rw [inner]
      exact made.put (madeBy_of_binding bound) key

theorem populate_unread {inventory : Inventory} {count : Nat} (unread : cache.Unread)
    (made : cache.inner.MadeBy registry)
    (populated : inventory.populate (Cache.store Memory.store lifetime clock) registry catalog serial
      cache = (.ok count, next)) :
    next.Unread ∧ next.inner.MadeBy registry := by
  unfold populate at populated
  split at populated
  · cases populated
  · next written =>
    cases populated
    exact writeRows_unread unread made written

end Inventory

/-! ## Starting -/

namespace Service

/-- The service is as the configuration and the registry make it, and was not asked anything. -/
structure Starts (registry : Registry) (settings : Settings) (service : Service) : Prop where
  catalog : Catalog.ofRows settings.inventory.resources = .ok service.catalog
  lifetime : service.lifetime = settings.caching.lifetime
  unread : service.state.Unread
  made : service.state.inner.MadeBy registry

theorem starts_of_start {settings : Settings} {service : Service}
    (started : start registry settings = .ok service) : service.Starts registry settings := by
  obtain ⟨catalog, planted, started⟩ := bind_eq_ok_iff.1 started
  dsimp only at started
  split at started
  · cases started
  · next populated =>
    cases started
    obtain ⟨unread, made⟩ := Inventory.populate_unread (Cache.unread_around Memory.empty)
      (Memory.madeBy_empty registry) populated
    exact ⟨mapError_eq_ok_iff.1 planted, rfl, unread, made⟩

end Service

end PolicyTree
