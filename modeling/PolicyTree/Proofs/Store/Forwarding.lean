import PolicyTree.Proofs.Store.Retention
/-
  A cache and the store behind it. A cache hands look-ups and writes on and never looks into the
  state behind it; so caches around stores that cannot be told apart cannot be told apart either
  (`onCache_simulates`).

  A store may therefore keep a list of the look-ups made in it, `Store.logged`, and the cache in
  front of it does the same as without the list.
-/
namespace PolicyTree

namespace Cache

variable {σ τ : Type} {lifetime : Duration} {clock : Clock} {key : PolicyKey} {cache : Cache σ}

/-! ## Caches around two stores -/

/-- The cache around another state. -/
def withInner (cache : Cache σ) (inner : τ) : Cache τ :=
  ⟨inner, cache.entries, cache.generation, cache.hits, cache.misses, cache.invalidations⟩

/-- Two caches that differ in the states behind them alone, which are related. -/
def Alike (R : σ → τ → Prop) (cache : Cache σ) (other : Cache τ) : Prop :=
  ∃ inner, R cache.inner inner ∧ other = cache.withInner inner

theorem invalidate_withInner (cache : Cache σ) (inner : τ) (key : PolicyKey) :
    (cache.withInner inner).invalidate key = (cache.invalidate key).withInner inner := by
  unfold invalidate withInner
  split <;> rfl

theorem inner_remember {now : Instant} {generation : Nat} {policy : Option Policy}
    {filled : Cache σ} (fill : cache.remember lifetime now generation key policy = .ok filled) :
    filled.inner = cache.inner := by
  unfold remember at fill
  split at fill
  · split at fill
    · cases fill
      rfl
    · cases fill
  · cases fill
    rfl

variable (lifetime) in
theorem remember_withInner (now : Instant) (generation : Nat) (key : PolicyKey)
    (policy : Option Policy) (cache : Cache σ) (inner : τ) :
    (cache.withInner inner).remember lifetime now generation key policy =
      (cache.remember lifetime now generation key policy).map (·.withInner inner) := by
  have current : (cache.withInner inner).generation = cache.generation := rfl
  unfold remember
  rw [current]
  by_cases remembers : (lifetime.isPositive && cache.generation == generation) = true
  · rw [if_pos remembers, if_pos remembers]
    cases now.later? lifetime <;> rfl
  · rw [if_neg remembers, if_neg remembers]
    rfl

section alike

variable {R : σ → τ → Prop} {left : Store σ} {right : Store τ}

theorem find_simulates (finds : Store.FindsAlike R left right) (key : PolicyKey) :
    Action.Simulates (Alike R) (find left lifetime clock id key)
      (find right lifetime clock id key) := by
  rintro cache _ ⟨inner, related, rfl⟩
  obtain ⟨same, behind⟩ := finds key cache.inner inner related
  cases remembered : cache.remembered? key (clock cache.lookups) with
  | some policy =>
    have hit : (find right lifetime clock id key).on (cache.withInner inner) = _ :=
      find_of_remembered remembered
    rw [find_of_remembered remembered, hit]
    exact ⟨rfl, inner, related, rfl⟩
  | none =>
    rcases loaded : (left.find key).on cache.inner with ⟨answer, state⟩
    rcases again : (right.find key).on inner with ⟨answer', other⟩
    rw [loaded, again] at same behind
    cases same
    cases answer with
    | error failure =>
      have passed : (find right lifetime clock id key).on (cache.withInner inner) = _ :=
        find_of_failed remembered again
      rw [find_of_failed remembered loaded, passed]
      exact ⟨rfl, other, behind, rfl⟩
    | ok policy =>
      have refill := remember_withInner lifetime (clock cache.lookups) cache.generation key policy
        (cache.missed state) other
      cases fill : (cache.missed state).remember lifetime (clock cache.lookups) cache.generation
          key policy with
      | error failure =>
        rw [fill] at refill
        have passed : (find right lifetime clock id key).on (cache.withInner inner) = _ :=
          find_of_undated remembered again refill
        rw [find_of_undated remembered loaded fill, passed]
        exact ⟨rfl, other, behind, rfl⟩
      | ok filled =>
        rw [fill] at refill
        have passed : (find right lifetime clock id key).on (cache.withInner inner) = _ :=
          find_of_filled remembered again refill
        rw [find_of_filled remembered loaded fill, passed]
        have kept : filled.inner = state := inner_remember fill
        exact ⟨rfl, other, kept ▸ behind, rfl⟩

theorem save_simulates (saves : Store.SavesAlike R left right) (key : PolicyKey)
    (policy : Policy) :
    Action.Simulates (Alike R) (save left key policy) (save right key policy) := by
  rintro cache _ ⟨inner, related, rfl⟩
  have inner_withInner : (cache.withInner inner).inner = inner := rfl
  obtain ⟨same, behind⟩ := saves key policy cache.inner inner related
  rcases loaded : (left.save key policy).on cache.inner with ⟨answer, state⟩
  rcases again : (right.save key policy).on inner with ⟨answer', other⟩
  rw [loaded, again] at same behind
  cases same
  rw [save, save, Action.on_of, Action.on_of, loaded, inner_withInner, again]
  cases answer with
  | error failure => exact ⟨rfl, other, behind, rfl⟩
  | ok stored =>
    have dropped := invalidate_withInner
      { cache with inner := state, generation := cache.generation + 1 } other key
    refine ⟨rfl, other, ?_, dropped⟩
    rw [inner_invalidate]
    exact behind

/-- Caches around stores that cannot be told apart cannot be told apart. -/
theorem onCache_simulates (finds : Store.FindsAlike R left right)
    (saves : Store.SavesAlike R left right) (request : CacheRequest) :
    Action.Simulates (Alike R) (request.onCache left lifetime clock)
      (request.onCache right lifetime clock) := by
  cases request with
  | find key => exact (find_simulates finds key).bind fun _ => .pure _
  | save key policy => exact (save_simulates saves key policy).bind fun _ => .pure _
  | invalidate key =>
    rintro cache _ ⟨inner, related, rfl⟩
    refine ⟨rfl, inner, ?_, invalidate_withInner cache inner key⟩
    rw [← inner_invalidate cache key] at related
    exact related
  | invalidateAll =>
    rintro cache _ ⟨inner, related, rfl⟩
    exact ⟨rfl, inner, related, rfl⟩

end alike

end Cache

/-! ## Stores that keep a list -/

namespace Store

variable {σ : Type} {store : Store σ} {key : PolicyKey} {state after : σ × List PolicyKey}

/-- The store, with a list of the keys looked up in it. -/
def logged (store : Store σ) : Store (σ × List PolicyKey) where
  find key := .of fun (state, log) =>
    (((store.find key).on state).1, ((store.find key).on state).2, log ++ [key])
  save key policy := .of fun (state, log) =>
    (((store.save key policy).on state).1, ((store.save key policy).on state).2, log)

/-- The store without its log is in the plain state. -/
def Logs (state : σ × List PolicyKey) (plain : σ) : Prop := state.1 = plain

theorem findsAlike_logged (store : Store σ) : FindsAlike Logs store.logged store := by
  rintro key state _ rfl
  exact ⟨rfl, rfl⟩

theorem savesAlike_logged (store : Store σ) : SavesAlike Logs store.logged store := by
  rintro key policy state _ rfl
  exact ⟨rfl, rfl⟩

theorem log_of_find {answer : Except Failure (Option Policy)}
    (loaded : (store.logged.find key).on state = (answer, after)) :
    after.2 = state.2 ++ [key] := by
  cases loaded
  rfl

theorem log_of_save {policy : Policy} {answer : Except Failure Policy}
    (loaded : (store.logged.save key policy).on state = (answer, after)) : after.2 = state.2 := by
  cases loaded
  rfl

end Store

end PolicyTree
