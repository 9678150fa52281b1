import PolicyTree.Proofs.Store.Coherence
/-
  What requests do to a cache, whatever store stands behind it. `Step` lists the ways in which one
  request can end, and every request ends in one of them (`step_onCache`).

  Hence an entry comes into a cache only as the answer of a look-up that succeeded
  (`get?_replies`); a failure of the store behind is handed on and changes no entry
  (`passesFailures`).
-/
namespace PolicyTree.Cache

variable {σ : Type} {store : Store σ} {lifetime : Duration} {clock : Clock} {key : PolicyKey}
  {cache next : Cache σ} {request : CacheRequest} {reply : Except Failure CacheReply}

/-! ## One request -/

/-- The cache when a look-up was handed on, with what it left of the state behind. -/
def missed (cache : Cache σ) (inner : σ) : Cache σ :=
  { cache with inner := inner, misses := cache.misses + 1 }

variable (store lifetime clock) in
/-- What one request is answered with, and what it does to a cache. -/
inductive Step (cache : Cache σ) : CacheRequest → Except Failure CacheReply → Cache σ → Prop where
  | hit {key : PolicyKey} {policy : Option Policy}
      (remembered : cache.remembered? key (clock cache.lookups) = some policy) :
      Step cache (.find key) (.ok (.found policy)) { cache with hits := cache.hits + 1 }
  | failed {key : PolicyKey} {failure : Failure} {inner : σ}
      (forgotten : cache.remembered? key (clock cache.lookups) = none)
      (loaded : (store.find key).on cache.inner = (.error failure, inner)) :
      Step cache (.find key) (.error failure) (cache.missed inner)
  | passed {key : PolicyKey} {policy : Option Policy} {inner : σ}
      (forgotten : cache.remembered? key (clock cache.lookups) = none)
      (loaded : (store.find key).on cache.inner = (.ok policy, inner))
      (brief : lifetime.isPositive = false) :
      Step cache (.find key) (.ok (.found policy)) (cache.missed inner)
  | undated {key : PolicyKey} {policy : Option Policy} {inner : σ}
      (forgotten : cache.remembered? key (clock cache.lookups) = none)
      (loaded : (store.find key).on cache.inner = (.ok policy, inner))
      (lasting : lifetime.isPositive = true) (late : (clock cache.lookups).later? lifetime = none) :
      Step cache (.find key) (.error .expiryOutOfRange) (cache.missed inner)
  | filled {key : PolicyKey} {policy : Option Policy} {inner : σ} {expires : Instant}
      (forgotten : cache.remembered? key (clock cache.lookups) = none)
      (loaded : (store.find key).on cache.inner = (.ok policy, inner))
      (lasting : lifetime.isPositive = true)
      (date : (clock cache.lookups).later? lifetime = some expires) :
      Step cache (.find key) (.ok (.found policy)) { cache.missed inner with
        entries := cache.entries.insert key ⟨policy, expires⟩ }
  | refused {key : PolicyKey} {policy : Policy} {failure : Failure} {inner : σ}
      (loaded : (store.save key policy).on cache.inner = (.error failure, inner)) :
      Step cache (.save key policy) (.error failure) { cache with inner := inner }
  | saved {key : PolicyKey} {policy stored : Policy} {inner : σ}
      (loaded : (store.save key policy).on cache.inner = (.ok stored, inner)) :
      Step cache (.save key policy) (.ok (.saved stored))
        ({ cache with inner := inner, generation := cache.generation + 1 }.invalidate key)
  | dropped {key : PolicyKey} : Step cache (.invalidate key) (.ok .done) (cache.invalidate key)
  | cleared : Step cache .invalidateAll (.ok .done) cache.invalidateAll

/-- A look-up that is answered here, or else handed on, answered and perhaps remembered. -/
theorem step_find : Step store lifetime clock cache (.find key)
    (((CacheRequest.find key).onCache store lifetime clock).on cache).1
    (((CacheRequest.find key).onCache store lifetime clock).on cache).2 := by
  rw [CacheRequest.onCache]
  cases remembered : cache.remembered? key (clock cache.lookups) with
  | some policy =>
    have found : ((Cache.store store lifetime clock).find key).on cache = _ :=
      find_of_remembered remembered
    rw [Action.on_bind_of_ok found]
    exact .hit remembered
  | none =>
    rcases loaded : (store.find key).on cache.inner with ⟨failure | policy, inner⟩
    · have found : ((Cache.store store lifetime clock).find key).on cache = _ :=
        find_of_failed remembered loaded
      rw [Action.on_bind_of_error found]
      exact .failed remembered loaded
    -- Nobody works on the cache meanwhile, so the generation is still the one of the look-up.
    cases lasting : lifetime.isPositive with
    | false =>
      have fill : (cache.missed inner).remember lifetime (clock cache.lookups) cache.generation key
          policy = .ok (cache.missed inner) := by
        simp [remember, lasting]
      have found : ((Cache.store store lifetime clock).find key).on cache = _ :=
        find_of_filled remembered loaded fill
      rw [Action.on_bind_of_ok found]
      exact .passed remembered loaded lasting
    | true =>
      cases date : (clock cache.lookups).later? lifetime with
      | none =>
        have fill : (cache.missed inner).remember lifetime (clock cache.lookups) cache.generation
            key policy = .error .expiryOutOfRange := by
          simp [remember, missed, lasting, date]
        have found : ((Cache.store store lifetime clock).find key).on cache = _ :=
          find_of_undated remembered loaded fill
        rw [Action.on_bind_of_error found]
        exact .undated remembered loaded lasting date
      | some expires =>
        have fill : (cache.missed inner).remember lifetime (clock cache.lookups) cache.generation
            key policy = .ok { cache.missed inner with
              entries := cache.entries.insert key ⟨policy, expires⟩ } := by
          simp [remember, missed, lasting, date]
        have found : ((Cache.store store lifetime clock).find key).on cache = _ :=
          find_of_filled remembered loaded fill
        rw [Action.on_bind_of_ok found]
        exact .filled remembered loaded lasting date

theorem step_onCache (request : CacheRequest) : Step store lifetime clock cache request
    ((request.onCache store lifetime clock).on cache).1
    ((request.onCache store lifetime clock).on cache).2 := by
  cases request with
  | find key => exact step_find
  | save key policy =>
    rw [CacheRequest.onCache]
    rcases loaded : (store.save key policy).on cache.inner with ⟨failure | stored, inner⟩
    · have refused : ((Cache.store store lifetime clock).save key policy).on cache =
          (.error failure, { cache with inner := inner }) := by
        simp only [Cache.store, save, Action.on_of, loaded]
      rw [Action.on_bind_of_error refused]
      exact .refused loaded
    · have saved : ((Cache.store store lifetime clock).save key policy).on cache = (.ok stored,
          { cache with inner := inner, generation := cache.generation + 1 }.invalidate key) := by
        simp only [Cache.store, save, Action.on_of, loaded]
      rw [Action.on_bind_of_ok saved]
      exact .saved loaded
  | invalidate key => exact .dropped
  | invalidateAll => exact .cleared

/-- An entry that is there after a request was there before, or the request found it. -/
theorem Step.get?_entries (step : Step store lifetime clock cache request reply next)
    {entry : CacheEntry} (held : next.entries.get? key = some entry) :
    cache.entries.get? key = some entry ∨
      request = .find key ∧ reply = .ok (.found entry.policy) := by
  cases step with
  | filled forgotten loaded lasting date =>
    rw [OrderedMap.get?_insert] at held
    split at held
    · next same =>
      cases held
      exact .inr ⟨by rw [same], rfl⟩
    · exact .inl held
  | saved loaded =>
    have before := get?_of_get?_invalidate held
    exact .inl before
  | dropped => exact .inl (get?_of_get?_invalidate held)
  | cleared => cases held
  | _ => exact .inl held

/-! ## Runs of requests -/

/-- What a run of requests leaves as an entry was there before, or was found by a look-up of the
run. -/
theorem get?_replies (requests : List CacheRequest) {entry : CacheEntry}
    (held : (Action.replies (CacheRequest.onCache store lifetime clock) requests
      cache).2.entries.get? key = some entry) :
    cache.entries.get? key = some entry ∨
      (CacheRequest.find key, .ok (.found entry.policy)) ∈ requests.zip
        (Action.replies (CacheRequest.onCache store lifetime clock) requests cache).1 := by
  induction requests generalizing cache with
  | nil => exact .inl held
  | cons request rest ih =>
    rw [Action.replies_cons] at held ⊢
    rw [List.zip_cons_cons, List.mem_cons]
    rcases ih held with before | later
    · rcases (step_onCache request).get?_entries before with before | ⟨same, found⟩
      · exact .inl before
      · rw [← found, same]
        exact .inr (.inl rfl)
    · exact .inr (.inr later)

variable (store lifetime clock) in
/-- A failure of the store behind the cache reaches the caller, and leaves no trace among the
entries. -/
structure PassesFailures : Prop where
  load : ∀ cache key failure inner, cache.remembered? key (clock cache.lookups) = none →
    (store.find key).on cache.inner = (.error failure, inner) →
    ∃ next, ((Cache.store store lifetime clock).find key).on cache = (.error failure, next) ∧
      next.entries = cache.entries
  save : ∀ cache key policy failure inner,
    (store.save key policy).on cache.inner = (.error failure, inner) →
    ∃ next, ((Cache.store store lifetime clock).save key policy).on cache =
        (.error failure, next) ∧
      next.entries = cache.entries
  answered : ∀ requests inner key entry,
    (Action.replies (CacheRequest.onCache store lifetime clock) requests
      (around inner)).2.entries.get? key = some entry →
    (CacheRequest.find key, .ok (.found entry.policy)) ∈ requests.zip
      (Action.replies (CacheRequest.onCache store lifetime clock) requests (around inner)).1

variable (store lifetime clock) in
theorem passesFailures : PassesFailures store lifetime clock where
  load cache key failure inner forgotten failed := by
    have handed : (find store lifetime clock id key).on cache = _ :=
      find_of_failed forgotten failed
    exact ⟨_, handed, rfl⟩
  save cache key policy failure inner failed := by
    have handed : (save store key policy).on cache =
        (.error failure, { cache with inner := inner }) := by
      rw [save, Action.on_of, failed]
    exact ⟨_, handed, rfl⟩
  answered requests inner key entry held := by
    rcases get?_replies requests held with before | found
    · cases before
    · exact found

end PolicyTree.Cache
