import PolicyTree.Proofs.Store.Simulation
/-
  Look-ups that fail. Steps put together fail only as their parts do (`FailsWithin.bind`), and
  look-ups one after the other fail as the first of them that does (`findAll_answering_eq`).
-/
namespace PolicyTree

variable {σ α β : Type}

/-! ## Steps -/

namespace Action

theorem on_bind_eq_error {action : Action σ α} {next : α → Action σ β} {state : σ}
    {failure : Failure} (h : ((action >>= next).on state).1 = .error failure) :
    (action.on state).1 = .error failure ∨
      ∃ value after, action.on state = (.ok value, after) ∧
        ((next value).on after).1 = .error failure := by
  rcases first : action.on state with ⟨other | value, after⟩
  · rw [on_bind_of_error first] at h
    cases h
    exact .inl rfl
  · rw [on_bind_of_ok first] at h
    exact .inr ⟨value, after, rfl, h⟩

/-- Whichever state the step starts from, it fails only with failures of a sort. -/
def FailsWithin (sort : Failure → Prop) (action : Action σ α) : Prop :=
  ∀ state failure, (action.on state).1 = .error failure → sort failure

variable {sort : Failure → Prop}

theorem FailsWithin.pure (value : α) : (Pure.pure value : Action σ α).FailsWithin sort := nofun

theorem FailsWithin.ofExcept {result : Except Failure α}
    (h : ∀ failure, result = .error failure → sort failure) :
    (Action.ofExcept result : Action σ α).FailsWithin sort :=
  fun _ failure failed => h failure failed

theorem FailsWithin.bind {action : Action σ α} {next : α → Action σ β}
    (first : action.FailsWithin sort) (rest : ∀ value, (next value).FailsWithin sort) :
    (action >>= next).FailsWithin sort := by
  intro state failure failed
  rcases on_bind_eq_error failed with failed | ⟨value, after, -, failed⟩
  · exact first state failure failed
  · exact rest value after failure failed

end Action

namespace Store

/-! ## Look-ups one after the other -/

/-- Every look-up fails only with failures of a sort. -/
def FailsWithin (sort : Failure → Prop) (store : Store σ) : Prop :=
  ∀ key, (store.find key).FailsWithin sort

theorem FailsWithin.findAll {sort : Failure → Prop} {store : Store σ} (h : store.FailsWithin sort)
    (keys : List PolicyKey) : (store.findAll keys).FailsWithin sort := by
  induction keys with
  | nil => exact .pure []
  | cons key keys ih => exact (h key).bind fun _ => ih.bind fun _ => .pure _

section replies

variable {ε : Type} (reply : PolicyKey → Except ε (Option Policy))

/-- What the look-up of a key fails with. -/
def failure? (key : PolicyKey) : Option ε :=
  match reply key with
  | .error failure => some failure
  | .ok _ => none

/-- What the look-up of a key finds. -/
def found? (key : PolicyKey) : Option Policy :=
  match reply key with
  | .error _ => none
  | .ok policy => policy

/-- What the first look-up that fails does so with. -/
def firstFailure? (keys : List PolicyKey) : Option ε := keys.findSome? (failure? reply)

variable {reply}

theorem found?_ok (held : PolicyKey → Option Policy) :
    found? (fun key => (.ok (held key) : Except ε (Option Policy))) = held := rfl

theorem firstFailure?_ok (held : PolicyKey → Option Policy) (keys : List PolicyKey) :
    firstFailure? (fun key => (.ok (held key) : Except ε (Option Policy))) keys = none :=
  List.findSome?_eq_none_iff.2 fun _ _ => rfl

theorem firstFailure?_append (keys more : List PolicyKey) :
    firstFailure? reply (keys ++ more) =
      (firstFailure? reply keys).or (firstFailure? reply more) :=
  List.findSome?_append

theorem failure?_eq_some_iff {key : PolicyKey} {failure : ε} :
    failure? reply key = some failure ↔ reply key = .error failure := by
  unfold failure?
  cases reply key <;> simp

theorem found?_eq_some_iff {key : PolicyKey} {policy : Policy} :
    found? reply key = some policy ↔ reply key = .ok (some policy) := by
  unfold found?
  cases reply key <;> simp

theorem firstFailure?_eq_none_iff {keys : List PolicyKey} :
    firstFailure? reply keys = none ↔ ∀ key ∈ keys, reply key = .ok (found? reply key) := by
  unfold firstFailure? failure? found?
  rw [List.findSome?_eq_none_iff]
  refine forall₂_congr fun key _ => ?_
  cases reply key <;> simp

/-- If a look-up fails, one of those that fail is the first. -/
theorem exists_firstFailure {keys : List PolicyKey} {key : PolicyKey} (mem : key ∈ keys)
    {failure : ε} (failed : reply key = .error failure) :
    ∃ first, firstFailure? reply keys = some first := by
  rw [← Option.ne_none_iff_exists', ne_eq, firstFailure?_eq_none_iff]
  intro found
  rw [found key mem] at failed
  cases failed

end replies

/-- Over the store without a state several look-ups fail as the first one that does. -/
theorem findAll_answering_eq (reply : PolicyKey → Except Failure (Option Policy))
    (keys : List PolicyKey) :
    ((answering reply).findAll keys).on () =
      (match firstFailure? reply keys with
        | some failure => .error failure
        | none => .ok (keys.filterMap (found? reply)), ()) := by
  induction keys with
  | nil => rfl
  | cons key keys ih =>
    rw [findAll]
    cases replied : reply key with
    | error failure =>
      have failed : ((answering reply).find key).on () = (.error failure, ()) := by
        rw [← replied]
        rfl
      have first : firstFailure? reply (key :: keys) = some failure := by
        rw [firstFailure?, List.findSome?_cons, failure?_eq_some_iff.2 replied]
      rw [Action.on_bind_of_error failed, first]
    | ok policy =>
      have found : ((answering reply).find key).on () = (.ok policy, ()) := by
        rw [← replied]
        rfl
      have later : firstFailure? reply (key :: keys) = firstFailure? reply keys := by
        simp [firstFailure?, failure?, replied]
      rw [Action.on_bind_of_ok found, later]
      cases first : firstFailure? reply keys with
      | some failure =>
        rw [first] at ih
        rw [Action.on_bind_of_error ih]
      | none =>
        rw [first] at ih
        rw [Action.on_bind_of_ok ih, Action.on_pure]
        cases policy <;> simp [found?, replied]

/-- Failures of the place where policies are kept, reported as such. -/
def reported (reply : PolicyKey → Except StorageError (Option Policy)) (key : PolicyKey) :
    Except Failure (Option Policy) :=
  (reply key).mapError fun error => .refused (.storage error)

theorem reported_eq_ok_iff {reply : PolicyKey → Except StorageError (Option Policy)}
    {key : PolicyKey} {policy : Option Policy} :
    reported reply key = .ok policy ↔ reply key = .ok policy :=
  mapError_eq_ok_iff

theorem firstFailure?_reported (reply : PolicyKey → Except StorageError (Option Policy))
    (keys : List PolicyKey) :
    firstFailure? (reported reply) keys =
      (firstFailure? reply keys).map fun error => .refused (.storage error) := by
  have each : failure? (reported reply) =
      Option.map (fun error => .refused (.storage error)) ∘ failure? reply := by
    funext key
    unfold failure? reported
    rw [Function.comp_apply]
    cases reply key <;> rfl
  rw [firstFailure?, firstFailure?, List.map_findSome?, each]

/-- The store without a state replies as it is told to. -/
theorem answering_replies (reply : PolicyKey → Except Failure (Option Policy)) :
    (answering reply).Replies () reply :=
  ⟨fun _ => True, trivial, fun _ _ _ => ⟨rfl, trivial⟩⟩

end Store

end PolicyTree
