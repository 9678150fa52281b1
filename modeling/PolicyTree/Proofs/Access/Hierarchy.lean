import PolicyTree.Access.Basic
import PolicyTree.Proofs.Resource.Lineage
import PolicyTree.Proofs.Store.Failure
/-
  Trees of resources never stand in the way of an answer. The chain of a constructible resource
  is always well formed, so over a store that reports no more than its own errors neither
  resolution nor a check of access finds anything wrong with it (`check_failsWithin`).

  The constructors refuse no more than this needs: a resource takes a child exactly if it is no
  leaf and its chain has room (`constructible_exact`).
-/
namespace PolicyTree

variable {σ : Type} {resource : Resource}

/-- If the failure is an error that is reported, the place where policies are kept is at fault. -/
def Failure.OfStorage (failure : Failure) : Prop :=
  ∀ error, failure = .refused error → ∃ cause, error = .storage cause

theorem Failure.OfStorage.isMalformedHierarchy {error : PolicyError}
    (h : (Failure.refused error).OfStorage) : error.isMalformedHierarchy = false := by
  obtain ⟨cause, rfl⟩ := h error rfl
  rfl

/-! ## What questions fail with -/

theorem Resolution.applicableRules_failsWithin {sort : Failure → Prop} {store : Store σ}
    (h : store.FailsWithin sort) (constructible : resource.Constructible) (level : Level)
    (typeName : String) : (applicableRules store level resource typeName).FailsWithin sort := by
  have chain : (Action.ofModel resource.chain : Action σ _).FailsWithin sort := by
    rw [constructible.chain_eq]
    exact .ofExcept nofun
  have ofType : (typePolicy store typeName).FailsWithin sort := by
    unfold typePolicy
    split
    · exact .pure none
    · exact h _
  exact chain.bind fun _ => (h.findAll _).bind fun _ => ofType.bind fun _ => .pure _

theorem Access.check_failsWithin {store : Store σ} (h : store.FailsWithin Failure.OfStorage)
    (constructible : resource.Constructible) (user : User) (context : Context) :
    (check store user context resource).FailsWithin Failure.OfStorage := by
  refine (Resolution.applicableRules_failsWithin h constructible _ _).bind fun answer => ?_
  cases answer with
  | none => exact .pure _
  | some rules =>
    refine .ofExcept fun failure failed error reported => ?_
    -- a rule that breaks down reports no error
    subst reported
    cases outcome : rules.evaluate resource user context with
    | allowed value => simp [outcome, Decision.ofOutcome] at failed
    | denied rule => simp [outcome, Decision.ofOutcome] at failed
    | aborted reason => simp [outcome, Decision.ofOutcome] at failed

namespace Resource

/-! ## What the constructors take -/

theorem takesChildren_iff {chain : List Resource} (h : resource.IsChainOf chain) :
    resource.TakesChildren ↔ resource.kind ≠ .leaf ∧ chain.length < 64 := by
  rw [h.length]
  exact Iff.rfl

theorem exists_directory?_iff (id : String) :
    (∃ r, directory? id resource = .ok r) ↔ resource.TakesChildren := by
  simp only [directory?_eq_ok_iff, exists_and_left, exists_eq, and_true]

theorem exists_leaf?_iff (id : String) (type format : Option String)
    (connection : Option Connection) :
    (∃ r, leaf? id resource type format connection = .ok r) ↔ resource.TakesChildren ∧
      (∃ t, type = some t ∧ t ≠ "") ∧ ∃ f, format = some f ∧ f ≠ "" := by
  simp only [leaf?_eq_ok_iff]
  constructor
  · rintro ⟨r, takes, t, f, typed, t_ne, formatted, f_ne, -⟩
    exact ⟨takes, ⟨t, typed, t_ne⟩, f, formatted, f_ne⟩
  · rintro ⟨takes, ⟨t, typed, t_ne⟩, f, formatted, f_ne⟩
    exact ⟨_, takes, t, f, typed, t_ne, formatted, f_ne, rfl⟩

/-- Every resource that the constructors yield has a well-formed chain, and they yield a node
below it exactly if it is no leaf and the chain has room; a leaf must have a type and a format
too. No error about the tree is ever reported for such a resource. -/
theorem constructible_exact (resource : Resource) (constructible : resource.Constructible) :
    (∃ chain, resource.chain = .ok chain ∧ resource.IsChainOf chain ∧
      (∀ id, (∃ r, directory? id resource = .ok r) ↔
        resource.kind ≠ .leaf ∧ chain.length < 64) ∧
      ∀ id type format connection,
        (∃ r, leaf? id resource type format connection = .ok r) ↔
          (resource.kind ≠ .leaf ∧ chain.length < 64) ∧
            (∃ t, type = some t ∧ t ≠ "") ∧ ∃ f, format = some f ∧ f ≠ "") ∧
    ∀ (σ : Type) (store : Store σ), store.FailsWithin Failure.OfStorage → ∀ state error,
      (∀ level typeName,
        ((Resolution.applicableRules store level resource typeName).on state).1 =
          .error (.refused error) → error.isMalformedHierarchy = false) ∧
      ∀ user context, ((Access.check store user context resource).on state).1 =
        .error (.refused error) → error.isMalformedHierarchy = false := by
  have chain := constructible.isChainOf
  constructor
  · refine ⟨resource.lineage, constructible.chain_eq, chain, fun id => ?_,
      fun id type format connection => ?_⟩
    · rw [exists_directory?_iff, takesChildren_iff chain]
    · rw [exists_leaf?_iff, takesChildren_iff chain]
  · intro σ store ofStorage state error
    constructor
    · intro level typeName failed
      exact (Resolution.applicableRules_failsWithin ofStorage constructible level typeName state _
        failed).isMalformedHierarchy
    · intro user context failed
      exact (Access.check_failsWithin ofStorage constructible user context state _
        failed).isMalformedHierarchy

/-! ## The longest chains -/

namespace Sample

/-- So many directories below one another in a system. -/
def tower : Nat → Resource
  | 0 => .system "s"
  | n + 1 => .directory "d" (tower n)

theorem depth_tower (n : Nat) : (tower n).depth = n := by
  induction n with
  | zero => rfl
  | succ n ih =>
    have above : (tower (n + 1)).parent? = some (tower n) := rfl
    rw [depth_of_parent above, ih]

theorem tower_constructible {n : Nat} (h : n < 64) : (tower n).Constructible := by
  induction n with
  | zero => exact .system "s"
  | succ n ih =>
    have inner : (tower n).kind ≠ .leaf := by cases n <;> nofun
    have takes : (tower n).TakesChildren := by
      refine ⟨inner, ?_⟩
      rw [depth_tower]
      exact h
    exact .directory (ih (by omega)) (directory?_eq_ok_iff.2 ⟨takes, rfl⟩)

end Sample

open Sample in
/-- The last directory has a chain of 64 nodes and takes no other; the one above it takes a
leaf. -/
theorem constructible_exact_tower :
    (tower 62).Constructible ∧ (tower 63).Constructible ∧
      (∃ chain, (tower 63).chain = .ok chain ∧ chain.length = 64) ∧
      (¬ ∃ r, directory? "x" (tower 63) = .ok r) ∧
      (∃ r, leaf? "x" (tower 62) (some "T") (some "txt") none = .ok r) ∧
      Memory.store.FailsWithin Failure.OfStorage ∧ ∀ error,
        ((Resolution.applicableRules Memory.store .record (tower 63) "T").on .empty).1 =
          .error (.refused error) → error.isMalformedHierarchy = false := by
  have upper := tower_constructible (n := 62) (by decide)
  have last := tower_constructible (n := 63) (by decide)
  have total : Memory.store.FailsWithin Failure.OfStorage := nofun
  obtain ⟨⟨chain, walked, isChain, directories, -⟩, errors⟩ := constructible_exact (tower 63) last
  obtain ⟨⟨chain', -, isChain', -, leaves⟩, -⟩ := constructible_exact (tower 62) upper
  have full : chain.length = 64 := by
    rw [isChain.length, depth_tower]
  have room : chain'.length < 64 := by
    rw [isChain'.length, depth_tower]
    decide
  refine ⟨upper, last, ⟨chain, walked, full⟩, fun built => ?_, ?_, total, fun error =>
    (errors Memory Memory.store total .empty error).1 .record "T"⟩
  · have short := ((directories "x").1 built).2
    omega
  · refine (leaves "x" (some "T") (some "txt") none).2 ⟨⟨nofun, room⟩, ⟨"T", rfl, ?_⟩, "txt", rfl, ?_⟩
    · decide
    · decide

end Resource

end PolicyTree
