import PolicyTree.Proofs.Access.Denial
import PolicyTree.Proofs.Access.Specificity
import PolicyTree.Proofs.Rules.Decomposition
/-
  The policy of a data type on top of those of the chain. It is merged last, so where its names are
  fresh its rules run behind those of the chain, on what came through them: a resource that the
  chain denies stays denied by the same rule, and one that it allows has yet to pass the rules of
  the type (`merges_decompose`).
-/
namespace PolicyTree

namespace Resolution

variable {held : PolicyKey → Option Policy} {resource : Resource}

/-! ## The last policy of a merge -/

/-- On top of policies of the chain the policy of a data type is one more merge. -/
theorem merged_resource_some {onChain : List Policy} (found : onChain ≠ []) (policy : Policy) :
    ∃ own, merged .resource onChain none = some own ∧
      own.IsMergeOf (onChain.map (·.resourceRules)) ∧
      merged .resource onChain (some policy) = some (own.merge policy.resourceRules) := by
  have some_found : onChain.isEmpty = false := by simpa using found
  refine ⟨.mergeAll (onChain.map (·.rules .resource)), ?_, Rules.mergeAll_isMergeOf _, ?_⟩
  · simp [merged, some_found, Level.takesTypeRules]
  · have last : Rules.mergeAll ((onChain ++ [policy]).map (·.rules .resource)) =
        (Rules.mergeAll (onChain.map (·.rules .resource))).merge policy.resourceRules := by
      rw [List.map_append, List.map_singleton, Rules.mergeAll_concat]
      rfl
    have overlay : Level.takesTypeRules .resource = true := rfl
    rw [merged, some_found, overlay, ← last]
    rfl

variable (held resource) in
/-- No policy of the chain defines a name that the rules define. -/
def Fresh (rules : Rules Resource) : Prop :=
  ∀ node ∈ resource.lineage, ∀ policy, held (.resource node.id) = some policy →
    ∀ name ∈ rules.names, name ∉ policy.resourceRules.names

theorem Fresh.apart {rules own : Rules Resource} (fresh : Fresh held resource rules)
    (merge : own.IsMergeOf ((chainPolicies held resource).map (·.resourceRules))) :
    own.Apart rules := by
  intro name defined again
  rw [merge.names, List.mem_eraseDups, Rules.definedNames, List.mem_flatMap] at again
  obtain ⟨_, mem, set⟩ := again
  obtain ⟨policy, onChain, rfl⟩ := List.mem_map.1 mem
  obtain ⟨node, above, found⟩ := List.mem_filterMap.1 onChain
  exact fresh node above policy found name defined set

end Resolution

namespace Access

open Resolution (applicableRules chainPolicies policyOfType Fresh)

variable {σ : Type} {held : PolicyKey → Option Policy} {resource : Resource} {typeName : String}

/-! ## Checks with a policy of the type -/

/-- The policy of a data type acts on a resource behind what its chain resolves to. -/
structure ActsBehind (store : Store σ) (state : σ) (resource : Resource) (typeName : String)
    (policy : Policy) (own full : Rules Resource) (next : σ) : Prop where
  resolved : ∃ after,
    (applicableRules store .resource resource "").on state = (.ok (some own), after)
  resolved_typed :
    (applicableRules store .resource resource typeName).on state = (.ok (some full), next)
  evaluate : ∀ value user context, full.evaluate value user context =
    (own.evaluate value user context).andThen fun reached =>
      policy.resourceRules.evaluate reached user context
  denied : ∀ value user context name, own.evaluate value user context = .denied name →
    full.evaluate value user context = .denied name
  check : typeName = resource.typeName → ∀ user context,
    (check store user context resource).on state =
      (Decision.ofOutcome resource.id ((own.evaluate resource user context).andThen fun reached =>
        policy.resourceRules.evaluate reached user context), next)
  check_denied : typeName = resource.typeName → ∀ user context name,
    own.evaluate resource user context = .denied name →
      (Access.check store user context resource).on state =
        (.ok (.deny (.byRule resource.id name)), next)

/-- Where the chain has a policy, one of the data type with fresh names acts behind it. -/
theorem exists_actsBehind {store : Store σ} {state : σ} {policy : Policy}
    (holds : store.Holds state held)
    (constructible : resource.Constructible) (named : typeName ≠ "")
    (typed : held (.type typeName) = some policy)
    (policed : ∃ node ∈ resource.lineage, held (.resource node.id) ≠ none)
    (fresh : Fresh held resource policy.resourceRules) :
    ∃ own full next, ActsBehind store state resource typeName policy own full next := by
  have fits := constructible.depth_lt
  have ofType : policyOfType held typeName = some policy := by
    rw [policyOfType, if_neg named, typed]
  have onChain : chainPolicies held resource ≠ [] := by
    rw [ne_eq, Resolution.chainPolicies_eq_nil_iff]
    intro none_held
    obtain ⟨node, above, found⟩ := policed
    exact found (none_held node above)
  obtain ⟨own, bare, merge, all⟩ := Resolution.merged_resource_some onChain policy
  have apart := fresh.apart merge
  obtain ⟨after, run, -⟩ := Resolution.applicableRules_of_holds holds fits .resource ""
  obtain ⟨next, run', -⟩ := Resolution.applicableRules_of_holds holds fits .resource typeName
  have untyped : policyOfType held "" = none := rfl
  rw [untyped, bare] at run
  rw [ofType, all] at run'
  have evaluate := Rules.evaluate_merge_of_apart apart
  have checked : typeName = resource.typeName → ∀ user context,
      (Access.check store user context resource).on state =
        (Decision.ofOutcome resource.id
          ((own.merge policy.resourceRules).evaluate resource user context), next) := by
    rintro rfl user context
    exact check_of_resolved run'
  refine ⟨own, own.merge policy.resourceRules, next, ⟨after, run⟩, run', evaluate,
    fun value user context name => Rules.evaluate_merge_of_denied apart, ?_, ?_⟩
  · intro own_type user context
    rw [checked own_type, evaluate]
  · intro own_type user context name denied
    rw [checked own_type, Rules.evaluate_merge_of_denied apart denied]
    rfl

/-- A value runs through a merge as through its two parts. So a policy of a data type with fresh
names, which is merged last, acts on a resource behind the policies of its chain, and does not let
through what these deny. -/
theorem merges_decompose :
    (∀ (α : Type) (rules other : Rules α), rules.Decomposes other) ∧
    ∀ (σ : Type) (store : Store σ) (state : σ) (held : PolicyKey → Option Policy),
      store.Holds state held → ∀ resource : Resource, resource.Constructible →
      ∀ typeName policy, typeName ≠ "" → held (.type typeName) = some policy →
        (∃ node ∈ resource.lineage, held (.resource node.id) ≠ none) →
        Fresh held resource policy.resourceRules →
        ∃ own full next, ActsBehind store state resource typeName policy own full next :=
  ⟨fun _ => Rules.decomposes, fun _ _ _ _ holds _ constructible _ _ =>
    exists_actsBehind holds constructible⟩

open Resolution.Sample in
/-- The policy of the type of the file has a name of its own. It denies what the chain allows, and
what the chain denies stays denied. -/
theorem merges_decompose_file :
    Memory.store.Holds memory memory.get? ∧ file.Constructible ∧
      (∃ node ∈ file.lineage, memory.get? (.resource node.id) ≠ none) ∧
      Fresh memory.get? file (policy [("typed", .auth "key")]).resourceRules ∧
      (check Memory.store (.named "u") (.ofPurpose "audit") file).on memory =
        (.ok (.deny (.byRule file.id "typed")), memory) ∧
      (check Memory.store (.named "u") (.ofPurpose "research") file).on memory =
        (.ok (.deny (.byRule file.id "shared")), memory) := by
  have policed : ∃ node ∈ file.lineage, memory.get? (.resource node.id) ≠ none :=
    ⟨root, by simp [file, Resource.lineage, Resource.ancestors], Option.some_ne_none _⟩
  have fresh : Fresh memory.get? file (policy [("typed", .auth "key")]).resourceRules := by
    have names : (policy [("typed", .auth "key")]).resourceRules.names = ["typed"] := rfl
    intro node above other found name defined
    rw [names, List.mem_singleton] at defined
    subst defined
    have nodes : node = root ∨ node = file := by
      simpa [file, root, Resource.lineage, Resource.ancestors] using above
    rcases nodes with rfl | rfl
    · cases found
      decide
    · cases found
      decide
  obtain ⟨own, full, next, behind⟩ := merges_decompose.2 Memory Memory.store memory memory.get?
    memory.holds file file_constructible "T" _ (by decide) rfl policed fresh
  obtain ⟨after, run⟩ := behind.resolved
  cases run
  have last := behind.resolved_typed
  cases last
  exact ⟨memory.holds, file_constructible, policed, fresh, behind.check rfl _ _,
    behind.check_denied rfl _ _ "shared" rfl⟩

end Access

end PolicyTree
