import PolicyTree.Proofs.Access.Resolution
import PolicyTree.Proofs.Resource.Lineage
/-
  Rules gather on the way down. The policies of a node above stand in front of all others of the
  resources below it (`governing_eq_append`), and a merge keeps what is merged first in its place.
  Hence what resolves for the node above comes first in what resolves below it, and a rule is
  replaced only where a policy further down redefines its name (`applicableRules_extended`).
-/
namespace PolicyTree

/-- The rules stand at the front of others, under their names unless these are redefined. -/
structure Rules.ExtendedBy {α : Type} (rules more : Rules α) (redefined : String → Prop) :
    Prop where
  names : rules.names <+: more.names
  contributions : rules.contributions <+: more.contributions
  kept : ∀ name ∈ rules.names, more.get? name = rules.get? name ∨ redefined name

namespace Resolution

variable {σ : Type} {held : PolicyKey → Option Policy} {level : Level} {upper resource : Resource}

/-- A name is defined by a policy of a node below `upper` on the chain of a resource, or, at the
level of resources, by that of the data type. -/
def Redefined (held : PolicyKey → Option Policy) (level : Level) (upper resource : Resource)
    (typeName name : String) : Prop :=
  (∃ node ∈ resource.lineage, upper ∈ node.ancestors ∧
      ∃ policy ∈ held (.resource node.id), name ∈ (policy.rules level).names) ∨
    level = .resource ∧ typeName ≠ "" ∧
      ∃ policy ∈ held (.type typeName), name ∈ (policy.rules level).names

instance (typeName name : String) : Decidable (Redefined held level upper resource typeName name) :=
  inferInstanceAs (Decidable (_ ∨ _))

variable (held) in
/-- A chain is searched from the root, so the policies of a node above come first. -/
theorem chainPolicies_eq_append (above : upper ∈ resource.ancestors) :
    ∃ below, chainPolicies held resource = chainPolicies held upper ++ below ∧
      ∀ policy ∈ below, ∃ node ∈ resource.lineage, upper ∈ node.ancestors ∧
        held (.resource node.id) = some policy := by
  obtain ⟨below, eq, under⟩ := Resource.lineage_eq_append above
  refine ⟨below.filterMap fun node => held (.resource node.id), ?_, fun policy mem => ?_⟩
  · rw [chainPolicies, eq, List.filterMap_append]
    rfl
  · obtain ⟨node, mem, found⟩ := List.mem_filterMap.1 mem
    have onChain : node ∈ resource.lineage := by
      rw [eq]
      exact List.mem_append_right _ mem
    exact ⟨node, onChain, under node mem, found⟩

variable (held level) in
/-- What is merged for a resource is what is merged for a node above it, and then policies that
may redefine names. -/
theorem governing_eq_append (above : upper ∈ resource.ancestors) (typeName : String) :
    ∃ more, governing held level resource typeName = governing held level upper "" ++ more ∧
      ∀ policy ∈ more, ∀ name ∈ (policy.rules level).names,
        Redefined held level upper resource typeName name := by
  obtain ⟨below, eq, under⟩ := chainPolicies_eq_append held above
  have redefined : ∀ policy ∈ below, ∀ name ∈ (policy.rules level).names,
      Redefined held level upper resource typeName name := by
    intro policy mem name defined
    obtain ⟨node, onChain, lower, found⟩ := under policy mem
    exact .inl ⟨node, onChain, lower, policy, found, defined⟩
  cases level with
  | record => exact ⟨below, eq, redefined⟩
  | resource =>
    refine ⟨below ++ (policyOfType held typeName).toList, ?_, ?_⟩
    · have bare : policyOfType held "" = none := rfl
      rw [governing, governing, eq, bare, Option.toList_none, List.append_nil, List.append_assoc]
    · refine List.forall_mem_append.2 ⟨redefined, fun policy typed name defined => ?_⟩
      rw [Option.mem_toList, policyOfType] at typed
      split at typed
      · cases typed
      · next named => exact .inr ⟨rfl, named, policy, typed, defined⟩

theorem ungoverned_of_below (above : upper ∈ resource.ancestors) {typeName : String}
    (none_held : Ungoverned held resource typeName) : Ungoverned held upper "" := by
  obtain ⟨below, eq, -⟩ := Resource.lineage_eq_append above
  refine ⟨fun node mem => none_held.1 node ?_, .inl rfl⟩
  rw [eq]
  exact List.mem_append_left _ mem

theorem merged_extended (above : upper ∈ resource.ancestors) (typeName : String)
    {rules : Rules level.Subject}
    (merge : merged level (chainPolicies held upper) (policyOfType held "") = some rules) :
    ∃ more, merged level (chainPolicies held resource) (policyOfType held typeName) = some more ∧
      rules.ExtendedBy more (Redefined held level upper resource typeName) := by
  cases answer : merged level (chainPolicies held resource) (policyOfType held typeName) with
  | none =>
    -- What is found above is found below, so there is an answer.
    rw [merged_eq_none_iff.2 (ungoverned_of_below above (merged_eq_none_iff.1 answer))] at merge
    cases merge
  | some more =>
    obtain ⟨later, eq, redefined⟩ := governing_eq_append held level above typeName
    have first := isMergeOf_of_merged merge
    have all := isMergeOf_of_merged answer
    rw [eq, List.map_append] at all
    refine ⟨more, rfl, first.names_isPrefix all, first.contributions_isPrefix all,
      fun name _ => or_iff_not_imp_right.2 fun kept => first.get?_eq_of_behind all ?_⟩
    refine List.forall_mem_map.2 fun policy mem => Rules.get?_eq_none_iff.2 fun defined => ?_
    exact kept (redefined policy mem name defined)

/-- Where a node above a resource resolves to rules, the resource does so with any data type, at
whatever state still holds the same, and the rules of the node come first. -/
theorem applicableRules_extended (store : Store σ) (state : σ) (held : PolicyKey → Option Policy)
    (holds : store.Holds state held) (resource : Resource)
    (constructible : resource.Constructible) (upper : Resource)
    (above : upper ∈ resource.ancestors) (level : Level) :
    ∃ answer next, (applicableRules store level upper "").on state = (.ok answer, next) ∧
      store.Holds next held ∧ upper.typeName = "" ∧
      ∀ rules, answer = some rules → ∀ later, store.Holds later held → ∀ typeName,
        ∃ more after, (applicableRules store level resource typeName).on later =
            (.ok (some more), after) ∧
          rules.ExtendedBy more (Redefined held level upper resource typeName) := by
  have fits := constructible.depth_lt
  have upper_fits := (Resource.depth_lt_of_mem_ancestors above).trans fits
  obtain ⟨next, run, after⟩ := applicableRules_of_holds holds upper_fits level ""
  refine ⟨_, next, run, after, constructible.typeName_of_mem_ancestors above, ?_⟩
  intro rules resolved later holds' typeName
  obtain ⟨more, merge, extended⟩ := merged_extended above typeName resolved
  obtain ⟨end', run', -⟩ := applicableRules_of_holds holds' fits level typeName
  rw [merge] at run'
  exact ⟨more, end', run', extended⟩

open Sample in
/-- The rules of the root stand in front of those of the file and its type, which replace one of
them. -/
theorem applicableRules_extended_file :
    Memory.store.Holds memory memory.get? ∧ file.Constructible ∧ root ∈ file.ancestors ∧
      ∃ rules more next after,
        (applicableRules Memory.store .resource root "").on memory = (.ok (some rules), next) ∧
        (applicableRules Memory.store .resource file "T").on memory = (.ok (some more), after) ∧
        rules.names = ["shared", "open"] ∧ rules.names <+: more.names ∧
        more.get? "open" = rules.get? "open" := by
  have above : root ∈ file.ancestors := List.mem_singleton_self _
  obtain ⟨answer, next, run, -, -, extended⟩ := applicableRules_extended Memory.store memory
    memory.get? memory.holds file file_constructible root above .resource
  cases answer with
  | none => cases run
  | some rules =>
    obtain ⟨more, after, run', ext⟩ := extended rules rfl memory memory.holds "T"
    have names : rules.names = ["shared", "open"] := by
      cases run
      rfl
    refine ⟨memory.holds, file_constructible, above, rules, more, next, after, run, run', names,
      ext.names, ?_⟩
    rcases ext.kept "open" (by rw [names]; decide) with same | redefined
    · exact same
    · exact absurd redefined (by decide)

end Resolution

end PolicyTree
