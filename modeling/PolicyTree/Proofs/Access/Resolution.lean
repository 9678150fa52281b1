import PolicyTree.Proofs.Access.Reading
import PolicyTree.Proofs.Resource.Construction
import PolicyTree.Proofs.Rules.Merge
import PolicyTree.Proofs.Store.Failure
import PolicyTree.Rule.Builtin
/-
  Resolution against what a store holds. Every state of a store in which no look-up fails
  comes down to one function `held` from keys to policies; `governing` lists the policies it
  gives a resource, and `applicableRules_exact` says that resolution answers with exactly
  their merge, or with nothing when there is none.
-/
namespace PolicyTree.Resolution

variable {σ : Type}

/-! ## The policies of a resource -/

variable (held : PolicyKey → Option Policy)

/-- The policies on the nodes of a chain of parents, the root first. -/
def chainPolicies (resource : Resource) : List Policy :=
  resource.lineage.filterMap fun node => held (.resource node.id)

/-- The policy of a data type; the empty name has none. -/
def policyOfType (typeName : String) : Option Policy :=
  if typeName = "" then none else held (.type typeName)

/-- The policies whose rules are merged: those of the chain, and behind them, at the level of
resources, that of the data type. -/
def governing (level : Level) (resource : Resource) (typeName : String) : List Policy :=
  match level with
  | .resource => chainPolicies held resource ++ (policyOfType held typeName).toList
  | .record => chainPolicies held resource

/-- No policy is found, neither on the chain nor for the data type. -/
def Ungoverned (resource : Resource) (typeName : String) : Prop :=
  (∀ node ∈ resource.lineage, held (.resource node.id) = none) ∧
    (typeName = "" ∨ held (.type typeName) = none)

/-- The key of a data type; the empty name is not looked up. -/
def typeKeys (typeName : String) : List PolicyKey :=
  if typeName = "" then [] else [.type typeName]

/-- The keys that are looked up for a resource: those of its chain, the root first, and then
that of the data type. -/
def lookups (resource : Resource) (typeName : String) : List PolicyKey :=
  chainKeys resource.lineage ++ typeKeys typeName

variable {held}

theorem chainPolicies_eq_nil_iff {resource : Resource} :
    chainPolicies held resource = [] ↔
      ∀ node ∈ resource.lineage, held (.resource node.id) = none :=
  List.filterMap_eq_nil_iff

theorem policyOfType_eq_none_iff {typeName : String} :
    policyOfType held typeName = none ↔ typeName = "" ∨ held (.type typeName) = none := by
  unfold policyOfType
  split
  · next h => simp [h]
  · next h => simp [h]

variable (held) in
/-- What the policies found come to: nothing, or their rules merged. -/
theorem merged_eq (level : Level) (resource : Resource) (typeName : String) :
    merged level (chainPolicies held resource) (policyOfType held typeName) = none ∧
        Ungoverned held resource typeName ∨
      merged level (chainPolicies held resource) (policyOfType held typeName) =
          some (.mergeAll ((governing held level resource typeName).map (·.rules level))) ∧
        ¬ Ungoverned held resource typeName := by
  unfold Ungoverned
  rw [← chainPolicies_eq_nil_iff, ← policyOfType_eq_none_iff, merged]
  by_cases h : chainPolicies held resource = [] ∧ policyOfType held typeName = none
  · left
    simp [h]
  · right
    refine ⟨?_, h⟩
    rw [if_neg (by simpa using h)]
    cases level <;> simp [governing, Level.takesTypeRules]

/-! ## What resolution answers -/

theorem typePolicy_answering_eq (reply : PolicyKey → Except Failure (Option Policy))
    (typeName : String) :
    (typePolicy (.answering reply) typeName).on () =
      (match Store.firstFailure? reply (typeKeys typeName) with
        | some failure => .error failure
        | none => .ok (policyOfType (Store.found? reply) typeName), ()) := by
  unfold typePolicy typeKeys policyOfType
  split
  · rfl
  · show (reply (.type typeName), ()) = _
    unfold Store.firstFailure? Store.failure? Store.found?
    rw [List.findSome?_singleton]
    cases reply (.type typeName) <;> rfl

/-- Resolution looks a chain and a data type up, and fails as the first look-up that does. -/
theorem applicableRules_answering_eq (reply : PolicyKey → Except Failure (Option Policy))
    {resource : Resource} (fits : resource.depth < maxChain) (level : Level) (typeName : String) :
    (applicableRules (.answering reply) level resource typeName).on () =
      (match Store.firstFailure? reply (lookups resource typeName) with
        | some failure => .error failure
        | none => .ok (merged level (chainPolicies (Store.found? reply) resource)
            (policyOfType (Store.found? reply) typeName)), ()) := by
  have chain : (Action.ofModel resource.chain : Action Unit _).on () =
      (.ok resource.lineage, ()) := by
    rw [Resource.chain_eq_of_depth_lt fits]
    rfl
  have onChain := Store.findAll_answering_eq reply (chainKeys resource.lineage)
  have ofType := typePolicy_answering_eq reply typeName
  have keys : (chainKeys resource.lineage).filterMap (Store.found? reply) =
      chainPolicies (Store.found? reply) resource := by
    rw [chainKeys, List.filterMap_map]
    rfl
  rw [applicableRules, Action.on_bind_of_ok chain, lookups, Store.firstFailure?_append]
  cases early : Store.firstFailure? reply (chainKeys resource.lineage) with
  | some failure =>
    rw [early] at onChain
    rw [Action.on_bind_of_error onChain]
    rfl
  | none =>
    rw [early] at onChain
    rw [Action.on_bind_of_ok onChain, keys, Option.none_or]
    cases late : Store.firstFailure? reply (typeKeys typeName) with
    | some failure =>
      rw [late] at ofType
      rw [Action.on_bind_of_error ofType]
    | none =>
      rw [late] at ofType
      rw [Action.on_bind_of_ok ofType]
      rfl

theorem applicableRules_answering {resource : Resource} (fits : resource.depth < maxChain)
    (level : Level) (typeName : String) :
    (applicableRules (.answering fun key => .ok (held key)) level resource typeName).on () =
      (.ok (merged level (chainPolicies held resource) (policyOfType held typeName)), ()) := by
  rw [applicableRules_answering_eq _ fits, Store.firstFailure?_ok, Store.found?_ok]

/-- Over a state that holds `held`, resolution merges what `held` gives the resource. -/
theorem applicableRules_of_holds {store : Store σ} {state : σ} (holds : store.Holds state held)
    {resource : Resource} (fits : resource.depth < maxChain) (level : Level) (typeName : String) :
    ∃ next, (applicableRules store level resource typeName).on state =
        (.ok (merged level (chainPolicies held resource) (policyOfType held typeName)), next) ∧
      store.Holds next held :=
  holds.of_simulates (fun _ h => applicableRules_simulates h level resource typeName)
    (applicableRules_answering fits level typeName)

theorem merged_eq_none_iff {level : Level} {resource : Resource} {typeName : String} :
    merged level (chainPolicies held resource) (policyOfType held typeName) = none ↔
      Ungoverned held resource typeName := by
  rcases merged_eq held level resource typeName with ⟨eq, no⟩ | ⟨eq, some⟩
  · exact iff_of_true eq no
  · exact iff_of_false (by simp [eq]) some

theorem isMergeOf_of_merged {level : Level} {resource : Resource} {typeName : String}
    {rules : Rules level.Subject}
    (h : merged level (chainPolicies held resource) (policyOfType held typeName) = some rules) :
    rules.IsMergeOf ((governing held level resource typeName).map (·.rules level)) := by
  rcases merged_eq held level resource typeName with ⟨eq, -⟩ | ⟨eq, -⟩
  · rw [eq] at h
    cases h
  · rw [eq] at h
    cases h
    exact Rules.mergeAll_isMergeOf _

/-- The policies that are merged were found. -/
theorem mem_governing {level : Level} {resource : Resource} {typeName : String} {policy : Policy}
    (h : policy ∈ governing held level resource typeName) : ∃ key, held key = some policy := by
  have onChain : policy ∈ chainPolicies held resource → ∃ key, held key = some policy := by
    intro h
    obtain ⟨node, -, found⟩ := List.mem_filterMap.1 h
    exact ⟨_, found⟩
  cases level with
  | record => exact onChain h
  | resource =>
    rcases List.mem_append.1 h with h | h
    · exact onChain h
    · rw [Option.mem_toList, policyOfType] at h
      split at h
      · cases h
      · exact ⟨_, h⟩

/-- The last definition of a name stands in a policy that was found. -/
theorem exists_policy_of_lastDefinition (level : Level) (resource : Resource)
    (typeName : String) {name : String} {rule : Rule level.Subject}
    (last : Rules.lastDefinition ((governing held level resource typeName).map (·.rules level))
      name = some rule) :
    ∃ key policy, held key = some policy ∧ (policy.rules level).get? name = some rule := by
  obtain ⟨own, mem, set⟩ := List.mem_filterMap.1 (List.mem_of_getLast? last)
  obtain ⟨policy, governs, rfl⟩ := List.mem_map.1 mem
  obtain ⟨key, found⟩ := mem_governing governs
  exact ⟨key, policy, found, set⟩

/-- Each of the merged rules stands in a policy that was found. -/
theorem exists_policy_of_merged {level : Level} {resource : Resource} {typeName : String}
    {rules : Rules level.Subject}
    (h : merged level (chainPolicies held resource) (policyOfType held typeName) = some rules)
    {name : String} {rule : Rule level.Subject} (defined : rules.get? name = some rule) :
    ∃ key policy, held key = some policy ∧ (policy.rules level).get? name = some rule := by
  rw [(isMergeOf_of_merged h).get?] at defined
  exact exists_policy_of_lastDefinition level resource typeName defined

/-- At the level of records a policy of the type turns no answer into the empty one, and
leaves every other answer as it is. -/
theorem merged_record (onChain : List Policy) (ofType : Option Policy) :
    (∀ rules, merged .record onChain none = some rules →
        merged .record onChain ofType = some rules) ∧
      (merged .record onChain none = none →
        ∀ rules, merged .record onChain ofType = some rules → rules = .empty) := by
  have overlay : Level.takesTypeRules .record = false := rfl
  cases onChain with
  | nil =>
    refine ⟨fun rules h => by simp [merged] at h, fun _ rules h => ?_⟩
    cases ofType with
    | none => simp [merged] at h
    | some policy =>
      simp only [merged, overlay] at h
      cases h
      rfl
  | cons policy rest =>
    refine ⟨fun rules h => ?_, fun h => by simp [merged] at h⟩
    rw [← h]
    simp [merged, overlay]

/-- Resolution answers with the exact merge of the policies found: a name where it is defined
first, under it the rule defined last, and every contribution in the message. It has no answer
only when no policy is found, and the policy of a data type adds rules only at the level of
resources. -/
theorem applicableRules_exact (store : Store σ) (state : σ) (held : PolicyKey → Option Policy)
    (holds : store.Holds state held) (resource : Resource)
    (constructible : resource.Constructible) (typeName : String) (level : Level) :
    (∃ answer next, (applicableRules store level resource typeName).on state =
        (.ok answer, next) ∧
      store.Holds next held ∧
      (answer = none ↔
        (∀ node ∈ resource.lineage, held (.resource node.id) = none) ∧
          (typeName = "" ∨ held (.type typeName) = none)) ∧
      ∀ rules, answer = some rules →
        rules.IsMergeOf ((governing held level resource typeName).map (·.rules level))) ∧
    ∃ bare full next next',
      (applicableRules store .record resource "").on state = (.ok bare, next) ∧
      (applicableRules store .record resource typeName).on state = (.ok full, next') ∧
      (∀ rules, bare = some rules → full = some rules) ∧
      (bare = none → ∀ rules, full = some rules → rules = .empty) := by
  have fits := constructible.depth_lt
  constructor
  · obtain ⟨next, run, after⟩ := applicableRules_of_holds holds fits level typeName
    exact ⟨_, next, run, after, merged_eq_none_iff, fun _ h => isMergeOf_of_merged h⟩
  · obtain ⟨next, run, -⟩ := applicableRules_of_holds holds fits .record ""
    obtain ⟨next', run', -⟩ := applicableRules_of_holds holds fits .record typeName
    obtain ⟨keep, fill⟩ :=
      merged_record (chainPolicies held resource) (policyOfType held typeName)
    exact ⟨_, _, next, next', run, run', keep, fill⟩

/-! ## A file below one root -/

namespace Sample

def root : Resource := .system "/file"

def file : Resource := .leaf "/file/a.txt" root "T" "txt" none

/-- A policy with a gate under each name. -/
def policy (gates : List (String × Gate)) : Policy :=
  gates.foldl (fun policy gate => policy.withResourceRule gate.1 ⟨0, gate.2.judge⟩)
    (.ofOwner default)

/-- The file replaces the rule `shared` of the root. -/
def memory : Memory :=
  ((Memory.empty.put (.resource "/file") (policy [("shared", .role "staff"), ("open", .pass)])).put
    (.resource "/file/a.txt") (policy [("shared", .purpose "audit")])).put
    (.type "T") (policy [("typed", .auth "key")])

theorem file_constructible : file.Constructible := by
  have built : Resource.leaf? "/file/a.txt" root (some "T") (some "txt") none = .ok file := rfl
  exact .leaf (.system "/file") built

end Sample

open Sample in
/-- The replaced rule keeps its place and its contribution, and the rule of the type comes
last. -/
theorem applicableRules_exact_file :
    Memory.store.Holds memory memory.get? ∧ file.Constructible ∧
      ∃ rules next, (applicableRules Memory.store .resource file "T").on memory =
          (.ok (some rules), next) ∧
        rules.names = ["shared", "open", "typed"] ∧
        rules.message = "shared, open, shared, typed" := by
  refine ⟨memory.holds, file_constructible, ?_⟩
  obtain ⟨⟨answer, next, run, -, none_iff, merge⟩, -⟩ :=
    applicableRules_exact Memory.store memory memory.get? memory.holds file file_constructible "T"
      .resource
  cases answer with
  | none =>
    have unheld := (none_iff.1 rfl).1 root (by simp [file, Resource.lineage, Resource.ancestors])
    exact absurd unheld (Option.some_ne_none _)
  | some rules =>
    refine ⟨rules, next, run, (merge rules rfl).names.trans ?_, (merge rules rfl).message.trans ?_⟩
    · rfl
    · rfl

end PolicyTree.Resolution
