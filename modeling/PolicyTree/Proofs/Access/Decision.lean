import PolicyTree.Proofs.Access.Resolution
import PolicyTree.Proofs.Rules.Filtering
/-
  What a decision means when no rule transforms a resource. It depends on the last definition
  of each name alone: the resource is allowed as it is if all of them accept it, and else the
  denial names the first of those that do not.

  `decided` is the answer of a check as a function of what the store holds (`check_eq_decided`).
  `Means` states what one decision says; `check_exact` says that every decision meets it, over
  every state of a store in which no look-up fails.
-/
namespace PolicyTree

theorem Decision.ofOutcome_eq_allow_iff {id : String} {outcome : Outcome Resource}
    {value : Resource} : ofOutcome id outcome = .ok (.allow value) ↔ outcome = .allowed value := by
  cases outcome <;> simp [ofOutcome]

namespace Access

variable {σ : Type} {held : PolicyKey → Option Policy} {user : User} {context : Context}
  {resource : Resource}

/-! ## Policies -/

variable (held) in
/-- No policy transforms a resource. -/
def Filtering : Prop := ∀ key policy, held key = some policy → policy.Filters

variable (held) in
/-- No rule about resources breaks down. -/
def Answering : Prop :=
  ∀ key policy, held key = some policy → ∀ name rule,
    policy.resourceRules.get? name = some rule → rule.judge.Answers

variable (held) in
/-- Every rule was made by the registry of the library. -/
def ByLibrary : Prop := ∀ key policy, held key = some policy → policy.MadeBy .builtin

theorem ByLibrary.filtering (library : ByLibrary held) : Filtering held := by
  intro key policy found name rule defined
  obtain ⟨id, params, made⟩ := (library key policy found).resource name rule defined
  exact Registry.builtin_filters made

theorem Filtering.answering (filtering : Filtering held) : Answering held :=
  fun key policy found name rule defined => (filtering key policy found name rule defined).answers

/-! ## Checks -/

variable (held) in
/-- What resolution answers about access to a resource. -/
def accessAnswer (resource : Resource) : Option (Rules Resource) :=
  Resolution.merged .resource (Resolution.chainPolicies held resource)
    (Resolution.policyOfType held resource.typeName)

variable (held user context) in
/-- What a check comes to over a store that holds `held`. -/
def decided (resource : Resource) : Except Failure Decision :=
  match accessAnswer held resource with
  | none => .ok (.deny (.noPolicy resource.id))
  | some rules => Decision.ofOutcome resource.id (rules.evaluate resource user context)

theorem decided_of_none (answer : accessAnswer held resource = none) :
    decided held user context resource = .ok (.deny (.noPolicy resource.id)) := by
  rw [decided, answer]

theorem decided_of_some {rules : Rules Resource}
    (answer : accessAnswer held resource = some rules) :
    decided held user context resource =
      Decision.ofOutcome resource.id (rules.evaluate resource user context) := by
  rw [decided, answer]

/-- The store is looked up in the same way whoever asks. -/
theorem check_eq_decided {store : Store σ} {state : σ} (holds : store.Holds state held)
    (constructible : resource.Constructible) :
    ∃ next, store.Holds next held ∧ ∀ user context,
      (check store user context resource).on state = (decided held user context resource, next) := by
  obtain ⟨next, run, after⟩ := Resolution.applicableRules_of_holds holds constructible.depth_lt
    .resource resource.typeName
  refine ⟨next, after, fun user context => ?_⟩
  rw [check, Action.on_bind_of_ok run, decided, accessAnswer]
  cases Resolution.merged .resource (Resolution.chainPolicies held resource)
    (Resolution.policyOfType held resource.typeName) with
  | none => rfl
  | some rules => rfl

/-- If no rule breaks down there is a decision. -/
theorem exists_decided (answering : Answering held) (user : User) (context : Context)
    (resource : Resource) : ∃ decision, decided held user context resource = .ok decision := by
  cases answer : accessAnswer held resource with
  | none => exact ⟨_, decided_of_none answer⟩
  | some rules =>
    have answers : ∀ entry ∈ rules.rules.entries, entry.2.judge.Answers := by
      rintro ⟨name, rule⟩ mem
      obtain ⟨key, policy, found, defined⟩ :=
        Resolution.exists_policy_of_merged answer (Rules.get?_eq_some_iff.2 mem)
      exact answering key policy found name rule defined
    rw [decided_of_some answer]
    cases outcome : rules.evaluate resource user context with
    | allowed value => exact ⟨_, rfl⟩
    | denied rule => exact ⟨_, rfl⟩
    | aborted reason => exact absurd outcome (Rules.run_ne_aborted answers resource reason)

/-! ## Decisions -/

variable (held) in
/-- The rules that are merged for a resource, of its chain first and of its data type last. -/
def inForce (resource : Resource) : List (Rules Resource) :=
  (Resolution.governing held .resource resource resource.typeName).map (·.resourceRules)

variable (held) in
/-- No node of the chain has a policy, and neither has the data type of a leaf. -/
def Unpoliced (resource : Resource) : Prop :=
  (∀ node ∈ resource.lineage, held (.resource node.id) = none) ∧
    ∀ type, resource.type? = some type → held (.type type) = none

variable (held user context resource) in
/-- What a decision about a resource says. -/
structure Means (decision : Decision) : Prop where
  noPolicy_iff : (∃ reason, decision = .deny reason ∧ reason.code = "no-policy") ↔
    Unpoliced held resource
  allow_iff : ¬ Unpoliced held resource →
    (decision = .allow resource ↔ ∀ name ∈ Rules.definedNames (inForce held resource),
      Rules.NameAccepts (inForce held resource) resource user context name)
  denied : ¬ Unpoliced held resource → decision ≠ .allow resource →
    ∃ reason name, decision = .deny reason ∧ reason.code = "rule-denied" ∧
      reason.rule? = some name ∧
      Rules.FirstDenier (inForce held resource) resource user context name

theorem ungoverned_iff (constructible : resource.Constructible) :
    Resolution.Ungoverned held resource resource.typeName ↔ Unpoliced held resource := by
  unfold Resolution.Ungoverned Unpoliced Resource.typeName
  cases h : resource.type? with
  | none => simp
  | some type =>
    have named := constructible.type_ne_empty h
    simp [named]

theorem filters_of_inForce (filtering : Filtering held) {name : String} {rule : Rule Resource}
    (h : Rules.lastDefinition (inForce held resource) name = some rule) : rule.judge.Filters := by
  obtain ⟨key, policy, found, defined⟩ :=
    Resolution.exists_policy_of_lastDefinition .resource resource resource.typeName h
  exact filtering key policy found name rule defined

theorem means_noPolicy (none : Unpoliced held resource) :
    Means held user context resource (.deny (.noPolicy resource.id)) where
  noPolicy_iff := iff_of_true ⟨_, rfl, rfl⟩ none
  allow_iff policed := absurd none policed
  denied policed := absurd none policed

theorem means_allow (policed : ¬ Unpoliced held resource)
    (accept : ∀ name ∈ Rules.definedNames (inForce held resource),
      Rules.NameAccepts (inForce held resource) resource user context name) :
    Means held user context resource (.allow resource) where
  noPolicy_iff := iff_of_false (by rintro ⟨reason, h, -⟩; cases h) policed
  allow_iff _ := iff_of_true rfl accept
  denied _ changed := absurd rfl changed

theorem means_denied (policed : ¬ Unpoliced held resource) {name : String}
    (first : Rules.FirstDenier (inForce held resource) resource user context name) :
    Means held user context resource (.deny (.byRule resource.id name)) where
  noPolicy_iff := by
    refine iff_of_false ?_ policed
    rintro ⟨reason, h, code⟩
    cases h
    simp [Denial.code] at code
  allow_iff _ := iff_of_false (by simp) fun accept => first.denies (accept name first.defined)
  denied _ _ := ⟨_, name, rfl, rfl, rfl, first⟩

/-- Over a state that holds `held`, access is decided as `Means` says. -/
theorem check_of_holds {store : Store σ} {state : σ} (holds : store.Holds state held)
    (filtering : Filtering held) (constructible : resource.Constructible) (user : User)
    (context : Context) :
    ∃ decision next, (check store user context resource).on state = (.ok decision, next) ∧
      store.Holds next held ∧ Means held user context resource decision := by
  obtain ⟨next, after, checked⟩ := check_eq_decided holds constructible
  have unpoliced : accessAnswer held resource = none ↔ Unpoliced held resource := by
    rw [accessAnswer, Resolution.merged_eq_none_iff, ungoverned_iff constructible]
  rw [checked]
  cases answer : accessAnswer held resource with
  | none =>
    rw [decided_of_none answer]
    exact ⟨_, next, rfl, after, means_noPolicy (unpoliced.1 answer)⟩
  | some rules =>
    have policed : ¬ Unpoliced held resource := by
      rw [← unpoliced, answer]
      exact Option.some_ne_none rules
    have merge : rules.IsMergeOf (inForce held resource) := Resolution.isMergeOf_of_merged answer
    have filters : ∀ name rule, Rules.lastDefinition (inForce held resource) name = some rule →
        rule.judge.Filters := fun name rule => filters_of_inForce filtering
    rw [decided_of_some answer]
    rcases merge.evaluate filters resource user context with
      ⟨accept, outcome⟩ | ⟨name, first, outcome⟩
    · rw [outcome]
      exact ⟨.allow resource, next, rfl, after, means_allow policed accept⟩
    · rw [outcome]
      exact ⟨.deny (.byRule resource.id name), next, rfl, after, means_denied policed first⟩

/-! ## Rules from above -/

variable (held resource) in
/-- A node of the chain sets a rule, and neither a node below it nor the data type sets one
under the same name again. -/
def Inherits (name : String) (rule : Rule Resource) : Prop :=
  ∃ above node below policy, resource.lineage = above ++ node :: below ∧
    held (.resource node.id) = some policy ∧ policy.resourceRules.get? name = some rule ∧
    (∀ lower ∈ below, ∀ other, held (.resource lower.id) = some other →
      other.resourceRules.get? name = none) ∧
    ∀ type other, resource.type? = some type → held (.type type) = some other →
      other.resourceRules.get? name = none

theorem Inherits.policed {name : String} {rule : Rule Resource}
    (h : Inherits held resource name rule) : ¬ Unpoliced held resource := by
  obtain ⟨above, node, below, policy, lineage, found, -⟩ := h
  rintro ⟨none, -⟩
  rw [none node (by simp [lineage])] at found
  cases found

/-- What is inherited is the last definition of its name. -/
theorem Inherits.lastDefinition {name : String} {rule : Rule Resource}
    (h : Inherits held resource name rule) :
    Rules.lastDefinition (inForce held resource) name = some rule := by
  obtain ⟨above, node, below, policy, lineage, found, defined, unset, untyped⟩ := h
  have split : inForce held resource =
      (above.filterMap fun node => held (.resource node.id)).map (·.resourceRules) ++
        policy.resourceRules ::
          ((below.filterMap fun node => held (.resource node.id)) ++
            (Resolution.policyOfType held resource.typeName).toList).map (·.resourceRules) := by
    simp [inForce, Resolution.governing, Resolution.chainPolicies, lineage, found]
  rw [split]
  refine Rules.lastDefinition_eq_of_split defined fun later h => ?_
  obtain ⟨other, mem, rfl⟩ := List.mem_map.1 h
  rcases List.mem_append.1 mem with mem | mem
  · obtain ⟨lower, low, held_lower⟩ := List.mem_filterMap.1 mem
    exact unset lower low other held_lower
  · rw [Option.mem_toList, Resolution.policyOfType, Resource.typeName] at mem
    cases type : resource.type? with
    | none =>
      rw [type] at mem
      cases mem
    | some type' =>
      rw [type] at mem
      split at mem
      · cases mem
      · exact untyped type' other type mem

/-- An inherited rule that denies cannot be escaped. -/
theorem Means.isAllowed_eq_false {decision : Decision}
    (means : Means held user context resource decision) {name : String} {rule : Rule Resource}
    (inherited : Inherits held resource name rule)
    (denies : ¬ rule.Accepts resource user context) : decision.isAllowed = false := by
  have last := inherited.lastDefinition
  have changed : decision ≠ .allow resource := by
    intro h
    have accepts := (means.allow_iff inherited.policed).1 h name
      (Rules.mem_definedNames_of_eq_some last)
    exact denies ((Rules.nameAccepts_iff last).1 accepts)
  obtain ⟨reason, -, rfl, -⟩ := means.denied inherited.policed changed
  rfl

/-- Where no rule transforms a resource, a decision means what `Means` says, and a rule of a
node above that is not set again binds every resource below. The rules that come with the
library never transform a resource. -/
theorem check_exact (store : Store σ) (state : σ) (held : PolicyKey → Option Policy)
    (holds : store.Holds state held) (filtering : Filtering held) (resource : Resource)
    (constructible : resource.Constructible) (user : User) (context : Context) :
    (∃ decision next, (check store user context resource).on state = (.ok decision, next) ∧
      store.Holds next held ∧
      Means held user context resource decision ∧
      ∀ name rule, Inherits held resource name rule → ¬ rule.Accepts resource user context →
        decision.isAllowed = false) ∧
    ∀ id params judge, Registry.builtin.makeResourceRule id params = .ok judge →
      judge.Filters := by
  refine ⟨?_, fun id params judge => Registry.builtin_filters⟩
  obtain ⟨decision, next, run, after, means⟩ :=
    check_of_holds holds filtering constructible user context
  exact ⟨decision, next, run, after, means, fun name rule => means.isAllowed_eq_false⟩

/-! ## A file with a replaced rule -/

/-- A write of a policy that transforms no resource keeps a memory free of such policies. -/
theorem Filtering.put {memory : Memory} (h : Filtering memory.get?) {policy : Policy}
    (filters : policy.Filters) (key : PolicyKey) : Filtering (memory.put key policy).get? :=
  Memory.forall_put h filters key

namespace Sample

open Resolution.Sample

theorem policy_filters (gates : List (String × Gate)) : (policy gates).Filters := by
  induction gates using List.reverseRecOn with
  | nil =>
    intro name rule h
    cases h
  | append_singleton gates gate ih =>
    have last : policy (gates ++ [gate]) =
        (policy gates).withResourceRule gate.1 ⟨0, gate.2.judge⟩ := by
      simp [policy]
    rw [last]
    exact ih.withResourceRule (Judgement.filters_ofTest _) gate.1

theorem memory_filtering : Filtering memory.get? := by
  have empty : Filtering Memory.empty.get? := by
    intro key policy h
    cases h
  exact ((empty.put (policy_filters _) _).put (policy_filters _) _).put (policy_filters _) _

def staff : User := (User.named "u").withRoles ["staff"]

end Sample

open Resolution.Sample Sample in
/-- The rule of the file denies, although the one that it replaces would let staff through. -/
theorem check_exact_file :
    Memory.store.Holds memory memory.get? ∧ Filtering memory.get? ∧ file.Constructible ∧
      ∃ next, (check Memory.store staff (.ofPurpose "research") file).on memory =
          (.ok (.deny (.byRule "/file/a.txt" "shared")), next) ∧
        Rules.FirstDenier (inForce memory.get? file) file staff (.ofPurpose "research")
          "shared" := by
  refine ⟨memory.holds, memory_filtering, file_constructible, ?_⟩
  obtain ⟨⟨decision, next, run, -, means, -⟩, -⟩ :=
    check_exact Memory.store memory memory.get? memory.holds memory_filtering file
      file_constructible staff (.ofPurpose "research")
  have policed : ¬ Unpoliced memory.get? file := by
    rintro ⟨none, -⟩
    have unheld := none root (by simp [file, Resource.lineage, Resource.ancestors])
    exact Option.some_ne_none _ unheld
  have computed : (check Memory.store staff (.ofPurpose "research") file).on memory =
      (.ok (.deny (.byRule "/file/a.txt" "shared")), memory) := rfl
  rw [computed] at run
  cases run
  obtain ⟨reason, name, eq, -, named, first⟩ := means.denied policed (by simp)
  cases eq
  cases named
  exact ⟨memory, computed, first⟩

end Access

end PolicyTree
