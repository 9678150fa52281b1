import PolicyTree.Proofs.Access.Decision
import PolicyTree.Proofs.Access.RecordRules
/-
  What is shown can be read. Resolution has an answer about access to a resource exactly if it
  has one about its records, although the policy of a data type brings rules for the one only
  (`applicableRules_none_alike`). A resource that is shown was resolved, so a reader that asks
  for the rules of what it was shown finds an entry for each (`visible_has_rules`).

  `Decides` pairs the resources of a list with the decisions about them; the list of those that
  are shown is read off them (`visible_of_decides`).
-/
namespace PolicyTree.Access

variable {σ : Type} {store : Store σ} {state : σ} {held : PolicyKey → Option Policy} {user : User}
  {context : Context} {resource : Resource} {resources : List Resource} {decisions : List Decision}

/-! ## Lists of decisions -/

variable (held user context resources decisions) in
/-- The decisions about resources, one for each and in their order. -/
def Decides : Prop :=
  List.Forall₂ (fun resource decision => decided held user context resource = .ok decision)
    resources decisions

theorem exists_decides (answering : Answering held) (user : User) (context : Context)
    (resources : List Resource) : ∃ decisions, Decides held user context resources decisions := by
  induction resources with
  | nil => exact ⟨[], .nil⟩
  | cons resource rest ih =>
    obtain ⟨decision, own⟩ := exists_decided answering user context resource
    obtain ⟨decisions, others⟩ := ih
    exact ⟨decision :: decisions, .cons own others⟩

/-- Whoever asks, the store is looked up for all of the resources. -/
theorem visible_of_decides (holds : store.Holds state held)
    (constructible : ∀ r ∈ resources, r.Constructible) :
    ∃ next, store.Holds next held ∧ ∀ user context decisions,
      Decides held user context resources decisions →
        (visible store user context resources).on state =
          (.ok (decisions.filterMap Decision.resource?), next) := by
  induction resources generalizing state with
  | nil =>
    refine ⟨state, holds, fun user context decisions decides => ?_⟩
    cases decides
    rfl
  | cons resource rest ih =>
    rw [List.forall_mem_cons] at constructible
    obtain ⟨middle, holds', checked⟩ := check_eq_decided holds constructible.1
    obtain ⟨next, after, seen⟩ := ih holds' constructible.2
    refine ⟨next, after, fun user context decisions decides => ?_⟩
    cases decides with
    | @cons _ decision _ decisions own others =>
      have first := (checked user context).trans (congrArg (·, middle) own)
      rw [visible, Action.on_bind_of_ok first, Action.on_bind_of_ok (seen user context _ others)]
      cases decision <;> rfl

/-! ## What is shown -/

/-- What is allowed was resolved, and is shown as it is. -/
theorem eq_of_decided_allow (filtering : Filtering held) {value : Resource}
    (allowed : decided held user context resource = .ok (.allow value)) :
    value = resource ∧ accessAnswer held resource ≠ none := by
  cases answer : accessAnswer held resource with
  | none =>
    rw [decided_of_none answer] at allowed
    cases allowed
  | some rules =>
    have merge : rules.IsMergeOf (inForce held resource) := Resolution.isMergeOf_of_merged answer
    rw [decided_of_some answer, Decision.ofOutcome_eq_allow_iff] at allowed
    rcases merge.evaluate (fun _ _ => filters_of_inForce filtering) resource user context with
      ⟨-, outcome⟩ | ⟨name, -, outcome⟩
    · rw [outcome] at allowed
      cases allowed
      exact ⟨rfl, Option.some_ne_none rules⟩
    · rw [outcome] at allowed
      cases allowed

theorem Decides.sublist (decides : Decides held user context resources decisions)
    (filtering : Filtering held) : (decisions.filterMap Decision.resource?).Sublist resources := by
  induction decides with
  | nil => exact .slnil
  | @cons resource decision _ _ own _ ih =>
    cases decision with
    | allow value =>
      obtain ⟨rfl, -⟩ := eq_of_decided_allow filtering own
      exact ih.cons_cons value
    | deny reason => exact ih.cons resource

theorem Decides.answered (decides : Decides held user context resources decisions)
    (filtering : Filtering held) :
    ∀ shown ∈ decisions.filterMap Decision.resource?, accessAnswer held shown ≠ none := by
  induction decides with
  | nil => nofun
  | @cons resource decision _ _ own _ ih =>
    cases decision with
    | allow value =>
      obtain ⟨rfl, answered⟩ := eq_of_decided_allow filtering own
      exact List.forall_mem_cons.2 ⟨answered, ih⟩
    | deny reason => exact ih

/-! ## What can be read -/

/-- There is an answer at the one level exactly if there is one at the other. -/
theorem merged_eq_none_alike (resource : Resource) (typeName : String) :
    Resolution.merged .resource (Resolution.chainPolicies held resource)
        (Resolution.policyOfType held typeName) = none ↔
      Resolution.merged .record (Resolution.chainPolicies held resource)
        (Resolution.policyOfType held typeName) = none := by
  rw [Resolution.merged_eq_none_iff, Resolution.merged_eq_none_iff]

theorem applicableRules_none_alike (holds : store.Holds state held) {later : σ}
    (holds' : store.Holds later held) (constructible : resource.Constructible)
    (typeName : String) :
    ∃ access records next next',
      (Resolution.applicableRules store .resource resource typeName).on state =
        (.ok access, next) ∧
      (Resolution.applicableRules store .record resource typeName).on later =
        (.ok records, next') ∧
      (access = none ↔ records = none) := by
  obtain ⟨next, run, -⟩ :=
    Resolution.applicableRules_of_holds holds constructible.depth_lt .resource typeName
  obtain ⟨next', run', -⟩ :=
    Resolution.applicableRules_of_holds holds' constructible.depth_lt .record typeName
  exact ⟨_, _, next, next', run, run', merged_eq_none_alike resource typeName⟩

/-- Each resource for which access was resolved has an entry among the rules for records. -/
theorem recordRules_of_answered (holds : store.Holds state held)
    (constructible : ∀ r ∈ resources, r.Constructible)
    (answered : ∀ r ∈ resources, accessAnswer held r ≠ none) :
    ∃ found next, (recordRules store resources).on state = (.ok found, next) ∧
      ∀ r ∈ resources, (found.get? r.id).isSome = true := by
  obtain ⟨next, run, -⟩ := recordRules_of_holds holds constructible
  refine ⟨_, next, run, fun r mem => ?_⟩
  rw [Option.isSome_iff_ne_none]
  intro absent
  have unread : recordAnswer held r = none :=
    (tabulates_foldl (recordAnswer held) resources).get?_eq_none_iff.1 absent r mem rfl
  exact answered r mem ((merged_eq_none_alike r r.typeName).2 unread)

/-- Where no rule transforms a resource, as no rule of the library does, those that are shown are
some of those asked about, in their order, and whoever asks then or later for the rules for their
records finds an entry for each. For there is an answer about access to a resource exactly if
there is one about its records, whatever the data type. -/
theorem visible_has_rules (store : Store σ) (state : σ) (held : PolicyKey → Option Policy)
    (holds : store.Holds state held) :
    (Filtering held → ∀ user context resources, (∀ r ∈ resources, r.Constructible) →
      ∃ shown next, (visible store user context resources).on state = (.ok shown, next) ∧
        shown.Sublist resources ∧ store.Holds next held ∧
        ∀ later, store.Holds later held →
          ∃ found after, (recordRules store shown).on later = (.ok found, after) ∧
            ∀ r ∈ shown, (found.get? r.id).isSome = true) ∧
    (∀ resource, resource.Constructible → ∀ typeName later, store.Holds later held →
      ∃ access records next next',
        (Resolution.applicableRules store .resource resource typeName).on state =
          (.ok access, next) ∧
        (Resolution.applicableRules store .record resource typeName).on later =
          (.ok records, next') ∧
        (access = none ↔ records = none)) ∧
    ∀ id params judge, Registry.builtin.makeResourceRule id params = .ok judge →
      judge.Filters := by
  refine ⟨?_, ?_, fun _ _ _ => Registry.builtin_filters⟩
  · intro filtering user context resources constructible
    obtain ⟨decisions, decides⟩ := exists_decides filtering.answering user context resources
    obtain ⟨next, after, seen⟩ := visible_of_decides holds constructible
    have sublist := decides.sublist filtering
    refine ⟨_, next, seen user context decisions decides, sublist, after, fun later holds' => ?_⟩
    exact recordRules_of_answered holds' (fun r mem => constructible r (sublist.subset mem))
      (decides.answered filtering)
  · exact fun resource constructible typeName later holds' =>
      applicableRules_none_alike holds holds' constructible typeName

open Resolution.Sample Sample in
/-- Staff see the root but not the file below it, and find the rules for the records of the
root. -/
theorem visible_has_rules_staff :
    Memory.store.Holds memory memory.get? ∧ Filtering memory.get? ∧
      (∀ r ∈ [root, file, root], r.Constructible) ∧
      ∃ found after,
        ((visible Memory.store staff (.ofPurpose "audit") [root, file, root]).on memory).1 =
          .ok [root, root] ∧
        (recordRules Memory.store [root, root]).on memory = (.ok found, after) ∧
        (found.get? "/file").isSome = true := by
  have constructible : ∀ r ∈ [root, file, root], r.Constructible := by
    simp [root, file_constructible, Resource.Constructible.system]
  obtain ⟨reads, -⟩ := visible_has_rules Memory.store memory memory.get? memory.holds
  obtain ⟨shown, next, seen, -, -, covered⟩ :=
    reads memory_filtering staff (.ofPurpose "audit") [root, file, root] constructible
  have computed : (visible Memory.store staff (.ofPurpose "audit") [root, file, root]).on memory =
      (.ok [root, root], memory) := rfl
  rw [computed] at seen
  cases seen
  obtain ⟨found, after, run, entries⟩ := covered memory memory.holds
  exact ⟨memory.holds, memory_filtering, constructible, found, after, congrArg Prod.fst computed,
    run, entries root (by simp)⟩

end PolicyTree.Access
