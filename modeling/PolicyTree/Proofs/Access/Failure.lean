import PolicyTree.Proofs.Access.Decision
import PolicyTree.Proofs.Rules.Evaluation
import PolicyTree.Proofs.Store.Retention
/-
  A failure of the store is never an answer about access. Each question fails with the first
  failure among its look-ups, in the order in which they are made, and where no rule breaks down
  there is no other way to fail. `SurfacesFailures` says so of one resource and of many;
  `failures_surface` proves it whatever the look-ups of a store end with, and adds that no failure
  gets into a cache in front of it.
-/
namespace PolicyTree

variable {σ : Type}

namespace Resolution

variable {held : PolicyKey → Option Policy} {level : Level} {resource : Resource}
  {typeName : String}

theorem ungoverned_iff_lookups :
    Ungoverned held resource typeName ↔ ∀ key ∈ lookups resource typeName, held key = none := by
  unfold Ungoverned lookups chainKeys typeKeys
  rw [List.forall_mem_append, List.forall_mem_map]
  refine and_congr_right fun _ => ?_
  by_cases named : typeName = ""
  · simp [named]
  · simp [named]

end Resolution

namespace Access

open Resolution (lookups)
open Store (firstFailure? found? reported)

/-- What the first look-up that fails for any of some resources fails with. -/
def failureAmong {ε : Type} (reply : PolicyKey → Except ε (Option Policy))
    (resources : List Resource) : Option ε :=
  resources.findSome? fun resource => firstFailure? reply (lookups resource resource.typeName)

theorem failureAmong_cons {ε : Type} {reply : PolicyKey → Except ε (Option Policy)}
    (resource : Resource) (rest : List Resource) :
    failureAmong reply (resource :: rest) =
      (firstFailure? reply (lookups resource resource.typeName)).or (failureAmong reply rest) := by
  rw [failureAmong, List.findSome?_cons]
  cases firstFailure? reply (lookups resource resource.typeName) <;> rfl

theorem failureAmong_reported (reply : PolicyKey → Except StorageError (Option Policy))
    (resources : List Resource) :
    failureAmong (reported reply) resources =
      (failureAmong reply resources).map fun error => .refused (.storage error) := by
  simp only [failureAmong, List.map_findSome?, Store.firstFailure?_reported, Function.comp_def]

/-! ## Over the store without a state -/

section answering

variable {reply : PolicyKey → Except Failure (Option Policy)} {user : User} {context : Context}
  {resource : Resource} {resources : List Resource}

variable (reply user context) in
theorem check_answering_eq (constructible : resource.Constructible) :
    (check (.answering reply) user context resource).on () =
      (match firstFailure? reply (lookups resource resource.typeName) with
        | some failure => .error failure
        | none => decided (found? reply) user context resource, ()) := by
  have resolved := Resolution.applicableRules_answering_eq reply constructible.depth_lt .resource
    resource.typeName
  rw [check]
  cases own : firstFailure? reply (lookups resource resource.typeName) with
  | some failure =>
    rw [own] at resolved
    rw [Action.on_bind_of_error resolved]
  | none =>
    rw [own] at resolved
    rw [Action.on_bind_of_ok resolved, decided, accessAnswer]
    cases Resolution.merged .resource (Resolution.chainPolicies (found? reply) resource)
      (Resolution.policyOfType (found? reply) resource.typeName) with
    | none => rfl
    | some rules => rfl

/-- A denial for want of a policy does not come from a rule. -/
theorem accessAnswer_eq_none {held : PolicyKey → Option Policy} {reason : Denial}
    (denied : decided held user context resource = .ok (.deny reason))
    (code : reason.code = "no-policy") : accessAnswer held resource = none := by
  cases answer : accessAnswer held resource with
  | none => rfl
  | some rules =>
    rw [decided_of_some answer] at denied
    cases outcome : rules.evaluate resource user context with
    | allowed value =>
      rw [outcome] at denied
      cases denied
    | denied rule =>
      rw [outcome] at denied
      cases denied
      simp [Denial.code] at code
    | aborted reason =>
      rw [outcome] at denied
      cases denied

/-! ## Lists of resources -/

theorem visible_answering (answering : Answering (found? reply))
    (constructible : ∀ r ∈ resources, r.Constructible) (user : User) (context : Context) :
    ∃ allowed, (visible (.answering reply) user context resources).on () =
      ((failureAmong reply resources).elim (.ok allowed) .error, ()) := by
  induction resources with
  | nil => exact ⟨[], rfl⟩
  | cons resource rest ih =>
    rw [List.forall_mem_cons] at constructible
    have checked := check_answering_eq reply user context constructible.1
    rw [failureAmong_cons, visible]
    cases own : firstFailure? reply (lookups resource resource.typeName) with
    | some failure =>
      rw [own] at checked
      rw [Action.on_bind_of_error checked]
      exact ⟨[], rfl⟩
    | none =>
      -- Allowed or denied, the list goes on, so a failure can only come later.
      obtain ⟨decision, decided⟩ := exists_decided answering user context resource
      obtain ⟨allowed, seen⟩ := ih constructible.2
      rw [own, decided] at checked
      rw [Action.on_bind_of_ok checked, Option.none_or]
      cases later : failureAmong reply rest with
      | some failure =>
        rw [later] at seen
        rw [Action.on_bind_of_error seen]
        exact ⟨[], rfl⟩
      | none =>
        rw [later] at seen
        rw [Action.on_bind_of_ok seen]
        exact ⟨_, rfl⟩

variable (reply) in
theorem collectRecordRules_answering_eq (constructible : ∀ r ∈ resources, r.Constructible)
    (entered : RecordRuleMap) :
    ∃ found, (collectRecordRules (.answering reply) resources entered).on () =
      ((failureAmong reply resources).elim (.ok found) .error, ()) := by
  induction resources generalizing entered with
  | nil => exact ⟨entered, rfl⟩
  | cons resource rest ih =>
    rw [List.forall_mem_cons] at constructible
    have resolved := Resolution.applicableRules_answering_eq reply constructible.1.depth_lt .record
      resource.typeName
    rw [failureAmong_cons, collectRecordRules]
    cases own : firstFailure? reply (lookups resource resource.typeName) with
    | some failure =>
      rw [own] at resolved
      rw [Action.on_bind_of_error resolved]
      exact ⟨entered, rfl⟩
    | none =>
      rw [own] at resolved
      rw [Action.on_bind_of_ok resolved]
      split
      · exact ih constructible.2 entered
      · exact ih constructible.2 _

end answering

/-! ## Over any store -/

/-- A failing look-up is reported as what it is, and by nothing else: not as an answer about one
resource, nor as one about those in front of it in a list. -/
structure SurfacesFailures (store : Store σ) (state : σ)
    (reply : PolicyKey → Except StorageError (Option Policy)) (user : User) (context : Context) :
    Prop where
  resolution : ∀ resource : Resource, resource.Constructible → ∀ typeName key error,
    key ∈ lookups resource typeName → reply key = .error error →
    ∃ first, firstFailure? reply (lookups resource typeName) = some first ∧ ∀ level,
      ((Resolution.applicableRules store level resource typeName).on state).1 =
        .error (.refused (.storage first))
  check : ∀ resource : Resource, resource.Constructible → ∀ key error,
    key ∈ lookups resource resource.typeName → reply key = .error error →
    ∃ first, firstFailure? reply (lookups resource resource.typeName) = some first ∧
      ((check store user context resource).on state).1 = .error (.refused (.storage first))
  noPolicy : ∀ resource : Resource, resource.Constructible → ∀ reason,
    ((Access.check store user context resource).on state).1 = .ok (.deny reason) →
    reason.code = "no-policy" → ∀ key ∈ lookups resource resource.typeName, reply key = .ok none
  visible : ∀ resources : List Resource, (∀ r ∈ resources, r.Constructible) → ∀ failure,
    ((visible store user context resources).on state).1 = .error failure ↔
      ∃ first, failureAmong reply resources = some first ∧ failure = .refused (.storage first)
  recordRules : ∀ resources : List Resource, (∀ r ∈ resources, r.Constructible) → ∀ failure,
    ((recordRules store resources).on state).1 = .error failure ↔
      ∃ first, failureAmong reply resources = some first ∧ failure = .refused (.storage first)

/-- A step that ends in a failure, if there is one to report, and in an answer otherwise. -/
theorem elim_eq_error_iff {α : Type} {answer : α} {first : Option StorageError}
    {failure : Failure} :
    ((first.map fun error => Failure.refused (.storage error)).elim (.ok answer) .error :
        Except Failure α) = .error failure ↔
      ∃ error, first = some error ∧ failure = .refused (.storage error) := by
  cases first with
  | none => simp
  | some error => simp [eq_comm]

section surfaces

variable {store : Store σ} {state : σ} {reply : PolicyKey → Except StorageError (Option Policy)}

theorem exists_firstFailure_reported {keys : List PolicyKey} {key : PolicyKey} (mem : key ∈ keys)
    {error : StorageError} (failed : reply key = .error error) :
    ∃ first, firstFailure? reply keys = some first ∧
      firstFailure? (reported reply) keys = some (.refused (.storage first)) := by
  obtain ⟨first, found⟩ := Store.exists_firstFailure mem failed
  refine ⟨first, found, ?_⟩
  rw [Store.firstFailure?_reported, found]
  rfl

theorem surfacesFailures (replies : store.Replies state (reported reply))
    (answering : Answering (found? (reported reply))) (user : User) (context : Context) :
    SurfacesFailures store state reply user context where
  resolution resource constructible typeName key error mem failed := by
    obtain ⟨first, eq, failed⟩ := exists_firstFailure_reported mem failed
    refine ⟨first, eq, fun level => ?_⟩
    have same := (replies.of_simulates fun _ h =>
      Resolution.applicableRules_simulates h level resource typeName).1
    rw [same, Resolution.applicableRules_answering_eq _ constructible.depth_lt, failed]
  check resource constructible key error mem failed := by
    obtain ⟨first, eq, failed⟩ := exists_firstFailure_reported mem failed
    have same := (replies.of_simulates fun _ h => check_simulates h user context resource).1
    rw [same, check_answering_eq _ user context constructible, failed]
    exact ⟨first, eq, rfl⟩
  noPolicy resource constructible reason denied code key mem := by
    have same := (replies.of_simulates fun _ h => check_simulates h user context resource).1
    rw [same, check_answering_eq _ user context constructible] at denied
    cases own : firstFailure? (reported reply) (lookups resource resource.typeName) with
    | some failure =>
      rw [own] at denied
      cases denied
    | none =>
      rw [own] at denied
      have ungoverned := Resolution.merged_eq_none_iff.1 (accessAnswer_eq_none denied code)
      have answered := Store.firstFailure?_eq_none_iff.1 own key mem
      rw [Resolution.ungoverned_iff_lookups.1 ungoverned key mem] at answered
      exact Store.reported_eq_ok_iff.1 answered
  visible resources constructible failure := by
    have same := (replies.of_simulates fun _ h => visible_simulates h user context resources).1
    obtain ⟨allowed, seen⟩ := visible_answering answering constructible user context
    rw [same, seen, failureAmong_reported]
    exact elim_eq_error_iff
  recordRules resources constructible failure := by
    have same := (replies.of_simulates fun _ h => recordRules_simulates h resources).1
    obtain ⟨found, collected⟩ := collectRecordRules_answering_eq (reported reply) constructible
      .empty
    rw [same, Access.recordRules, collected, failureAmong_reported]
    exact elim_eq_error_iff

end surfaces

/-- Whatever the look-ups of a store end with, as long as no rule breaks down the first failure
among them is the one reported, and a cache in front of the store keeps none. -/
theorem failures_surface (store : Store σ) (state : σ)
    (reply : PolicyKey → Except StorageError (Option Policy))
    (replies : store.Replies state (reported reply))
    (answering : ∀ key policy, reply key = .ok (some policy) → ∀ name rule,
      policy.resourceRules.get? name = some rule → rule.judge.Answers)
    (user : User) (context : Context) :
    SurfacesFailures store state reply user context ∧
      ∀ lifetime clock, Cache.PassesFailures store lifetime clock := by
  refine ⟨surfacesFailures replies ?_ user context, Cache.passesFailures store⟩
  intro key policy found
  exact answering key policy (Store.reported_eq_ok_iff.1 (Store.found?_eq_some_iff.1 found))

/-! ## A file behind two failures -/

namespace Sample

open Resolution.Sample

/-- The root has a policy; the file cannot be looked up, and neither can its type. -/
def broken : PolicyKey → Except StorageError (Option Policy)
  | .resource "/file" => .ok (some (policy [("open", .pass)]))
  | .resource "/file/a.txt" => .error (.connection "lost")
  | .type "T" => .error (.internal "busy")
  | _ => .ok none

theorem broken_answers {key : PolicyKey} {found : Policy} (h : broken key = .ok (some found))
    {name : String} {rule : Rule Resource} (defined : found.resourceRules.get? name = some rule) :
    rule.judge.Answers := by
  unfold broken at h
  split at h
  · cases h
    exact (policy_filters _ name rule defined).answers
  · cases h
  · cases h
  · cases h

/-- A look-up of the root, and two of the file. -/
def retries : List CacheRequest :=
  [.find (.resource "/file"), .find (.resource "/file/a.txt"), .find (.resource "/file/a.txt")]

end Sample

open Resolution.Sample Sample in
/-- The first of the two failures is reported, although the root has a policy and may be seen, and
two look-ups of the file leave no entry for it. -/
theorem failures_surface_file :
    (Store.answering (reported broken)).Replies () (reported broken) ∧ file.Constructible ∧
      ((check (.answering (reported broken)) staff (.ofPurpose "audit") file).on ()).1 =
        .error (.refused (.storage (.connection "lost"))) ∧
      ((visible (.answering (reported broken)) staff (.ofPurpose "audit") [root]).on ()).1 =
        .ok [root] ∧
      ((visible (.answering (reported broken)) staff (.ofPurpose "audit") [root, file]).on ()).1 =
        .error (.refused (.storage (.connection "lost"))) ∧
      ∀ entry, (Action.replies (CacheRequest.onCache (.answering (reported broken))
        (.ofSeconds 300) fun _ => ⟨0⟩) retries (.around ())).2.entries.get?
          (.resource "/file/a.txt") ≠ some entry := by
  have replies := Store.answering_replies (reported broken)
  obtain ⟨surfaces, passes⟩ := failures_surface _ () broken replies
    (fun _ _ found _ _ defined => broken_answers found defined) staff (.ofPurpose "audit")
  have both : ∀ r ∈ [root, file], r.Constructible := by
    simp [file_constructible, root, Resource.Constructible.system]
  have lost : broken (.resource "/file/a.txt") = .error (.connection "lost") := rfl
  have looked : .resource "/file/a.txt" ∈ lookups file file.typeName := by decide
  obtain ⟨first, eq, failed⟩ := surfaces.check file file_constructible _ _ looked lost
  cases eq
  refine ⟨replies, file_constructible, failed, rfl,
    (surfaces.visible _ both _).2 ⟨_, rfl, rfl⟩, fun entry held => ?_⟩
  have answered := (passes _ _).answered retries () _ entry held
  have computed : (Action.replies (CacheRequest.onCache (.answering (reported broken))
      (.ofSeconds 300) fun _ => ⟨0⟩) retries (.around ())).1 =
        [.ok (.found (some (policy [("open", .pass)]))),
          .error (.refused (.storage (.connection "lost"))),
          .error (.refused (.storage (.connection "lost")))] := rfl
  rw [computed] at answered
  simp [retries] at answered

end Access

end PolicyTree
