import PolicyTree.Proofs.Access.Caching
import PolicyTree.Proofs.Access.Decision
import PolicyTree.Proofs.Catalog.Reproduction
/-
  How far a write reaches. Resolution depends on the policies of the chain and on that of the
  data type, and on nothing else that a store holds (`resolved_congr`). So a policy that is
  written for a resource reaches the resource and the nodes below it, and one that is written for
  a data type reaches the resolutions with that type; at the level of records it reaches them
  only where nothing had been found, and brings no rule (`resolved_record_of_type`).

  `AnswersAlike` says that questions about some resources do not tell two states of a store apart,
  and `writes_local` which writes leave a memory in such a state.
-/
namespace PolicyTree

variable {σ : Type} {held held' : PolicyKey → Option Policy}

/-! ## Resolution as a function of what is held -/

namespace Resolution

variable {level : Level} {resource : Resource} {typeName : String}

variable (held) in
/-- What resolution comes to over a store that holds `held`. -/
def resolved (level : Level) (resource : Resource) (typeName : String) :
    Except Failure (Option (Rules level.Subject)) :=
  match resource.chain with
  | .error error => .error (.refused (.model error))
  | .ok _ => .ok (merged level (chainPolicies held resource) (policyOfType held typeName))

theorem applicableRules_eq_resolved {store : Store σ} {state : σ} (holds : store.Holds state held)
    (level : Level) (resource : Resource) (typeName : String) :
    ∃ next, (applicableRules store level resource typeName).on state =
        (resolved held level resource typeName, next) ∧ store.Holds next held := by
  unfold resolved
  cases chain : resource.chain with
  | error error =>
    have refused : (Action.ofModel resource.chain : Action σ _).on state =
        (.error (.refused (.model error)), state) := by
      rw [chain]
      rfl
    rw [applicableRules, Action.on_bind_of_error refused]
    exact ⟨state, rfl, holds⟩
  | ok nodes =>
    have fits : resource.depth < maxChain := by
      by_contra long
      have refused : ¬ resource.lineage.length ≤ maxChain := by
        rw [Resource.length_lineage]
        omega
      rw [Resource.chain, if_neg refused] at chain
      cases chain
    exact applicableRules_of_holds holds fits level typeName

/-- Policies off the chain, and those of other data types, do not count. -/
theorem resolved_congr
    (onChain : ∀ node ∈ resource.lineage, held (.resource node.id) = held' (.resource node.id))
    (ofType : policyOfType held typeName = policyOfType held' typeName) :
    resolved held level resource typeName = resolved held' level resource typeName := by
  have chain : chainPolicies held resource = chainPolicies held' resource :=
    List.filterMap_congr onChain
  rw [resolved, resolved, chain, ofType]

/-- A policy of the data type with the same rules about resources is as good. -/
theorem merged_congr_type {old new : Policy} (same : new.resourceRules = old.resourceRules)
    (level : Level) (onChain : List Policy) :
    merged level onChain (some new) = merged level onChain (some old) := by
  cases level with
  | resource =>
    have rules : new.rules .resource = old.rules .resource := same
    simp [merged, Level.takesTypeRules, rules]
  | record => simp [merged, Level.takesTypeRules]

/-- At the level of records a policy of the data type takes effect only where nothing is found
without it. -/
theorem merged_record_some (onChain : List Policy) (ofType : Option Policy) (policy : Policy) :
    merged .record onChain (some policy) = merged .record onChain ofType ∨
      merged .record onChain ofType = none ∧
        merged .record onChain (some policy) = some .empty := by
  cases onChain with
  | nil =>
    cases ofType with
    | none => exact .inr ⟨rfl, rfl⟩
    | some other => exact .inl rfl
  | cons first rest => exact .inl (by simp [merged, Level.takesTypeRules])

theorem resolved_record_of_type {policy : Policy}
    (onChain : ∀ node ∈ resource.lineage, held (.resource node.id) = held' (.resource node.id))
    (ofType : policyOfType held' typeName = some policy) :
    resolved held' .record resource typeName = resolved held .record resource typeName ∨
      resolved held .record resource typeName = .ok none ∧
        resolved held' .record resource typeName = .ok (some .empty) := by
  have chain : chainPolicies held resource = chainPolicies held' resource :=
    List.filterMap_congr onChain
  unfold resolved
  cases resource.chain with
  | error error => exact .inl rfl
  | ok nodes =>
    dsimp only
    rw [chain, ofType]
    rcases merged_record_some (chainPolicies held' resource) (policyOfType held typeName) policy
      with same | ⟨before, after⟩
    · exact .inl (by rw [same])
    · exact .inr ⟨by rw [before], by rw [after]⟩

end Resolution

namespace Access

open Resolution (resolved ResolvesAlike applicableRules applicableRules_eq_resolved)

/-! ## Questions that do not tell two states apart -/

variable {store : Store σ} {state state' : σ} {asked : Resource → Prop}

variable (store state state' asked) in
/-- No question about resources of some sort is answered differently in the one state and in the
other. -/
structure AnswersAlike : Prop where
  applicableRules : ∀ resource, asked resource → ∀ level typeName,
    ((applicableRules store level resource typeName).on state).1 =
      ((applicableRules store level resource typeName).on state').1
  check : ∀ resource, asked resource → ∀ user context,
    ((check store user context resource).on state).1 =
      ((check store user context resource).on state').1
  visible : ∀ resources, (∀ resource ∈ resources, asked resource) → ∀ user context,
    ((visible store user context resources).on state).1 =
      ((visible store user context resources).on state').1
  recordRules : ∀ resources, (∀ resource ∈ resources, asked resource) →
    ((recordRules store resources).on state).1 = ((recordRules store resources).on state').1

/-- If resolution comes to the same over what two states hold, then no question about access
tells them apart. -/
theorem answersAlike_of_resolved (holds : store.Holds state held)
    (holds' : store.Holds state' held')
    (same : ∀ resource, asked resource → ∀ level typeName,
      resolved held level resource typeName = resolved held' level resource typeName) :
    AnswersAlike store state state' asked := by
  let both (s t : σ) : Prop := store.Holds s held ∧ store.Holds t held'
  have alike : ∀ resource, asked resource → ∀ level typeName,
      Action.Simulates both (applicableRules store level resource typeName)
        (applicableRules store level resource typeName) := by
    rintro resource mem level typeName s t ⟨left, right⟩
    obtain ⟨next, run, after⟩ := applicableRules_eq_resolved left level resource typeName
    obtain ⟨next', run', after'⟩ := applicableRules_eq_resolved right level resource typeName
    rw [run, run', same resource mem]
    exact ⟨rfl, after, after'⟩
  have resolves : ∀ level resource, asked resource →
      ResolvesAlike both store store level resource :=
    fun level resource mem => alike resource mem level resource.typeName
  exact {
    applicableRules := fun resource mem level typeName =>
      (alike resource mem level typeName state state' ⟨holds, holds'⟩).1
    check := fun resource mem user context =>
      (check_of_resolvesAlike (resolves _ resource mem) user context state state'
        ⟨holds, holds'⟩).1
    visible := fun resources mem user context =>
      (visible_of_resolvesAlike (fun r hr => resolves _ r (mem r hr)) user context state state'
        ⟨holds, holds'⟩).1
    recordRules := fun resources mem =>
      (recordRules_of_resolvesAlike (fun r hr => resolves _ r (mem r hr)) state state'
        ⟨holds, holds'⟩).1 }

/-! ## Reading -/

theorem Request.holds_of_reads (holds : store.Holds state held) {request : Request}
    (reads : request.Reads) : store.Holds ((request.perform store).on state).2 held :=
  (Store.Replies.of_simulates holds fun _ finds => perform_simulates_of_reads finds reads).2

/-- What a store holds outlasts any run of requests that write nothing. -/
theorem holds_of_reads (holds : store.Holds state held) {requests : List Request}
    (reads : ∀ request ∈ requests, request.Reads) :
    store.Holds (Action.replies (Request.perform store) requests state).2 held := by
  induction requests generalizing state with
  | nil => exact holds
  | cons request rest ih =>
    rw [List.forall_mem_cons] at reads
    exact ih (Request.holds_of_reads holds reads.1) reads.2

/-! ## Writing -/

/-- The memory after a request. -/
def Request.after (request : Request) (memory : Memory) : Memory :=
  ((request.perform Memory.store).on memory).2

theorem resource_ne_type (id name : String) : PolicyKey.resource id ≠ .type name := by
  intro same
  cases same

/-- Of the keys of resources a write under another key leaves all as they are. -/
theorem get?_put_of_off_chain {memory : Memory} {key : PolicyKey} {policy : Policy}
    {resource : Resource} (off : ∀ node ∈ resource.lineage, PolicyKey.resource node.id ≠ key) :
    ∀ node ∈ resource.lineage,
      memory.get? (.resource node.id) = (memory.put key policy).get? (.resource node.id) := by
  intro node onChain
  rw [Memory.get?_put, if_neg (off node onChain)]

theorem policyOfType_put {memory : Memory} {key : PolicyKey} {policy : Policy} {typeName : String}
    (other : typeName = "" ∨ key ≠ .type typeName) :
    Resolution.policyOfType memory.get? typeName =
      Resolution.policyOfType (memory.put key policy).get? typeName := by
  unfold Resolution.policyOfType
  split
  · rfl
  · next named =>
    rw [Memory.get?_put, if_neg (other.resolve_left named).symm]

/-- A write for a resource reaches no resource that does not have its id on the chain. -/
theorem setResourcePolicy_local (memory : Memory) (r : Resource) (policy : Policy) :
    AnswersAlike Memory.store memory ((Request.setResourcePolicy r policy).after memory)
      fun x => ∀ node ∈ x.lineage, node.id ≠ r.id := by
  refine answersAlike_of_resolved memory.holds (Memory.holds _) fun x off level typeName => ?_
  refine Resolution.resolved_congr (get?_put_of_off_chain fun node onChain => ?_)
    (policyOfType_put (.inr (resource_ne_type _ _)))
  simpa using off node onChain

theorem AnswersAlike.mono (h : AnswersAlike store state state' asked) {fewer : Resource → Prop}
    (sub : ∀ resource, fewer resource → asked resource) :
    AnswersAlike store state state' fewer where
  applicableRules resource mem := h.applicableRules resource (sub resource mem)
  check resource mem := h.check resource (sub resource mem)
  visible resources mem := h.visible resources fun r hr => sub r (mem r hr)
  recordRules resources mem := h.recordRules resources fun r hr => sub r (mem r hr)

/-- In a catalog the chains without the id of a resource are those of the resources that are
neither it nor below it. -/
theorem off_chain_of_catalog {rows : List ResourceRow} {catalog : Catalog}
    (built : Catalog.ofRows rows = .ok catalog) {x r : Resource} (listed : x ∈ catalog.toList)
    (listed' : r ∈ catalog.toList) (ne : x ≠ r) (apart : r ∉ x.ancestors) :
    ∀ node ∈ x.lineage, node.id ≠ r.id := by
  intro node onChain same
  have eq := Catalog.eq_of_id_eq_of_mem_chain built listed onChain listed' same
  subst eq
  rw [Resource.lineage, List.mem_reverse, List.mem_cons] at onChain
  rcases onChain with rfl | above
  · exact ne rfl
  · exact apart above

/-- A write for a data type reaches no resolution with another one. -/
theorem applicableRules_after_setTypePolicy (memory : Memory) (policy : Policy) {t typeName : String}
    (other : typeName ≠ t ∨ typeName = "") (x : Resource) (level : Level) :
    ((applicableRules Memory.store level x typeName).on
        ((Request.setTypePolicy t policy).after memory)).1 =
      ((applicableRules Memory.store level x typeName).on memory).1 := by
  obtain ⟨next, run, -⟩ := applicableRules_eq_resolved memory.holds level x typeName
  obtain ⟨next', run', -⟩ :=
    applicableRules_eq_resolved (Memory.holds (memory.put (.type t) policy)) level x typeName
  have off : typeName = "" ∨ PolicyKey.type t ≠ .type typeName := by
    rcases other with ne | empty
    · exact .inr fun same => ne (PolicyKey.type.inj same).symm
    · exact .inl empty
  have same : resolved memory.get? level x typeName =
      resolved (memory.put (.type t) policy).get? level x typeName :=
    Resolution.resolved_congr (get?_put_of_off_chain fun _ _ => resource_ne_type _ _) (policyOfType_put off)
  replace run' : (applicableRules Memory.store level x typeName).on
      ((Request.setTypePolicy t policy).after memory) = _ := run'
  rw [run, run', same]

/-- At the level of records a write for a data type can only turn no answer into the empty
collection. -/
theorem recordRules_after_setTypePolicy (memory : Memory) (policy : Policy) (t : String)
    (x : Resource) :
    ((applicableRules Memory.store .record x t).on
        ((Request.setTypePolicy t policy).after memory)).1 =
      ((applicableRules Memory.store .record x t).on memory).1 ∨
    ((applicableRules Memory.store .record x t).on memory).1 = .ok none ∧
      ((applicableRules Memory.store .record x t).on
        ((Request.setTypePolicy t policy).after memory)).1 = .ok (some .empty) := by
  by_cases empty : t = ""
  · exact .inl (applicableRules_after_setTypePolicy memory policy (.inr empty) x .record)
  · obtain ⟨next, run, -⟩ := applicableRules_eq_resolved memory.holds .record x t
    obtain ⟨next', run', -⟩ :=
      applicableRules_eq_resolved (Memory.holds (memory.put (.type t) policy)) .record x t
    replace run' : (applicableRules Memory.store .record x t).on
        ((Request.setTypePolicy t policy).after memory) = _ := run'
    have typed : Resolution.policyOfType (memory.put (.type t) policy).get? t = some policy := by
      rw [Resolution.policyOfType, if_neg empty, Memory.find_save_self]
    rw [run, run']
    exact Resolution.resolved_record_of_type (get?_put_of_off_chain fun _ _ => resource_ne_type _ _) typed

/-- A policy of a data type that is replaced by one with the same rules about resources leaves
every question answered as before. -/
theorem setTypePolicy_alike {memory : Memory} {t : String} {old policy : Policy}
    (held : memory.get? (.type t) = some old) (same : policy.resourceRules = old.resourceRules)
    (state state' : Memory) (before : Memory.store.Holds state memory.get?)
    (after : Memory.store.Holds state' (memory.put (.type t) policy).get?) :
    AnswersAlike Memory.store state state' fun _ => True := by
  refine answersAlike_of_resolved before after fun x _ level typeName => ?_
  have onChain : ∀ node ∈ x.lineage, memory.get? (.resource node.id) =
      (memory.put (.type t) policy).get? (.resource node.id) :=
    get?_put_of_off_chain fun _ _ => resource_ne_type _ _
  by_cases typed : typeName = t ∧ typeName ≠ ""
  · -- The two policies of the type differ, but not in what is merged of them.
    obtain ⟨rfl, named⟩ := typed
    have chain : Resolution.chainPolicies memory.get? x =
        Resolution.chainPolicies (memory.put (.type typeName) policy).get? x :=
      List.filterMap_congr onChain
    have ofOld : Resolution.policyOfType memory.get? typeName = some old := by
      rw [Resolution.policyOfType, if_neg named, held]
    have ofNew : Resolution.policyOfType (memory.put (.type typeName) policy).get? typeName =
        some policy := by
      rw [Resolution.policyOfType, if_neg named, Memory.find_save_self]
    rw [resolved, resolved, chain, ofOld, ofNew, Resolution.merged_congr_type same]
  · refine Resolution.resolved_congr onChain (policyOfType_put ?_)
    by_cases empty : typeName = ""
    · exact .inl empty
    · exact .inr fun eq => typed ⟨(PolicyKey.type.inj eq).symm, empty⟩

/-- A write for a resource is felt at this resource and below it only, and a write for a data type
only where rules are looked up with it. Of the latter the records feel no more than that there is
a policy; if the rules about resources stay as they were, nothing is felt at all, whatever is read
before and behind. -/
theorem writes_local (memory : Memory) (policy : Policy) :
    (∀ r : Resource,
      AnswersAlike Memory.store memory ((Request.setResourcePolicy r policy).after memory)
          (fun x => ∀ node ∈ x.lineage, node.id ≠ r.id) ∧
        ∀ rows catalog, Catalog.ofRows rows = .ok catalog → r ∈ catalog.toList →
          AnswersAlike Memory.store memory ((Request.setResourcePolicy r policy).after memory)
            fun x => x ∈ catalog.toList ∧ x ≠ r ∧ r ∉ x.ancestors) ∧
    ∀ t : String,
      (∀ x level typeName, typeName ≠ t ∨ typeName = "" →
        ((applicableRules Memory.store level x typeName).on
            ((Request.setTypePolicy t policy).after memory)).1 =
          ((applicableRules Memory.store level x typeName).on memory).1) ∧
      (∀ x,
        ((applicableRules Memory.store .record x t).on
            ((Request.setTypePolicy t policy).after memory)).1 =
          ((applicableRules Memory.store .record x t).on memory).1 ∨
        ((applicableRules Memory.store .record x t).on memory).1 = .ok none ∧
          ((applicableRules Memory.store .record x t).on
            ((Request.setTypePolicy t policy).after memory)).1 = .ok (some .empty)) ∧
      ∀ old, memory.get? (.type t) = some old → policy.resourceRules = old.resourceRules →
        ∀ before after : List Request, (∀ request ∈ before, request.Reads) →
          (∀ request ∈ after, request.Reads) →
          AnswersAlike Memory.store
            (Action.replies (Request.perform Memory.store) before memory).2
            (Action.replies (Request.perform Memory.store) after
              ((Request.setTypePolicy t policy).after memory)).2
            fun _ => True := by
  refine ⟨fun r => ⟨setResourcePolicy_local memory r policy, ?_⟩, fun t => ⟨?_, ?_, ?_⟩⟩
  · intro rows catalog built listed
    refine (setResourcePolicy_local memory r policy).mono fun x => ?_
    rintro ⟨listed', ne, apart⟩
    exact off_chain_of_catalog built listed' listed ne apart
  · exact fun x level typeName other =>
      applicableRules_after_setTypePolicy memory policy other x level
  · exact recordRules_after_setTypePolicy memory policy t
  · intro old held same before after reads reads'
    exact setTypePolicy_alike held same _ _ (holds_of_reads memory.holds reads)
      (holds_of_reads (Memory.holds (memory.put (.type t) policy)) reads')

namespace Sample

open Resolution.Sample

/-- Two files of one data type below one root. -/
def siblingRows : List ResourceRow :=
  [⟨"/file", .system, none, none, none, none⟩,
    ⟨"/file/a.txt", .leaf, some "/file", some "T", some "txt", none⟩,
    ⟨"/file/b.txt", .leaf, some "/file", some "T", some "txt", none⟩]

def sibling : Resource := .leaf "/file/b.txt" root "T" "txt" none

/-- The policy of the data type with another owner and a rule about records. -/
def relabelled : Policy :=
  ((policy [("typed", .auth "key")]).withRecordRule "r" ⟨9, (RecordRule.gate .pass).judge⟩)

end Sample

open Resolution.Sample Sample in
/-- What is written for the one file does not reach the other; and after the new policy of their
type has been read, staff are shown what they were shown before. -/
theorem writes_local_sibling :
    (∃ catalog, Catalog.ofRows siblingRows = .ok catalog ∧ file ∈ catalog.toList ∧
      sibling ∈ catalog.toList ∧ sibling ≠ file ∧ file ∉ sibling.ancestors) ∧
    ((recordRules Memory.store [sibling]).on memory).1 =
      ((recordRules Memory.store [sibling]).on
        ((Request.setResourcePolicy file relabelled).after memory)).1 ∧
    memory.get? (.type "T") = some (policy [("typed", .auth "key")]) ∧
    relabelled.recordRules.names = ["r"] ∧
    ((visible Memory.store staff (.ofPurpose "audit") [root, file, sibling]).on memory).1 =
      ((visible Memory.store staff (.ofPurpose "audit") [root, file, sibling]).on
        (Action.replies (Request.perform Memory.store) [.typePolicy "T"]
          ((Request.setTypePolicy "T" relabelled).after memory)).2).1 := by
  obtain ⟨ofResource, ofType⟩ := writes_local memory relabelled
  obtain ⟨-, -, replaced⟩ := ofType "T"
  have built : ∃ catalog, Catalog.ofRows siblingRows = .ok catalog ∧
      catalog.toList = [root, file, sibling] := ⟨_, rfl, rfl⟩
  obtain ⟨catalog, built, listed⟩ := built
  have first : file ∈ catalog.toList := by simp [listed]
  have second : sibling ∈ catalog.toList := by simp [listed]
  have apart : sibling ≠ file ∧ file ∉ sibling.ancestors := by decide
  have kept := replaced _ rfl rfl [] [.typePolicy "T"] (by simp) (by simp [Request.Reads])
  refine ⟨⟨catalog, built, first, second, apart⟩, ?_, rfl, rfl, ?_⟩
  · exact ((ofResource file).2 siblingRows catalog built first).recordRules [sibling]
      (by simpa using ⟨second, apart⟩)
  · exact kept.visible _ (fun _ _ => trivial) staff (.ofPurpose "audit")

end Access

end PolicyTree
