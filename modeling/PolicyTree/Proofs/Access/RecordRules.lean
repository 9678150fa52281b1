import PolicyTree.Proofs.Access.Resolution
/-
  The rules for the records of several resources. They are kept under the ids of the resources,
  so resources of one id share an entry: the first of them that has rules gives the entry its
  resource, and the last of them its rules. `Tabulates` states this as an invariant of the
  entries made so far, and `recordRules_tabulates` of the whole map.

  Where one id stands for two different resources, the entry thus need not show the rules of
  the resource that it names (`entry_of_twin`).
-/
namespace PolicyTree.Access

variable {σ : Type} {held : PolicyKey → Option Policy}

variable (held) in
/-- What resolution answers about the records of a resource. -/
def recordAnswer (resource : Resource) : Option (Rules Json) :=
  Resolution.merged .record (Resolution.chainPolicies held resource)
    (Resolution.policyOfType held resource.typeName)

/-! ## Entries -/

/-- Enter what is answered about a resource, if anything is. -/
def enterAnswer (answer : Resource → Option (Rules Json)) (found : RecordRuleMap)
    (resource : Resource) : RecordRuleMap :=
  match answer resource with
  | none => found
  | some rules => enter found resource rules

variable {answer : Resource → Option (Rules Json)} {resources : List Resource}
  {found : RecordRuleMap} {resource : Resource} {rules : Rules Json}

theorem keys_enter : (enter found resource rules).keys =
    if resource.id ∈ found.keys then found.keys else found.keys ++ [resource.id] := by
  unfold enter
  split
  · exact OrderedMap.keys_insert _ _ _
  · exact OrderedMap.keys_insert _ _ _

/-- The entry of a resource keeps the one that stood there before, with the new rules. -/
theorem get?_enter (id : String) : (enter found resource rules).get? id =
    if id = resource.id then some (((found.get? id).map Prod.fst).getD resource, rules)
    else found.get? id := by
  unfold enter
  split
  · next absent =>
    rw [OrderedMap.get?_insert]
    split
    · next eq => rw [eq, absent]; rfl
    · rfl
  · next first _ present =>
    rw [OrderedMap.get?_insert]
    split
    · next eq => rw [eq, present]; rfl
    · rfl

variable (answer resources) in
/-- The resources of an id that have an answer, in their order. -/
def answered (id : String) : List Resource :=
  resources.filter fun resource => resource.id == id && (answer resource).isSome

variable (answer resources found) in
/-- The map has an entry for each id with an answer, the ids in the order in which they first
have one. An entry is for the first resource of its id that has an answer, and shows the answer
about the last. -/
structure Tabulates : Prop where
  keys : found.keys =
    ((resources.filter fun resource => (answer resource).isSome).map (·.id)).eraseDups
  absent : ∀ id, found.get? id = none ↔ answered answer resources id = []
  entry : ∀ id first rules, found.get? id = some (first, rules) →
    (answered answer resources id).head? = some first ∧
      ∃ last, (answered answer resources id).getLast? = some last ∧ answer last = some rules

theorem mem_answered {id : String} {r : Resource} : r ∈ answered answer resources id ↔
    r ∈ resources ∧ r.id = id ∧ (answer r).isSome = true := by
  rw [answered, List.mem_filter, Bool.and_eq_true, beq_iff_eq]

theorem answered_concat (id : String) : answered answer (resources ++ [resource]) id =
    answered answer resources id ++ answered answer [resource] id := by
  unfold answered
  exact List.filter_append _ _

theorem answered_of_none (none : answer resource = none) (id : String) :
    answered answer [resource] id = [] := by
  simp [answered, none]

theorem answered_of_some (some : answer resource = some rules) (id : String) :
    answered answer [resource] id = if id = resource.id then [resource] else [] := by
  by_cases eq : id = resource.id
  · simp [answered, some, eq]
  · simp [answered, some, eq, Ne.symm eq]

/-- One more resource, with or without an answer. -/
theorem Tabulates.step (h : Tabulates answer resources found) (resource : Resource) :
    Tabulates answer (resources ++ [resource]) (enterAnswer answer found resource) := by
  unfold enterAnswer
  cases asked : answer resource with
  | none =>
    have same : ∀ id, answered answer (resources ++ [resource]) id =
        answered answer resources id := by
      intro id
      rw [answered_concat, answered_of_none asked, List.append_nil]
    refine ⟨?_, fun id => ?_, fun id first rules => ?_⟩
    · simp [h.keys, List.filter_append, asked]
    · rw [same]
      exact h.absent id
    · rw [same]
      exact h.entry id first rules
  | some rules =>
    have more : ∀ id, answered answer (resources ++ [resource]) id =
        answered answer resources id ++ if id = resource.id then [resource] else [] := by
      intro id
      rw [answered_concat, answered_of_some asked]
    refine ⟨?_, fun id => ?_, fun id first shown => ?_⟩
    · rw [keys_enter, h.keys, List.filter_append, List.map_append]
      simp only [List.mem_eraseDups]
      simp [asked, OrderedMap.eraseDups_concat]
    · rw [get?_enter, more]
      split
      · simp
      · rw [List.append_nil]
        exact h.absent id
    · rw [get?_enter, more]
      split
      · next eq =>
        intro entered
        cases entered
        refine ⟨?_, resource, by simp, asked⟩
        cases before : found.get? id with
        | none =>
          rw [(h.absent id).1 before]
          rfl
        | some entry =>
          obtain ⟨first, old⟩ := entry
          rw [List.head?_append, (h.entry id first old before).1]
          rfl
      · rw [List.append_nil]
        exact h.entry id first shown

variable (answer) in
/-- The entries of all resources, one after the other. -/
theorem tabulates_foldl (resources : List Resource) :
    Tabulates answer resources (resources.foldl (enterAnswer answer) .empty) := by
  induction resources using List.reverseRecOn with
  | nil => exact ⟨rfl, fun id => iff_of_true rfl rfl, nofun⟩
  | append_singleton resources resource ih =>
    rw [List.foldl_append]
    exact ih.step resource

theorem Tabulates.id_eq (h : Tabulates answer resources found) {id : String} {first : Resource}
    (shown : found.get? id = some (first, rules)) : first.id = id :=
  (mem_answered.1 (List.mem_of_head? (h.entry id first rules shown).1)).2.1

/-- An entry shows the rules of its own resource if no other one of its id has rules. -/
theorem Tabulates.own (h : Tabulates answer resources found) {id : String} {first : Resource}
    (shown : found.get? id = some (first, rules))
    (alone : ∀ other ∈ answered answer resources id, other = first) : answer first = some rules := by
  obtain ⟨-, last, is_last, answered⟩ := h.entry id first rules shown
  rw [← alone last (List.mem_of_getLast? is_last)]
  exact answered

theorem Tabulates.get?_eq_none_iff (h : Tabulates answer resources found) {id : String} :
    found.get? id = none ↔ ∀ other ∈ resources, other.id = id → answer other = none := by
  rw [h.absent, List.eq_nil_iff_forall_not_mem]
  simp [mem_answered]

/-! ## The map over a store -/

theorem collectRecordRules_answering (constructible : ∀ r ∈ resources, r.Constructible)
    (found : RecordRuleMap) :
    (collectRecordRules (.answering fun key => .ok (held key)) resources found).on () =
      (.ok (resources.foldl (enterAnswer (recordAnswer held)) found), ()) := by
  induction resources generalizing found with
  | nil => rfl
  | cons resource rest ih =>
    rw [List.forall_mem_cons] at constructible
    have first : (Resolution.applicableRules (.answering fun key => .ok (held key)) .record
        resource resource.typeName).on () = _ :=
      Resolution.applicableRules_answering constructible.1.depth_lt .record resource.typeName
    rw [collectRecordRules, Action.on_bind_of_ok first, List.foldl_cons, enterAnswer, recordAnswer]
    cases Resolution.merged .record (Resolution.chainPolicies held resource)
      (Resolution.policyOfType held resource.typeName) with
    | none => exact ih constructible.2 found
    | some rules => exact ih constructible.2 _

/-- Over a state that holds `held`, the map is made of what resolution answers there. -/
theorem recordRules_of_holds {store : Store σ} {state : σ} (holds : store.Holds state held)
    (constructible : ∀ r ∈ resources, r.Constructible) :
    ∃ next, (recordRules store resources).on state =
        (.ok (resources.foldl (enterAnswer (recordAnswer held)) .empty), next) ∧
      store.Holds next held :=
  holds.of_simulates (fun _ h => recordRules_simulates h resources)
    (collectRecordRules_answering constructible .empty)

/-- Each entry of the map is for the first resource of its id that has rules, and shows those of
the last: its own, where the id stands for one resource only. A resource has no entry under
its id if and only if none of that id has rules, and the ids stand in the order in which they
first have some. -/
theorem recordRules_tabulates (store : Store σ) (state : σ) (held : PolicyKey → Option Policy)
    (holds : store.Holds state held) (resources : List Resource)
    (constructible : ∀ r ∈ resources, r.Constructible) :
    ∃ answer found next,
      (∀ r ∈ resources, ∃ after,
        (Resolution.applicableRules store .record r r.typeName).on state =
          (.ok (answer r), after)) ∧
      (recordRules store resources).on state = (.ok found, next) ∧ store.Holds next held ∧
      (∀ id first rules, (id, first, rules) ∈ found.entries → first.id = id ∧
        (answered answer resources id).head? = some first ∧
        (∃ last, (answered answer resources id).getLast? = some last ∧ answer last = some rules) ∧
        ((∀ other ∈ answered answer resources id, other = first) → answer first = some rules)) ∧
      (∀ r ∈ resources, found.get? r.id = none ↔
        ∀ other ∈ resources, other.id = r.id → answer other = none) ∧
      found.keys = ((resources.filter fun r => (answer r).isSome).map (·.id)).eraseDups := by
  obtain ⟨next, run, after⟩ := recordRules_of_holds holds constructible
  have table := tabulates_foldl (recordAnswer held) resources
  refine ⟨recordAnswer held, _, next, fun r mem => ?_, run, after, ?_,
    fun r _ => table.get?_eq_none_iff, table.keys⟩
  · obtain ⟨next, resolved, -⟩ := Resolution.applicableRules_of_holds holds
      (constructible r mem).depth_lt .record r.typeName
    exact ⟨next, resolved⟩
  · intro id first rules mem
    have shown := OrderedMap.get?_eq_some_iff.2 mem
    obtain ⟨head, last⟩ := table.entry id first rules shown
    exact ⟨table.id_eq shown, head, last, table.own shown⟩

namespace Sample

/-- A collection of one rule that lets everything through. -/
def openRules (name : String) (serial : Nat) : Rules Json :=
  Rules.empty.insert name ⟨serial, (RecordRule.gate .pass).judge⟩

/-- Two leaves of one id in different systems. -/
def twin (system : String) : Resource := .leaf "f" (.system system) "T" "txt" none

/-- A policy for the records of each of the two systems. -/
def twinMemory : Memory :=
  (Memory.empty.put (.resource "left") ⟨default, .empty, openRules "l" 0⟩).put
    (.resource "right") ⟨default, .empty, openRules "r" 1⟩

theorem id_twin (system : String) : (twin system).id = "f" := rfl

theorem twin_constructible (system : String) : (twin system).Constructible := by
  have built : Resource.leaf? "f" (.system system) (some "T") (some "txt") none =
      .ok (twin system) := rfl
  exact .leaf (.system system) built

/-- What resolution answers about the twin in the left system. -/
theorem resolved_left : (Resolution.applicableRules Memory.store .record (twin "left") "T").on
    twinMemory = (.ok (some (openRules "l" 0)), twinMemory) := rfl

/-- What resolution answers about the twin in the right system. -/
theorem resolved_right : (Resolution.applicableRules Memory.store .record (twin "right") "T").on
    twinMemory = (.ok (some (openRules "r" 1)), twinMemory) := rfl

end Sample

open Sample in
/-- The entry for the one leaf shows the rules of the other. -/
theorem entry_of_twin :
    Memory.store.Holds twinMemory twinMemory.get? ∧
      (∀ r ∈ [twin "left", twin "right"], r.Constructible) ∧
      ∃ found next rules,
        (recordRules Memory.store [twin "left", twin "right"]).on twinMemory =
          (.ok found, next) ∧
        ("f", twin "left", rules) ∈ found.entries ∧
        ¬ ∃ after, (Resolution.applicableRules Memory.store .record (twin "left")
          (twin "left").typeName).on twinMemory = (.ok (some rules), after) := by
  have computed : (recordRules Memory.store [twin "left", twin "right"]).on twinMemory =
      (.ok (OrderedMap.empty.insert "f" (twin "left", openRules "r" 1)), twinMemory) := rfl
  have constructible : ∀ r ∈ [twin "left", twin "right"], r.Constructible := by
    simp [twin_constructible]
  have entered : ("f", twin "left", openRules "r" 1) ∈
      (OrderedMap.empty.insert "f" (twin "left", openRules "r" 1)).entries :=
    List.mem_singleton.2 rfl
  refine ⟨twinMemory.holds, constructible, _, _, openRules "r" 1, computed, entered, ?_⟩
  rintro ⟨after, resolved⟩
  have same : openRules "l" 0 = openRules "r" 1 := by
    have both := resolved_left.symm.trans resolved
    simpa using congrArg Prod.fst both
  exact absurd (congrArg Rules.names same) (by decide)

open Sample in
/-- A system without a policy is left out; the leaf that comes first and last has one entry, with
its own rules, although its twin comes between. -/
theorem recordRules_tabulates_twins :
    Memory.store.Holds twinMemory twinMemory.get? ∧
      (∀ r ∈ [.system "s", twin "left", twin "right", twin "left"], r.Constructible) ∧
      ∃ found next,
        (recordRules Memory.store [.system "s", twin "left", twin "right", twin "left"]).on
          twinMemory = (.ok found, next) ∧
        found.keys = ["f"] ∧ found.get? "s" = none ∧
        ∀ first rules, ("f", first, rules) ∈ found.entries →
          first = twin "left" ∧ rules = openRules "l" 0 := by
  have constructible : ∀ r ∈ [.system "s", twin "left", twin "right", twin "left"],
      r.Constructible := by
    simp [twin_constructible, Resource.Constructible.system]
  obtain ⟨answer, found, next, answers, run, -, entries, absent, keys⟩ :=
    recordRules_tabulates Memory.store twinMemory twinMemory.get? twinMemory.holds _ constructible
  have left : answer (twin "left") = some (openRules "l" 0) := by
    obtain ⟨after, resolved⟩ := answers (twin "left") (by simp)
    simpa using congrArg Prod.fst (resolved.symm.trans resolved_left)
  have right : answer (twin "right") = some (openRules "r" 1) := by
    obtain ⟨after, resolved⟩ := answers (twin "right") (by simp)
    simpa using congrArg Prod.fst (resolved.symm.trans resolved_right)
  have none : answer (.system "s") = none := by
    obtain ⟨after, resolved⟩ := answers (.system "s") (by simp)
    have computed : (Resolution.applicableRules Memory.store .record (.system "s")
      (Resource.system "s").typeName).on twinMemory = (.ok none, twinMemory) := rfl
    simpa using congrArg Prod.fst (resolved.symm.trans computed)
  have system : (Resource.system "s").id = "s" := rfl
  have shared : answered answer [.system "s", twin "left", twin "right", twin "left"] "f" =
      [twin "left", twin "right", twin "left"] := by
    simp [answered, left, right, none, id_twin, system]
  refine ⟨twinMemory.holds, constructible, found, next, run, ?_, ?_, ?_⟩
  · have ids : (List.filter (fun r => (answer r).isSome)
        [.system "s", twin "left", twin "right", twin "left"]).map (·.id) = ["f", "f", "f"] := by
      simp [left, right, none, id_twin]
    rw [keys, ids]
    decide
  · refine (absent (.system "s") (by simp)).2 ?_
    simp [none, id_twin, system]
  · intro first rules mem
    obtain ⟨-, head, ⟨last, is_last, shown⟩, -⟩ := entries "f" first rules mem
    rw [shared] at head is_last
    replace is_last : twin "left" = last := by simpa using is_last
    cases head
    rw [← is_last, left] at shown
    exact ⟨rfl, (Option.some.inj shown).symm⟩

end PolicyTree.Access
