import PolicyTree.Proofs.Map.Insertion
import PolicyTree.Rules.Basic
/-
  What a merge of collections of rules consists of. Three orders meet in it and do not agree:
  a name stands where it was defined first, the rule under it is the one defined last, and
  the contributions keep every definition.

  `IsMergeOf` states the three at once, in terms of the collections alone; `mergeAll_isMergeOf`
  says that `mergeAll` meets it.
-/
namespace PolicyTree.Rules

variable {α : Type}

/-! ## Two collections -/

theorem get?_insert (rules : Rules α) (name other : String) (rule : Rule α) :
    (rules.insert name rule).get? other = if other = name then some rule else rules.get? other :=
  OrderedMap.get?_insert rules.rules name other rule

theorem names_merge (rules other : Rules α) :
    (rules.merge other).names = (rules.names ++ other.names).eraseDups :=
  OrderedMap.keys_insertAll rules.rules other.rules.entries

theorem get?_merge (rules other : Rules α) (name : String) :
    (rules.merge other).get? name = (other.get? name).or (rules.get? name) :=
  OrderedMap.get?_insertAll_entries rules.rules other.rules name

theorem get?_eq_none_iff {rules : Rules α} {name : String} :
    rules.get? name = none ↔ name ∉ rules.names :=
  OrderedMap.get?_eq_none_iff

theorem get?_eq_some_iff {rules : Rules α} {name : String} {rule : Rule α} :
    rules.get? name = some rule ↔ (name, rule) ∈ rules.rules.entries :=
  OrderedMap.get?_eq_some_iff

/-! ## Many collections -/

/-- The rule that the last collection that defines a name gives it. -/
def lastDefinition (collections : List (Rules α)) (name : String) : Option (Rule α) :=
  (collections.filterMap (·.get? name)).getLast?

/-- Every definition of a name, in the order of the collections. -/
def definedNames (collections : List (Rules α)) : List String := collections.flatMap (·.names)

/-- Every contribution, in the order of the collections. -/
def allContributions (collections : List (Rules α)) : List String :=
  collections.flatMap (·.contributions)

/-- That some rules are collections merged in order. -/
structure IsMergeOf (collections : List (Rules α)) (rules : Rules α) : Prop where
  names : rules.names = (definedNames collections).eraseDups
  get? : ∀ name, rules.get? name = lastDefinition collections name
  contributions : rules.contributions = allContributions collections
  message : rules.message =
    if allContributions collections = [] then "no rules set"
    else ", ".intercalate (allContributions collections)

theorem mergeAll_concat (collections : List (Rules α)) (last : Rules α) :
    mergeAll (collections ++ [last]) = (mergeAll collections).merge last := by
  simp [mergeAll]

theorem names_mergeAll (collections : List (Rules α)) :
    (mergeAll collections).names = (definedNames collections).eraseDups := by
  induction collections using List.reverseRecOn with
  | nil => rfl
  | append_singleton collections last ih =>
    rw [mergeAll_concat, names_merge, ih, OrderedMap.eraseDups_eraseDups_append]
    simp [definedNames]

theorem get?_mergeAll (collections : List (Rules α)) (name : String) :
    (mergeAll collections).get? name = lastDefinition collections name := by
  induction collections using List.reverseRecOn with
  | nil => rfl
  | append_singleton collections last ih =>
    rw [mergeAll_concat, get?_merge, ih, lastDefinition, lastDefinition, List.filterMap_append]
    cases h : last.get? name <;> simp [h]

theorem contributions_mergeAll (collections : List (Rules α)) :
    (mergeAll collections).contributions = allContributions collections := by
  induction collections using List.reverseRecOn with
  | nil => rfl
  | append_singleton collections last ih =>
    rw [mergeAll_concat, contributions_merge, ih]
    simp [allContributions]

theorem message_eq (rules : Rules α) :
    rules.message = if rules.contributions = [] then "no rules set"
      else ", ".intercalate rules.contributions := by
  unfold message
  cases rules.contributions <;> rfl

/-- Merged collections keep names at their first definition, rules of their last one, and
all contributions. -/
theorem mergeAll_isMergeOf (collections : List (Rules α)) :
    IsMergeOf collections (mergeAll collections) where
  names := names_mergeAll collections
  get? := get?_mergeAll collections
  contributions := contributions_mergeAll collections
  message := by rw [message_eq, contributions_mergeAll]

/-! ## Collections behind collections -/

section behind

variable {front back : List (Rules α)} {rules more : Rules α}

theorem IsMergeOf.names_isPrefix (merge : IsMergeOf front rules)
    (merge' : IsMergeOf (front ++ back) more) : rules.names <+: more.names := by
  rw [merge.names, merge'.names, definedNames, definedNames, List.flatMap_append,
    List.eraseDups_append]
  exact List.prefix_append _ _

theorem IsMergeOf.contributions_isPrefix (merge : IsMergeOf front rules)
    (merge' : IsMergeOf (front ++ back) more) : rules.contributions <+: more.contributions := by
  rw [merge.contributions, merge'.contributions, allContributions, allContributions,
    List.flatMap_append]
  exact List.prefix_append _ _

theorem IsMergeOf.get?_eq_of_behind (merge : IsMergeOf front rules)
    (merge' : IsMergeOf (front ++ back) more) {name : String}
    (undefined : ∀ later ∈ back, later.get? name = none) : more.get? name = rules.get? name := by
  have none_behind : back.filterMap (·.get? name) = [] := List.filterMap_eq_nil_iff.2 undefined
  rw [merge.get?, merge'.get?, lastDefinition, lastDefinition, List.filterMap_append, none_behind,
    List.append_nil]

end behind

/-! ## The last definition -/

/-- What comes behind the last definition does not define the name. -/
theorem lastDefinition_eq_of_split {before after : List (Rules α)} {rules : Rules α}
    {name : String} {rule : Rule α} (h : rules.get? name = some rule)
    (undefined : ∀ later ∈ after, later.get? name = none) :
    lastDefinition (before ++ rules :: after) name = some rule := by
  have none_after : after.filterMap (·.get? name) = [] :=
    List.filterMap_eq_nil_iff.2 undefined
  simp [lastDefinition, List.filterMap_append, h, none_after]

theorem mem_definedNames_iff {collections : List (Rules α)} {name : String} :
    name ∈ definedNames collections ↔ lastDefinition collections name ≠ none := by
  rw [← get?_mergeAll, ne_eq, get?_eq_none_iff, not_not, names_mergeAll, List.mem_eraseDups]

theorem mem_definedNames_of_eq_some {collections : List (Rules α)} {name : String} {rule : Rule α}
    (last : lastDefinition collections name = some rule) : name ∈ definedNames collections :=
  mem_definedNames_iff.2 (last ▸ Option.some_ne_none rule)

end PolicyTree.Rules
