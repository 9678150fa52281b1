import PolicyTree.Proofs.Map.Splitting
import PolicyTree.Proofs.Rules.Evaluation
import PolicyTree.Proofs.Rules.Merge
/-
  A merge of two collections, run one after the other. What the second collection redefines acts at
  the places of the first (`overriddenBy`), on values that the rest of the second has not seen;
  what only the second defines acts behind all of the first, in its own order (`beyond`). That a
  run through the merge is a run through these two is `evaluate_merge`; where the names are apart
  nothing is redefined, and the two collections run as they are (`Decomposes`).
-/
namespace PolicyTree.Rules

variable {α : Type}

/-! ## The two parts of a merge -/

/-- The collection, with the rules of another one under the names that both define. -/
def overriddenBy (rules other : Rules α) : Rules α :=
  ⟨rules.rules.replaceFrom other.rules, rules.contributions⟩

/-- The collection, less the names that another one defines. -/
def beyond (rules other : Rules α) : Rules α :=
  ⟨rules.rules.without other.rules, rules.contributions.filter fun name => name ∉ other.names⟩

theorem names_overriddenBy (rules other : Rules α) :
    (rules.overriddenBy other).names = rules.names :=
  OrderedMap.keys_replaceFrom rules.rules other.rules

theorem get?_overriddenBy (rules other : Rules α) (name : String) :
    (rules.overriddenBy other).get? name =
      if name ∈ rules.names then (other.get? name).or (rules.get? name) else none :=
  OrderedMap.get?_replaceFrom rules.rules other.rules name

theorem names_beyond (rules other : Rules α) :
    (rules.beyond other).names = rules.names.filter fun name => name ∉ other.names :=
  OrderedMap.keys_without rules.rules other.rules

theorem get?_beyond (rules other : Rules α) (name : String) :
    (rules.beyond other).get? name = if name ∈ other.names then none else rules.get? name :=
  OrderedMap.get?_without rules.rules other.rules name

/-! ## Runs -/

theorem entries_merge (rules other : Rules α) :
    (rules.merge other).rules.entries =
      (rules.overriddenBy other).rules.entries ++ (other.beyond rules).rules.entries :=
  OrderedMap.entries_insertAll_entries rules.rules other.rules

/-- A value runs through a merge as it runs through what is redefined in place, and then through
what is new. -/
theorem evaluate_merge (rules other : Rules α) (value : α) (user : User) (context : Context) :
    (rules.merge other).evaluate value user context =
      ((rules.overriddenBy other).evaluate value user context).andThen fun next =>
        (other.beyond rules).evaluate next user context := by
  unfold evaluate
  rw [entries_merge, run_append]

/-! ## Names apart -/

section apart

variable {rules other : Rules α}

/-- No name of the one collection is defined by the other. -/
def Apart (rules other : Rules α) : Prop := ∀ name ∈ other.names, name ∉ rules.names

theorem overriddenBy_of_apart (apart : rules.Apart other) :
    (rules.overriddenBy other).rules = rules.rules := by
  refine OrderedMap.eq_of_get?_eq (names_overriddenBy rules other) fun name => ?_
  have shown : (rules.overriddenBy other).get? name = rules.get? name := by
    rw [get?_overriddenBy]
    by_cases defined : name ∈ rules.names
    · have unset : other.get? name = none :=
        get?_eq_none_iff.2 fun again => apart name again defined
      rw [if_pos defined, unset, Option.none_or]
    · rw [if_neg defined, get?_eq_none_iff.2 defined]
  exact shown

theorem beyond_of_apart (apart : rules.Apart other) : (other.beyond rules).rules = other.rules := by
  have names : (other.beyond rules).names = other.names := by
    rw [names_beyond, List.filter_eq_self]
    intro name defined
    exact decide_eq_true (apart name defined)
  refine OrderedMap.eq_of_get?_eq names fun name => ?_
  have shown : (other.beyond rules).get? name = other.get? name := by
    rw [get?_beyond]
    by_cases defined : name ∈ rules.names
    · have unset : other.get? name = none :=
        get?_eq_none_iff.2 fun again => apart name again defined
      rw [if_pos defined, unset]
    · rw [if_neg defined]
  exact shown

/-- Collections with names apart run one behind the other. -/
theorem evaluate_merge_of_apart (apart : rules.Apart other) (value : α) (user : User)
    (context : Context) :
    (rules.merge other).evaluate value user context =
      (rules.evaluate value user context).andThen fun next => other.evaluate next user context := by
  rw [evaluate_merge]
  unfold evaluate
  rw [overriddenBy_of_apart apart, beyond_of_apart apart]

/-- What is denied stays denied, by the same rule, whatever is merged on top under fresh names. -/
theorem evaluate_merge_of_denied (apart : rules.Apart other) {value : α} {user : User}
    {context : Context} {name : String}
    (denied : rules.evaluate value user context = .denied name) :
    (rules.merge other).evaluate value user context = .denied name := by
  rw [evaluate_merge_of_apart apart, denied]
  rfl

end apart

/-- What a merge of two collections does, in terms of the two. -/
structure Decomposes (rules other : Rules α) : Prop where
  overridden_names : (rules.overriddenBy other).names = rules.names
  overridden_get? : ∀ name ∈ rules.names,
    (rules.overriddenBy other).get? name = (other.get? name).or (rules.get? name)
  beyond_names : (other.beyond rules).names = other.names.filter fun name => name ∉ rules.names
  beyond_get? : ∀ name ∉ rules.names, (other.beyond rules).get? name = other.get? name
  evaluate : ∀ value user context, (rules.merge other).evaluate value user context =
    ((rules.overriddenBy other).evaluate value user context).andThen fun next =>
      (other.beyond rules).evaluate next user context
  evaluate_apart : rules.Apart other → ∀ value user context,
    (rules.merge other).evaluate value user context =
      (rules.evaluate value user context).andThen fun next => other.evaluate next user context
  denied_apart : rules.Apart other → ∀ value user context name,
    rules.evaluate value user context = .denied name →
      (rules.merge other).evaluate value user context = .denied name

theorem decomposes (rules other : Rules α) : rules.Decomposes other where
  overridden_names := names_overriddenBy rules other
  overridden_get? name defined := by rw [get?_overriddenBy, if_pos defined]
  beyond_names := names_beyond other rules
  beyond_get? name undefined := by rw [get?_beyond, if_neg undefined]
  evaluate := evaluate_merge rules other
  evaluate_apart apart := evaluate_merge_of_apart apart
  denied_apart apart _ _ _ _ := evaluate_merge_of_denied apart

end PolicyTree.Rules
