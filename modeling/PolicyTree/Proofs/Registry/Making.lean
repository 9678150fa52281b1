import PolicyTree.Policy.Build
import PolicyTree.Proofs.Map.Insertion
import PolicyTree.Proofs.Resource.Construction
import PolicyTree.Proofs.Rules.Merge
import PolicyTree.Registry.Builtin
/-
  Rules made by a registry. A policy built of rows holds such rules only, and what the registry
  of the library makes is one of the rules listed in `ResourceRule` and `RecordRule`.
-/
namespace PolicyTree

/-! ## Collections and policies -/

/-- Each rule was made of an identifier and parameters. -/
def Rules.MadeBy {α : Type} (make : String → RuleMaker α) (rules : Rules α) : Prop :=
  ∀ name rule, rules.get? name = some rule → ∃ id params, make id params = .ok rule.judge

/-- The rules of both levels were made by a registry. -/
structure Policy.MadeBy (registry : Registry) (policy : Policy) : Prop where
  resource : policy.resourceRules.MadeBy registry.makeResourceRule
  record : policy.recordRules.MadeBy registry.makeRecordRule

section collections

variable {α : Type} {make : String → RuleMaker α}

theorem Rules.madeBy_empty : (Rules.empty : Rules α).MadeBy make := by
  intro name rule defined
  cases defined

theorem Rules.MadeBy.insert {rules : Rules α} (h : rules.MadeBy make) {rule : Rule α} {id : String}
    {params : Parameters} (made : make id params = .ok rule.judge) (name : String) :
    (rules.insert name rule).MadeBy make := by
  intro other found defined
  rw [Rules.get?_insert] at defined
  split at defined
  · cases defined
    exact ⟨id, params, made⟩
  · exact h other found defined

theorem Rules.MadeBy.build {rows : List RuleRow} {serial : Nat} {rules built : Rules α}
    (h : rules.MadeBy make) (done : Rules.build make rows serial rules = .ok built) :
    built.MadeBy make := by
  induction rows generalizing serial rules with
  | nil =>
    cases done
    exact h
  | cons row rest ih =>
    rw [Rules.build] at done
    cases made : make row.rule row.params with
    | error error =>
      rw [made] at done
      cases done
    | ok judge =>
      rw [made] at done
      exact ih (h.insert made row.name) done

end collections

theorem PolicyRow.madeBy_build {registry : Registry} {serial : Nat} {row : PolicyRow}
    {policy : Policy} (done : row.build registry serial = .ok policy) : policy.MadeBy registry := by
  obtain ⟨resourceRules, resource, done⟩ := bind_eq_ok_iff.1 done
  obtain ⟨recordRules, record, done⟩ := bind_eq_ok_iff.1 done
  cases done
  exact ⟨Rules.madeBy_empty.build resource, Rules.madeBy_empty.build record⟩

/-! ## The library -/

/-- What a table of makers makes is one of the rules that they yield. -/
theorem NameMap.exists_rule_of_made {ρ α : Type} {judge : ρ → Judgement α}
    {table : List (String × (Parameters → Except PolicyError ρ))} {id : String}
    {maker : RuleMaker α}
    (found : (NameMap.ofList (table.map fun (id, make) =>
      (id, fun params => (make params).map judge))).get? id = some maker)
    {params : Parameters} {made : Judgement α} (h : maker params = .ok made) :
    ∃ make rule, (id, make) ∈ table ∧ make params = .ok rule ∧ made = judge rule := by
  obtain ⟨⟨own, make⟩, mem, eq⟩ := List.mem_map.1 (NameMap.mem_of_get?_ofList found)
  cases eq
  replace h : (make params).map judge = .ok made := h
  cases given : make params with
  | error error =>
    rw [given] at h
    cases h
  | ok rule =>
    rw [given] at h
    cases h
    exact ⟨make, rule, mem, given, rfl⟩

/-- The rule about records is the one that the library makes of an identifier and parameters. -/
def RecordRule.MadeOf (rule : RecordRule) (id : String) (params : Parameters) : Prop :=
  ∃ make, (id, make) ∈ RecordRule.builtin ∧ make params = .ok rule

namespace Registry

variable {id : String} {params : Parameters}

theorem exists_resourceRule {judge : Judgement Resource}
    (made : Registry.builtin.makeResourceRule id params = .ok judge) :
    ∃ rule : ResourceRule, judge = rule.judge := by
  rw [makeResourceRule] at made
  split at made
  · cases made
  · next maker found =>
    obtain ⟨-, rule, -, -, eq⟩ := NameMap.exists_rule_of_made found made
    exact ⟨rule, eq⟩

theorem exists_recordRule {judge : Judgement Json}
    (made : Registry.builtin.makeRecordRule id params = .ok judge) :
    ∃ rule : RecordRule, rule.MadeOf id params ∧ judge = rule.judge := by
  rw [makeRecordRule] at made
  split at made
  · cases made
  · next maker found =>
    obtain ⟨make, rule, listed, given, eq⟩ := NameMap.exists_rule_of_made found made
    exact ⟨rule, ⟨make, listed, given⟩, eq⟩

end Registry

end PolicyTree
