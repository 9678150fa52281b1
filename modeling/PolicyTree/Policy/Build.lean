import PolicyTree.Registry.Basic
import PolicyTree.Settings.Basic
/-
  Policies made of rows. Every rule becomes an instance of its own: the rules of a policy
  are numbered on from a given serial number, first those about resources, then those about
  records. All rules about resources are made before any about records, and the first that
  cannot be made is reported.
-/
namespace PolicyTree

/-- Make the rules of rows and insert them in order. -/
def Rules.build {α : Type} (make : String → RuleMaker α) :
    List RuleRow → (serial : Nat) → Rules α → Except PolicyError (Rules α)
  | [], _, rules => .ok rules
  | row :: rest, serial, rules =>
    match make row.rule row.params with
    | .error error => .error error
    | .ok judge => Rules.build make rest (serial + 1) (rules.insert row.name ⟨serial, judge⟩)

namespace PolicyRow

/-- The number of instances that the policy of a row takes. -/
def ruleCount (row : PolicyRow) : Nat := row.resourceRules.length + row.recordRules.length

/-- The policy of a row, its rules numbered from `serial` on. -/
def build (registry : Registry) (serial : Nat) (row : PolicyRow) : Except PolicyError Policy := do
  let resourceRules ← Rules.build registry.makeResourceRule row.resourceRules serial .empty
  let recordRules ← Rules.build registry.makeRecordRule row.recordRules
    (serial + row.resourceRules.length) .empty
  return ⟨row.owner, resourceRules, recordRules⟩

end PolicyRow

end PolicyTree
