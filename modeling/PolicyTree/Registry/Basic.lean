import PolicyTree.Policy
import PolicyTree.Text.Blank
import PolicyTree.Text.Fields
import PolicyTree.Text.Quoted
/-
  A registry says how a rule is made from the identifier and the parameters that a
  configuration gives. The two levels have tables of their own, since one identifier may
  stand for different rules at the two levels.
-/
namespace PolicyTree

/-- The parameters of a rule. -/
abbrev Parameters := NameMap String

/-- Makes a rule of its parameters, or says what is wrong with them. -/
abbrev RuleMaker (α : Type) := Parameters → Except PolicyError (Judgement α)

namespace Parameters

/-- A parameter that must be there and not be blank, without the white space around it. -/
def required (rule : String) (params : Parameters) (key : String) : Except PolicyError String :=
  match params.get? key with
  | none => .error (.invalidParameters rule (.missing key))
  | some value =>
    let value := Text.trim value
    if value = "" then .error (.invalidParameters rule (.missing key)) else .ok value

/-- The names listed in a text: what stands between the commas, trimmed, blanks left out. -/
def listedFields (text : String) : List String :=
  ((Text.split ',' text).map Text.trim).filter (· ≠ "")

/-- The names listed under `fields`; there must be one. -/
def fieldList (rule : String) (params : Parameters) : Except PolicyError (List String) := do
  let text ← required rule params "fields"
  match listedFields text with
  | [] => .error (.invalidParameters rule .noFields)
  | fields => .ok fields

end Parameters

/-- The rules that can be made, by identifier and level. -/
structure Registry where
  resourceRules : NameMap (RuleMaker Resource)
  recordRules : NameMap (RuleMaker Json)

namespace Registry

/-- The registry that knows no rule. -/
def empty : Registry := ⟨.empty, .empty⟩

/-- Enter a rule about resources, in the place of the one of that identifier. -/
def registerResourceRule (registry : Registry) (id : String) (maker : RuleMaker Resource) :
    Registry :=
  { registry with resourceRules := registry.resourceRules.insert id maker }

/-- Enter a rule about records, in the place of the one of that identifier. -/
def registerRecordRule (registry : Registry) (id : String) (maker : RuleMaker Json) : Registry :=
  { registry with recordRules := registry.recordRules.insert id maker }

/-- Enter a rule at both levels. -/
def registerBoth (registry : Registry) (id : String)
    (maker : (α : Type) → RuleMaker α) : Registry :=
  (registry.registerResourceRule id (maker Resource)).registerRecordRule id (maker Json)

/-- Make the rule that an identifier stands for among rules about resources. -/
def makeResourceRule (registry : Registry) (id : String) : RuleMaker Resource := fun params =>
  match registry.resourceRules.get? id with
  | none => .error (.unknownRule .resource id)
  | some maker => maker params

/-- Make the rule that an identifier stands for among rules about records. -/
def makeRecordRule (registry : Registry) (id : String) : RuleMaker Json := fun params =>
  match registry.recordRules.get? id with
  | none => .error (.unknownRule .record id)
  | some maker => maker params

def resourceRuleIds (registry : Registry) : List String := registry.resourceRules.keys

def recordRuleIds (registry : Registry) : List String := registry.recordRules.keys

/-- The identifiers, for a reader who looks into the registry. -/
def debugText (registry : Registry) : String :=
  "RuleRegistry \x7b resource_rules: " ++ Text.quotedList registry.resourceRuleIds ++
    ", record_rules: " ++ Text.quotedList registry.recordRuleIds ++ " \x7d"

end Registry

end PolicyTree
