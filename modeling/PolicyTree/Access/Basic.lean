import PolicyTree.Access.Resolution
import PolicyTree.Map.Ordered
import PolicyTree.Rules.Evaluation
/-
  The two questions about access: which of some resources a user may see for a purpose, and
  which rules a reader of them applies to each record.
-/
namespace PolicyTree

/-- Why access is denied. -/
inductive Denial where
  | noPolicy (resource : String)
  | byRule (resource rule : String)
  deriving DecidableEq, Repr

namespace Denial

/-- The reason in one word. -/
def code : Denial → String
  | .noPolicy _ => "no-policy"
  | .byRule .. => "rule-denied"

def message : Denial → String
  | .noPolicy resource => s!"No policy is known for resource {resource}"
  | .byRule resource rule => s!"Rule '{rule}' denied access to resource {resource}"

/-- The rule that denied. -/
def rule? : Denial → Option String
  | .noPolicy _ => none
  | .byRule _ rule => some rule

end Denial

/-- The answer about one resource. An allowed resource is as the rules left it. -/
inductive Decision where
  | allow (resource : Resource)
  | deny (reason : Denial)
  deriving DecidableEq

namespace Decision

def isAllowed : Decision → Bool
  | .allow _ => true
  | .deny _ => false

def resource? : Decision → Option Resource
  | .allow resource => some resource
  | .deny _ => none

/-- What the outcome of the rules of a resource says about access to it. -/
def ofOutcome (resource : String) : Outcome Resource → Except Failure Decision
  | .allowed value => .ok (.allow value)
  | .denied rule => .ok (.deny (.byRule resource rule))
  | .aborted reason => .error (.ruleAborted reason)

end Decision

namespace Access

variable {σ : Type}

/-- An evaluator, for a reader who looks into it. The store that it asks is not shown. -/
def debugText : String := "AccessEvaluator \x7b resolver: HierarchyResolver \x7b .. \x7d, .. \x7d"

/-- Whether a user may see a resource. -/
def check (store : Store σ) (user : User) (context : Context) (resource : Resource) :
    Action σ Decision := do
  match ← Resolution.applicableRules store .resource resource resource.typeName with
  | none => return .deny (.noPolicy resource.id)
  | some rules =>
    Action.ofExcept (Decision.ofOutcome resource.id (rules.evaluate resource user context))

/-- The resources that a user may see, in order and as their rules leave them. -/
def visible (store : Store σ) (user : User) (context : Context) :
    List Resource → Action σ (List Resource)
  | [] => pure []
  | resource :: rest => do
    let decision ← check store user context resource
    let others ← visible store user context rest
    return decision.resource?.toList ++ others

/-- Resources under their ids, each with the rules for its records. -/
abbrev RecordRuleMap := OrderedMap String (Resource × Rules Json)

/-- Enter the rules of a resource. A resource whose id is there already gives its rules to the
one that was entered first. -/
def enter (found : RecordRuleMap) (resource : Resource) (rules : Rules Json) : RecordRuleMap :=
  match found.get? resource.id with
  | none => found.insert resource.id (resource, rules)
  | some (first, _) => found.insert resource.id (first, rules)

/-- The rules for the records of resources, added to those found so far. -/
def collectRecordRules (store : Store σ) :
    List Resource → RecordRuleMap → Action σ RecordRuleMap
  | [], found => pure found
  | resource :: rest, found => do
    match ← Resolution.applicableRules store .record resource resource.typeName with
    | none => collectRecordRules store rest found
    | some rules => collectRecordRules store rest (enter found resource rules)

/-- The rules that a reader applies to the records of each resource; a resource without any
policy is left out. -/
def recordRules (store : Store σ) (resources : List Resource) : Action σ RecordRuleMap :=
  collectRecordRules store resources .empty

end Access

end PolicyTree
