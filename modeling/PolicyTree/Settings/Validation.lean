import PolicyTree.Level
import PolicyTree.Settings.Basic
import PolicyTree.Text.Blank
import PolicyTree.Text.Quoted
/-
  What a configuration must satisfy before it is used, and how it is told that it does not:
  the log level is a known one, a cache that is on has a lifetime, and no id, subject, rule
  name or rule identifier is blank. Of several violations the first is reported.
-/
namespace PolicyTree

/-- The two lists of policies in a configuration. -/
inductive PolicyList where
  | resourcePolicies
  | typePolicies
  deriving DecidableEq, Repr

namespace PolicyList

/-- The name of a list. -/
def name : PolicyList → String
  | .resourcePolicies => "resource_policies"
  | .typePolicies => "type_policies"

/-- The name of the member that says what a policy of the list stands on. -/
def subjectName : PolicyList → String
  | .resourcePolicies => "resource"
  | .typePolicies => "type"

end PolicyList

/-- A text of a configuration that must not be blank. -/
inductive SettingPath where
  | resourceId (index : Nat)
  | subject (policies : PolicyList) (index : Nat)
  | ruleName (policies : PolicyList) (index : Nat) (level : Level) (rule : Nat)
  | ruleIdentifier (policies : PolicyList) (index : Nat) (level : Level) (rule : Nat)
  deriving DecidableEq, Repr

namespace SettingPath

/-- The place of a policy. -/
def policyText (policies : PolicyList) (index : Nat) : String :=
  s!"bootstrap.{policies.name}[{index}]"

/-- The path of a text. -/
def text : SettingPath → String
  | .resourceId index => s!"bootstrap.resources[{index}].id"
  | .subject policies index => policyText policies index ++ "." ++ policies.subjectName
  | .ruleName policies index level rule =>
    policyText policies index ++ s!".{level.name}_rules[{rule}].name"
  | .ruleIdentifier policies index level rule =>
    policyText policies index ++ s!".{level.name}_rules[{rule}].rule"

end SettingPath

/-- What a configuration fails to satisfy. -/
inductive Violation where
  | unknownLevel
  | zeroLifetime
  | blank (path : SettingPath)
  | stated (message : String)
  deriving DecidableEq, Repr

/-- The log levels there are. -/
def Logging.levels : List String := ["trace", "debug", "info", "warn", "error", "off"]

namespace Violation

def message : Violation → String
  | .unknownLevel => "logging.level must be one of " ++ Text.quotedList Logging.levels
  | .zeroLifetime => "cache.ttl_secs must be > 0 when the cache is enabled"
  | .blank path => path.text ++ " must not be empty"
  | .stated message => message

/-- The violation of a text that must not be blank, if it is. -/
def ofText (path : SettingPath) (text : String) : List Violation :=
  if Text.isBlankText text then [.blank path] else []

end Violation

/-! ## Violations in order -/

/-- Whether the log level is a known one; the case of ASCII letters does not count. -/
def Logging.isKnown (logging : Logging) : Bool :=
  levels.contains (String.ofList (logging.level.toList.map Char.toLower))

/-- The violations of rules, each by its place in the list. -/
def RuleRow.violations (policies : PolicyList) (index : Nat) (level : Level)
    (rules : List RuleRow) : List Violation :=
  rules.zipIdx.flatMap fun (row, rule) =>
    Violation.ofText (.ruleName policies index level rule) row.name ++
      Violation.ofText (.ruleIdentifier policies index level rule) row.rule

/-- The violations of policies, each by its place in the list. -/
def PolicyRow.violations (policies : PolicyList) (rows : List PolicyRow) : List Violation :=
  rows.zipIdx.flatMap fun (row, index) =>
    Violation.ofText (.subject policies index) row.subject ++
      RuleRow.violations policies index .resource row.resourceRules ++
      RuleRow.violations policies index .record row.recordRules

def ResourceRow.violations (rows : List ResourceRow) : List Violation :=
  rows.zipIdx.flatMap fun (row, index) => Violation.ofText (.resourceId index) row.id

/-- All violations of a configuration, the first to report first. -/
def Settings.violations (settings : Settings) : List Violation :=
  (if settings.logging.isKnown then [] else [.unknownLevel]) ++
    (if settings.caching.enabled && settings.caching.ttlSecs == 0 then [.zeroLifetime] else []) ++
    ResourceRow.violations settings.inventory.resources ++
    PolicyRow.violations .resourcePolicies settings.inventory.resourcePolicies ++
    PolicyRow.violations .typePolicies settings.inventory.typePolicies

/-- A configuration is valid, or its first violation is reported. -/
def Settings.validate (settings : Settings) : Except Violation Unit :=
  match settings.violations with
  | [] => .ok ()
  | violation :: _ => .error violation

end PolicyTree
