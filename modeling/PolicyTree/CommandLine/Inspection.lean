import PolicyTree.CommandLine.Check
import PolicyTree.User.Codec
/-
  The commands that show what is there: the rules that apply to a resource, a stored policy,
  and the tree of resources. That there is nothing to show is a warning, in every format.
-/
namespace PolicyTree.CommandLine

/-- A line behind a mark. -/
def marked (colours : Bool) (colour : Colour) (mark text : String) : String :=
  colour.paint colours mark ++ " " ++ text ++ "\n"

/-- A line that warns. -/
def warning (colours : Bool) (text : String) : String := marked colours .yellow "!" text

/-- A line that confirms. -/
def confirmation (colours : Bool) (text : String) : String := marked colours .green "✓" text

/-- A line that names a value. -/
def labelled (colours : Bool) (label value : String) : String :=
  Colour.cyan.paint colours label ++ ": " ++ value ++ "\n"

/-! ## Rules -/

/-- The rules that apply to a resource, in a format. -/
def rulesText {α : Type} (colours : Bool) (id : String) (level : Level) (typeName : String)
    (rules : Rules α) : OutputFormat → String
  | .json => jsonText (.ofMembers [("resource", .text id), ("level", .text level.name),
      ("type", .text typeName), ("rules", .texts rules.names), ("message", .text rules.message)])
  | .table =>
    let rows := rules.names.zipIdx.map fun (name, i) => [toString (i + 1), name]
    labelled colours "Resource" id ++ labelled colours "Level" level.name ++
      Table.text ["#", "Rule"] rows ++ labelled colours "Message" rules.message

/-- The name of the data type that arguments mean, and the rules found with it. -/
def RulesArguments.found {σ : Type} (store : Store σ) (catalog : Catalog)
    (arguments : RulesArguments) :
    Step σ (String × Option (Rules arguments.level.Subject)) := do
  let resource ← Step.ofExcept (findResource catalog arguments.resource)
  let typeName := arguments.type.getD resource.typeName
  let rules ← Step.ofAction (.resolving arguments.resource)
    (Resolution.applicableRules store arguments.level resource typeName)
  return (typeName, rules)

/-- What `rules` prints. -/
def showRules {σ : Type} (store : Store σ) (catalog : Catalog) (arguments : RulesArguments)
    (format : OutputFormat) (colours : Bool) : Step σ String := do
  let (typeName, found) ← arguments.found store catalog
  match found with
  | some rules => return rulesText colours arguments.resource arguments.level typeName rules format
  | none =>
    return warning colours
      s!"No policy applies to {arguments.resource} at {arguments.level.name} level"

/-! ## Policies -/

namespace PolicySubject

/-- What a policy is said to be for. -/
def label : PolicySubject → String
  | .resource id => s!"resource {id}"
  | .type name => s!"type {name}"

/-- What the policy is kept under. A resource must be in the catalog. -/
def key (catalog : Catalog) : PolicySubject → Except CommandError PolicyKey
  | .resource id => (findResource catalog id).map fun resource => .resource resource.id
  | .type name => .ok (.type name)

end PolicySubject

/-- A policy in a format. -/
def policyText (colours : Bool) (label : String) (policy : Policy) : OutputFormat → String
  | .json => jsonText (.ofMembers [("policy_for", .text label), ("owner", policy.owner.toJson),
      ("resource_rules", .texts policy.resourceRules.names),
      ("record_rules", .texts policy.recordRules.names)])
  | .table =>
    let roles := policy.owner.roles
    let line := labelled colours
    line "Policy for" label ++ line "Owner" policy.owner.id ++
      (if roles.isEmpty then "" else line "Owner roles" (", ".intercalate roles.names)) ++
      line "Resource rules" policy.resourceRules.message ++
      line "Record rules" policy.recordRules.message

/-- What `policy` prints. -/
def showPolicy {σ : Type} (store : Store σ) (catalog : Catalog) (subject : PolicySubject)
    (format : OutputFormat) (colours : Bool) : Step σ String := do
  let key ← Step.ofExcept (subject.key catalog)
  match ← Step.ofAction .lookingUp (store.find key) with
  | some policy => return policyText colours subject.label policy format
  | none => return warning colours s!"No policy stored for {subject.label}"

/-! ## Resources -/

/-- A resource as a JSON object. -/
def resourceEntry (resource : Resource) : Json :=
  .ofMembers [("id", .text resource.id), ("kind", .text resource.kind.name),
    ("parent", .optionalText (resource.parent?.map (·.id))),
    ("type", .optionalText resource.type?), ("format", .optionalText resource.format?)]

/-- A resource as a row of a table; a hyphen stands for what it does not have. -/
def resourceRow (resource : Resource) : List String :=
  [resource.id, resource.kind.name, (resource.parent?.map (·.id)).getD "-",
    resource.type?.getD "-", resource.format?.getD "-"]

/-- The tree of resources in a format. -/
def resourcesText (catalog : Catalog) (format : OutputFormat) (colours : Bool) : String :=
  if catalog.isEmpty then warning colours "No resources configured"
  else
    match format with
    | .json => jsonText (.array (catalog.toList.map resourceEntry))
    | .table =>
      Table.text ["Id", "Kind", "Parent", "Type", "Format"] (catalog.toList.map resourceRow)

/-- What `resources` prints. -/
def showResources (catalog : Catalog) (policies : Nat) (format : OutputFormat) (colours : Bool) :
    String :=
  resourcesText catalog format colours ++
    match format with
    | .json => ""
    | .table => confirmation colours s!"{catalog.size} resources, {policies} policies loaded"

end PolicyTree.CommandLine
