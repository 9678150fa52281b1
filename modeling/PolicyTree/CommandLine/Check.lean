import PolicyTree.Access.Basic
import PolicyTree.Catalog.Basic
import PolicyTree.CommandLine.Arguments
import PolicyTree.CommandLine.Colour
import PolicyTree.CommandLine.Error
import PolicyTree.CommandLine.Table
import PolicyTree.Json.Printer
import PolicyTree.Text.Blank
/-
  The command `check`: which of some resources a user may see for a purpose. All decisions
  are made before anything is printed, and the first failure leaves nothing to print.
-/
namespace PolicyTree.CommandLine

/-! ## What is asked -/

/-- The context with one more entry, given as a key and a value around an equals sign. The
purpose is not such an entry. -/
def addEntry (context : Context) (entry : String) : Except CommandError Context :=
  match Text.splitOnce? '=' entry with
  | none => .error (.contextEntry entry)
  | some (key, value) =>
    let key := Text.trim key
    if key = "" ∨ key = purposeKey then .error (.contextKey entry)
    else .ok (context.set key (Text.trim value))

/-- The context with further entries. -/
def addEntries : List String → Context → Except CommandError Context
  | [], context => .ok context
  | entry :: rest, context => do addEntries rest (← addEntry context entry)

namespace CheckArguments

def requester (arguments : CheckArguments) : User :=
  ((User.named arguments.user).withRoles arguments.roles).withAuths arguments.auths

def requestContext (arguments : CheckArguments) : Except CommandError Context :=
  addEntries arguments.context (.ofPurpose arguments.purpose)

end CheckArguments

/-- The resource of an id. -/
def findResource (catalog : Catalog) (id : String) : Except CommandError Resource :=
  match catalog.get? id with
  | some resource => .ok resource
  | none => .error (.unknownResource id)

/-- The resources of ids, in their order; all leaves if there are no ids. -/
def selectResources (catalog : Catalog) (ids : List String) : Except CommandError (List Resource) :=
  if ids.isEmpty then .ok catalog.leaves else ids.mapM (findResource catalog)

/-! ## What is decided -/

/-- The decisions about resources, each under the id of its resource. -/
def decideAll {σ : Type} (store : Store σ) (user : User) (context : Context) :
    List Resource → Step σ (List (String × Decision))
  | [] => pure []
  | resource :: rest => do
    let decision ← Step.ofAction (.evaluating resource.id)
      (Access.check store user context resource)
    let others ← decideAll store user context rest
    return (resource.id, decision) :: others

/-- The decisions that arguments ask for. -/
def CheckArguments.decisions {σ : Type} (store : Store σ) (catalog : Catalog)
    (arguments : CheckArguments) : Step σ (List (String × Decision)) := do
  let context ← Step.ofExcept arguments.requestContext
  let resources ← Step.ofExcept (selectResources catalog arguments.resources)
  decideAll store arguments.requester context resources

/-! ## What is printed -/

/-- A decision as a JSON object. -/
def decisionEntry : String × Decision → Json
  | (id, .allow _) => .ofMembers [("resource", .text id), ("allowed", .bool true)]
  | (id, .deny reason) => .ofMembers [("resource", .text id), ("allowed", .bool false),
      ("code", .text reason.code), ("reason", .text reason.message)]

/-- A decision as a row of a table. -/
def decisionRow (colours : Bool) : String × Decision → List String
  | (id, .allow _) => [id, Colour.green.paint colours "allow", ""]
  | (id, .deny reason) => [id, Colour.red.paint colours "deny", reason.message]

/-- How many of the resources are accessible. -/
def CheckArguments.summary (arguments : CheckArguments) (colours : Bool)
    (decisions : List (String × Decision)) : String :=
  let allowed := (decisions.filter (·.2.isAllowed)).length
  Colour.cyan.paint colours "Summary:" ++
    s!" {allowed} of {decisions.length} accessible to {arguments.user} " ++
    s!"for purpose '{arguments.purpose}'\n"

/-- A JSON value on lines of its own. -/
def jsonText (value : Json) : String := value.pretty ++ "\n"

/-- The decisions in a format. -/
def CheckArguments.report (arguments : CheckArguments) (format : OutputFormat) (colours : Bool)
    (decisions : List (String × Decision)) : String :=
  match format with
  | .json => jsonText (.array (decisions.map decisionEntry))
  | .table =>
    Table.text ["Resource", "Decision", "Reason"] (decisions.map (decisionRow colours)) ++
      arguments.summary colours decisions

/-- What `check` prints. -/
def showDecisions {σ : Type} (store : Store σ) (catalog : Catalog) (arguments : CheckArguments)
    (format : OutputFormat) (colours : Bool) : Step σ String := do
  return arguments.report format colours (← arguments.decisions store catalog)

end PolicyTree.CommandLine
