import PolicyTree.Settings.Basic
import PolicyTree.User.Codec
/-
  Configurations in documents. Every section may be left out, as may lists, parameters and
  the owner of a policy; members that are not known are passed over. What is written is
  written in full, but for the optional data of a resource.
-/
namespace PolicyTree

open Reading (required withDefault)

variable {ν : Type} (reading : Reading ν)

/-! ## Reading -/

def Connection.read (value : ν) : Option Connection := do
  let fields ← reading.record ["service", "properties"] value
  return {
    service := ← required reading.text fields "service"
    properties := ← withDefault reading.textMap .empty fields "properties" }

def ResourceKind.read (value : ν) : Option ResourceKind :=
  (reading.choice value).bind ResourceKind.ofName?

def ResourceRow.read (value : ν) : Option ResourceRow := do
  let fields ← reading.record ["id", "kind", "parent", "type", "format", "connection"] value
  return {
    id := ← required reading.text fields "id"
    kind := ← required (ResourceKind.read reading) fields "kind"
    parent := ← reading.optional reading.text fields "parent"
    type := ← reading.optional reading.text fields "type"
    format := ← reading.optional reading.text fields "format"
    connection := ← reading.optional (Connection.read reading) fields "connection" }

def RuleRow.read (value : ν) : Option RuleRow := do
  let fields ← reading.record ["name", "rule", "params"] value
  return {
    name := ← required reading.text fields "name"
    rule := ← required reading.text fields "rule"
    params := ← withDefault reading.textMap .empty fields "params" }

/-- Read a policy whose subject stands under the given name. -/
def PolicyRow.read (subject : String) (value : ν) : Option PolicyRow := do
  let fields ← reading.record [subject, "owner", "resource_rules", "record_rules"] value
  return {
    subject := ← required reading.text fields subject
    owner := ← withDefault (User.read reading) (.named "") fields "owner"
    resourceRules := ← withDefault (reading.list (RuleRow.read reading)) [] fields "resource_rules"
    recordRules := ← withDefault (reading.list (RuleRow.read reading)) [] fields "record_rules" }

def Logging.read (value : ν) : Option Logging := do
  let fields ← reading.record ["level"] value
  return { level := ← withDefault reading.text Logging.default.level fields "level" }

def Caching.read (value : ν) : Option Caching := do
  let fields ← reading.record ["enabled", "ttl_secs"] value
  return {
    enabled := ← withDefault reading.flag Caching.default.enabled fields "enabled"
    ttlSecs := ← withDefault reading.count Caching.default.ttlSecs fields "ttl_secs" }

def Inventory.read (value : ν) : Option Inventory := do
  let fields ← reading.record ["resources", "resource_policies", "type_policies"] value
  return {
    resources := ← withDefault (reading.list (ResourceRow.read reading)) [] fields "resources"
    resourcePolicies :=
      ← withDefault (reading.list (PolicyRow.read reading "resource")) [] fields "resource_policies"
    typePolicies :=
      ← withDefault (reading.list (PolicyRow.read reading "type")) [] fields "type_policies" }

def Settings.read (value : ν) : Option Settings := do
  let fields ← reading.record ["logging", "cache", "bootstrap"] value
  return {
    logging := ← withDefault (Logging.read reading) .default fields "logging"
    caching := ← withDefault (Caching.read reading) .default fields "cache"
    inventory := ← withDefault (Inventory.read reading) .default fields "bootstrap" }

/-- Read a configuration from JSON. -/
def Settings.ofJson? (value : Json) : Option Settings := Settings.read Json.reading value

/-! ## Writing -/

/-- Texts under names as JSON. -/
def textMapJson (map : NameMap String) : Json :=
  .object (map.entries.map fun (key, value) => (key, .text value))

/-- A member for a value, if there is one. -/
def optionalMember {α : Type} (name : String) (toJson : α → Json) : Option α → List (String × Json)
  | none => []
  | some value => [(name, toJson value)]

def Connection.toJson (connection : Connection) : Json :=
  .ofMembers (("service", .text connection.service) ::
    if connection.properties.isEmpty then []
    else [("properties", textMapJson connection.properties)])

def ResourceRow.toJson (row : ResourceRow) : Json :=
  .ofMembers ([("id", .text row.id), ("kind", .text row.kind.name)] ++
    optionalMember "parent" .text row.parent ++ optionalMember "type" .text row.type ++
    optionalMember "format" .text row.format ++
    optionalMember "connection" Connection.toJson row.connection)

def RuleRow.toJson (row : RuleRow) : Json :=
  .ofMembers [("name", .text row.name), ("rule", .text row.rule),
    ("params", textMapJson row.params)]

def PolicyRow.toJson (subject : String) (row : PolicyRow) : Json :=
  .ofMembers [(subject, .text row.subject), ("owner", row.owner.toJson),
    ("resource_rules", .array (row.resourceRules.map RuleRow.toJson)),
    ("record_rules", .array (row.recordRules.map RuleRow.toJson))]

def Logging.toJson (logging : Logging) : Json := .ofMembers [("level", .text logging.level)]

def Caching.toJson (caching : Caching) : Json :=
  .ofMembers [("enabled", .bool caching.enabled), ("ttl_secs", .int caching.ttlSecs.toNat)]

def Inventory.toJson (inventory : Inventory) : Json :=
  .ofMembers [("resources", .array (inventory.resources.map ResourceRow.toJson)),
    ("resource_policies", .array (inventory.resourcePolicies.map (PolicyRow.toJson "resource"))),
    ("type_policies", .array (inventory.typePolicies.map (PolicyRow.toJson "type")))]

def Settings.toJson (settings : Settings) : Json :=
  .ofMembers [("logging", settings.logging.toJson), ("cache", settings.caching.toJson),
    ("bootstrap", settings.inventory.toJson)]

end PolicyTree
