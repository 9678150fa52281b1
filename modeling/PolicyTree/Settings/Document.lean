import PolicyTree.Document.Basic
import PolicyTree.Settings.Basic
import PolicyTree.Word
/-
  A configuration as a document, its entries in the order in which they are declared. A
  lifetime of 2^63 seconds or more has no document, since the integers of a document have
  64 bits with a sign.
-/
namespace PolicyTree

/-- Texts under names. -/
def textMapDocument (map : NameMap String) : Document :=
  .table (map.entries.map fun (key, value) => (key, .text value))

/-- An entry for a value, if there is one. -/
def optionalEntry {α : Type} (key : String) (toDocument : α → Document) :
    Option α → List (String × Document)
  | none => []
  | some value => [(key, toDocument value)]

/-- An entry for a set of names, if there is one in it. -/
def setEntry (key : String) (names : NameSet) : List (String × Document) :=
  if names.isEmpty then [] else [(key, .list (names.names.map .text))]

def User.toDocument (user : User) : Document :=
  .table (("id", .text user.id) :: setEntry "roles" user.roles ++ setEntry "auths" user.auths)

def Connection.toDocument (connection : Connection) : Document :=
  .table (("service", .text connection.service) ::
    if connection.properties.isEmpty then []
    else [("properties", textMapDocument connection.properties)])

def ResourceRow.toDocument (row : ResourceRow) : Document :=
  .table ([("id", .text row.id), ("kind", .text row.kind.name)] ++
    optionalEntry "parent" .text row.parent ++ optionalEntry "type" .text row.type ++
    optionalEntry "format" .text row.format ++
    optionalEntry "connection" Connection.toDocument row.connection)

def RuleRow.toDocument (row : RuleRow) : Document :=
  .table [("name", .text row.name), ("rule", .text row.rule),
    ("params", textMapDocument row.params)]

def PolicyRow.toDocument (subject : String) (row : PolicyRow) : Document :=
  .table [(subject, .text row.subject), ("owner", row.owner.toDocument),
    ("resource_rules", .list (row.resourceRules.map RuleRow.toDocument)),
    ("record_rules", .list (row.recordRules.map RuleRow.toDocument))]

def Logging.entries (logging : Logging) : List (String × Document) :=
  [("level", .text logging.level)]

def Caching.entries (caching : Caching) : List (String × Document) :=
  [("enabled", .flag caching.enabled), ("ttl_secs", .integer caching.ttlSecs.toNat)]

def Inventory.entries (inventory : Inventory) : List (String × Document) :=
  [("resources", .list (inventory.resources.map ResourceRow.toDocument)),
    ("resource_policies", .list (inventory.resourcePolicies.map (PolicyRow.toDocument "resource"))),
    ("type_policies", .list (inventory.typePolicies.map (PolicyRow.toDocument "type")))]

/-- The sections of a configuration, unless its lifetime is too long. -/
def Settings.entries? (settings : Settings) : Option (List (String × Document)) :=
  if settings.caching.ttlSecs.toNat ≤ Word.maxSigned then
    some [("logging", .table settings.logging.entries), ("cache", .table settings.caching.entries),
      ("bootstrap", .table settings.inventory.entries)]
  else none

end PolicyTree
