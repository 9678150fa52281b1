import PolicyTree.Resource.Connection
import PolicyTree.Resource.Kind
import PolicyTree.User
/-
  What a configuration says: how much is logged, how long look-ups are remembered, which
  resources there are and which policies stand on them. Rows refer to each other by id.
-/
namespace PolicyTree

/-- One resource, with its parent given by id. -/
structure ResourceRow where
  id : String
  kind : ResourceKind
  parent : Option String
  type : Option String
  format : Option String
  connection : Option Connection
  deriving DecidableEq

/-- One rule of a policy: the name it is stored under, its identifier and parameters. -/
structure RuleRow where
  name : String
  rule : String
  params : NameMap String
  deriving DecidableEq

/-- One policy; the subject is the id of a resource or the name of a data type. -/
structure PolicyRow where
  subject : String
  owner : User
  resourceRules : List RuleRow
  recordRules : List RuleRow
  deriving DecidableEq

/-- How much is logged. -/
structure Logging where
  level : String
  deriving DecidableEq

/-- Whether look-ups are remembered, and for how many seconds. -/
structure Caching where
  enabled : Bool
  ttlSecs : UInt64
  deriving DecidableEq

/-- The resources and policies that are there from the start. -/
structure Inventory where
  resources : List ResourceRow
  resourcePolicies : List PolicyRow
  typePolicies : List PolicyRow
  deriving DecidableEq

/-- A configuration. -/
structure Settings where
  logging : Logging
  caching : Caching
  inventory : Inventory
  deriving DecidableEq

/-! ## Defaults -/

def Logging.default : Logging := ⟨"info"⟩

def Caching.default : Caching := ⟨true, 300⟩

def Inventory.default : Inventory := ⟨[], [], []⟩

def Settings.default : Settings := ⟨.default, .default, .default⟩

instance : Inhabited Settings := ⟨.default⟩

end PolicyTree
