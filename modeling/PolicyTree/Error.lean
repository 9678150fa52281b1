import PolicyTree.Level
import PolicyTree.Resource.Kind
/-
  What can go wrong, as causes. The wording of each cause stands in one `message`; a cause
  `stated` carries words of whoever reports it.

  A `Failure` is what ends an evaluation without an answer: a reported error, a rule that
  breaks down, or a date that cannot be represented.
-/
namespace PolicyTree

/-! ## The resource model -/

/-- The most nodes that a chain of parents may have, both ends counted. -/
def maxChain : Nat := 64

/-- Why a node does not fit into a tree of resources. -/
inductive HierarchyFlaw where
  | duplicateId
  | unknownParent (parent : String)
  | parentCycle (through : String)
  | chainTooLong
  | noSystemRoot
  | leafParent (parent : String)
  | parentRequired (kind : ResourceKind)
  | missingParent
  | notBuilt
  | stated (reason : String)
  deriving DecidableEq, Repr

def HierarchyFlaw.message : HierarchyFlaw → String
  | .duplicateId => "duplicate resource id"
  | .unknownParent parent => s!"unknown parent {parent}"
  | .parentCycle through => s!"parent cycle through {through}"
  | .chainTooLong => s!"parent chain exceeds {maxChain} levels"
  | .noSystemRoot => "parent chain does not terminate at a system root"
  | .leafParent parent => s!"parent {parent} is a leaf and cannot hold children"
  | .parentRequired kind => s!"{kind.name} requires a parent"
  | .missingParent => "missing parent"
  | .notBuilt => "resource could not be built"
  | .stated reason => reason

/-- Why the data of a resource are refused. -/
inductive ResourceFlaw where
  | leafWithoutType (id : String)
  | leafWithoutFormat (id : String)
  | systemWithParent (id : String)
  | stated (message : String)
  deriving DecidableEq, Repr

def ResourceFlaw.message : ResourceFlaw → String
  | .leafWithoutType id => s!"leaf {id} requires a resource type"
  | .leafWithoutFormat id => s!"leaf {id} requires a serialised format"
  | .systemWithParent id => s!"system {id} cannot have a parent"
  | .stated message => message

/-- Why the context of a request is refused. -/
inductive ContextFlaw where
  | missingPurpose
  | stated (message : String)
  deriving DecidableEq, Repr

def ContextFlaw.message : ContextFlaw → String
  | .missingPurpose => "context must contain a 'purpose' entry"
  | .stated message => message

/-- An error of the resource model. -/
inductive ModelError where
  | malformedHierarchy (node : String) (flaw : HierarchyFlaw)
  | invalidResource (flaw : ResourceFlaw)
  | invalidContext (flaw : ContextFlaw)
  deriving DecidableEq, Repr

namespace ModelError

def message : ModelError → String
  | .malformedHierarchy node flaw => s!"Malformed hierarchy at {node}: {flaw.message}"
  | .invalidResource flaw => s!"Invalid resource data: {flaw.message}"
  | .invalidContext flaw => s!"Invalid request context: {flaw.message}"

/-- Whether the error says that a tree of resources is malformed. -/
def isMalformedHierarchy : ModelError → Bool
  | .malformedHierarchy .. => true
  | _ => false

end ModelError

/-! ## Storing policies and building rules -/

/-- An error of the place where policies are kept. It is never an answer about access. -/
inductive StorageError where
  | connection (message : String)
  | internal (message : String)
  deriving DecidableEq, Repr

def StorageError.message : StorageError → String
  | .connection message => s!"Connection error: {message}"
  | .internal message => s!"Internal error: {message}"

/-- Why the parameters of a rule are refused. -/
inductive ParameterFlaw where
  | missing (key : String)
  | noFields
  | stated (message : String)
  deriving DecidableEq, Repr

def ParameterFlaw.message : ParameterFlaw → String
  | .missing key => s!"missing required parameter '{key}'"
  | .noFields => "no fields listed"
  | .stated message => message

/-- What an error is about. -/
inductive ErrorCategory where
  | hierarchy
  | validation
  | storage
  | configuration
  deriving DecidableEq, Repr

def ErrorCategory.name : ErrorCategory → String
  | .hierarchy => "hierarchy"
  | .validation => "validation"
  | .storage => "storage"
  | .configuration => "configuration"

/-- An error while policies are resolved or built. -/
inductive PolicyError where
  | model (error : ModelError)
  | storage (error : StorageError)
  | unknownRule (level : Level) (id : String)
  | invalidParameters (rule : String) (flaw : ParameterFlaw)
  deriving DecidableEq, Repr

namespace PolicyError

def message : PolicyError → String
  | .model error => error.message
  | .storage error => s!"Policy store failure: {error.message}"
  | .unknownRule level id => s!"Unknown {level.name} rule: {id}"
  | .invalidParameters rule flaw => s!"Invalid parameters for rule '{rule}': {flaw.message}"

def category : PolicyError → ErrorCategory
  | .model (.malformedHierarchy ..) => .hierarchy
  | .model _ => .validation
  | .storage _ => .storage
  | .unknownRule .. => .configuration
  | .invalidParameters .. => .configuration

/-- Whether the error says that a tree of resources is malformed. -/
def isMalformedHierarchy : PolicyError → Bool
  | .model error => error.isMalformedHierarchy
  | _ => false

end PolicyError

/-! ## Failures -/

/-- What ends an evaluation without an answer. -/
inductive Failure where
  /-- An error is reported. -/
  | refused (error : PolicyError)
  /-- A rule breaks down instead of answering. -/
  | ruleAborted (reason : String)
  /-- The date at which a cached look-up expires lies beyond the last one there is. -/
  | expiryOutOfRange
  deriving DecidableEq, Repr

end PolicyTree
