import PolicyTree.Error
import PolicyTree.Resource.Connection
/-
  The tree of resources. A resource carries its parents with it up to a system, so its
  chain of parents is part of the value and cannot loop.

  `directory?` and `leaf?` are the only ways to go down: they refuse a leaf as parent and
  chains of more than `maxChain` nodes. Two resources with one id count as the same
  resource (`Resource.same`).

  Main statements: `length_lineage` (a chain has one node more than the depth) and
  `getLast?_lineage` (it ends at the resource).
-/
namespace PolicyTree

/-- A node of the tree of resources. -/
inductive Resource where
  | system (id : String)
  | directory (id : String) (parent : Resource)
  | leaf (id : String) (parent : Resource) (type format : String) (connection : Option Connection)
  deriving DecidableEq

namespace Resource

instance : Inhabited Resource := ⟨.system ""⟩

def id : Resource → String
  | .system id => id
  | .directory id _ => id
  | .leaf id .. => id

def kind : Resource → ResourceKind
  | .system _ => .system
  | .directory .. => .directory
  | .leaf .. => .leaf

/-- The node above; a system has none. -/
def parent? : Resource → Option Resource
  | .system _ => none
  | .directory _ parent => some parent
  | .leaf _ parent .. => some parent

/-- The data type; only a leaf has one. -/
def type? : Resource → Option String
  | .leaf _ _ type _ _ => some type
  | _ => none

/-- The serialised format; only a leaf has one. -/
def format? : Resource → Option String
  | .leaf _ _ _ format _ => some format
  | _ => none

def connection? : Resource → Option Connection
  | .leaf _ _ _ _ connection => connection
  | _ => none

/-- The data type, or the empty name. -/
def typeName (r : Resource) : String := r.type?.getD ""

def isRoot : Resource → Bool
  | .system _ => true
  | _ => false

def isLeaf : Resource → Bool
  | .leaf .. => true
  | _ => false

/-- Kind and id. -/
def display (r : Resource) : String := r.kind.name ++ ":" ++ r.id

/-- Resources are told apart by their ids alone. -/
def same (a b : Resource) : Bool := a.id == b.id

/-! ## The chain of parents -/

/-- The nodes above, the nearest first. -/
def ancestors : Resource → List Resource
  | .system _ => []
  | .directory _ parent => parent :: parent.ancestors
  | .leaf _ parent .. => parent :: parent.ancestors

/-- The number of nodes above. -/
def depth (r : Resource) : Nat := r.ancestors.length

/-- The nodes from the root down to the resource itself. -/
def lineage (r : Resource) : List Resource := (r :: r.ancestors).reverse

/-- The chain from the root down, if it is not too long and the root is a system. -/
def chain (r : Resource) : Except ModelError (List Resource) :=
  if r.lineage.length ≤ maxChain then
    match r.lineage.head? with
    | some (.system _) => .ok r.lineage
    | _ => .error (.malformedHierarchy r.id .noSystemRoot)
  else .error (.malformedHierarchy r.id .chainTooLong)

/-- Whether `other` stands above this resource. -/
def isDescendantOf (r other : Resource) : Bool := r.ancestors.any (·.same other)

theorem length_lineage (r : Resource) : r.lineage.length = r.depth + 1 := by
  simp [lineage, depth]

theorem getLast?_lineage (r : Resource) : r.lineage.getLast? = some r := by
  simp [lineage]

/-! ## Going down -/

/-- Whether a node of this id may stand below `parent`. -/
def attach (id : String) (parent : Resource) : Except ModelError Unit :=
  if parent.isLeaf then .error (.malformedHierarchy id (.leafParent parent.id))
  else if parent.depth + 2 > maxChain then .error (.malformedHierarchy id .chainTooLong)
  else .ok ()

/-- A directory below `parent`. -/
def directory? (id : String) (parent : Resource) : Except ModelError Resource := do
  attach id parent
  return .directory id parent

/-- A leaf below `parent`; its type and its format must be given and not empty. -/
def leaf? (id : String) (parent : Resource) (type format : Option String)
    (connection : Option Connection) : Except ModelError Resource := do
  let some type := type.filter (· ≠ "") | throw (.invalidResource (.leafWithoutType id))
  let some format := format.filter (· ≠ "") | throw (.invalidResource (.leafWithoutFormat id))
  attach id parent
  return .leaf id parent type format connection

/-- The same node under another id. -/
def rename (r : Resource) (id : String) : Resource :=
  match r with
  | .system _ => .system id
  | .directory _ parent => .directory id parent
  | .leaf _ parent type format connection => .leaf id parent type format connection

end Resource

end PolicyTree
