/-
  The three kinds of resource, and their names.
-/
namespace PolicyTree

/-- What a node of the resource tree is: a root, an inner node or a piece of data. -/
inductive ResourceKind where
  | system
  | directory
  | leaf
  deriving DecidableEq, Repr

namespace ResourceKind

/-- The name of a kind. -/
def name : ResourceKind → String
  | .system => "system"
  | .directory => "directory"
  | .leaf => "leaf"

/-- The kind of a name; letters count in their case. -/
def ofName? : String → Option ResourceKind
  | "system" => some .system
  | "directory" => some .directory
  | "leaf" => some .leaf
  | _ => none

theorem ofName?_name (kind : ResourceKind) : ofName? kind.name = some kind := by
  cases kind <;> rfl

end ResourceKind

end PolicyTree
