import PolicyTree.Map.Ordered
import PolicyTree.Resource.Basic
import PolicyTree.Settings.Basic
/-
  The tree of resources that rows describe. Rows may stand in any order. For each row the
  chain of declared parents is climbed up to a resource that is there already, or to a
  system; then the rows passed on the way are built, from the top down.

  The rows are refused if an id stands twice, a parent is not declared, parents go round,
  a chain is too long, or a row does not suit its kind.
-/
namespace PolicyTree

/-- The declared parent of a row, if its kind has one. -/
def ResourceRow.declaredParent (row : ResourceRow) : Except ModelError (Option String) :=
  match row.kind, row.parent with
  | .system, none => .ok none
  | .system, some _ => .error (.invalidResource (.systemWithParent row.id))
  | .directory, some parent => .ok (some parent)
  | .leaf, some parent => .ok (some parent)
  | kind, none => .error (.malformedHierarchy row.id (.parentRequired kind))

/-- The resource of a row, below a parent that has been built. -/
def ResourceRow.build (row : ResourceRow) (parent : Option Resource) :
    Except ModelError Resource :=
  match row.kind, parent with
  | .system, _ => .ok (.system row.id)
  | _, none => .error (.malformedHierarchy row.id .missingParent)
  | .directory, some parent => Resource.directory? row.id parent
  | .leaf, some parent =>
    Resource.leaf? row.id parent (some (row.type.getD "")) (some (row.format.getD ""))
      row.connection

/-- Resources under their ids. -/
abbrev ResourceMap := OrderedMap String Resource

/-- Resources in the order of their rows. -/
structure Catalog where
  resources : ResourceMap

namespace Catalog

/-- The catalog without resources. -/
def empty : Catalog := ⟨.empty⟩

instance : Inhabited Catalog := ⟨empty⟩

/-- The rows under their ids; an id that stands twice is refused where it stands again. -/
def index : List ResourceRow → OrderedMap String ResourceRow →
    Except ModelError (OrderedMap String ResourceRow)
  | [], rows => .ok rows
  | row :: rest, rows =>
    if rows.contains row.id then .error (.malformedHierarchy row.id .duplicateId)
    else index rest (rows.insert row.id row)

/-- Climb from `current` to a resource that is built, or to a system. `passed` holds the rows
on the way, the topmost first; `room` is how many more there may be. Errors about the chain
as a whole are reported at `start`. -/
def climb (rows : OrderedMap String ResourceRow) (built : ResourceMap) (start : String) :
    (room : Nat) → (passed : List ResourceRow) → (current : String) →
      Except ModelError (Option Resource × List ResourceRow)
  | room, passed, current =>
    match built.get? current with
    | some base => .ok (some base, passed)
    | none =>
      if passed.any (·.id == current) then
        .error (.malformedHierarchy start (.parentCycle current))
      else
        match room with
        | 0 => .error (.malformedHierarchy start .chainTooLong)
        | room + 1 =>
          match rows.get? current with
          | none =>
            let child := (passed.head?.map (·.id)).getD start
            .error (.malformedHierarchy child (.unknownParent current))
          | some row =>
            match row.declaredParent with
            | .error error => .error error
            | .ok none => .ok (none, row :: passed)
            | .ok (some parent) => climb rows built start room (row :: passed) parent

/-- Build rows from the top down, each below the one before. -/
def descend : List ResourceRow → ResourceMap → Option Resource →
    Except ModelError (ResourceMap × Option Resource)
  | [], built, parent => .ok (built, parent)
  | row :: rest, built, parent =>
    match row.build parent with
    | .error error => .error error
    | .ok resource => descend rest (built.insert row.id resource) (some resource)

/-- The resource of an id, and all resources built so far. -/
def resolve (rows : OrderedMap String ResourceRow) (built : ResourceMap) (id : String) :
    Except ModelError (ResourceMap × Resource) := do
  let (base, passed) ← climb rows built id maxChain [] id
  let (built, last) ← descend passed built base
  match last with
  | some resource => return (built, resource)
  | none => throw (.malformedHierarchy id .notBuilt)

/-- The resources of ids, in order. -/
def resolveAll (rows : OrderedMap String ResourceRow) :
    List String → ResourceMap → ResourceMap → Except ModelError ResourceMap
  | [], _, resources => .ok resources
  | id :: rest, built, resources => do
    let (built, resource) ← resolve rows built id
    resolveAll rows rest built (resources.insert resource.id resource)

/-- The tree that rows describe. -/
def ofRows (specs : List ResourceRow) : Except ModelError Catalog := do
  let rows ← index specs .empty
  return ⟨← resolveAll rows rows.keys .empty .empty⟩

def get? (catalog : Catalog) (id : String) : Option Resource := catalog.resources.get? id

def contains (catalog : Catalog) (id : String) : Bool := (catalog.get? id).isSome

/-- The resources in the order of their rows. -/
def toList (catalog : Catalog) : List Resource := catalog.resources.values

/-- The leaves in the order of their rows. -/
def leaves (catalog : Catalog) : List Resource := catalog.toList.filter (·.isLeaf)

def size (catalog : Catalog) : Nat := catalog.resources.size

def isEmpty (catalog : Catalog) : Bool := catalog.toList.isEmpty

end Catalog

end PolicyTree
