/-
  A document of settings, from whatever source: scalars, lists and tables. A table keeps
  its entries in order, each key once.
-/
namespace PolicyTree

/-- A value in a document of settings. -/
inductive Document where
  | null
  | flag (value : Bool)
  | integer (value : Int)
  | real (value : Float)
  | text (value : String)
  | list (items : List Document)
  | table (entries : List (String × Document))
  deriving Inhabited

namespace Document

/-- The table without entries. -/
def emptyTable : Document := .table []

/-- The entries of a table; another value has none. -/
def entries : Document → List (String × Document)
  | .table entries => entries
  | _ => []

end Document

end PolicyTree
