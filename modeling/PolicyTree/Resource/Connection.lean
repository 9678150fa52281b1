import PolicyTree.Map.Sorted
/-
  How a reader reaches the data behind a leaf.
-/
namespace PolicyTree

/-- The service that can read a resource, and what it needs to know. -/
structure Connection where
  service : String
  properties : NameMap String
  deriving DecidableEq

end PolicyTree
