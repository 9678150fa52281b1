import PolicyTree.CommandLine.Run
import PolicyTree.Proofs.Catalog.Reproduction
import PolicyTree.Proofs.CommandLine.Context
/-
  What `check` is asked about. Its ids name resources exactly if all of them are known; else there
  is an error with the ordinary exit status of a failure. Where no id is given the rows of leaves
  say what is meant (`CheckArguments.selection`, `select_of_known`).
-/
namespace PolicyTree.CommandLine

/-! ## Resources -/

variable {catalog : Catalog} {ids : List String}

end PolicyTree.CommandLine
