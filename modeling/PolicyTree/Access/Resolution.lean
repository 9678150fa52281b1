import PolicyTree.Store.Basic
/-
  The rules that apply to a resource. They are merged from the policies of its chain of
  parents, the root first and the resource last; at the level of resources the policy of
  its data type comes after them. Where no policy is found at all there is no answer, which
  is not the same as no rules.
-/
namespace PolicyTree

/-- Report an error of the resource model. -/
def Action.ofModel {σ α : Type} (result : Except ModelError α) : Action σ α :=
  .ofExcept (result.mapError fun error => .refused (.model error))

namespace Resolution

/-- The keys of the nodes of a chain. -/
def chainKeys (chain : List Resource) : List PolicyKey := chain.map fun node => .resource node.id

/-- The policies of a chain, and that of a data type, merged at a level. -/
def merged (level : Level) (onChain : List Policy) (ofType : Option Policy) :
    Option (Rules level.Subject) :=
  if onChain.isEmpty && ofType.isNone then none
  else
    let overlay := if level.takesTypeRules then ofType.toList else []
    some (Rules.mergeAll ((onChain ++ overlay).map (·.rules level)))

/-- The policy of a data type; the empty name has none. -/
def typePolicy {σ : Type} (store : Store σ) (typeName : String) : Action σ (Option Policy) :=
  if typeName = "" then pure none else store.find (.type typeName)

/-- The rules that apply to a resource at a level, with the policy of the given data type. -/
def applicableRules {σ : Type} (store : Store σ) (level : Level) (resource : Resource)
    (typeName : String) : Action σ (Option (Rules level.Subject)) := do
  let chain ← Action.ofModel resource.chain
  let onChain ← store.findAll (chainKeys chain)
  let ofType ← typePolicy store typeName
  return merged level onChain ofType

end Resolution

end PolicyTree
