import PolicyTree.Policy
/-
  A place where policies are kept. It answers under keys of two kinds, the id of a resource
  and the name of a data type, and the two kinds never meet. Looking up and writing may fail,
  and may change the state of the place: an `Action` hands on that state also when it fails.
-/
namespace PolicyTree

/-- What a policy is kept under. -/
inductive PolicyKey where
  | resource (id : String)
  | type (name : String)
  deriving DecidableEq, Repr

/-- A step that works on a state and may fail; the state outlives the failure. -/
abbrev Action (σ α : Type) : Type := ExceptT Failure (StateM σ) α

namespace Action

variable {σ α : Type}

/-- The step whose effect is given outright. -/
def of (step : σ → Except Failure α × σ) : Action σ α := step

/-- What a step gives and leaves behind. -/
def on (action : Action σ α) (state : σ) : Except Failure α × σ := action.run.run state

/-- A result that was found without the state. -/
def ofExcept (result : Except Failure α) : Action σ α := of fun state => (result, state)

@[simp] theorem on_of (step : σ → Except Failure α × σ) (state : σ) :
    (of step).on state = step state := rfl

end Action

/-- A place where policies are kept. -/
structure Store (σ : Type) where
  find : PolicyKey → Action σ (Option Policy)
  save : PolicyKey → Policy → Action σ Policy

namespace Store

variable {σ : Type}

/-- The policies found under keys, looked up one after the other. -/
def findAll (store : Store σ) : List PolicyKey → Action σ (List Policy)
  | [] => pure []
  | key :: keys => do
    let found ← store.find key
    let rest ← store.findAll keys
    return found.toList ++ rest

end Store

end PolicyTree
