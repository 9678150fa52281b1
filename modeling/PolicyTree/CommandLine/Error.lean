import PolicyTree.Settings.Error
import PolicyTree.Store.Basic
/-
  How a command fails. An error that comes from the library is told with what was being done.
  A command is abandoned, which is worse, when an evaluation ends without an answer and
  without an error to report.
-/
namespace PolicyTree.CommandLine

/-- Why a command fails. -/
inductive CommandError where
  | loading (error : SettingsError)
  | rendering
  | bootstrapping (error : SettingsError)
  | contextEntry (entry : String)
  | contextKey (entry : String)
  | unknownResource (id : String)
  | evaluating (id : String) (error : PolicyError)
  | resolving (id : String) (error : PolicyError)
  | lookingUp (error : PolicyError)
  | abandoned (failure : Failure)
  deriving DecidableEq, Repr

namespace CommandError

def message : CommandError → String
  | .loading error => s!"failed to load configuration: {error.message}"
  | .rendering => "failed to render configuration: out-of-range value for u64 type"
  | .bootstrapping error => s!"failed to bootstrap policies: {error.message}"
  | .contextEntry entry => s!"Invalid context entry '{entry}', expected key=value"
  | .contextKey entry => s!"Invalid context key in '{entry}'; set the purpose with --purpose"
  | .unknownResource id => s!"Unknown resource: {id}"
  | .evaluating id error => s!"failed to evaluate access to {id}: {error.message}"
  | .resolving id error => s!"failed to resolve rules for {id}: {error.message}"
  | .lookingUp error => error.message
  | .abandoned (.refused error) => error.message
  | .abandoned (.ruleAborted reason) => reason
  | .abandoned .expiryOutOfRange => "the expiry of a cached look-up is out of range"

/-- The exit status of a program that fails so. -/
def exitStatus : CommandError → Nat
  | .abandoned _ => 101
  | _ => 1

/-- The error of a failure that arose in some undertaking. -/
def ofFailure (undertaking : PolicyError → CommandError) : Failure → CommandError
  | .refused error => undertaking error
  | failure => .abandoned failure

end CommandError

/-- A step of a command, which works on a state and may fail. -/
abbrev Step (σ α : Type) : Type := ExceptT CommandError (StateM σ) α

/-- A step of the library as a step of a command. -/
def Step.ofAction {σ α : Type} (undertaking : PolicyError → CommandError) (action : Action σ α) :
    Step σ α :=
  ExceptT.adapt (CommandError.ofFailure undertaking) action

/-- A result that was found without the state. -/
def Step.ofExcept {σ α : Type} (result : Except CommandError α) : Step σ α :=
  ExceptT.mk (pure result)

end PolicyTree.CommandLine
