import PolicyTree.Error
import PolicyTree.Settings.Validation
/-
  What can go wrong between a configuration and the service it describes.
-/
namespace PolicyTree

/-- Why the policies of a configuration cannot be written. -/
inductive BootstrapFlaw where
  | unknownResource (id : String)
  | stated (message : String)
  deriving DecidableEq, Repr

def BootstrapFlaw.message : BootstrapFlaw → String
  | .unknownResource id => s!"policy refers to unknown resource {id}"
  | .stated message => message

/-- An error about a configuration. -/
inductive SettingsError where
  | load (detail : String)
  | validation (violation : Violation)
  | bootstrap (flaw : BootstrapFlaw)
  | failed (failure : Failure)
  deriving DecidableEq, Repr

namespace SettingsError

/-- An error while policies are built. -/
def policy (error : PolicyError) : SettingsError := .failed (.refused error)

/-- The text of an error. -/
def message : SettingsError → String
  | .load detail => s!"Load error: {detail}"
  | .validation violation => s!"Validation error: {violation.message}"
  | .bootstrap flaw => s!"Bootstrap error: {flaw.message}"
  | .failed (.refused error) => error.message
  | .failed (.ruleAborted reason) => reason
  | .failed .expiryOutOfRange => "expiry out of range"

end SettingsError

end PolicyTree
