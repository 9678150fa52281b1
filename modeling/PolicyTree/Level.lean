/-
  The two levels at which a policy holds rules: whole resources, and the records read from
  them.
-/
namespace PolicyTree

/-- What a rule decides about. -/
inductive Level where
  | resource
  | record
  deriving DecidableEq, Repr

namespace Level

/-- The name of a level. -/
def name : Level → String
  | .resource => "resource"
  | .record => "record"

/-- The level of a name. -/
def ofName? : String → Option Level
  | "resource" => some .resource
  | "record" => some .record
  | _ => none

/-- Whether the policy of a data type adds its rules at this level. -/
def takesTypeRules : Level → Bool
  | .resource => true
  | .record => false

end Level

end PolicyTree
