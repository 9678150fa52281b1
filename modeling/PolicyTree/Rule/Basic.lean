import PolicyTree.Context
import PolicyTree.User
/-
  A rule judges a value for a user and a context: it lets the value through, perhaps
  changed, or denies it, or breaks down. A rule that is put into use is an instance with a
  serial number of its own, and instances are told apart by that number alone: two rules
  made from the same text are two instances.
-/
namespace PolicyTree

/-- What a rule says about a value. -/
inductive Verdict (α : Type) where
  | allow (value : α)
  | deny
  | abort (reason : String)
  deriving DecidableEq, Repr

/-- How a rule comes to its verdict. -/
abbrev Judgement (α : Type) := α → User → Context → Verdict α

/-- A rule in use. -/
structure Rule (α : Type) where
  serial : Nat
  judge : Judgement α

namespace Rule

variable {α : Type}

/-- Whether two rules are the same instance. -/
def same (a b : Rule α) : Bool := a.serial == b.serial

end Rule

namespace Judgement

variable {α : Type}

/-- Let the value through unchanged when a test holds, and deny it otherwise. -/
def ofTest (test : α → User → Context → Bool) : Judgement α := fun value user context =>
  if test value user context then .allow value else .deny

/-- Deny every value. -/
def denyAll : Judgement α := fun _ _ _ => .deny

/-- Break down whatever the value is. -/
def abortAll (reason : String) : Judgement α := fun _ _ _ => .abort reason

end Judgement

end PolicyTree
