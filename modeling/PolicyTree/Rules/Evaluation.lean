import PolicyTree.Rules.Basic
/-
  A value run through a collection of rules. Each rule gets what the one before it let
  through; the first rule that does not let the value through ends the run and gives its
  name, or breaks the run off.
-/
namespace PolicyTree

/-- How a run through a collection of rules ends. -/
inductive Outcome (α : Type) where
  | allowed (value : α)
  | denied (rule : String)
  | aborted (reason : String)
  deriving DecidableEq, Repr

namespace Outcome

variable {α : Type}

def isAllowed : Outcome α → Bool
  | .allowed _ => true
  | _ => false

/-- The name of the rule that denied. -/
def deniedBy? : Outcome α → Option String
  | .denied rule => some rule
  | _ => none

/-- The value that came through. -/
def value? : Outcome α → Option α
  | .allowed value => some value
  | _ => none

/-- The outcome as the verdict of one rule: the name of the denying rule is lost. -/
def verdict : Outcome α → Verdict α
  | .allowed value => .allow value
  | .denied _ => .deny
  | .aborted reason => .abort reason

end Outcome

namespace Rules

variable {α : Type}

/-- Run a value through rules, first to last. -/
def run (user : User) (context : Context) : List (String × Rule α) → α → Outcome α
  | [], value => .allowed value
  | (name, rule) :: rest, value =>
    match rule.judge value user context with
    | .allow next => run user context rest next
    | .deny => .denied name
    | .abort reason => .aborted reason

/-- Run a value through the rules of a collection. -/
def evaluate (rules : Rules α) (value : α) (user : User) (context : Context) : Outcome α :=
  run user context rules.rules.entries value

/-- Run a value through the rules of a collection, leaving out which rule denied it. -/
def apply (rules : Rules α) (value : α) (user : User) (context : Context) : Verdict α :=
  (rules.evaluate value user context).verdict

/-- The records that come through, in order, unless a rule breaks down on one. -/
def redact (rules : Rules α) (user : User) (context : Context) :
    List α → Except String (List α)
  | [] => .ok []
  | record :: rest =>
    match rules.apply record user context with
    | .allow kept => (rules.redact user context rest).map (kept :: ·)
    | .deny => rules.redact user context rest
    | .abort reason => .error reason

end Rules

end PolicyTree
