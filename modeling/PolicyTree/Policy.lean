import PolicyTree.Json.Basic
import PolicyTree.Level
import PolicyTree.Resource.Basic
import PolicyTree.Rules.Basic
/-
  A policy: an owner with rules at both levels. It is stored and replaced as a whole;
  policies are merged only when rules are looked up.
-/
namespace PolicyTree

/-- What the rules of a level judge: whole resources, or records. -/
abbrev Level.Subject : Level → Type
  | .resource => Resource
  | .record => Json

/-- The rules attached to one resource or to one data type. -/
structure Policy where
  owner : User
  resourceRules : Rules Resource
  recordRules : Rules Json

namespace Policy

/-- A policy without rules. -/
def ofOwner (owner : User) : Policy := ⟨owner, .empty, .empty⟩

instance : Inhabited Policy := ⟨ofOwner default⟩

/-- The policy with one more rule about resources. -/
def withResourceRule (policy : Policy) (name : String) (rule : Rule Resource) : Policy :=
  { policy with resourceRules := policy.resourceRules.insert name rule }

/-- The policy with one more rule about records. -/
def withRecordRule (policy : Policy) (name : String) (rule : Rule Json) : Policy :=
  { policy with recordRules := policy.recordRules.insert name rule }

/-- The rules of a level. -/
def rules (policy : Policy) : (level : Level) → Rules level.Subject
  | .resource => policy.resourceRules
  | .record => policy.recordRules

/-- Whether two policies have the same owner and the same instances of rules. -/
def same (a b : Policy) : Bool :=
  a.owner == b.owner && a.resourceRules.same b.resourceRules && a.recordRules.same b.recordRules

end Policy

end PolicyTree
