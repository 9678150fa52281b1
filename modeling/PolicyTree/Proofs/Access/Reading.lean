import PolicyTree.Access.Basic
import PolicyTree.Proofs.Store.Simulation
/-
  Resolution and the questions about access only look up. Over two stores whose look-ups end
  alike they end alike, whatever the places they work on.

  The questions ask a store nothing but what resolution asks it, so it is enough for them that
  resolution ends alike (`ResolvesAlike`).
-/
namespace PolicyTree

variable {σ τ : Type} {R : σ → τ → Prop} {left : Store σ} {right : Store τ}

namespace Resolution

theorem typePolicy_simulates (h : Store.FindsAlike R left right) (typeName : String) :
    Action.Simulates R (typePolicy left typeName) (typePolicy right typeName) := by
  unfold typePolicy
  split
  · exact .pure none
  · exact h _

theorem applicableRules_simulates (h : Store.FindsAlike R left right) (level : Level)
    (resource : Resource) (typeName : String) :
    Action.Simulates R (applicableRules left level resource typeName)
      (applicableRules right level resource typeName) := by
  unfold applicableRules
  refine .bind (.ofExcept _) fun chain => ?_
  refine .bind (Store.findAll_simulates h _) fun onChain => ?_
  exact .bind (typePolicy_simulates h typeName) fun ofType => .pure _

variable (R left right) in
/-- Resolution for a resource, with its own data type, ends alike in two stores. -/
def ResolvesAlike (level : Level) (resource : Resource) : Prop :=
  Action.Simulates R (applicableRules left level resource resource.typeName)
    (applicableRules right level resource resource.typeName)

end Resolution

namespace Access

open Resolution (ResolvesAlike applicableRules_simulates)

/-! ## Resolution that ends alike -/

section resolves

variable {resources : List Resource}

theorem check_of_resolvesAlike {resource : Resource}
    (h : ResolvesAlike R left right .resource resource) (user : User) (context : Context) :
    Action.Simulates R (check left user context resource) (check right user context resource) := by
  unfold check
  refine .bind h fun answer => ?_
  cases answer with
  | none => exact .pure _
  | some rules => exact .ofExcept _

theorem visible_of_resolvesAlike
    (h : ∀ r ∈ resources, ResolvesAlike R left right .resource r) (user : User)
    (context : Context) :
    Action.Simulates R (visible left user context resources)
      (visible right user context resources) := by
  induction resources with
  | nil => exact .pure []
  | cons resource rest ih =>
    rw [List.forall_mem_cons] at h
    refine .bind (check_of_resolvesAlike h.1 user context) fun decision => ?_
    exact .bind (ih h.2) fun others => .pure _

theorem collectRecordRules_of_resolvesAlike
    (h : ∀ r ∈ resources, ResolvesAlike R left right .record r) (found : RecordRuleMap) :
    Action.Simulates R (collectRecordRules left resources found)
      (collectRecordRules right resources found) := by
  induction resources generalizing found with
  | nil => exact .pure found
  | cons resource rest ih =>
    rw [List.forall_mem_cons] at h
    refine .bind h.1 fun answer => ?_
    cases answer with
    | none => exact ih h.2 found
    | some rules => exact ih h.2 _

theorem recordRules_of_resolvesAlike (h : ∀ r ∈ resources, ResolvesAlike R left right .record r) :
    Action.Simulates R (recordRules left resources) (recordRules right resources) :=
  collectRecordRules_of_resolvesAlike h .empty

end resolves

/-! ## Look-ups that end alike -/

theorem check_simulates (h : Store.FindsAlike R left right) (user : User) (context : Context)
    (resource : Resource) :
    Action.Simulates R (check left user context resource) (check right user context resource) :=
  check_of_resolvesAlike (applicableRules_simulates h _ _ _) user context

theorem visible_simulates (h : Store.FindsAlike R left right) (user : User) (context : Context)
    (resources : List Resource) :
    Action.Simulates R (visible left user context resources)
      (visible right user context resources) :=
  visible_of_resolvesAlike (fun _ _ => applicableRules_simulates h _ _ _) user context

theorem recordRules_simulates (h : Store.FindsAlike R left right) (resources : List Resource) :
    Action.Simulates R (recordRules left resources) (recordRules right resources) :=
  recordRules_of_resolvesAlike fun _ _ => applicableRules_simulates h _ _ _

end Access

end PolicyTree
