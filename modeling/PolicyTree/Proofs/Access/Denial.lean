import PolicyTree.Access.Basic
import PolicyTree.Proofs.Rules.Stopping
import PolicyTree.Proofs.Store.Simulation
/-
  What a denial reports. A check runs the resource through the rules that resolution answers with,
  and reports the rule at which that run stops, together with the resource that was asked about:
  rules in front may have replaced the resource by another one, and neither the report nor its
  message names that one (`first_denial_reported`). This holds over any store, in whatever state
  it is.
-/
namespace PolicyTree.Access

open Resolution (applicableRules)

variable {σ : Type} {store : Store σ} {state next : σ} {user : User} {context : Context}
  {resource : Resource}

/-! ## Checks after resolution -/

theorem check_of_unresolved
    (none_found : (applicableRules store .resource resource resource.typeName).on state =
      (.ok none, next)) :
    (check store user context resource).on state =
      (.ok (.deny (.noPolicy resource.id)), next) := by
  rw [check, Action.on_bind_of_ok none_found]
  rfl

theorem check_of_resolved {rules : Rules Resource}
    (found : (applicableRules store .resource resource resource.typeName).on state =
      (.ok (some rules), next)) :
    (check store user context resource).on state =
      (Decision.ofOutcome resource.id (rules.evaluate resource user context), next) := by
  rw [check, Action.on_bind_of_ok found]
  rfl

theorem check_of_failed {failure : Failure}
    (failed : (applicableRules store .resource resource resource.typeName).on state =
      (.error failure, next)) :
    (check store user context resource).on state = (.error failure, next) := by
  rw [check, Action.on_bind_of_error failed]

/-! ## Denials -/

theorem ofOutcome_eq_deny_iff {id : String} {outcome : Outcome Resource} {reason : Denial} :
    Decision.ofOutcome id outcome = .ok (.deny reason) ↔
      ∃ name, outcome = .denied name ∧ reason = .byRule id name := by
  cases outcome <;> simp [Decision.ofOutcome, eq_comm]

theorem check_ruleDenied_iff {reason : Denial} :
    (check store user context resource).on state = (.ok (.deny reason), next) ∧
        reason.code = "rule-denied" ↔
      ∃ rules name, reason = .byRule resource.id name ∧
        (applicableRules store .resource resource resource.typeName).on state =
          (.ok (some rules), next) ∧
        rules.evaluate resource user context = .denied name := by
  constructor
  · rintro ⟨checked, code⟩
    rcases answer : (applicableRules store .resource resource resource.typeName).on state with
      ⟨failure | _ | rules, after⟩
    · rw [check_of_failed answer] at checked
      cases checked
    · rw [check_of_unresolved answer] at checked
      cases checked
      simp [Denial.code] at code
    · rw [check_of_resolved answer, Prod.mk.injEq, ofOutcome_eq_deny_iff] at checked
      obtain ⟨⟨name, denied, named⟩, rfl⟩ := checked
      exact ⟨rules, name, named, rfl, denied⟩
  · rintro ⟨rules, name, rfl, found, denied⟩
    rw [check_of_resolved found, denied]
    exact ⟨rfl, rfl⟩

/-- A run through rules ends at the first one that does not let the value through, and says which
one it is; a check reports the rule at which it ends, for the resource that was asked about, and
names both in its message. -/
theorem first_denial_reported :
    (∀ (α : Type) (rules : Rules α) (value : α) (user : User) (context : Context),
      rules.StopsFirst value user context) ∧
    (∀ (σ : Type) (store : Store σ) (state next : σ) (user : User) (context : Context)
      (resource : Resource) (reason : Denial),
      (check store user context resource).on state = (.ok (.deny reason), next) ∧
          reason.code = "rule-denied" ↔
        ∃ rules name, reason = .byRule resource.id name ∧
          (applicableRules store .resource resource resource.typeName).on state =
            (.ok (some rules), next) ∧
          Rules.Meets user context rules.rules.entries resource name .deny) ∧
    ∀ id name : String, (Denial.byRule id name).message =
      "Rule '" ++ name ++ "' denied access to resource " ++ id := by
  refine ⟨fun α rules => rules.stopsFirst, ?_, fun id name => rfl⟩
  intro σ store state next user context resource reason
  rw [check_ruleDenied_iff]
  simp only [(Rules.stopsFirst _ resource user context).denied_iff]

namespace Sample

/-- A policy that gives a resource another id before it denies it. -/
def relabelling : Policy :=
  (((Policy.ofOwner default).withResourceRule "rename"
    ⟨0, fun resource _ _ => .allow (resource.rename "copy")⟩).withResourceRule "closed"
    ⟨1, .denyAll⟩).withResourceRule "broken" ⟨2, .abortAll "never reached"⟩

end Sample

open Sample in
/-- The rule that denies sees another id than the one that is reported. -/
theorem first_denial_reported_renamed :
    ∃ reached : Resource, reached.id = "copy" ∧
      Rules.Passes (.named "u") (.ofPurpose "audit")
        (relabelling.resourceRules.rules.entries.take 1) (.system "root") reached ∧
      (check Memory.store (.named "u") (.ofPurpose "audit") (.system "root")).on
          (Memory.empty.put (.resource "root") relabelling) =
        (.ok (.deny (.byRule "root" "closed")),
          Memory.empty.put (.resource "root") relabelling) := by
  have passes : Rules.Passes (.named "u") (.ofPurpose "audit")
      (relabelling.resourceRules.rules.entries.take 1) (.system "root") (.system "copy") :=
    .cons rfl (.nil _)
  refine ⟨.system "copy", rfl, passes, ?_⟩
  have met : Rules.Meets (.named "u") (.ofPurpose "audit") relabelling.resourceRules.rules.entries
      (.system "root") "closed" .deny :=
    ⟨_, ⟨1, .denyAll⟩, [("broken", ⟨2, .abortAll "never reached"⟩)], .system "copy", rfl, passes,
      rfl⟩
  exact ((first_denial_reported.2.1 Memory Memory.store _ _ (.named "u") (.ofPurpose "audit")
    (.system "root") (.byRule "root" "closed")).2
    ⟨relabelling.resourceRules, "closed", rfl, rfl, met⟩).1

end PolicyTree.Access
