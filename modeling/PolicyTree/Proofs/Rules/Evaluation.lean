import PolicyTree.Rules.Evaluation
/-
  Runs of a value through rules, put together and taken apart. A run through two lists is the
  run through the second one of what comes out of the first (`run_append`), and a run breaks
  down only if one of the rules does (`run_ne_aborted`).

  Two runs through the same rules, for different users, keep whatever relation between their
  values each single rule keeps (`run_carries`).
-/
namespace PolicyTree

variable {α β γ : Type}

/-- The verdict with another value in it. -/
def Verdict.map (f : α → β) : Verdict α → Verdict β
  | .allow value => .allow (f value)
  | .deny => .deny
  | .abort reason => .abort reason

namespace Outcome

/-- The outcome with another value in it. -/
def map (f : α → β) : Outcome α → Outcome β
  | .allowed value => .allowed (f value)
  | .denied rule => .denied rule
  | .aborted reason => .aborted reason

/-- Go on with the value that came through, if one did. -/
def andThen (outcome : Outcome α) (next : α → Outcome β) : Outcome β :=
  match outcome with
  | .allowed value => next value
  | .denied rule => .denied rule
  | .aborted reason => .aborted reason

theorem andThen_map (outcome : Outcome α) (f : α → β) (next : β → Outcome γ) :
    (outcome.map f).andThen next = outcome.andThen fun value => next (f value) := by
  cases outcome <;> rfl

theorem verdict_eq_allow_iff {outcome : Outcome α} {value : α} :
    outcome.verdict = .allow value ↔ outcome = .allowed value := by
  cases outcome <;> simp [verdict]

theorem verdict_eq_deny_iff {outcome : Outcome α} :
    outcome.verdict = .deny ↔ ∃ name, outcome = .denied name := by
  cases outcome <;> simp [verdict]

theorem verdict_eq_abort_iff {outcome : Outcome α} {reason : String} :
    outcome.verdict = .abort reason ↔ outcome = .aborted reason := by
  cases outcome <;> simp [verdict]

end Outcome

/-- No value makes the judgement break down. -/
def Judgement.Answers (judge : Judgement α) : Prop :=
  ∀ value user context reason, judge value user context ≠ .abort reason

/-- Of two related values, the one for a user and the other for another user, the second comes
through if the first does, and they are related still. -/
def Judgement.Carries (R : α → α → Prop) (user : User) (context : Context) (other : User)
    (context' : Context) (judge : Judgement α) : Prop :=
  ∀ first second, R first second → ∀ kept, judge first user context = .allow kept →
    ∃ shown, judge second other context' = .allow shown ∧ R kept shown

namespace Rules

theorem run_append (user : User) (context : Context) (before after : List (String × Rule α))
    (value : α) :
    run user context (before ++ after) value =
      (run user context before value).andThen (run user context after) := by
  induction before generalizing value with
  | nil => rfl
  | cons entry rest ih =>
    obtain ⟨name, rule⟩ := entry
    rw [List.cons_append, run, run]
    cases rule.judge value user context with
    | allow next => exact ih next
    | deny => rfl
    | abort reason => rfl

theorem run_ne_aborted {user : User} {context : Context} {entries : List (String × Rule α)}
    (answers : ∀ entry ∈ entries, entry.2.judge.Answers) (value : α) (reason : String) :
    run user context entries value ≠ .aborted reason := by
  induction entries generalizing value with
  | nil => nofun
  | cons entry rest ih =>
    obtain ⟨name, rule⟩ := entry
    rw [List.forall_mem_cons] at answers
    rw [run]
    cases verdict : rule.judge value user context with
    | allow next => exact ih answers.2 next
    | deny => nofun
    | abort other => exact absurd verdict (answers.1 value user context other)

section users

variable {user other : User} {context context' : Context} {entries : List (String × Rule α)}

theorem run_carries {R : α → α → Prop}
    (carries : ∀ entry ∈ entries, entry.2.judge.Carries R user context other context')
    {first second kept : α} (related : R first second)
    (allowed : run user context entries first = .allowed kept) :
    ∃ shown, run other context' entries second = .allowed shown ∧ R kept shown := by
  induction entries generalizing first second with
  | nil =>
    cases allowed
    exact ⟨second, rfl, related⟩
  | cons entry rest ih =>
    obtain ⟨name, rule⟩ := entry
    rw [List.forall_mem_cons] at carries
    rw [run] at allowed
    cases verdict : rule.judge first user context with
    | allow next =>
      rw [verdict] at allowed
      obtain ⟨next', verdict', related'⟩ := carries.1 first second related next verdict
      rw [run, verdict']
      exact ih carries.2 related' allowed
    | deny =>
      rw [verdict] at allowed
      cases allowed
    | abort reason =>
      rw [verdict] at allowed
      cases allowed

/-- Two users for whom each rule judges alike are not told apart by a run. -/
theorem run_congr (alike : ∀ entry ∈ entries, ∀ value,
      entry.2.judge value user context = entry.2.judge value other context') (value : α) :
    run user context entries value = run other context' entries value := by
  induction entries generalizing value with
  | nil => rfl
  | cons entry rest ih =>
    obtain ⟨name, rule⟩ := entry
    rw [List.forall_mem_cons] at alike
    rw [run, run, alike.1 value]
    cases rule.judge value other context' with
    | allow next => exact ih alike.2 next
    | deny => rfl
    | abort reason => rfl

end users

end Rules

end PolicyTree
