import PolicyTree.Proofs.Rules.Evaluation
/-
  Where a run through rules ends. `Passes` threads a value through rules by their judgements
  alone; `Meets` splits rules at one that gives a verdict on what came through those in front of
  it. `Ends` puts together of these what the end of a run is to be, and `run_eq_iff` says that
  every run ends so: with a denial under the name of the first rule that denies, with the words of
  the first one that breaks down, or else with the value passed through all of them.

  The rules behind do not count, because those in front of a rule only decide which value reaches
  it (`run_of_passes`, `run_of_stopped`).
-/
namespace PolicyTree.Rules

variable {α : Type} {user : User} {context : Context} {value reached : α}
  {before after entries : List (String × Rule α)} {name : String} {rule : Rule α}

/-! ## Values threaded through rules -/

variable (user context) in
/-- Each rule lets through what the one in front of it left, and the first of them the value. -/
inductive Passes : List (String × Rule α) → α → α → Prop where
  | nil (value : α) : Passes [] value value
  | cons {name : String} {rule : Rule α} {rest : List (String × Rule α)} {value next last : α} :
      rule.judge value user context = .allow next → Passes rest next last →
        Passes ((name, rule) :: rest) value last

variable (user context) in
/-- A rule gives a verdict on what came through the rules in front of it. -/
def Meets (entries : List (String × Rule α)) (value : α) (name : String) (verdict : Verdict α) :
    Prop :=
  ∃ before rule after reached, entries = before ++ (name, rule) :: after ∧
    Passes user context before value reached ∧ rule.judge reached user context = verdict

/-- Behind rules that let the value through a run goes on with what came through them. -/
theorem run_of_passes (passes : Passes user context before value reached) :
    run user context (before ++ after) value = run user context after reached := by
  induction passes with
  | nil value => rfl
  | cons allowed _ ih =>
    rw [List.cons_append, run, allowed]
    exact ih

theorem run_of_passes_all (passes : Passes user context entries value reached) :
    run user context entries value = .allowed reached := by
  have whole : run user context (entries ++ []) value = run user context [] reached :=
    run_of_passes passes
  rw [List.append_nil] at whole
  exact whole

/-! ## How a run ends -/

variable (user context) in
/-- What the rules say about the end of a run, without a run. -/
def Ends (entries : List (String × Rule α)) (value : α) : Outcome α → Prop
  | .allowed last => Passes user context entries value last
  | .denied name => Meets user context entries value name .deny
  | .aborted reason => ∃ name, Meets user context entries value name (.abort reason)

/-- What is met behind a rule that lets the value through is met with that rule in front. -/
theorem Meets.cons {own : String} {next : α} {verdict : Verdict α}
    (allowed : rule.judge value user context = .allow next)
    (met : Meets user context entries next name verdict) :
    Meets user context ((own, rule) :: entries) value name verdict := by
  obtain ⟨before, other, after, reached, split, passes, judged⟩ := met
  refine ⟨(own, rule) :: before, other, after, reached, ?_, .cons allowed passes, judged⟩
  rw [split, List.cons_append]

theorem Ends.cons {own : String} {next : α} {outcome : Outcome α}
    (allowed : rule.judge value user context = .allow next)
    (ends : Ends user context entries next outcome) :
    Ends user context ((own, rule) :: entries) value outcome := by
  cases outcome with
  | allowed last => exact Passes.cons allowed ends
  | denied name => exact Meets.cons allowed ends
  | aborted reason =>
    obtain ⟨name, met⟩ := ends
    exact ⟨name, met.cons allowed⟩

theorem run_ends (entries : List (String × Rule α)) (value : α) :
    Ends user context entries value (run user context entries value) := by
  induction entries generalizing value with
  | nil => exact Passes.nil value
  | cons entry rest ih =>
    obtain ⟨own, rule⟩ := entry
    rw [run]
    cases verdict : rule.judge value user context with
    | allow next => exact (ih next).cons verdict
    | deny => exact ⟨[], rule, rest, value, rfl, .nil value, verdict⟩
    | abort reason => exact ⟨own, [], rule, rest, value, rfl, .nil value, verdict⟩

theorem run_eq_of_ends {outcome : Outcome α} (ends : Ends user context entries value outcome) :
    run user context entries value = outcome := by
  cases outcome with
  | allowed last => exact run_of_passes_all ends
  | denied name =>
    obtain ⟨before, rule, after, reached, rfl, passes, denied⟩ := ends
    rw [run_of_passes passes, run, denied]
  | aborted reason =>
    obtain ⟨name, before, rule, after, reached, rfl, passes, aborted⟩ := ends
    rw [run_of_passes passes, run, aborted]

theorem run_eq_iff {outcome : Outcome α} :
    run user context entries value = outcome ↔ Ends user context entries value outcome := by
  refine ⟨fun ended => ?_, run_eq_of_ends⟩
  rw [← ended]
  exact run_ends entries value

/-- Behind a rule that does not let the value through there may be any others. -/
theorem run_of_stopped (passes : Passes user context before value reached)
    (stops : ∀ next, rule.judge reached user context ≠ .allow next)
    (after other : List (String × Rule α)) :
    run user context (before ++ (name, rule) :: after) value =
      run user context (before ++ (name, rule) :: other) value := by
  rw [run_of_passes passes, run_of_passes passes, run, run]
  cases verdict : rule.judge reached user context with
  | allow next => exact absurd verdict (stops next)
  | deny => rfl
  | abort reason => rfl

/-! ## Collections -/

/-- A value runs through a collection up to the first rule that does not let it through, whose
name or words it comes back with. -/
structure StopsFirst (rules : Rules α) (value : α) (user : User) (context : Context) : Prop where
  denied_iff : ∀ name, rules.evaluate value user context = .denied name ↔
    Meets user context rules.rules.entries value name .deny
  aborted_iff : ∀ reason, rules.evaluate value user context = .aborted reason ↔
    ∃ name, Meets user context rules.rules.entries value name (.abort reason)
  otherwise : (∀ name, ¬ Meets user context rules.rules.entries value name .deny) →
    (∀ name reason, ¬ Meets user context rules.rules.entries value name (.abort reason)) →
    ∃ last, rules.evaluate value user context = .allowed last
  allowed_iff : ∀ last, rules.evaluate value user context = .allowed last ↔
    Passes user context rules.rules.entries value last
  behind : ∀ before name rule after reached,
    rules.rules.entries = before ++ (name, rule) :: after →
    Passes user context before value reached →
    (∀ next, rule.judge reached user context ≠ .allow next) →
    ∀ (other : Rules α) after', other.rules.entries = before ++ (name, rule) :: after' →
      other.evaluate value user context = rules.evaluate value user context
  apply_allow_iff : ∀ last, rules.apply value user context = .allow last ↔
    rules.evaluate value user context = .allowed last
  apply_deny_iff : rules.apply value user context = .deny ↔
    ∃ name, rules.evaluate value user context = .denied name
  apply_abort_iff : ∀ reason, rules.apply value user context = .abort reason ↔
    rules.evaluate value user context = .aborted reason

theorem stopsFirst (rules : Rules α) (value : α) (user : User) (context : Context) :
    rules.StopsFirst value user context where
  denied_iff _ := run_eq_iff
  aborted_iff _ := run_eq_iff
  otherwise undenied unbroken := by
    cases outcome : rules.evaluate value user context with
    | allowed last => exact ⟨last, rfl⟩
    | denied name => exact absurd (run_eq_iff.1 outcome) (undenied name)
    | aborted reason =>
      obtain ⟨name, met⟩ := run_eq_iff.1 outcome
      exact absurd met (unbroken name reason)
  allowed_iff _ := run_eq_iff
  behind before name rule after reached split passes stops other after' split' := by
    unfold evaluate
    rw [split, split']
    exact run_of_stopped passes stops after' after
  apply_allow_iff _ := Outcome.verdict_eq_allow_iff
  apply_deny_iff := Outcome.verdict_eq_deny_iff
  apply_abort_iff _ := Outcome.verdict_eq_abort_iff

end PolicyTree.Rules
