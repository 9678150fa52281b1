import PolicyTree.Proofs.Registry.Making
import PolicyTree.Proofs.Rules.Evaluation
import PolicyTree.Proofs.Rules.Merge
/-
  Rules that never transform a value. What a merge of such rules does to a value is a question
  about the names defined: the value comes through unchanged if the last definition of each
  name accepts it, and else the name that denies is the one defined first among those whose
  last definition does not (`IsMergeOf.evaluate`).

  The rules about resources that come with the library are of this sort
  (`Registry.builtin_filters`).
-/
namespace PolicyTree

variable {α : Type}

/-- Every value is let through unchanged or denied. -/
def Judgement.Filters (judge : Judgement α) : Prop :=
  ∀ value user context,
    judge value user context = .allow value ∨ judge value user context = .deny

theorem Judgement.Filters.answers {judge : Judgement α} (h : judge.Filters) : judge.Answers := by
  intro value user context reason aborted
  rcases h value user context with allowed | denied
  · rw [allowed] at aborted
    cases aborted
  · rw [denied] at aborted
    cases aborted

/-- The rule lets the value through unchanged. -/
def Rule.Accepts (rule : Rule α) (value : α) (user : User) (context : Context) : Prop :=
  rule.judge value user context = .allow value

namespace Rules

variable {value : α} {user : User} {context : Context}

/-! ## Runs -/

theorem run_of_accepts {entries : List (String × Rule α)}
    (accept : ∀ entry ∈ entries, entry.2.Accepts value user context) :
    run user context entries value = .allowed value := by
  induction entries with
  | nil => rfl
  | cons entry rest ih =>
    obtain ⟨name, rule⟩ := entry
    have first : rule.judge value user context = .allow value := accept (name, rule) (by simp)
    rw [run, first]
    exact ih fun entry h => accept entry (List.mem_cons_of_mem _ h)

theorem run_of_denied {before after : List (String × Rule α)} {name : String} {rule : Rule α}
    (accept : ∀ entry ∈ before, entry.2.Accepts value user context)
    (denied : rule.judge value user context = .deny) :
    run user context (before ++ (name, rule) :: after) value = .denied name := by
  induction before with
  | nil => rw [List.nil_append, run, denied]
  | cons entry rest ih =>
    obtain ⟨other, passed⟩ := entry
    have first : passed.judge value user context = .allow value := accept (other, passed) (by simp)
    rw [List.cons_append, run, first]
    exact ih fun entry h => accept entry (List.mem_cons_of_mem _ h)

/-- Of rules that never transform all accept, or there is a first one that denies. -/
theorem accepts_or_denied {entries : List (String × Rule α)}
    (filters : ∀ entry ∈ entries, entry.2.judge.Filters) :
    (∀ entry ∈ entries, entry.2.Accepts value user context) ∨
      ∃ before name rule after, entries = before ++ (name, rule) :: after ∧
        (∀ entry ∈ before, entry.2.Accepts value user context) ∧
        rule.judge value user context = .deny := by
  induction entries with
  | nil => exact .inl (by simp)
  | cons entry rest ih =>
    rcases filters entry (by simp) value user context with accepted | denied
    · rcases ih fun entry h => filters entry (List.mem_cons_of_mem _ h) with all | first
      · exact .inl (List.forall_mem_cons.2 ⟨accepted, all⟩)
      · obtain ⟨before, name, rule, after, rfl, accept, denied⟩ := first
        exact .inr ⟨entry :: before, name, rule, after, rfl,
          List.forall_mem_cons.2 ⟨accepted, accept⟩, denied⟩
    · exact .inr ⟨[], entry.1, entry.2, rest, rfl, by simp, denied⟩

/-! ## Merges -/

/-- The last definition of a name lets the value through unchanged. -/
def NameAccepts (collections : List (Rules α)) (value : α) (user : User) (context : Context)
    (name : String) : Prop :=
  ∃ rule, lastDefinition collections name = some rule ∧ rule.Accepts value user context

/-- The name whose first definition comes earliest among the names whose last definition does
not let the value through. -/
structure FirstDenier (collections : List (Rules α)) (value : α) (user : User)
    (context : Context) (name : String) : Prop where
  denies : ¬ NameAccepts collections value user context name
  first : ∃ before after, definedNames collections = before ++ name :: after ∧
    ∀ other ∈ before, NameAccepts collections value user context other

variable {collections : List (Rules α)} {rules : Rules α}

theorem FirstDenier.defined {name : String}
    (h : FirstDenier collections value user context name) : name ∈ definedNames collections := by
  obtain ⟨before, after, split, -⟩ := h.first
  simp [split]

theorem nameAccepts_iff {name : String} {rule : Rule α}
    (last : lastDefinition collections name = some rule) :
    NameAccepts collections value user context name ↔ rule.Accepts value user context := by
  constructor
  · rintro ⟨rule', last', accepts⟩
    rw [last] at last'
    cases last'
    exact accepts
  · exact fun accepts => ⟨rule, last, accepts⟩

/-- A definition is the last one in force if and only if the merge holds it. -/
theorem IsMergeOf.mem_entries_iff (merge : IsMergeOf collections rules) {name : String}
    {rule : Rule α} :
    (name, rule) ∈ rules.rules.entries ↔ lastDefinition collections name = some rule := by
  rw [← get?_eq_some_iff, merge.get?]

theorem IsMergeOf.all_accept_iff (merge : IsMergeOf collections rules) :
    (∀ entry ∈ rules.rules.entries, entry.2.Accepts value user context) ↔
      ∀ name ∈ definedNames collections, NameAccepts collections value user context name := by
  constructor
  · intro h name defined
    obtain ⟨rule, last⟩ := Option.ne_none_iff_exists'.1 (mem_definedNames_iff.1 defined)
    exact ⟨rule, last, h (name, rule) (merge.mem_entries_iff.2 last)⟩
  · rintro h ⟨name, rule⟩ held
    have last := merge.mem_entries_iff.1 held
    exact (nameAccepts_iff last).1 (h name (mem_definedNames_of_eq_some last))

/-- The first entry that denies stands under the name defined first among those that deny. -/
theorem IsMergeOf.firstDenier (merge : IsMergeOf collections rules)
    {before after : List (String × Rule α)} {name : String} {rule : Rule α}
    (split : rules.rules.entries = before ++ (name, rule) :: after)
    (accept : ∀ entry ∈ before, entry.2.Accepts value user context)
    (denied : rule.judge value user context = .deny) :
    FirstDenier collections value user context name where
  denies := by
    intro accepts
    have held : (name, rule) ∈ rules.rules.entries := by simp [split]
    rw [nameAccepts_iff (merge.mem_entries_iff.1 held), Rule.Accepts, denied] at accepts
    cases accepts
  first := by
    have names : (definedNames collections).eraseDups =
        before.map Prod.fst ++ name :: after.map Prod.fst := by
      rw [← merge.names]
      simp [Rules.names, OrderedMap.keys, split]
    obtain ⟨front, back, eq, kept⟩ := OrderedMap.exists_split_of_eraseDups names
    refine ⟨front, back, eq, fun other h => ?_⟩
    obtain ⟨entry, passed, rfl⟩ := List.mem_map.1 (kept other h)
    have held : entry ∈ rules.rules.entries := by
      rw [split]
      exact List.mem_append_left _ passed
    exact ⟨entry.2, merge.mem_entries_iff.1 held, accept entry passed⟩

/-- A value run through merged rules that never transform. -/
theorem IsMergeOf.evaluate (merge : IsMergeOf collections rules)
    (filters : ∀ name rule, lastDefinition collections name = some rule → rule.judge.Filters)
    (value : α) (user : User) (context : Context) :
    (∀ name ∈ definedNames collections, NameAccepts collections value user context name) ∧
        rules.evaluate value user context = .allowed value ∨
      ∃ name, FirstDenier collections value user context name ∧
        rules.evaluate value user context = .denied name := by
  have held : ∀ entry ∈ rules.rules.entries, entry.2.judge.Filters :=
    fun entry h => filters entry.1 entry.2 (merge.mem_entries_iff.1 h)
  rcases accepts_or_denied held with accept | first
  · exact .inl ⟨merge.all_accept_iff.1 accept, run_of_accepts accept⟩
  · obtain ⟨before, name, rule, after, split, accept, denied⟩ := first
    refine .inr ⟨name, merge.firstDenier split accept denied, ?_⟩
    rw [Rules.evaluate, split]
    exact run_of_denied accept denied

end Rules

/-! ## Policies -/

/-- No rule about resources in the policy transforms one. -/
def Policy.Filters (policy : Policy) : Prop :=
  ∀ name rule, policy.resourceRules.get? name = some rule → rule.judge.Filters

theorem Policy.Filters.withResourceRule {policy : Policy} (h : policy.Filters)
    {rule : Rule Resource} (filters : rule.judge.Filters) (name : String) :
    (policy.withResourceRule name rule).Filters := by
  intro other found defined
  rw [Policy.withResourceRule, Rules.get?_insert] at defined
  split at defined
  · cases defined
    exact filters
  · exact h other found defined

/-! ## The rules of the library -/

theorem Judgement.filters_ofTest (test : α → User → Context → Bool) :
    (Judgement.ofTest test).Filters := by
  intro value user context
  rw [ofTest]
  split
  · exact .inl rfl
  · exact .inr rfl

theorem ResourceRule.judge_filters (rule : ResourceRule) : rule.judge.Filters := by
  cases rule with
  | gate condition => exact Judgement.filters_ofTest _
  | format wanted => exact Judgement.filters_ofTest _

/-- Whatever the library makes as a rule about resources never transforms one. -/
theorem Registry.builtin_filters {id : String} {params : Parameters} {judge : Judgement Resource}
    (made : Registry.builtin.makeResourceRule id params = .ok judge) : judge.Filters := by
  obtain ⟨rule, rfl⟩ := exists_resourceRule made
  exact rule.judge_filters

end PolicyTree
