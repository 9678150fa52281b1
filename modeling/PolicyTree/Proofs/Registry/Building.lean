import PolicyTree.Policy.Build
import PolicyTree.Proofs.Resource.Construction
import PolicyTree.Proofs.Rules.History
/-
  Policies made of rows. A policy is made unless one of its rules cannot be, be it one whose name a
  later row takes, and it is the first such rule that is reported (`build_of_faults`). Otherwise
  every name has the rule of the last row that gives it (`Rules.DescribedBy`).

  The rules of the rows go into the collection one by one; this comes to the same as merging the
  collection of all of them into it (`build_eq_merge`), so that a collection is described from its
  last row to its first.
-/
namespace PolicyTree

namespace Rules

variable {α : Type} {make : String → RuleMaker α} {rows : List RuleRow} {serial : Nat}
  {rules : Rules α}

/-! ## Rules of rows -/

variable (make) in
/-- Why the rule of a row cannot be made. -/
def fault? (row : RuleRow) : Option PolicyError :=
  match make row.rule row.params with
  | .error error => some error
  | .ok _ => none

variable (make) in
/-- Why rules of rows cannot be made, in the order of the rows. -/
def faults (rows : List RuleRow) : List PolicyError := rows.filterMap (fault? make)

variable (make) in
/-- The collection has the names that rows give, in the order in which they are first given, each
with the rule of the last row that gives it. The rules are instances numbered from `serial` on. -/
structure DescribedBy (rows : List RuleRow) (serial : Nat) (rules : Rules α) : Prop where
  names : rules.names = (rows.map (·.name)).eraseDups
  contributions : rules.contributions = rows.map (·.name)
  last : ∀ before row later, rows = before ++ row :: later →
    (∀ other ∈ later, other.name ≠ row.name) → ∃ judge, make row.rule row.params = .ok judge ∧
      rules.get? row.name = some ⟨serial + before.length, judge⟩

/-- Rules go into a collection as into one of their own that is merged into it. -/
theorem build_eq_merge (rows : List RuleRow) (serial : Nat) (rules : Rules α) :
    build make rows serial rules = (build make rows serial .empty).map rules.merge := by
  induction rows generalizing serial rules with
  | nil => rw [build, build, Except.map, merge_empty]
  | cons row rest ih =>
    rw [build, build]
    cases make row.rule row.params with
    | error error => rfl
    | ok judge =>
      dsimp only
      rw [ih, ih (serial + 1) (empty.insert row.name _)]
      cases build make rest (serial + 1) .empty with
      | error error => rfl
      | ok built =>
        dsimp only [Except.map]
        rw [insert_eq_merge, merge_assoc]

theorem build_of_faults {error : PolicyError} {more : List PolicyError}
    (faulty : faults make rows = error :: more) : build make rows serial rules = .error error := by
  induction rows generalizing serial rules with
  | nil => cases faulty
  | cons row rest ih =>
    rw [build]
    cases made : make row.rule row.params with
    | error first =>
      have here : fault? make row = some first := by rw [fault?, made]
      rw [faults, List.filterMap_cons_some here] at faulty
      cases faulty
      rfl
    | ok judge =>
      have here : fault? make row = none := by rw [fault?, made]
      rw [faults, List.filterMap_cons_none here] at faulty
      exact ih faulty

theorem DescribedBy.cons (described : DescribedBy make rows (serial + 1) rules) {row : RuleRow}
    {judge : Judgement α} (made : make row.rule row.params = .ok judge) :
    DescribedBy make (row :: rows) serial
      ((empty.insert row.name ⟨serial, judge⟩).merge rules) where
  names := by
    rw [names_merge, described.names]
    show ([row.name] ++ _).eraseDups = _
    rw [OrderedMap.eraseDups_append_eraseDups]
    rfl
  contributions := by
    rw [contributions_merge, described.contributions]
    rfl
  last before own later split others := by
    rw [get?_merge]
    rcases List.cons_eq_append_iff.1 split with ⟨rfl, same⟩ | ⟨before, rfl, rest⟩
    · cases same
      have absent : rules.get? row.name = none := by
        rw [get?_eq_none_iff, described.names, List.mem_eraseDups, List.mem_map]
        rintro ⟨other, mem, same⟩
        exact others other mem same
      refine ⟨judge, made, ?_⟩
      rw [absent, Option.none_or, get?_insert, if_pos rfl]
      rfl
    · obtain ⟨judge, made, found⟩ := described.last before own later rest others
      refine ⟨judge, made, ?_⟩
      rw [found, List.length_cons, Nat.add_right_comm]
      rfl

variable (serial) in
/-- Rows without a fault are made into the collection that they describe. -/
theorem exists_build (faultless : faults make rows = []) :
    ∃ rules, build make rows serial .empty = .ok rules ∧ DescribedBy make rows serial rules := by
  induction rows generalizing serial with
  | nil => exact ⟨.empty, rfl, rfl, rfl, by simp⟩
  | cons row rest ih =>
    cases made : make row.rule row.params with
    | error error =>
      have here : fault? make row = some error := by rw [fault?, made]
      rw [faults, List.filterMap_cons_some here] at faultless
      cases faultless
    | ok judge =>
      have here : fault? make row = none := by rw [fault?, made]
      rw [faults, List.filterMap_cons_none here] at faultless
      obtain ⟨rules, built, described⟩ := ih (serial + 1) faultless
      refine ⟨_, ?_, described.cons made⟩
      rw [build, made]
      dsimp only
      rw [build_eq_merge, built]
      rfl

/-- Two collections have the same names in the same order, after the same contributions, and under
each name rules that judge alike. -/
structure Alike (a b : Rules α) : Prop where
  names : a.names = b.names
  contributions : a.contributions = b.contributions
  judges : ∀ name, (a.get? name).map Rule.judge = (b.get? name).map Rule.judge

theorem Alike.refl (rules : Rules α) : rules.Alike rules := ⟨rfl, rfl, fun _ => rfl⟩

/-- Rows describe a collection up to the numbers of its rules. -/
theorem DescribedBy.alike {other : Rules α} {serial' : Nat}
    (described : DescribedBy make rows serial rules)
    (described' : DescribedBy make rows serial' other) : rules.Alike other where
  names := described.names.trans described'.names.symm
  contributions := described.contributions.trans described'.contributions.symm
  judges name := by
    by_cases given : ∃ row ∈ rows, row.name = name
    · obtain ⟨before, row, later, split, rfl, others⟩ := exists_last_of_exists given
      obtain ⟨judge, made, found⟩ := described.last before row later split others
      obtain ⟨judge', made', found'⟩ := described'.last before row later split others
      rw [made] at made'
      cases made'
      rw [found, found']
      rfl
    · have missing : name ∉ (rows.map (·.name)).eraseDups := by
        rw [List.mem_eraseDups, List.mem_map]
        exact given
      rw [get?_eq_none_iff.2 (described.names ▸ missing),
        get?_eq_none_iff.2 (described'.names ▸ missing)]

end Rules

/-! ## Policies of rows -/

variable {registry : Registry} {row : PolicyRow} {serial serial' : Nat} {policy other : Policy}

/-- Why the policy of a row cannot be made: what is wrong with its rules about resources, then with
those about records. -/
def PolicyRow.faults (registry : Registry) (row : PolicyRow) : List PolicyError :=
  Rules.faults registry.makeResourceRule row.resourceRules ++
    Rules.faults registry.makeRecordRule row.recordRules

namespace Policy

/-- The policy is what a row says, its rules numbered from `serial` on. -/
structure DescribedBy (registry : Registry) (row : PolicyRow) (serial : Nat) (policy : Policy) :
    Prop where
  owner : policy.owner = row.owner
  resourceRules :
    policy.resourceRules.DescribedBy registry.makeResourceRule row.resourceRules serial
  recordRules : policy.recordRules.DescribedBy registry.makeRecordRule row.recordRules
    (serial + row.resourceRules.length)

/-- Two policies have the same owner and rules that judge alike. -/
structure Alike (a b : Policy) : Prop where
  owner : a.owner = b.owner
  resourceRules : a.resourceRules.Alike b.resourceRules
  recordRules : a.recordRules.Alike b.recordRules

theorem Alike.refl (policy : Policy) : policy.Alike policy := ⟨rfl, .refl _, .refl _⟩

theorem rel_alike_refl (held : Option Policy) : Option.Rel Alike held held := by
  cases held with
  | none => exact .none
  | some policy => exact .some (.refl policy)

theorem DescribedBy.alike (described : policy.DescribedBy registry row serial)
    (described' : other.DescribedBy registry row serial') : policy.Alike other where
  owner := described.owner.trans described'.owner.symm
  resourceRules := described.resourceRules.alike described'.resourceRules
  recordRules := described.recordRules.alike described'.recordRules

end Policy

namespace PolicyRow

theorem build_of_faults {error : PolicyError} {more : List PolicyError}
    (faulty : row.faults registry = error :: more) : row.build registry serial = .error error := by
  unfold build
  cases first : Rules.faults registry.makeResourceRule row.resourceRules with
  | cons fault rest =>
    rw [faults, first] at faulty
    cases faulty
    exact bind_eq_error_iff.2 (.inl (Rules.build_of_faults first))
  | nil =>
    rw [faults, first] at faulty
    obtain ⟨resourceRules, built, -⟩ := Rules.exists_build serial first
    refine bind_eq_error_iff.2 (.inr ⟨resourceRules, built, ?_⟩)
    exact bind_eq_error_iff.2 (.inl (Rules.build_of_faults faulty))

variable (serial) in
theorem exists_build (faultless : row.faults registry = []) :
    ∃ policy, row.build registry serial = .ok policy ∧ policy.DescribedBy registry row serial := by
  obtain ⟨resource, record⟩ := List.append_eq_nil_iff.1 faultless
  obtain ⟨resourceRules, built, described⟩ := Rules.exists_build serial resource
  obtain ⟨recordRules, built', described'⟩ :=
    Rules.exists_build (serial + row.resourceRules.length) record
  refine ⟨⟨row.owner, resourceRules, recordRules⟩, ?_, rfl, described, described'⟩
  refine bind_eq_ok_iff.2 ⟨resourceRules, built, ?_⟩
  exact bind_eq_ok_iff.2 ⟨recordRules, built', rfl⟩

end PolicyRow

end PolicyTree
