import PolicyTree.Proofs.Settings.Paths
import PolicyTree.Proofs.Settings.Violations
import PolicyTree.Proofs.Text.Quoted
/-
  Which of several violations is reported. Each condition has a place among all of them
  (`Violation.place`), places being compared number by number: the level, the lifetime, then the
  texts by list, index, level and index.

  What is gathered from the elements of a list in turn stands where their indices say
  (`ordered_flatMap_zipIdx`), and what is put behind stands at a greater number (`ordered_append`),
  so that violations are listed in the order of their places (`violations_ordered`). Hence the one
  reported comes before all others (`validate_eq_error_iff_first`).
-/
namespace PolicyTree

/-! ## Their order -/

/-- Resource policies come before type policies, and resources before both. -/
def PolicyList.place : PolicyList → Nat
  | .resourcePolicies => 1
  | .typePolicies => 2

/-- Rules about resources come before rules about records, and the subject before both. -/
def Level.place : Level → Nat
  | .resource => 1
  | .record => 2

/-- The place of a text: resources, then policies by their lists, each by index; within a policy the
subject, then its rules by level and index, the name of a rule before its identifier. -/
def SettingPath.place : SettingPath → List Nat
  | .resourceId i => [0, i]
  | .subject list i => [list.place, i, 0]
  | .ruleName list i level j => [list.place, i, level.place, j, 0]
  | .ruleIdentifier list i level j => [list.place, i, level.place, j, 1]

/-- The place of a condition: the log level, the lifetime, then the texts. -/
def Violation.place : Violation → List Nat
  | .unknownLevel => [0]
  | .zeroLifetime => [1]
  | .blank path => 2 :: path.place
  | .stated _ => [3]

/-- The condition is not met, and comes before each other one that is not. -/
structure Settings.ViolatesFirst (settings : Settings) (violation : Violation) : Prop where
  violates : settings.Violates violation
  first : ∀ other, settings.Violates other → other ≠ violation → violation.place < other.place

variable {path : SettingPath} {text : String} {violation : Violation} {list : PolicyList}
  {level : Level} {i : Nat}

/-! ## The order in which they are listed -/

namespace Violation

/-- The one violation comes before the other. -/
def Before (violation other : Violation) : Prop := violation.place < other.place

/-- The place of the violation starts with some numbers and another one behind them. -/
def StandsAt (shared : List Nat) (n : Nat) (violation : Violation) : Prop :=
  ∃ rest, violation.place = shared ++ n :: rest

variable {shared : List Nat} {n m : Nat} {other : Violation} {front back : List Violation}

/-- The first number in which two places differ decides which of them comes before. -/
theorem StandsAt.before (stands : violation.StandsAt shared n) (stands' : other.StandsAt shared m)
    (less : n < m) : violation.Before other := by
  obtain ⟨rest, place⟩ := stands
  obtain ⟨rest', place'⟩ := stands'
  rw [Before, place, place']
  clear place place'
  induction shared with
  | nil => exact List.cons_lt_cons_iff.2 (.inl less)
  | cons k shared ih => exact List.cons_lt_cons_iff.2 (.inr ⟨rfl, ih⟩)

theorem ordered_ofText (path : SettingPath) (text : String) :
    (ofText path text).Pairwise Before := by
  rw [ofText]
  split <;> simp

theorem forall_mem_ofText {P : Violation → Prop} (holds : P (.blank path)) :
    ∀ x ∈ ofText path text, P x := by
  intro x mem
  rw [(mem_ofText_iff.1 mem).2]
  exact holds

theorem ordered_append (ordered : front.Pairwise Before) (ordered' : back.Pairwise Before)
    (stands : ∀ x ∈ front, x.StandsAt shared n)
    (behind : ∀ y ∈ back, ∃ m, n < m ∧ y.StandsAt shared m) : (front ++ back).Pairwise Before := by
  refine List.pairwise_append.2 ⟨ordered, ordered', fun x hx y hy => ?_⟩
  obtain ⟨m, less, stands'⟩ := behind y hy
  exact (stands x hx).before stands' less

variable (shared) in
/-- What is gathered of the elements of a list in turn is ordered, if it is for each element and
stands where the index says. -/
theorem ordered_flatMap_zipIdx {α : Type} {list : List α} {gather : α × Nat → List Violation}
    (ordered : ∀ entry, (gather entry).Pairwise Before)
    (stands : ∀ entry, ∀ x ∈ gather entry, x.StandsAt shared entry.2) :
    (list.zipIdx.flatMap gather).Pairwise Before := by
  have indices : list.zipIdx.Pairwise fun entry later => entry.2 < later.2 := by
    rw [List.pairwise_iff_getElem]
    intro i j hi hj less
    simpa using less
  exact List.pairwise_flatMap.2 ⟨fun entry _ => ordered entry, indices.imp fun less x hx y hy =>
    (stands _ x hx).before (stands _ y hy) less⟩

end Violation

open Violation (StandsAt Before)

theorem RuleRow.standsAt_of_mem {rules : List RuleRow}
    (mem : violation ∈ RuleRow.violations list i level rules) :
    violation.StandsAt [2, list.place, i] level.place := by
  obtain ⟨j, rule, -, ⟨-, rfl⟩ | ⟨-, rfl⟩⟩ := RuleRow.mem_violations_iff.1 mem
  · exact ⟨[j, 0], rfl⟩
  · exact ⟨[j, 1], rfl⟩

theorem RuleRow.violations_ordered (list : PolicyList) (i : Nat) (level : Level)
    (rules : List RuleRow) : (RuleRow.violations list i level rules).Pairwise Before := by
  refine Violation.ordered_flatMap_zipIdx [2, list.place, i, level.place] ?_ ?_
  · rintro ⟨rule, j⟩
    have name : StandsAt [2, list.place, i, level.place, j] 0
        (.blank (.ruleName list i level j)) := ⟨[], rfl⟩
    have identifier : StandsAt [2, list.place, i, level.place, j] 1
        (.blank (.ruleIdentifier list i level j)) := ⟨[], rfl⟩
    exact Violation.ordered_append (Violation.ordered_ofText _ _) (Violation.ordered_ofText _ _)
      (Violation.forall_mem_ofText name)
      (Violation.forall_mem_ofText ⟨1, Nat.zero_lt_one, identifier⟩)
  · rintro ⟨rule, j⟩ x mem
    rcases List.mem_append.1 mem with mem | mem
    · exact Violation.forall_mem_ofText ⟨[0], rfl⟩ x mem
    · exact Violation.forall_mem_ofText ⟨[1], rfl⟩ x mem

theorem PolicyRow.standsAt_of_mem {rows : List PolicyRow}
    (mem : violation ∈ PolicyRow.violations list rows) : violation.StandsAt [2] list.place := by
  obtain ⟨i, row, -, ⟨-, rfl⟩ | ⟨level, mem⟩⟩ := PolicyRow.mem_violations_iff.1 mem
  · exact ⟨[i, 0], rfl⟩
  · obtain ⟨rest, place⟩ := RuleRow.standsAt_of_mem mem
    exact ⟨i :: level.place :: rest, place⟩

theorem PolicyRow.violations_ordered (list : PolicyList) (rows : List PolicyRow) :
    (PolicyRow.violations list rows).Pairwise Before := by
  refine Violation.ordered_flatMap_zipIdx [2, list.place] ?_ ?_
  · rintro ⟨row, i⟩
    have subject : StandsAt [2, list.place, i] 0 (.blank (.subject list i)) := ⟨[], rfl⟩
    dsimp only
    rw [List.append_assoc]
    refine Violation.ordered_append (Violation.ordered_ofText _ _) ?_
      (Violation.forall_mem_ofText subject) fun y mem => ?_
    · exact Violation.ordered_append (RuleRow.violations_ordered ..)
        (RuleRow.violations_ordered ..) (fun x => RuleRow.standsAt_of_mem) fun y mem =>
          ⟨2, Nat.one_lt_two, RuleRow.standsAt_of_mem mem⟩
    · rcases List.mem_append.1 mem with mem | mem
      · exact ⟨1, Nat.zero_lt_one, RuleRow.standsAt_of_mem mem⟩
      · exact ⟨2, Nat.zero_lt_two, RuleRow.standsAt_of_mem mem⟩
  · rintro ⟨row, i⟩ x mem
    have rules : ∀ {level rules}, x ∈ RuleRow.violations list i level rules →
        x.StandsAt [2, list.place] i := by
      intro level rules mem
      obtain ⟨rest, place⟩ := RuleRow.standsAt_of_mem mem
      exact ⟨level.place :: rest, place⟩
    rcases List.mem_append.1 mem with mem | mem
    · rcases List.mem_append.1 mem with mem | mem
      · exact Violation.forall_mem_ofText ⟨[0], rfl⟩ x mem
      · exact rules mem
    · exact rules mem

theorem ResourceRow.standsAt_of_mem {rows : List ResourceRow}
    (mem : violation ∈ ResourceRow.violations rows) : violation.StandsAt [2] 0 := by
  obtain ⟨i, row, -, -, rfl⟩ := ResourceRow.mem_violations_iff.1 mem
  exact ⟨[i], rfl⟩

theorem ResourceRow.violations_ordered (rows : List ResourceRow) :
    (ResourceRow.violations rows).Pairwise Before := by
  refine Violation.ordered_flatMap_zipIdx [2, 0] (fun _ => Violation.ordered_ofText _ _) ?_
  rintro ⟨row, i⟩
  exact Violation.forall_mem_ofText ⟨[], rfl⟩

namespace Inventory

/-- The violations of texts. -/
def violations (inventory : Inventory) : List Violation :=
  ResourceRow.violations inventory.resources ++
    (PolicyRow.violations .resourcePolicies inventory.resourcePolicies ++
      PolicyRow.violations .typePolicies inventory.typePolicies)

theorem standsAt_of_mem_policies {inventory : Inventory}
    (mem : violation ∈ PolicyRow.violations .resourcePolicies inventory.resourcePolicies ++
      PolicyRow.violations .typePolicies inventory.typePolicies) :
    ∃ n, 0 < n ∧ violation.StandsAt [2] n := by
  rcases List.mem_append.1 mem with mem | mem
  · exact ⟨1, Nat.zero_lt_one, PolicyRow.standsAt_of_mem mem⟩
  · exact ⟨2, Nat.zero_lt_two, PolicyRow.standsAt_of_mem mem⟩

theorem standsAt_of_mem {inventory : Inventory} (mem : violation ∈ inventory.violations) :
    violation.StandsAt [] 2 := by
  have somewhere : ∃ n, violation.StandsAt [2] n := by
    rcases List.mem_append.1 mem with mem | mem
    · exact ⟨0, ResourceRow.standsAt_of_mem mem⟩
    · obtain ⟨n, -, stands⟩ := standsAt_of_mem_policies mem
      exact ⟨n, stands⟩
  obtain ⟨n, rest, place⟩ := somewhere
  exact ⟨n :: rest, place⟩

theorem violations_ordered (inventory : Inventory) : inventory.violations.Pairwise Before := by
  have policies := Violation.ordered_append
    (PolicyRow.violations_ordered .resourcePolicies inventory.resourcePolicies)
    (PolicyRow.violations_ordered .typePolicies inventory.typePolicies)
    (fun x => PolicyRow.standsAt_of_mem)
    fun y mem => ⟨2, Nat.one_lt_two, PolicyRow.standsAt_of_mem mem⟩
  exact Violation.ordered_append (ResourceRow.violations_ordered _) policies
    (fun x => ResourceRow.standsAt_of_mem) fun y => standsAt_of_mem_policies

end Inventory

namespace Settings

variable {settings : Settings}

theorem violations_ordered (settings : Settings) : settings.violations.Pairwise Before := by
  have level : ∀ x ∈ if settings.logging.isKnown then [] else [Violation.unknownLevel],
      x.StandsAt [] 0 := by
    intro x mem
    split at mem
    · cases mem
    · rw [List.mem_singleton.1 mem]
      exact ⟨[], rfl⟩
  have lifetime : ∀ x ∈ if settings.caching.enabled && settings.caching.ttlSecs == 0 then
      [Violation.zeroLifetime] else [], x.StandsAt [] 1 := by
    intro x mem
    split at mem
    · rw [List.mem_singleton.1 mem]
      exact ⟨[], rfl⟩
    · cases mem
  have behind := Violation.ordered_append (by split <;> simp) settings.inventory.violations_ordered
    lifetime fun y mem => ⟨2, Nat.one_lt_two, Inventory.standsAt_of_mem mem⟩
  have whole := Violation.ordered_append (by split <;> simp) behind level fun y mem => by
    rcases List.mem_append.1 mem with mem | mem
    · exact ⟨1, Nat.zero_lt_one, lifetime y mem⟩
    · exact ⟨2, Nat.zero_lt_two, Inventory.standsAt_of_mem mem⟩
  simpa only [violations, Inventory.violations, List.append_assoc] using whole

/-- The violation that is reported is the one that comes before all others. -/
theorem validate_eq_error_iff_first :
    settings.validate = .error violation ↔ settings.ViolatesFirst violation := by
  have ordered := settings.violations_ordered
  rw [validate_eq_error_iff]
  constructor
  · intro head
    obtain ⟨rest, listed⟩ := List.head?_eq_some_iff.1 head
    have among : ∀ {x}, x ∈ violation :: rest ↔ settings.Violates x := by
      rw [← listed]
      exact mem_violations_iff
    rw [listed, List.pairwise_cons] at ordered
    refine ⟨among.1 List.mem_cons_self, fun other violates ne => ?_⟩
    exact ordered.1 other ((List.mem_cons.1 (among.2 violates)).resolve_left ne)
  · rintro ⟨violates, first⟩
    cases listed : settings.violations with
    | nil =>
      have mem := mem_violations_iff.2 violates
      rw [listed] at mem
      cases mem
    | cons head rest =>
      have among : ∀ {x}, x ∈ head :: rest ↔ settings.Violates x := by
        rw [← listed]
        exact mem_violations_iff
      rw [listed, List.pairwise_cons] at ordered
      by_contra ne
      replace ne : head ≠ violation := fun eq => ne (by rw [eq, List.head?_cons])
      have before := first head (among.1 List.mem_cons_self) ne
      have after := ordered.1 violation ((List.mem_cons.1 (among.2 violates)).resolve_left ne.symm)
      exact List.lt_irrefl _ (List.lt_trans before after)

/-! ## What is accepted and what is reported -/

theorem message_unknownLevel : (SettingsError.validation .unknownLevel).message =
    "Validation error: logging.level must be one of " ++
      "[\"trace\", \"debug\", \"info\", \"warn\", \"error\", \"off\"]" := by
  -- The characters are gone through in the list: to decide it of all that are among them would be
  -- to go through every character there is.
  have plain : ∀ name ∈ Logging.levels,
      (name.toList.all fun c => decide (Text.IsPlain c)) = true := by
    decide
  have quoted : Logging.levels.map Text.quoted =
      Logging.levels.map fun name => "\"" ++ name ++ "\"" :=
    List.map_congr_left fun name mem => Text.quoted_of_plain fun c among =>
      of_decide_eq_true (List.all_eq_true.1 (plain name mem) c among)
  have listed : Text.quotedList Logging.levels =
      "[\"trace\", \"debug\", \"info\", \"warn\", \"error\", \"off\"]" := by
    rw [Text.quotedList, quoted]
    decide +kernel
  show "Validation error: " ++ ("logging.level must be one of " ++ _) = _
  rw [listed, ← String.append_assoc]
  rfl

/-- A configuration is accepted exactly if it is sane. Of another one exactly the violation that
comes first is reported, and no two texts are reported with one message. -/
theorem validate_exact (settings : Settings) :
    (settings.validate = .ok () ↔ settings.IsSane) ∧
    (∀ violation, settings.validate = .error violation ↔ settings.ViolatesFirst violation) ∧
    (SettingsError.validation .unknownLevel).message =
      "Validation error: logging.level must be one of " ++
        "[\"trace\", \"debug\", \"info\", \"warn\", \"error\", \"off\"]" ∧
    (SettingsError.validation .zeroLifetime).message =
      "Validation error: cache.ttl_secs must be > 0 when the cache is enabled" ∧
    (∀ path, (SettingsError.validation (.blank path)).message =
      "Validation error: " ++ (".".intercalate path.segments ++ " must not be empty")) ∧
    Function.Injective fun path => (SettingsError.validation (.blank path)).message := by
  refine ⟨validate_eq_ok_iff_isSane, fun _ => validate_eq_error_iff_first,
    message_unknownLevel, by decide +kernel, fun path => ?_, SettingsError.message_blank_injective⟩
  rw [← SettingPath.text_eq]
  rfl

example : validate { Settings.default with inventory := ⟨[], [], [⟨"Note", .named "admin",
    [⟨"gate", "purpose", NameMap.empty⟩], [⟨"", "", NameMap.empty⟩]⟩]⟩ } =
      .error (.blank (.ruleName .typePolicies 0 .record 0)) := by
  decide

end Settings

end PolicyTree
