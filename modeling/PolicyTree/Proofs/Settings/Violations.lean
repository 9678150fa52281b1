import Mathlib.Data.List.Basic
import PolicyTree.Proofs.Text.Fields
import PolicyTree.Rule.Builtin
import PolicyTree.Settings.Validation
/-
  What a valid configuration is. `Violates` says of each condition when it is not met, by the text
  that stands at a path (`Inventory.textAt?`); a configuration that meets all of them is sane
  (`isSane_iff`).

  All violations are listed and nothing else (`mem_violations_iff`, from one such lemma for the
  rows of each kind), so that the sane configurations are the ones of which none is
  (`validate_eq_ok_iff_isSane`).
-/
namespace PolicyTree

open Text (trim)

/-! ## Conditions -/

/-- The policies of a list. -/
def Inventory.policies (inventory : Inventory) : PolicyList → List PolicyRow
  | .resourcePolicies => inventory.resourcePolicies
  | .typePolicies => inventory.typePolicies

/-- The rules of a level. -/
def PolicyRow.rules (row : PolicyRow) : Level → List RuleRow
  | .resource => row.resourceRules
  | .record => row.recordRules

namespace Inventory

/-- The rule at a place of a policy at a place of a list. -/
def ruleAt? (inventory : Inventory) (list : PolicyList) (i : Nat) (level : Level) (j : Nat) :
    Option RuleRow :=
  (inventory.policies list)[i]?.bind fun row => (row.rules level)[j]?

/-- The text at a path, if the path leads to one. -/
def textAt? (inventory : Inventory) : SettingPath → Option String
  | .resourceId i => inventory.resources[i]?.map (·.id)
  | .subject list i => (inventory.policies list)[i]?.map (·.subject)
  | .ruleName list i level j => (inventory.ruleAt? list i level j).map (·.name)
  | .ruleIdentifier list i level j => (inventory.ruleAt? list i level j).map (·.rule)

end Inventory

/-- The log level is one of the six, whatever the case of its letters. -/
def Logging.HasKnownLevel (logging : Logging) : Prop :=
  ∃ name ∈ ["trace", "debug", "info", "warn", "error", "off"],
    ResourceRule.equalIgnoringCase logging.level name = true

namespace Settings

/-- The configuration does not meet a condition. -/
inductive Violates (settings : Settings) : Violation → Prop where
  | unknownLevel : ¬ settings.logging.HasKnownLevel → Violates settings .unknownLevel
  | zeroLifetime : settings.caching.enabled = true → settings.caching.ttlSecs = 0 →
      Violates settings .zeroLifetime
  | blank {path : SettingPath} {text : String} : settings.inventory.textAt? path = some text →
      trim text = "" → Violates settings (.blank path)

/-- The log level is a known one, a cache that is on has a lifetime, and no id, subject, rule name
or rule identifier is blank. -/
structure IsSane (settings : Settings) : Prop where
  level : settings.logging.HasKnownLevel
  lifetime : settings.caching.enabled = false ∨ 0 < settings.caching.ttlSecs
  resources : ∀ row ∈ settings.inventory.resources, trim row.id ≠ ""
  policies : ∀ list, ∀ row ∈ settings.inventory.policies list, trim row.subject ≠ "" ∧
    ∀ level, ∀ rule ∈ row.rules level, trim rule.name ≠ "" ∧ trim rule.rule ≠ ""

end Settings

/-! ## The violations that are listed -/

variable {path : SettingPath} {text : String} {violation : Violation} {list : PolicyList}
  {level : Level} {i : Nat}

theorem Violation.mem_ofText_iff :
    violation ∈ ofText path text ↔ trim text = "" ∧ violation = .blank path := by
  rw [ofText, Text.isBlankText]
  split
  · next blank => simp [String.isEmpty_iff.1 blank]
  · next filled => simp [String.isEmpty_iff.not.1 filled]

theorem RuleRow.mem_violations_iff {rules : List RuleRow} :
    violation ∈ RuleRow.violations list i level rules ↔ ∃ j rule, rules[j]? = some rule ∧
      (trim rule.name = "" ∧ violation = .blank (.ruleName list i level j) ∨
        trim rule.rule = "" ∧ violation = .blank (.ruleIdentifier list i level j)) := by
  simp only [RuleRow.violations, List.mem_flatMap, Prod.exists, List.mk_mem_zipIdx_iff_getElem?,
    List.mem_append, Violation.mem_ofText_iff]
  exact exists_comm

theorem PolicyRow.mem_violations_iff {rows : List PolicyRow} :
    violation ∈ PolicyRow.violations list rows ↔ ∃ i row, rows[i]? = some row ∧
      (trim row.subject = "" ∧ violation = .blank (.subject list i) ∨
        ∃ level, violation ∈ RuleRow.violations list i level (row.rules level)) := by
  have levels : ∀ i (row : PolicyRow),
      (∃ level, violation ∈ RuleRow.violations list i level (row.rules level)) ↔
        violation ∈ RuleRow.violations list i .resource row.resourceRules ∨
          violation ∈ RuleRow.violations list i .record row.recordRules := by
    intro i row
    constructor
    · rintro ⟨_ | _, mem⟩
      · exact .inl mem
      · exact .inr mem
    · rintro (mem | mem)
      · exact ⟨.resource, mem⟩
      · exact ⟨.record, mem⟩
  simp only [PolicyRow.violations, List.mem_flatMap, Prod.exists, List.mk_mem_zipIdx_iff_getElem?,
    List.mem_append, Violation.mem_ofText_iff, levels, or_assoc]
  exact exists_comm

theorem ResourceRow.mem_violations_iff {rows : List ResourceRow} :
    violation ∈ ResourceRow.violations rows ↔
      ∃ i row, rows[i]? = some row ∧ trim row.id = "" ∧ violation = .blank (.resourceId i) := by
  simp only [ResourceRow.violations, List.mem_flatMap, Prod.exists,
    List.mk_mem_zipIdx_iff_getElem?, Violation.mem_ofText_iff]
  exact exists_comm

theorem Logging.isKnown_eq_true_iff {logging : Logging} :
    logging.isKnown = true ↔ logging.HasKnownLevel := by
  have small : ∀ name ∈ levels, name.toList.map Char.toLower = name.toList := by decide
  rw [isKnown, List.contains_iff_mem]
  constructor
  · intro mem
    refine ⟨_, mem, beq_iff_eq.2 ?_⟩
    rw [small _ mem, String.toList_ofList]
  · rintro ⟨name, mem, equal⟩
    rw [beq_iff_eq.1 equal, small name mem, String.ofList_toList]
    exact mem

namespace Settings

variable {settings : Settings}

theorem violates_of_mem_policies (list : PolicyList)
    (mem : violation ∈ PolicyRow.violations list (settings.inventory.policies list)) :
    settings.Violates violation := by
  obtain ⟨i, row, at_i, ⟨blank, rfl⟩ | ⟨level, mem⟩⟩ := PolicyRow.mem_violations_iff.1 mem
  · exact .blank (Option.map_eq_some_iff.2 ⟨row, at_i, rfl⟩) blank
  · obtain ⟨j, rule, at_j, bad⟩ := RuleRow.mem_violations_iff.1 mem
    have found : settings.inventory.ruleAt? list i level j = some rule :=
      Option.bind_eq_some_iff.2 ⟨row, at_i, at_j⟩
    rcases bad with ⟨blank, rfl⟩ | ⟨blank, rfl⟩
    · exact .blank (Option.map_eq_some_iff.2 ⟨rule, found, rfl⟩) blank
    · exact .blank (Option.map_eq_some_iff.2 ⟨rule, found, rfl⟩) blank

theorem mem_violations_of_policies
    (mem : violation ∈ PolicyRow.violations list (settings.inventory.policies list)) :
    violation ∈ settings.violations := by
  rw [violations, List.mem_append, List.mem_append]
  cases list with
  | resourcePolicies => exact .inl (.inr mem)
  | typePolicies => exact .inr mem

theorem mem_violations_of_rule {j : Nat} {rule : RuleRow}
    (found : settings.inventory.ruleAt? list i level j = some rule)
    (bad : trim rule.name = "" ∧ violation = .blank (.ruleName list i level j) ∨
      trim rule.rule = "" ∧ violation = .blank (.ruleIdentifier list i level j)) :
    violation ∈ settings.violations := by
  obtain ⟨row, at_i, at_j⟩ := Option.bind_eq_some_iff.1 found
  have mem := RuleRow.mem_violations_iff.2 ⟨j, rule, at_j, bad⟩
  exact mem_violations_of_policies
    (PolicyRow.mem_violations_iff.2 ⟨i, row, at_i, .inr ⟨level, mem⟩⟩)

theorem mem_violations_of_blank (found : settings.inventory.textAt? path = some text)
    (blank : trim text = "") : .blank path ∈ settings.violations := by
  cases path with
  | resourceId i =>
    obtain ⟨row, at_i, rfl⟩ := Option.map_eq_some_iff.1 found
    simp only [violations, List.mem_append]
    exact .inl (.inl (.inr (ResourceRow.mem_violations_iff.2 ⟨i, row, at_i, blank, rfl⟩)))
  | subject list i =>
    obtain ⟨row, at_i, rfl⟩ := Option.map_eq_some_iff.1 found
    exact mem_violations_of_policies
      (PolicyRow.mem_violations_iff.2 ⟨i, row, at_i, .inl ⟨blank, rfl⟩⟩)
  | ruleName list i level j =>
    obtain ⟨rule, rule_at, rfl⟩ := Option.map_eq_some_iff.1 found
    exact mem_violations_of_rule rule_at (.inl ⟨blank, rfl⟩)
  | ruleIdentifier list i level j =>
    obtain ⟨rule, rule_at, rfl⟩ := Option.map_eq_some_iff.1 found
    exact mem_violations_of_rule rule_at (.inr ⟨blank, rfl⟩)

theorem IsSane.filled (sane : settings.IsSane)
    (found : settings.inventory.textAt? path = some text) : trim text ≠ "" := by
  have rules : ∀ {list i level j rule}, settings.inventory.ruleAt? list i level j = some rule →
      trim rule.name ≠ "" ∧ trim rule.rule ≠ "" := by
    intro list i level j rule found
    obtain ⟨row, at_i, at_j⟩ := Option.bind_eq_some_iff.1 found
    exact (sane.policies list row (List.mem_of_getElem? at_i)).2 level rule
      (List.mem_of_getElem? at_j)
  cases path with
  | resourceId i =>
    obtain ⟨row, at_i, rfl⟩ := Option.map_eq_some_iff.1 found
    exact sane.resources row (List.mem_of_getElem? at_i)
  | subject list i =>
    obtain ⟨row, at_i, rfl⟩ := Option.map_eq_some_iff.1 found
    exact (sane.policies list row (List.mem_of_getElem? at_i)).1
  | ruleName list i level j =>
    obtain ⟨rule, rule_at, rfl⟩ := Option.map_eq_some_iff.1 found
    exact (rules rule_at).1
  | ruleIdentifier list i level j =>
    obtain ⟨rule, rule_at, rfl⟩ := Option.map_eq_some_iff.1 found
    exact (rules rule_at).2

/-- All conditions that are not met are listed, and nothing else. -/
theorem mem_violations_iff : violation ∈ settings.violations ↔ settings.Violates violation := by
  constructor
  · intro mem
    simp only [violations, List.mem_append] at mem
    rcases mem with (((mem | mem) | mem) | mem) | mem
    · split at mem
      · cases mem
      · next unknown =>
        rw [List.mem_singleton.1 mem]
        exact .unknownLevel (mt Logging.isKnown_eq_true_iff.2 unknown)
    · split at mem
      · next fails =>
        rw [Bool.and_eq_true, beq_iff_eq] at fails
        rw [List.mem_singleton.1 mem]
        exact .zeroLifetime fails.1 fails.2
      · cases mem
    · obtain ⟨i, row, found, blank, rfl⟩ := ResourceRow.mem_violations_iff.1 mem
      exact .blank (Option.map_eq_some_iff.2 ⟨row, found, rfl⟩) blank
    · exact violates_of_mem_policies .resourcePolicies mem
    · exact violates_of_mem_policies .typePolicies mem
  · rintro (unknown | ⟨enabled, zero⟩ | ⟨found, blank⟩)
    · simp [violations, mt Logging.isKnown_eq_true_iff.1 unknown]
    · simp [violations, enabled, zero]
    · exact mem_violations_of_blank found blank

theorem validate_eq_ok_iff : settings.validate = .ok () ↔ settings.violations = [] := by
  rw [validate]
  split
  · next none => exact iff_of_true rfl none
  · next found => exact iff_of_false nofun (found ▸ List.cons_ne_nil _ _)

theorem validate_eq_error_iff :
    settings.validate = .error violation ↔ settings.violations.head? = some violation := by
  rw [validate]
  split
  · next none => simp [none]
  · next found => simp [found]

/-- A configuration is sane exactly if no condition is violated. -/
theorem isSane_iff : settings.IsSane ↔ ∀ violation, ¬ settings.Violates violation := by
  constructor
  · rintro sane _ (unknown | ⟨enabled, zero⟩ | ⟨found, blank⟩)
    · exact unknown sane.level
    · rcases sane.lifetime with off | lasts
      · cases enabled.symm.trans off
      · rw [zero] at lasts
        exact absurd lasts (by decide)
    · exact sane.filled found blank
  · intro sound
    have filled : ∀ path text, settings.inventory.textAt? path = some text → trim text ≠ "" :=
      fun path text found blank => sound _ (.blank found blank)
    have rules : ∀ {list row level rule}, row ∈ settings.inventory.policies list →
        rule ∈ row.rules level → ∃ i j, settings.inventory.ruleAt? list i level j = some rule := by
      intro list row level rule mem mem'
      obtain ⟨i, at_i⟩ := List.mem_iff_getElem?.1 mem
      obtain ⟨j, at_j⟩ := List.mem_iff_getElem?.1 mem'
      exact ⟨i, j, Option.bind_eq_some_iff.2 ⟨row, at_i, at_j⟩⟩
    refine ⟨not_not.1 fun unknown => sound _ (.unknownLevel unknown), ?_, fun row mem => ?_,
      fun list row mem => ⟨?_, fun level rule mem' => ?_⟩⟩
    · cases enabled : settings.caching.enabled with
      | false => exact .inl rfl
      | true =>
        have lasts : settings.caching.ttlSecs ≠ 0 :=
          fun zero => sound _ (.zeroLifetime enabled zero)
        exact .inr (UInt64.pos_iff_ne_zero.2 lasts)
    · obtain ⟨i, at_i⟩ := List.mem_iff_getElem?.1 mem
      exact filled (.resourceId i) row.id (Option.map_eq_some_iff.2 ⟨row, at_i, rfl⟩)
    · obtain ⟨i, at_i⟩ := List.mem_iff_getElem?.1 mem
      exact filled (.subject list i) row.subject (Option.map_eq_some_iff.2 ⟨row, at_i, rfl⟩)
    · obtain ⟨i, j, found⟩ := rules mem mem'
      exact ⟨filled (.ruleName list i level j) _ (Option.map_eq_some_iff.2 ⟨rule, found, rfl⟩),
        filled (.ruleIdentifier list i level j) _ (Option.map_eq_some_iff.2 ⟨rule, found, rfl⟩)⟩

/-- The configurations that are accepted are the sane ones. -/
theorem validate_eq_ok_iff_isSane : settings.validate = .ok () ↔ settings.IsSane := by
  rw [validate_eq_ok_iff, isSane_iff, List.eq_nil_iff_forall_not_mem]
  exact forall_congr' fun violation => not_congr mem_violations_iff

end Settings

end PolicyTree
