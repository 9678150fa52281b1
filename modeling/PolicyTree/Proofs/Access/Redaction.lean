import PolicyTree.Proofs.Access.RecordRules
import PolicyTree.Proofs.Rules.Filtering
import PolicyTree.Proofs.Rules.Redaction
/-
  Redaction down the chain of a resource. A node may set a rule under a name that takes fields
  out of records. As long as no node below it sets that name again, the rules handed out for
  a resource below hide these fields, whatever other rules of the library they consist of
  (`recordRules_hide`).

  Only a node of the chain can set the name again: policies of data types say nothing about
  records.
-/
namespace PolicyTree.Access

variable {σ : Type} {held : PolicyKey → Option Policy} {resource : Resource}

variable (held) in
/-- Every rule about records was made by the registry of the library. -/
def RecordsByLibrary : Prop :=
  ∀ key policy, held key = some policy →
    policy.recordRules.MadeBy Registry.builtin.makeRecordRule

variable (held resource) in
/-- A node of the chain sets a rule about records, and no node below it sets one under the same
name again. -/
def InheritsForRecords (name : String) (rule : Rule Json) : Prop :=
  ∃ above node below policy, resource.lineage = above ++ node :: below ∧
    held (.resource node.id) = some policy ∧ policy.recordRules.get? name = some rule ∧
    ∀ lower ∈ below, ∀ other, held (.resource lower.id) = some other →
      other.recordRules.get? name = none

variable (held resource) in
/-- The rules about records that are merged for a resource. -/
def recordRulesInForce : List (Rules Json) :=
  (Resolution.chainPolicies held resource).map (·.recordRules)

/-- What is inherited is the last definition of its name. -/
theorem InheritsForRecords.lastDefinition {name : String} {rule : Rule Json}
    (h : InheritsForRecords held resource name rule) :
    Rules.lastDefinition (recordRulesInForce held resource) name = some rule := by
  obtain ⟨above, node, below, policy, lineage, found, defined, unset⟩ := h
  have split : recordRulesInForce held resource =
      (above.filterMap fun node => held (.resource node.id)).map (·.recordRules) ++
        policy.recordRules ::
          (below.filterMap fun node => held (.resource node.id)).map (·.recordRules) := by
    simp [recordRulesInForce, Resolution.chainPolicies, lineage, found]
  rw [split]
  refine Rules.lastDefinition_eq_of_split defined fun later h => ?_
  obtain ⟨other, mem, rfl⟩ := List.mem_map.1 h
  obtain ⟨lower, low, held_lower⟩ := List.mem_filterMap.1 mem
  exact unset lower low other held_lower

/-- Where something is inherited, rules are handed out, and they are the merge of the chain. -/
theorem InheritsForRecords.exists_isMergeOf {name : String} {rule : Rule Json}
    (h : InheritsForRecords held resource name rule) :
    ∃ rules, recordAnswer held resource = some rules ∧
      rules.IsMergeOf (recordRulesInForce held resource) := by
  obtain ⟨above, node, below, policy, lineage, found, -⟩ := h
  cases answer : recordAnswer held resource with
  | none =>
    have none := (Resolution.merged_eq_none_iff.1 answer).1 node (by simp [lineage])
    rw [found] at none
    cases none
  | some rules => exact ⟨rules, rfl, Resolution.isMergeOf_of_merged answer⟩

theorem ofLibrary_of_inForce (library : RecordsByLibrary held) {name : String}
    {rule : Rule Json}
    (last : Rules.lastDefinition (recordRulesInForce held resource) name = some rule) :
    rule.OfLibrary := by
  obtain ⟨key, policy, found, defined⟩ :=
    Resolution.exists_policy_of_lastDefinition .record resource resource.typeName last
  obtain ⟨id, params, made⟩ := library key policy found name rule defined
  obtain ⟨known, -, judged⟩ := Registry.exists_recordRule made
  exact ⟨known, judged⟩

/-- The rules handed out for a resource hide the fields that an inherited rule takes out. Two
lists of records that agree outside of these fields come out as one and the same list, and
without the fields. -/
theorem recordRules_hide (store : Store σ) (state : σ) (held : PolicyKey → Option Policy)
    (holds : store.Holds state held) (library : RecordsByLibrary held) (resource : Resource)
    (constructible : resource.Constructible) (name : String) (rule : Rule Json)
    (inherited : InheritsForRecords held resource name rule) (fields : List String)
    (exempt : Option String) (redacts : rule.judge = (RecordRule.redact fields exempt).judge) :
    ∃ found rules next, (recordRules store [resource]).on state = (.ok found, next) ∧
      found.entries = [(resource.id, resource, rules)] ∧
      ∀ user, exempt.any user.hasRole = false → ∀ context first second,
        List.Forall₂ (Json.AgreeOutside fields) first second →
        ∃ kept, rules.redact user context first = .ok kept ∧
          rules.redact user context second = .ok kept ∧
          ∀ record ∈ kept, record.Lacks fields := by
  have all : ∀ r ∈ [resource], r.Constructible := List.forall_mem_singleton.2 constructible
  obtain ⟨next, run, -⟩ := recordRules_of_holds holds all
  obtain ⟨rules, answer, merge⟩ := inherited.exists_isMergeOf
  have entered : [resource].foldl (enterAnswer (recordAnswer held)) .empty =
      enter .empty resource rules := by
    rw [List.foldl_cons, List.foldl_nil, enterAnswer, answer]
  refine ⟨_, rules, next, run, ?_, fun user bound context first second agree => ?_⟩
  · rw [entered]
    rfl
  · have known : ∀ entry ∈ rules.rules.entries, entry.2.OfLibrary := by
      rintro ⟨other, found⟩ mem
      exact ofLibrary_of_inForce library (merge.mem_entries_iff.1 mem)
    have defined : rules.get? name = some rule :=
      (merge.get? name).trans inherited.lastDefinition
    have removes : ∀ record,
        rule.judge record user context = .allow (record.outside fields) := by
      intro record
      rw [redacts, RecordRule.judge_redact bound]
    exact (Rules.hides_of_redaction known defined removes).redact_eq agree

/-! ## A redaction between covers -/

/-- A write of a policy whose rules the library made keeps a memory free of others. -/
theorem RecordsByLibrary.put {memory : Memory} (h : RecordsByLibrary memory.get?)
    {policy : Policy} (made : policy.recordRules.MadeBy Registry.builtin.makeRecordRule)
    (key : PolicyKey) : RecordsByLibrary (memory.put key policy).get? :=
  Memory.forall_put h made key

namespace Sample

open Resolution.Sample

/-- Covers two of the fields; the library makes it of the parameters below. -/
def cover (serial : Nat) : Rule Json := ⟨serial, (RecordRule.mask ["name", "ssn"] "***").judge⟩

def coverParameters : Parameters := .ofList [("fields", "name, ssn")]

def redaction : Rule Json := ⟨1, (RecordRule.redact ["ssn", "pay"] (some "admin")).judge⟩

def redactionParameters : Parameters := .ofList [("fields", "ssn, pay"), ("exempt_role", "admin")]

/-- The redaction stands behind a cover of the root and before one of the file; the policy of
the type has a rule of its name. -/
def coveredMemory : Memory :=
  ((Memory.empty.put (.resource "/file")
    ⟨default, .empty, (Rules.empty.insert "early" (cover 0)).insert "hide" redaction⟩).put
    (.resource "/file/a.txt") ⟨default, .empty, Rules.empty.insert "late" (cover 2)⟩).put
    (.type "T") ⟨default, .empty, openRules "hide" 3⟩

theorem coveredMemory_byLibrary : RecordsByLibrary coveredMemory.get? := by
  have empty : RecordsByLibrary Memory.empty.get? := by
    intro key policy h
    cases h
  have covers : Registry.builtin.makeRecordRule "mask-fields" coverParameters =
      .ok (RecordRule.mask ["name", "ssn"] "***").judge := rfl
  have redacts : Registry.builtin.makeRecordRule "redact-fields" redactionParameters =
      .ok redaction.judge := rfl
  have passes : Registry.builtin.makeRecordRule "pass-through" .empty =
      .ok (RecordRule.gate .pass).judge := rfl
  exact ((empty.put ((Rules.madeBy_empty.insert covers _).insert redacts _) _).put
    (Rules.madeBy_empty.insert covers _) _).put (Rules.madeBy_empty.insert passes _) _

theorem inherits_redaction : InheritsForRecords coveredMemory.get? file "hide" redaction := by
  refine ⟨[], root, [file], _, rfl, rfl, rfl, fun lower low other found => ?_⟩
  rw [List.mem_singleton.1 low] at found
  cases found
  rfl

def reader : User := .named "reader"

def person (name pay ssn : String) : Json :=
  .object [("name", .text name), ("pay", .text pay), ("ssn", .text ssn)]

end Sample

open Resolution.Sample Sample in
/-- Two records of one person that differ in the redacted fields come out alike for a user
without the exempt role: the fields are gone, and the name is covered. -/
theorem recordRules_hide_covered :
    Memory.store.Holds coveredMemory coveredMemory.get? ∧
      RecordsByLibrary coveredMemory.get? ∧ file.Constructible ∧
      InheritsForRecords coveredMemory.get? file "hide" redaction ∧
      ∃ found rules next,
        (recordRules Memory.store [file]).on coveredMemory = (.ok found, next) ∧
        found.entries = [("/file/a.txt", file, rules)] ∧
        rules.names = ["early", "hide", "late"] ∧
        rules.redact reader (.ofPurpose "audit") [person "n" "1" "2"] =
          .ok [.object [("name", .text "***")]] ∧
        rules.redact reader (.ofPurpose "audit") [person "n" "3" "4"] =
          .ok [.object [("name", .text "***")]] := by
  refine ⟨coveredMemory.holds, coveredMemory_byLibrary, file_constructible, inherits_redaction, ?_⟩
  obtain ⟨found, rules, next, run, entries, hide⟩ :=
    recordRules_hide Memory.store coveredMemory coveredMemory.get? coveredMemory.holds
      coveredMemory_byLibrary file file_constructible "hide" redaction inherits_redaction
      ["ssn", "pay"] (some "admin") rfl
  obtain ⟨kept, first, second, -⟩ := hide reader (by decide) (.ofPurpose "audit")
    [person "n" "1" "2"] [person "n" "3" "4"] (.cons rfl .nil)
  have computed : (recordRules Memory.store [file]).on coveredMemory =
      (.ok (OrderedMap.empty.insert "/file/a.txt"
        (file, ((Rules.empty.insert "early" (cover 0)).insert "hide" redaction).insert "late"
          (cover 2))), coveredMemory) := rfl
  rw [computed] at run
  cases run
  cases entries
  have shown : kept = [.object [("name", .text "***")]] := (Except.ok.inj first).symm
  rw [shown] at first second
  exact ⟨_, _, _, computed, rfl, rfl, first, second⟩

end PolicyTree.Access
