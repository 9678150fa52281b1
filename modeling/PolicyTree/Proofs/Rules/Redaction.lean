import PolicyTree.Proofs.Registry.Making
import PolicyTree.Proofs.Rules.Evaluation
/-
  Fields taken out of records. Every rule of the library treats the members of an object one by
  one, so what it makes of a record without some fields is what it makes of the whole record,
  less those fields (`RecordRule.judge_outside`). A run of such rules therefore does not tell
  records apart that differ in redacted fields only, wherever in it the redaction stands: what
  came before can be had from the record without the fields as well, and what comes behind
  never brings a field back (`Rules.hides_of_redaction`).
-/
namespace PolicyTree

/-! ## Records without fields -/

namespace Json

/-- What is left of a record when fields are removed from it; only objects have fields. -/
def outside (fields : List String) : Json → Json
  | .object members => .object (members.filter fun member => member.1 ∉ fields)
  | other => other

/-- Two records are the same once fields are removed from both. -/
def AgreeOutside (fields : List String) (a b : Json) : Prop :=
  a.outside fields = b.outside fields

/-- The record is no object with one of the fields. -/
def Lacks (fields : List String) : Json → Prop
  | .object members => ∀ member ∈ members, member.1 ∉ fields
  | _ => True

variable {fields : List String}

theorem outside_outside (record : Json) :
    (record.outside fields).outside fields = record.outside fields := by
  cases record with
  | object members => simp [outside]
  | _ => rfl

theorem lacks_outside (record : Json) : (record.outside fields).Lacks fields := by
  cases record with
  | object members =>
    intro member kept
    exact of_decide_eq_true (List.mem_filter.1 kept).2
  | _ => trivial

end Json

/-! ## The rules of the library -/

namespace RecordRule

variable {user : User} {context : Context}

theorem filter_maskFields (covered : List String) (cover : String) (keep : String → Bool)
    (members : List (String × Json)) :
    maskFields covered cover (members.filter fun member => keep member.1) =
      (maskFields covered cover members).filter fun member => keep member.1 := by
  have names : ∀ member : String × Json,
      (if covered.contains member.1 then (member.1, Json.text cover) else member).1 =
        member.1 := by
    intro member
    split <;> rfl
  rw [maskFields, maskFields, List.filter_map]
  simp only [Function.comp_def, names]

/-- A rule of the library does to a record without fields what it does to the record. -/
theorem judge_outside (rule : RecordRule) (fields : List String) (record : Json) :
    rule.judge (record.outside fields) user context =
      (rule.judge record user context).map (·.outside fields) := by
  cases rule with
  | gate condition =>
    simp only [judge, Gate.judge, Judgement.ofTest]
    split <;> rfl
  | redact others exempt =>
    cases holds : exempt.any user.hasRole with
    | true => simp only [judge, holds, if_true, Verdict.map]
    | false =>
      cases record with
      | object members =>
        simp only [judge, holds, Json.outside, withoutFields, Verdict.map,
          Bool.false_eq_true, if_false]
        rw [List.filter_comm]
      | _ => simp only [judge, holds, Json.outside, Verdict.map, Bool.false_eq_true, if_false]
  | mask others cover =>
    cases record with
    | object members =>
      simp only [judge, Json.outside, Verdict.map]
      rw [filter_maskFields others cover fun name => decide (name ∉ fields)]
    | _ => rfl

/-- For those who are not exempt a redaction removes its fields. -/
theorem judge_redact {fields : List String} {exempt : Option String}
    (bound : exempt.any user.hasRole = false) (record : Json) :
    (redact fields exempt).judge record user context = .allow (record.outside fields) := by
  cases record with
  | object members =>
    simp [judge, bound, Json.outside, withoutFields]
  | _ => simp [judge, bound, Json.outside]

/-- Those who are exempt see the record as it is. -/
theorem judge_exempt {fields : List String} {exempt : Option String}
    (free : exempt.any user.hasRole = true) (record : Json) :
    (redact fields exempt).judge record user context = .allow record := by
  simp [judge, free]

theorem judge_answers (rule : RecordRule) : rule.judge.Answers := by
  intro record user context reason
  cases rule with
  | gate condition =>
    simp only [judge, Gate.judge, Judgement.ofTest]
    split <;> nofun
  | redact fields exempt =>
    simp only [judge]
    split
    · nofun
    · cases record <;> nofun
  | mask fields cover => cases record <;> nofun

end RecordRule

/-- A rule in use that judges as one of the library does. -/
def Rule.OfLibrary (rule : Rule Json) : Prop := ∃ known : RecordRule, rule.judge = known.judge

theorem Rule.OfLibrary.answers {rule : Rule Json} (h : rule.OfLibrary) : rule.judge.Answers := by
  obtain ⟨known, judged⟩ := h
  rw [judged]
  exact known.judge_answers

namespace Rules

variable {user : User} {context : Context} {fields : List String}
  {entries before after : List (String × Rule Json)}

/-! ## Runs -/

theorem run_outside (library : ∀ entry ∈ entries, entry.2.OfLibrary) (record : Json) :
    run user context entries (record.outside fields) =
      (run user context entries record).map (·.outside fields) := by
  induction entries generalizing record with
  | nil => rfl
  | cons entry rest ih =>
    obtain ⟨name, rule⟩ := entry
    rw [List.forall_mem_cons] at library
    obtain ⟨⟨known, judged⟩, library⟩ := library
    rw [run, run, judged, known.judge_outside]
    cases known.judge record user context with
    | allow next => exact ih library next
    | deny => rfl
    | abort reason => rfl

/-- A run with a redaction in it does not look at the redacted fields: rules that stand before
it may, but what they write there is taken out again. -/
theorem run_redacted (library : ∀ entry ∈ before, entry.2.OfLibrary) {name : String}
    {rule : Rule Json}
    (redacts : ∀ record, rule.judge record user context = .allow (record.outside fields))
    (record : Json) :
    run user context (before ++ (name, rule) :: after) (record.outside fields) =
      run user context (before ++ (name, rule) :: after) record := by
  have front : ∀ value : Json, run user context ((name, rule) :: after) (value.outside fields) =
      run user context ((name, rule) :: after) value := by
    intro value
    rw [run, run, redacts, redacts, Json.outside_outside]
  -- up to the redaction the fields may be removed before the run or after it
  rw [run_append, run_append, run_outside library, Outcome.andThen_map]
  simp only [front]

/-! ## Collections -/

theorem apply_answers {rules : Rules Json}
    (library : ∀ entry ∈ rules.rules.entries, entry.2.OfLibrary) (record : Json) (user : User)
    (context : Context) (reason : String) :
    rules.apply record user context ≠ .abort reason := by
  intro aborted
  have answers : ∀ entry ∈ rules.rules.entries, entry.2.judge.Answers :=
    fun entry mem => (library entry mem).answers
  exact run_ne_aborted answers record reason (Outcome.verdict_eq_abort_iff.1 aborted)

/-- Records go through the rules as they would without the fields, and come out without them. -/
structure Hides (rules : Rules Json) (fields : List String) (user : User) (context : Context) :
    Prop where
  blind : ∀ record,
    rules.apply (record.outside fields) user context = rules.apply record user context
  clean : ∀ record kept, rules.apply record user context = .allow kept → kept.Lacks fields
  total : ∀ record reason, rules.apply record user context ≠ .abort reason

/-- One redaction among rules of the library hides its fields. -/
theorem hides_of_redaction {rules : Rules Json} {name : String} {rule : Rule Json}
    (library : ∀ entry ∈ rules.rules.entries, entry.2.OfLibrary)
    (defined : rules.get? name = some rule)
    (redacts : ∀ record, rule.judge record user context = .allow (record.outside fields)) :
    rules.Hides fields user context := by
  obtain ⟨before, after, split⟩ := List.append_of_mem (get?_eq_some_iff.1 defined)
  have early : ∀ entry ∈ before, entry.2.OfLibrary := by
    intro entry mem
    refine library entry ?_
    rw [split]
    exact List.mem_append_left _ mem
  have blind : ∀ record, rules.evaluate (record.outside fields) user context =
      rules.evaluate record user context := by
    intro record
    rw [evaluate, evaluate, split]
    exact run_redacted early redacts record
  refine ⟨fun record => ?_, fun record kept allowed => ?_,
    fun record => apply_answers library record user context⟩
  · rw [apply, apply, blind]
  · have ended := Outcome.verdict_eq_allow_iff.1 allowed
    -- what comes out is what comes out of the record without the fields, less the fields
    have same : Outcome.allowed kept = (Outcome.allowed kept).map (·.outside fields) := by
      rw [← ended]
      exact (blind record).symm.trans (run_outside library record)
    rw [Outcome.allowed.inj same]
    exact kept.lacks_outside

/-! ## Lists of records -/

theorem Hides.apply_eq {rules : Rules Json} (h : rules.Hides fields user context) {a b : Json}
    (agree : a.AgreeOutside fields b) :
    rules.apply a user context = rules.apply b user context := by
  rw [← h.blind a, agree, h.blind b]

/-- Lists of records that agree outside of hidden fields are redacted to one list, in which no
record has any of the fields. -/
theorem Hides.redact_eq {rules : Rules Json} (h : rules.Hides fields user context)
    {first second : List Json} (agree : List.Forall₂ (Json.AgreeOutside fields) first second) :
    ∃ kept, rules.redact user context first = .ok kept ∧
      rules.redact user context second = .ok kept ∧ ∀ record ∈ kept, record.Lacks fields := by
  induction agree with
  | nil => exact ⟨[], rfl, rfl, nofun⟩
  | @cons a b first second agree _ ih =>
    obtain ⟨kept, left, right, lacks⟩ := ih
    rw [redact, redact, h.apply_eq agree, left, right]
    cases verdict : rules.apply b user context with
    | allow record =>
      exact ⟨record :: kept, rfl, rfl, List.forall_mem_cons.2 ⟨h.clean b record verdict, lacks⟩⟩
    | deny => exact ⟨kept, rfl, rfl, lacks⟩
    | abort reason => exact absurd verdict (h.total b reason)

end Rules

end PolicyTree
