import Mathlib.Data.List.Forall2
import PolicyTree.Proofs.Rules.Redaction
/-
  What more roles and authorisations do to the rules of the library. Users are compared by
  `HoldsNoMore`: one holds what the other holds, at most, and both ask for the same purpose. A gate
  that opens for the one opens for the other, and what the one sees of a record the other sees as
  well (`RecordRule.judge_carries`), however redactions and covers follow each other
  (`Rules.showsMore`).

  What one user sees of a record is always what the other sees of it less some fields. This is the
  relation between the two runs, since rules of the library treat a record without fields as they
  treat the record.
-/
namespace PolicyTree

/-- The first user holds no role and no authorisation that the second does not hold, and the
contexts have one purpose. -/
structure HoldsNoMore (user : User) (context : Context) (other : User) (context' : Context) :
    Prop where
  roles : user.roles.names ⊆ other.roles.names
  auths : user.auths.names ⊆ other.auths.names
  purpose : context.purpose = context'.purpose

variable {user other : User} {context context' : Context}

theorem HoldsNoMore.hasRole (h : HoldsNoMore user context other context') {role : String}
    (holds : user.hasRole role = true) : other.hasRole role = true :=
  List.contains_iff_mem.2 (h.roles (List.contains_iff_mem.1 holds))

theorem HoldsNoMore.hasAuth (h : HoldsNoMore user context other context') {auth : String}
    (holds : user.hasAuth auth = true) : other.hasAuth auth = true :=
  List.contains_iff_mem.2 (h.auths (List.contains_iff_mem.1 holds))

theorem HoldsNoMore.exempt (h : HoldsNoMore user context other context') {role : Option String}
    (holds : role.any user.hasRole = true) : role.any other.hasRole = true := by
  cases role with
  | none => cases holds
  | some role => exact h.hasRole holds

/-! ## Gates -/

namespace Gate

theorem accepts_mono (h : HoldsNoMore user context other context') {gate : Gate}
    (opens : gate.accepts user context = true) : gate.accepts other context' = true := by
  cases gate with
  | pass => rfl
  | purpose wanted =>
    rw [accepts, h.purpose] at opens
    exact opens
  | role wanted => exact h.hasRole opens
  | auth wanted => exact h.hasAuth opens

theorem accepts_congr (h : HoldsNoMore user context other context')
    (h' : HoldsNoMore other context' user context) (gate : Gate) :
    gate.accepts user context = gate.accepts other context' :=
  Bool.eq_iff_iff.2 ⟨accepts_mono h, accepts_mono h'⟩

theorem judge_eq_allow_iff {α : Type} {gate : Gate} {value kept : α} :
    gate.judge value user context = .allow kept ↔
      gate.accepts user context = true ∧ value = kept := by
  rw [judge, Judgement.ofTest]
  split
  · next opens => simp [opens]
  · next shut => simp [shut]

/-- A gate does not look at the value. -/
theorem judge_carries (h : HoldsNoMore user context other context') {α : Type} (R : α → α → Prop)
    (gate : Gate) : gate.judge.Carries R user context other context' := by
  intro first second related kept allowed
  obtain ⟨opens, rfl⟩ := judge_eq_allow_iff.1 allowed
  exact ⟨second, judge_eq_allow_iff.2 ⟨accepts_mono h opens, rfl⟩, related⟩

theorem judge_congr (h : HoldsNoMore user context other context')
    (h' : HoldsNoMore other context' user context) {α : Type} (gate : Gate) (value : α) :
    gate.judge value user context = gate.judge value other context' := by
  rw [judge, Judgement.ofTest, Judgement.ofTest, accepts_congr h h']

end Gate

/-! ## Resources -/

namespace ResourceRule

theorem judge_carries (h : HoldsNoMore user context other context') (rule : ResourceRule) :
    rule.judge.Carries Eq user context other context' := by
  cases rule with
  | gate condition => exact condition.judge_carries h Eq
  | format wanted =>
    rintro resource _ rfl kept allowed
    exact ⟨kept, allowed, rfl⟩

theorem judge_congr (h : HoldsNoMore user context other context')
    (h' : HoldsNoMore other context' user context) (rule : ResourceRule) (resource : Resource) :
    rule.judge resource user context = rule.judge resource other context' := by
  cases rule with
  | gate condition => exact condition.judge_congr h h' resource
  | format wanted => rfl

end ResourceRule

/-! ## Records -/

namespace Json

/-- The first record is the second one less some fields. -/
def PartOf (part record : Json) : Prop := ∃ fields, part = record.outside fields

/-- Each field of the first record is one of the second, with the same value; records that are
no objects are the same. -/
def SeenIn : Json → Json → Prop
  | .object seen, .object shown =>
    ∀ name value, seen.lookup name = some value → shown.lookup name = some value
  | seen, shown => seen = shown

theorem PartOf.refl (record : Json) : record.PartOf record := by
  refine ⟨[], ?_⟩
  cases record with
  | object members => simp [outside]
  | _ => rfl

theorem PartOf.trans {part record whole : Json} (h : part.PartOf record)
    (h' : record.PartOf whole) : part.PartOf whole := by
  obtain ⟨fields, rfl⟩ := h
  obtain ⟨others, rfl⟩ := h'
  refine ⟨fields ++ others, ?_⟩
  cases whole with
  | object members =>
    simp only [outside, List.filter_filter, List.mem_append, not_or, Bool.decide_and]
  | _ => rfl

theorem lookup_outside (fields : List String) (members : List (String × Json)) (name : String) :
    (members.filter fun member => member.1 ∉ fields).lookup name =
      if name ∈ fields then none else members.lookup name := by
  induction members with
  | nil => simp
  | cons member rest ih =>
    obtain ⟨own, value⟩ := member
    by_cases removed : own ∈ fields
    · rw [List.filter_cons_of_neg (by simpa using removed), ih]
      by_cases same : name = own
      · rw [same, if_pos removed, if_pos removed]
      · rw [List.lookup_cons, beq_false_of_ne same]
    · rw [List.filter_cons_of_pos (by simpa using removed), List.lookup_cons, List.lookup_cons, ih]
      by_cases same : name = own
      · rw [same, if_neg removed, if_neg removed, beq_self_eq_true]
      · rw [beq_false_of_ne same]

theorem PartOf.seenIn {part record : Json} (h : part.PartOf record) : part.SeenIn record := by
  obtain ⟨fields, rfl⟩ := h
  cases record with
  | object members =>
    intro name value found
    rw [lookup_outside] at found
    split at found
    · cases found
    · exact found
  | _ => rfl

end Json

namespace RecordRule

/-- One record, and what the two users see of it. -/
theorem judge_partOf (h : HoldsNoMore user context other context') (rule : RecordRule)
    {record kept : Json} (allowed : rule.judge record user context = .allow kept) :
    ∃ shown, rule.judge record other context' = .allow shown ∧ kept.PartOf shown := by
  cases rule with
  | gate condition =>
    obtain ⟨opens, rfl⟩ := Gate.judge_eq_allow_iff.1 allowed
    exact ⟨record, Gate.judge_eq_allow_iff.2 ⟨Gate.accepts_mono h opens, rfl⟩, .refl record⟩
  | redact fields exempt =>
    cases own : exempt.any user.hasRole with
    | true =>
      rw [judge_exempt own] at allowed
      cases allowed
      exact ⟨record, judge_exempt (h.exempt own) record, .refl record⟩
    | false =>
      rw [judge_redact own] at allowed
      cases allowed
      -- The one case in which they see different things: only the other may be exempt.
      cases more : exempt.any other.hasRole with
      | true => exact ⟨record, judge_exempt more record, fields, rfl⟩
      | false => exact ⟨_, judge_redact more record, .refl _⟩
  | mask fields cover => exact ⟨kept, allowed, .refl kept⟩

theorem judge_carries (h : HoldsNoMore user context other context') (rule : RecordRule) :
    rule.judge.Carries Json.PartOf user context other context' := by
  rintro _ record ⟨fields, rfl⟩ kept allowed
  rw [rule.judge_outside] at allowed
  cases verdict : rule.judge record user context with
  | allow next =>
    rw [verdict] at allowed
    cases allowed
    obtain ⟨shown, seen, part⟩ := rule.judge_partOf h verdict
    exact ⟨shown, seen, .trans ⟨fields, rfl⟩ part⟩
  | deny =>
    rw [verdict] at allowed
    cases allowed
  | abort reason =>
    rw [verdict] at allowed
    cases allowed

theorem judge_congr (h : HoldsNoMore user context other context')
    (h' : HoldsNoMore other context' user context) (rule : RecordRule) (record : Json) :
    rule.judge record user context = rule.judge record other context' := by
  cases rule with
  | gate condition => exact condition.judge_congr h h' record
  | redact fields exempt =>
    have same : exempt.any user.hasRole = exempt.any other.hasRole :=
      Bool.eq_iff_iff.2 ⟨h.exempt, h'.exempt⟩
    simp only [judge, same]
  | mask fields cover => rfl

end RecordRule

namespace Rules

/-! ## Collections -/

/-- Whatever comes through the rules for the first user comes through for the second, who sees in
it all that the first one sees. If neither holds more than the other they see the same. -/
structure ShowsMore (rules : Rules Json) (user : User) (context : Context) (other : User)
    (context' : Context) : Prop where
  apply : ∀ record kept, rules.apply record user context = .allow kept →
    ∃ shown, rules.apply record other context' = .allow shown ∧ kept.SeenIn shown
  redact : ∀ records, ∃ fewer more, rules.redact user context records = .ok fewer ∧
    rules.redact other context' records = .ok more ∧ List.SublistForall₂ Json.SeenIn fewer more
  congr : HoldsNoMore other context' user context →
    ∀ record, rules.apply record user context = rules.apply record other context'

variable {rules : Rules Json}

theorem apply_shows (library : ∀ entry ∈ rules.rules.entries, entry.2.OfLibrary)
    (h : HoldsNoMore user context other context') {record kept : Json}
    (allowed : rules.apply record user context = .allow kept) :
    ∃ shown, rules.apply record other context' = .allow shown ∧ kept.SeenIn shown := by
  have carries : ∀ entry ∈ rules.rules.entries,
      entry.2.judge.Carries Json.PartOf user context other context' := by
    intro entry mem
    obtain ⟨known, judged⟩ := library entry mem
    rw [judged]
    exact known.judge_carries h
  obtain ⟨shown, more, part⟩ :=
    run_carries carries (.refl record) (Outcome.verdict_eq_allow_iff.1 allowed)
  exact ⟨shown, Outcome.verdict_eq_allow_iff.2 more, part.seenIn⟩

theorem apply_congr (library : ∀ entry ∈ rules.rules.entries, entry.2.OfLibrary)
    (h : HoldsNoMore user context other context') (h' : HoldsNoMore other context' user context)
    (record : Json) : rules.apply record user context = rules.apply record other context' := by
  have alike : ∀ entry ∈ rules.rules.entries, ∀ value,
      entry.2.judge value user context = entry.2.judge value other context' := by
    intro entry mem value
    obtain ⟨known, judged⟩ := library entry mem
    rw [judged]
    exact known.judge_congr h h' value
  rw [apply, apply, evaluate, evaluate, run_congr alike]

theorem redact_shows (library : ∀ entry ∈ rules.rules.entries, entry.2.OfLibrary)
    (h : HoldsNoMore user context other context') (records : List Json) :
    ∃ fewer more, rules.redact user context records = .ok fewer ∧
      rules.redact other context' records = .ok more ∧
      List.SublistForall₂ Json.SeenIn fewer more := by
  induction records with
  | nil => exact ⟨[], [], rfl, rfl, .nil⟩
  | cons record rest ih =>
    obtain ⟨fewer, more, left, right, seen⟩ := ih
    rw [redact, redact, left, right]
    cases first : rules.apply record user context with
    | allow kept =>
      obtain ⟨shown, second, seenIn⟩ := apply_shows library h first
      rw [second]
      exact ⟨kept :: fewer, shown :: more, rfl, rfl, .cons seenIn seen⟩
    | deny =>
      cases second : rules.apply record other context' with
      | allow shown => exact ⟨fewer, shown :: more, rfl, rfl, .cons_right seen⟩
      | deny => exact ⟨fewer, more, rfl, rfl, seen⟩
      | abort reason => exact absurd second (apply_answers library record other context' reason)
    | abort reason => exact absurd first (apply_answers library record user context reason)

theorem showsMore (library : ∀ entry ∈ rules.rules.entries, entry.2.OfLibrary)
    (h : HoldsNoMore user context other context') :
    rules.ShowsMore user context other context' where
  apply _ _ := apply_shows library h
  redact := redact_shows library h
  congr h' := apply_congr library h h'

end Rules

end PolicyTree
