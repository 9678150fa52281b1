import Mathlib.Data.List.Perm.Basic
import PolicyTree.Proofs.Rules.Redaction
/-
  What the record rules of the library come to. However gates, redactions and masks follow each
  other, a record comes through if every gate is open, and then each member of an object is kept
  unless a redaction that binds the user lists its name, and bound to the cover of the last mask
  that lists it. `RecordRule.shown` computes this from the list of rules. It takes one list behind
  another apart (`shown_append`), so it is enough to know what each rule does alone (`judge_eq`),
  and the run follows by induction (`verdict_run_listed`).

  The order of the rules counts for the last masks alone. Hence rules may be applied in any order
  if masks that share a field have one cover, and twice as well as once (`apply_normalForm`).
-/
namespace PolicyTree

namespace RecordRule

/-! ## Single rules -/

/-- The rule is no gate that is shut. -/
def opens (user : User) (context : Context) : RecordRule → Bool
  | .gate condition => condition.accepts user context
  | _ => true

/-- The rule is a redaction that binds the user and lists the field. -/
def removes (user : User) (name : String) : RecordRule → Bool
  | .redact fields exempt => !exempt.any user.hasRole && fields.contains name
  | _ => false

/-- The cover of the rule, if it is a mask that lists the field. -/
def coverOf? (name : String) : RecordRule → Option String
  | .mask fields cover => if name ∈ fields then some cover else none
  | _ => none

theorem opens_eq_true_iff {user : User} {context : Context} {rule : RecordRule} :
    rule.opens user context = true ↔
      ∀ condition, rule = .gate condition → condition.accepts user context = true := by
  cases rule <;> simp [opens]

theorem removes_eq_true_iff {user : User} {name : String} {rule : RecordRule} :
    rule.removes user name = true ↔ ∃ fields exempt, rule = .redact fields exempt ∧
      exempt.any user.hasRole = false ∧ name ∈ fields := by
  cases rule with
  | redact fields exempt => simp [removes]
  | _ => simp [removes]

theorem coverOf?_eq_some_iff {name cover : String} {rule : RecordRule} :
    rule.coverOf? name = some cover ↔ ∃ fields, rule = .mask fields cover ∧ name ∈ fields := by
  cases rule with
  | mask fields own =>
    by_cases listed : name ∈ fields
    · simp [coverOf?, listed]
    · simp only [coverOf?, listed, if_false, reduceCtorEq, false_iff]
      rintro ⟨_, eq, again⟩
      cases eq
      exact listed again
  | _ => simp [coverOf?]

/-! ## Rules in order -/

/-- The cover of the last mask that lists the field. -/
def lastCover? (listed : List RecordRule) (name : String) : Option String :=
  (listed.filterMap (·.coverOf? name)).getLast?

/-- What the rules bind a field to: the last cover, or else the value it has. -/
def boundTo (listed : List RecordRule) (name : String) (value : Json) : Json :=
  ((lastCover? listed name).map .text).getD value

/-- What the rules leave of the members of an object. -/
def shownMembers (listed : List RecordRule) (user : User) (members : List (String × Json)) :
    List (String × Json) :=
  (members.filter fun member => !listed.any (·.removes user member.1)).map fun member =>
    (member.1, boundTo listed member.1 member.2)

/-- What the rules leave of a record that comes through. -/
def shown (listed : List RecordRule) (user : User) : Json → Json
  | .object members => .object (shownMembers listed user members)
  | other => other

section order

variable {listed before after : List RecordRule} {user : User} {context : Context}

theorem boundTo_append (name : String) (value : Json) :
    boundTo (before ++ after) name value = boundTo after name (boundTo before name value) := by
  have last : lastCover? (before ++ after) name =
      (lastCover? after name).or (lastCover? before name) := by
    unfold lastCover?
    rw [List.filterMap_append, List.getLast?_append]
  unfold boundTo
  rw [last]
  cases lastCover? after name <;> rfl

theorem shownMembers_append (members : List (String × Json)) :
    shownMembers (before ++ after) user members =
      shownMembers after user (shownMembers before user members) := by
  unfold shownMembers
  rw [List.filter_map, List.map_map, List.filter_filter]
  simp only [Function.comp_def, boundTo_append, List.any_append, Bool.not_or, Bool.and_comm]

/-- What later rules leave, they leave of what earlier ones show. -/
theorem shown_append (record : Json) :
    shown (before ++ after) user record = shown after user (shown before user record) := by
  cases record with
  | object members => exact congrArg Json.object (shownMembers_append members)
  | _ => rfl

theorem shown_cons (rule : RecordRule) (later : List RecordRule) (record : Json) :
    shown (rule :: later) user record = shown later user (shown [rule] user record) :=
  (shown_append record : shown ([rule] ++ later) user record = _)

theorem shown_nil (record : Json) : shown [] user record = record := by
  cases record with
  | object members => simp [shown, shownMembers, boundTo, lastCover?]
  | _ => rfl

/-! ## Rules alone -/

theorem shownMembers_singleton (rule : RecordRule) (members : List (String × Json)) :
    shownMembers [rule] user members =
      (members.filter fun member => !rule.removes user member.1).map fun member =>
        (member.1, ((rule.coverOf? member.1).map .text).getD member.2) := by
  unfold shownMembers
  refine congrArg₂ List.map (funext fun member => ?_) (List.filter_congr fun member _ => ?_)
  · unfold boundTo lastCover?
    cases h : rule.coverOf? member.1 <;> simp [h]
  · simp

/-- A rule that lists no field shows the record as it is. -/
theorem shown_of_inert {rule : RecordRule} (keeps : ∀ name, rule.removes user name = false)
    (bare : ∀ name, rule.coverOf? name = none) (record : Json) :
    shown [rule] user record = record := by
  cases record with
  | object members =>
    rw [shown, shownMembers_singleton]
    simp [keeps, bare]
  | _ => rfl

theorem shown_redact {fields : List String} {exempt : Option String}
    (bound : exempt.any user.hasRole = false) (record : Json) :
    shown [redact fields exempt] user record = record.outside fields := by
  cases record with
  | object members =>
    rw [shown, shownMembers_singleton]
    simp [removes, coverOf?, bound, Json.outside]
  | _ => rfl

theorem shown_mask (fields : List String) (cover : String) (members : List (String × Json)) :
    shown [mask fields cover] user (.object members) =
      .object (maskFields fields cover members) := by
  have each : ∀ member : String × Json,
      (member.1, (((mask fields cover).coverOf? member.1).map Json.text).getD member.2) =
        if fields.contains member.1 then (member.1, .text cover) else member := by
    intro member
    by_cases listed : member.1 ∈ fields
    · simp [coverOf?, listed]
    · simp [coverOf?, listed]
  have all : members.filter (fun member => !(mask fields cover).removes user member.1) = members :=
    List.filter_eq_self.2 fun _ _ => rfl
  rw [shown, shownMembers_singleton, all, funext each]
  rfl

/-- A rule denies the record if it is a gate that is shut, and else shows its part of it. -/
theorem judge_eq (rule : RecordRule) (record : Json) :
    rule.judge record user context =
      if rule.opens user context then .allow (shown [rule] user record) else .deny := by
  cases rule with
  | gate condition =>
    rw [shown_of_inert (fun _ => rfl) fun _ => rfl]
    rfl
  | redact fields exempt =>
    cases free : exempt.any user.hasRole with
    | true =>
      have keeps : ∀ name, (redact fields exempt).removes user name = false := by
        intro name
        simp [removes, free]
      rw [judge_exempt free, shown_of_inert keeps fun _ => rfl]
      rfl
    | false =>
      rw [judge_redact free, shown_redact free]
      rfl
  | mask fields cover =>
    cases record with
    | object members =>
      rw [shown_mask]
      rfl
    | _ => rfl

/-! ## The last cover -/

theorem lastCover?_eq_none_iff {name : String} :
    lastCover? listed name = none ↔ ∀ fields cover, mask fields cover ∈ listed → name ∉ fields := by
  unfold lastCover?
  rw [List.getLast?_eq_none_iff, List.filterMap_eq_nil_iff]
  constructor
  · intro bare fields cover mem covered
    have own : (mask fields cover).coverOf? name = some cover :=
      coverOf?_eq_some_iff.2 ⟨fields, rfl, covered⟩
    rw [bare _ mem] at own
    cases own
  · intro unlisted rule mem
    rw [Option.eq_none_iff_forall_ne_some]
    intro cover own
    obtain ⟨fields, rfl, covered⟩ := coverOf?_eq_some_iff.1 own
    exact unlisted fields cover mem covered

/-- The cover of a field comes of a mask that lists it, with none behind that does. -/
theorem exists_of_lastCover? {name cover : String} (last : lastCover? listed name = some cover) :
    ∃ before fields after, listed = before ++ mask fields cover :: after ∧ name ∈ fields ∧
      ∀ others other, mask others other ∈ after → name ∉ others := by
  unfold lastCover? at last
  obtain ⟨covers, split⟩ := List.getLast?_eq_some_iff.1 last
  obtain ⟨front, back, rfl, -, behind⟩ := List.filterMap_eq_append_iff.1 split
  obtain ⟨skipped, rule, after, rfl, -, own, none_after⟩ := List.filterMap_eq_cons_iff.1 behind
  obtain ⟨fields, rfl, covered⟩ := coverOf?_eq_some_iff.1 own
  have unlisted : lastCover? after name = none := by
    unfold lastCover?
    rw [none_after]
    rfl
  refine ⟨front ++ skipped, fields, after, ?_, covered, lastCover?_eq_none_iff.1 unlisted⟩
  rw [List.append_assoc]

variable (listed) in
/-- What a field with a value is bound to behind the rules: the cover of the last mask that lists
it, or the value if none does. -/
def BoundTo (name : String) (value bound : Json) : Prop :=
  (∃ before fields cover after, listed = before ++ mask fields cover :: after ∧ name ∈ fields ∧
      (∀ others other, mask others other ∈ after → name ∉ others) ∧ bound = .text cover) ∨
    (∀ fields cover, mask fields cover ∈ listed → name ∉ fields) ∧ bound = value

theorem boundTo_isBound (name : String) (value : Json) :
    BoundTo listed name value (boundTo listed name value) := by
  unfold boundTo
  cases last : lastCover? listed name with
  | none => exact .inr ⟨lastCover?_eq_none_iff.1 last, rfl⟩
  | some cover =>
    obtain ⟨before, fields, after, split, covered, unlisted⟩ := exists_of_lastCover? last
    exact .inl ⟨before, fields, cover, after, split, covered, unlisted, rfl⟩

/-! ## Twice, and in another order -/

theorem boundTo_boundTo (name : String) (value : Json) :
    boundTo listed name (boundTo listed name value) = boundTo listed name value := by
  unfold boundTo
  cases lastCover? listed name <;> rfl

theorem shown_shown (record : Json) :
    shown listed user (shown listed user record) = shown listed user record := by
  cases record with
  | object members =>
    unfold shown shownMembers
    simp only [List.filter_map, List.map_map, List.filter_filter, Function.comp_def,
      boundTo_boundTo, Bool.and_self]
  | _ => rfl

variable (listed) in
/-- Masks that share a field have one cover. -/
def MasksAgree : Prop :=
  ∀ fields cover others other name, mask fields cover ∈ listed → mask others other ∈ listed →
    name ∈ fields → name ∈ others → cover = other

/-- Where masks agree the order of the rules does not decide a cover. -/
theorem lastCover?_eq_of_perm {other : List RecordRule} (perm : other.Perm listed)
    (agree : MasksAgree listed) (name : String) :
    lastCover? other name = lastCover? listed name := by
  cases last : lastCover? other name with
  | none =>
    have unlisted := lastCover?_eq_none_iff.1 last
    exact (lastCover?_eq_none_iff.2 fun fields cover mem =>
      unlisted fields cover (perm.mem_iff.2 mem)).symm
  | some cover =>
    obtain ⟨before, fields, after, rfl, covered, -⟩ := exists_of_lastCover? last
    have mem : mask fields cover ∈ listed := perm.mem_iff.1 (by simp)
    cases here : lastCover? listed name with
    | none => exact absurd covered (lastCover?_eq_none_iff.1 here fields cover mem)
    | some own =>
      obtain ⟨before', fields', after', rfl, covered', -⟩ := exists_of_lastCover? here
      have same : cover = own := agree fields cover fields' own name mem (by simp) covered covered'
      rw [same]

theorem shown_eq_of_perm {other : List RecordRule} (perm : other.Perm listed)
    (agree : MasksAgree listed) (record : Json) :
    shown other user record = shown listed user record := by
  cases record with
  | object members =>
    have removed : ∀ name, other.any (·.removes user name) = listed.any (·.removes user name) :=
      fun name => perm.any_eq
    unfold shown shownMembers boundTo
    simp only [removed, lastCover?_eq_of_perm perm agree]
  | _ => rfl

/-! ## What is left -/

variable (listed user) in
/-- A redaction that binds the user lists the field. -/
def Removed (name : String) : Prop :=
  ∃ fields exempt, redact fields exempt ∈ listed ∧ exempt.any user.hasRole = false ∧ name ∈ fields

theorem any_removes_iff {name : String} :
    listed.any (·.removes user name) = true ↔ Removed listed user name := by
  simp only [List.any_eq_true, removes_eq_true_iff, Removed]
  constructor
  · rintro ⟨_, mem, fields, exempt, rfl, bound, covered⟩
    exact ⟨fields, exempt, mem, bound, covered⟩
  · rintro ⟨fields, exempt, mem, bound, covered⟩
    exact ⟨_, mem, fields, exempt, rfl, bound, covered⟩

instance (name : String) : Decidable (Removed listed user name) :=
  decidable_of_iff _ any_removes_iff

variable (listed user) in
/-- What the rules leave of a record: an object has, in their order, the members that are not
removed, under what their fields are bound to; other records are as they were. -/
def Leaves : Json → Json → Prop
  | .object members, kept => ∃ seen, kept = .object seen ∧
      List.Forall₂ (fun own shown => shown.1 = own.1 ∧ BoundTo listed own.1 own.2 shown.2)
        (members.filter fun own => ¬ Removed listed user own.1) seen
  | other, kept => kept = other

theorem leaves_shown (record : Json) : Leaves listed user record (shown listed user record) := by
  cases record with
  | object members =>
    have same : (fun own : String × Json => !listed.any (·.removes user own.1)) =
        fun own => decide (¬ Removed listed user own.1) := by
      funext own
      rw [Bool.eq_iff_iff, Bool.not_eq_true', decide_eq_true_iff, ← any_removes_iff,
        Bool.not_eq_true]
    refine ⟨_, rfl, ?_⟩
    rw [shownMembers, same, List.forall₂_map_right_iff, List.forall₂_same]
    exact fun own _ => ⟨rfl, boundTo_isBound own.1 own.2⟩
  | _ => rfl

end order

end RecordRule

open RecordRule

/-! ## Collections -/

/-- The rule in use is the one that the library makes of some identifier and parameters. -/
def Rule.MadeAs (rule : Rule Json) (known : RecordRule) : Prop :=
  (∃ id params, known.MadeOf id params) ∧ rule.judge = known.judge

/-- The rules in use are, in the order of application, the listed ones of the library. -/
def Rules.ListedAs (rules : Rules Json) (listed : List RecordRule) : Prop :=
  List.Forall₂ (fun entry known => entry.2.MadeAs known) rules.rules.entries listed

/-- What listed rules do to every record, for every user and context. -/
structure Rules.HasNormalForm (rules : Rules Json) (listed : List RecordRule) : Prop where
  passes_iff : ∀ user context record, (∃ kept, rules.apply record user context = .allow kept) ↔
    ∀ condition, .gate condition ∈ listed → condition.accepts user context = true
  denies : ∀ user context record condition, .gate condition ∈ listed →
    condition.accepts user context = false → rules.apply record user context = .deny
  leaves : ∀ user context record kept, rules.apply record user context = .allow kept →
    Leaves listed user record kept
  idempotent : ∀ user context record kept, rules.apply record user context = .allow kept →
    rules.apply kept user context = .allow kept
  permuted : MasksAgree listed → ∀ other : Rules Json,
    other.rules.entries.Perm rules.rules.entries → ∀ user context record,
      other.apply record user context = rules.apply record user context

namespace Rules

variable {rules : Rules Json} {listed : List RecordRule} {user : User} {context : Context}

theorem exists_listedAs (made : rules.MadeBy Registry.builtin.makeRecordRule) :
    ∃ listed, rules.ListedAs listed := by
  have each : ∀ entry ∈ rules.rules.entries, ∃ known, entry.2.MadeAs known := by
    rintro ⟨name, rule⟩ mem
    obtain ⟨id, params, built⟩ := made name rule (get?_eq_some_iff.2 mem)
    obtain ⟨known, own, judged⟩ := Registry.exists_recordRule built
    exact ⟨known, ⟨id, params, own⟩, judged⟩
  unfold ListedAs
  generalize rules.rules.entries = entries at each
  induction entries with
  | nil => exact ⟨[], .nil⟩
  | cons entry rest ih =>
    rw [List.forall_mem_cons] at each
    obtain ⟨known, own⟩ := each.1
    obtain ⟨listed, others⟩ := ih each.2
    exact ⟨known :: listed, .cons own others⟩

/-- A run through listed rules shows its part of the record if no gate in the list is shut. -/
theorem verdict_run_listed {entries : List (String × Rule Json)}
    (same : List.Forall₂ (fun entry known => entry.2.MadeAs known) entries listed)
    (record : Json) :
    (run user context entries record).verdict =
      if listed.all (·.opens user context) then .allow (shown listed user record) else .deny := by
  induction same generalizing record with
  | nil =>
    rw [shown_nil]
    rfl
  | @cons entry known rest listed made _ ih =>
    rw [run, made.2, judge_eq, List.all_cons]
    cases known.opens user context with
    | false => rfl
    | true =>
      -- the rules behind go on from what the first one shows
      rw [shown_cons known listed record]
      exact ih _

theorem ListedAs.apply_eq (same : rules.ListedAs listed) (record : Json) :
    rules.apply record user context =
      if listed.all (·.opens user context) then .allow (shown listed user record) else .deny :=
  verdict_run_listed same record

theorem all_opens_iff : listed.all (·.opens user context) = true ↔
    ∀ condition, .gate condition ∈ listed → condition.accepts user context = true := by
  simp only [List.all_eq_true, opens_eq_true_iff]
  constructor
  · intro opens condition mem
    exact opens _ mem condition rfl
  · rintro accepts _ mem condition rfl
    exact accepts condition mem

theorem ListedAs.apply_eq_allow_iff (same : rules.ListedAs listed) {record kept : Json} :
    rules.apply record user context = .allow kept ↔
      (∀ condition, .gate condition ∈ listed → condition.accepts user context = true) ∧
        kept = shown listed user record := by
  rw [same.apply_eq, ← all_opens_iff]
  split
  · next opens => simp [opens, eq_comm]
  · next shut => simp [shut]

/-- The listing of a collection in another order is the listing in another order. -/
theorem ListedAs.exists_perm (same : rules.ListedAs listed) {other : Rules Json}
    (perm : other.rules.entries.Perm rules.rules.entries) :
    ∃ moved, other.ListedAs moved ∧ moved.Perm listed :=
  List.perm_comp_forall₂ perm same

/-- Rules that the library made come to a normal form: what is left of a record can be read off
the list of the rules, is left as it is when the rules are applied again, and does not depend on
the order of the rules unless masks with different covers share a field. -/
theorem apply_normalForm (rules : Rules Json)
    (made : rules.MadeBy Registry.builtin.makeRecordRule) :
    (∃ listed, rules.ListedAs listed) ∧
      ∀ listed, rules.ListedAs listed → rules.HasNormalForm listed := by
  refine ⟨exists_listedAs made, fun listed same => ⟨?passes, ?denies, ?leaves, ?again, ?moved⟩⟩
  case passes =>
    intro user context record
    simp only [same.apply_eq_allow_iff, exists_and_left, exists_eq, and_true]
  case denies =>
    intro user context record condition mem shut
    have closed : ¬ listed.all (·.opens user context) = true := by
      intro opens
      rw [all_opens_iff.1 opens condition mem] at shut
      cases shut
    rw [same.apply_eq, if_neg closed]
  case leaves =>
    intro user context record kept allowed
    rw [(same.apply_eq_allow_iff.1 allowed).2]
    exact leaves_shown record
  case again =>
    intro user context record kept allowed
    obtain ⟨opens, rfl⟩ := same.apply_eq_allow_iff.1 allowed
    exact same.apply_eq_allow_iff.2 ⟨opens, (shown_shown record).symm⟩
  case moved =>
    intro agree other perm user context record
    obtain ⟨moved, listing, order⟩ := same.exists_perm perm
    rw [listing.apply_eq, same.apply_eq, order.all_eq, shown_eq_of_perm order agree]

/-! ## A redaction between two masks -/

namespace Sample

/-- The second mask covers again what the first one covers; of the redacted fields it covers
none. -/
def masked : List RecordRule :=
  [.gate (.purpose "audit"), .mask ["name", "ssn"] "***", .redact ["ssn", "pay"] (some "admin"),
    .mask ["name"] "-"]

def maskedRules : Rules Json :=
  (((empty.insert "purpose" ⟨0, (RecordRule.gate (.purpose "audit")).judge⟩).insert "early"
    ⟨1, (RecordRule.mask ["name", "ssn"] "***").judge⟩).insert "hide"
    ⟨2, (RecordRule.redact ["ssn", "pay"] (some "admin")).judge⟩).insert "late"
    ⟨3, (RecordRule.mask ["name"] "-").judge⟩

theorem maskedRules_byLibrary : maskedRules.MadeBy Registry.builtin.makeRecordRule := by
  have asks : Registry.builtin.makeRecordRule "purpose" (.ofList [("purpose", "audit")]) =
      .ok (RecordRule.gate (.purpose "audit")).judge := rfl
  have covers : Registry.builtin.makeRecordRule "mask-fields" (.ofList [("fields", "name, ssn")]) =
      .ok (RecordRule.mask ["name", "ssn"] "***").judge := rfl
  have redacts : Registry.builtin.makeRecordRule "redact-fields"
      (.ofList [("fields", "ssn, pay"), ("exempt_role", "admin")]) =
      .ok (RecordRule.redact ["ssn", "pay"] (some "admin")).judge := rfl
  have again : Registry.builtin.makeRecordRule "mask-fields"
      (.ofList [("fields", "name"), ("mask", "-")]) =
      .ok (RecordRule.mask ["name"] "-").judge := rfl
  exact (((madeBy_empty.insert asks _).insert covers _).insert redacts _).insert again _

theorem maskedRules_listedAs : maskedRules.ListedAs masked := by
  have asks : (RecordRule.gate (.purpose "audit")).MadeOf "purpose"
      (.ofList [("purpose", "audit")]) := ⟨_, .tail _ (.head _), rfl⟩
  have covers : (RecordRule.mask ["name", "ssn"] "***").MadeOf "mask-fields"
      (.ofList [("fields", "name, ssn")]) := ⟨makeMask, by simp [RecordRule.builtin], rfl⟩
  have redacts : (RecordRule.redact ["ssn", "pay"] (some "admin")).MadeOf "redact-fields"
      (.ofList [("fields", "ssn, pay"), ("exempt_role", "admin")]) :=
    ⟨makeRedact, by simp [RecordRule.builtin], rfl⟩
  have again : (RecordRule.mask ["name"] "-").MadeOf "mask-fields"
      (.ofList [("fields", "name"), ("mask", "-")]) := ⟨makeMask, by simp [RecordRule.builtin], rfl⟩
  exact .cons ⟨⟨_, _, asks⟩, rfl⟩ (.cons ⟨⟨_, _, covers⟩, rfl⟩
    (.cons ⟨⟨_, _, redacts⟩, rfl⟩ (.cons ⟨⟨_, _, again⟩, rfl⟩ .nil)))

def record : Json := .object [("id", .text "7"), ("name", .text "n"), ("ssn", .text "1")]

end Sample

open Sample in
/-- A reader sees the field under the later cover, and the redacted one not at all. -/
theorem apply_normalForm_masked :
    maskedRules.MadeBy Registry.builtin.makeRecordRule ∧ maskedRules.ListedAs masked ∧
      maskedRules.HasNormalForm masked ∧
      maskedRules.apply record (.named "reader") (.ofPurpose "audit") =
        .allow (.object [("id", .text "7"), ("name", .text "-")]) ∧
      maskedRules.apply record (.named "reader") (.ofPurpose "sale") = .deny :=
  ⟨maskedRules_byLibrary, maskedRules_listedAs,
    (apply_normalForm maskedRules maskedRules_byLibrary).2 masked maskedRules_listedAs, rfl, rfl⟩

end Rules

end PolicyTree
