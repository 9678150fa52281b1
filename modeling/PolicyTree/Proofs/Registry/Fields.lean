import PolicyTree.Proofs.Resource.Construction
import PolicyTree.Proofs.Text.Fields
import PolicyTree.Registry.Builtin
/-
  The names of fields that a parameter lists. `Lists` tells how such a text is written, without
  taking it apart: items with commas between them, each of them a name with white space around it or
  white space only. Reading gets exactly the names that are written (`listedFields_eq_iff`).

  The text is trimmed as a whole before it is cut. That takes away nothing but white space at the
  ends of the first and the last item, which is trimmed afterwards in any case
  (`listedFields_trim`).
-/
namespace PolicyTree

open Text (IsBlank IsTrimmed trim)

namespace Parameters

variable {rule key text : String} {params : Parameters} {items names : List String}

/-! ## Texts that list names -/

/-- A name that can be listed: something without a comma, and without white space at its ends. -/
structure IsFieldName (name : String) : Prop where
  filled : name ≠ ""
  noComma : ',' ∉ name.toList
  trimmed : IsTrimmed name

/-- The items write the names in order: each name is an item, with white space around it, and all
other items are white space. -/
inductive Writes : List String → List String → Prop where
  | nil : Writes [] []
  | blank {item : String} {items names : List String} :
      IsBlank item → Writes items names → Writes (item :: items) names
  | name {before name after : String} {items names : List String} :
      IsBlank before → IsBlank after → Writes items names →
        Writes ((before ++ name ++ after) :: items) (name :: names)

/-- The text is items with commas between them, which write the names. -/
def Lists (text : String) (names : List String) : Prop :=
  (∀ name ∈ names, IsFieldName name) ∧ ∃ items, Writes items names ∧ text = ",".intercalate items

theorem comma_not_mem_of_isBlank (blank : IsBlank text) : ',' ∉ text.toList :=
  fun mem => absurd (blank ',' mem) (by decide)

theorem Writes.comma_not_mem (writes : Writes items names)
    (fit : ∀ name ∈ names, IsFieldName name) : ∀ item ∈ items, ',' ∉ item.toList := by
  induction writes with
  | nil => nofun
  | blank blank _ ih => exact List.forall_mem_cons.2 ⟨comma_not_mem_of_isBlank blank, ih fit⟩
  | name blank blank' _ ih =>
    rw [List.forall_mem_cons] at fit
    refine List.forall_mem_cons.2 ⟨?_, ih fit.2⟩
    simp [comma_not_mem_of_isBlank blank, comma_not_mem_of_isBlank blank', fit.1.noComma]

/-- What is left of the items when they are trimmed is the names. -/
theorem Writes.filter_trim (writes : Writes items names)
    (fit : ∀ name ∈ names, IsFieldName name) : (items.map trim).filter (· ≠ "") = names := by
  induction writes with
  | nil => rfl
  | blank blank _ ih =>
    rw [List.map_cons, Text.trim_eq_empty_iff.2 blank, List.filter_cons_of_neg (by simp), ih fit]
  | name blank blank' _ ih =>
    rw [List.forall_mem_cons] at fit
    have filled := fit.1.filled
    rw [List.map_cons, Text.trim_append blank blank', fit.1.trimmed.trim_eq,
      List.filter_cons_of_pos (by simpa using filled), ih fit.2]

theorem writes_filter_trim (items : List String) :
    Writes items ((items.map trim).filter (· ≠ "")) := by
  induction items with
  | nil => exact .nil
  | cons item items ih =>
    by_cases blank : trim item = ""
    · rw [List.map_cons, List.filter_cons_of_neg (by simpa using blank)]
      exact .blank (Text.trim_eq_empty_iff.1 blank) ih
    · obtain ⟨-, before, after, white, white', split⟩ := Text.trim_eq_iff.1 (rfl : trim item = _)
      rw [List.map_cons, List.filter_cons_of_pos (by simpa using blank)]
      have writes : Writes ((before ++ trim item ++ after) :: items)
          (trim item :: (items.map trim).filter (· ≠ "")) := .name white white' ih
      rw [← split] at writes
      exact writes

theorem isFieldName_trim {item : String} (noComma : ',' ∉ item.toList) (filled : trim item ≠ "") :
    IsFieldName (trim item) := by
  obtain ⟨trimmed, before, after, -, -, split⟩ := Text.trim_eq_iff.1 (rfl : trim item = _)
  refine ⟨filled, fun mem => noComma ?_, trimmed⟩
  rw [split, String.toList_append, String.toList_append]
  exact List.mem_append_left _ (List.mem_append_right _ mem)

theorem listedFields_eq_iff : listedFields text = names ↔ Lists text names := by
  constructor
  · rintro rfl
    obtain ⟨-, noComma, made⟩ := Text.split_eq_iff.1 (rfl : Text.split ',' text = _)
    refine ⟨fun name mem => ?_, Text.split ',' text, writes_filter_trim _, made⟩
    obtain ⟨listed, filled⟩ := List.mem_filter.1 mem
    obtain ⟨item, among, rfl⟩ := List.mem_map.1 listed
    exact isFieldName_trim (noComma item among) (of_decide_eq_true filled)
  · rintro ⟨fit, items, writes, rfl⟩
    cases items with
    | nil =>
      cases writes
      -- No item at all makes the same text as one item of nothing.
      have nothing : Text.split ',' "" = [""] := Text.split_eq_iff.2 (by simp)
      have only : IsBlank "" := nofun
      rw [listedFields, String.intercalate_nil, nothing, List.map_singleton,
        Text.trim_eq_empty_iff.2 only]
      rfl
    | cons item items =>
      have split : Text.split ',' (",".intercalate (item :: items)) = item :: items :=
        Text.split_eq_iff.2 ⟨List.cons_ne_nil _ _, writes.comma_not_mem fit, rfl⟩
      rw [listedFields, split, writes.filter_trim fit]

/-- The white space around the whole text does not count. -/
theorem listedFields_trim (text : String) : listedFields (trim text) = listedFields text := by
  obtain ⟨-, before, after, blank, blank', whole⟩ := Text.trim_eq_iff.1 (rfl : trim text = _)
  have solid : Text.isBlank ',' = false := by decide
  have same := Text.map_trim_split solid blank blank' (trim text)
  rw [← whole] at same
  rw [listedFields, listedFields, same]

/-! ## Reading -/

theorem required_of_blank (blank : ∀ text, params.get? key = some text → IsBlank text) :
    required rule params key = .error (.invalidParameters rule (.missing key)) := by
  rw [required]
  cases found : params.get? key with
  | none => rfl
  | some text => exact if_pos (Text.trim_eq_empty_iff.2 (blank text found))

theorem required_of_filled (found : params.get? key = some text) (filled : ¬ IsBlank text) :
    required rule params key = .ok (trim text) := by
  rw [required, found]
  exact if_neg fun none => filled (Text.trim_eq_empty_iff.1 none)

theorem fieldList_of_blank (blank : ∀ text, params.get? "fields" = some text → IsBlank text) :
    fieldList rule params = .error (.invalidParameters rule (.missing "fields")) := by
  rw [fieldList, required_of_blank blank]
  rfl

theorem fieldList_of_none (found : params.get? "fields" = some text) (filled : ¬ IsBlank text)
    (lists : Lists text []) :
    fieldList rule params = .error (.invalidParameters rule .noFields) := by
  refine bind_eq_error_iff.2 (.inr ⟨trim text, required_of_filled found filled, ?_⟩)
  rw [listedFields_trim, listedFields_eq_iff.2 lists]

theorem fieldList_of_some (found : params.get? "fields" = some text) (filled : ¬ IsBlank text)
    (lists : Lists text names) (some_name : names ≠ []) : fieldList rule params = .ok names := by
  refine bind_eq_ok_iff.2 ⟨trim text, required_of_filled found filled, ?_⟩
  rw [listedFields_trim, listedFields_eq_iff.2 lists]
  cases names with
  | nil => exact absurd rfl some_name
  | cons name names => rfl

theorem Lists.unique {other : List String} (lists : Lists text names) (lists' : Lists text other) :
    names = other :=
  (listedFields_eq_iff.2 lists).symm.trans (listedFields_eq_iff.2 lists')

theorem not_isBlank_of_lists (lists : Lists text names) (some_name : names ≠ []) :
    ¬ IsBlank text := by
  intro blank
  have nothing : Lists text [] :=
    ⟨nofun, [text], .blank blank .nil, (String.intercalate_singleton).symm⟩
  exact some_name (lists.unique nothing)

variable (rule params) in
/-- What a list of fields is read to: one of two errors, or the names that the text lists. -/
theorem fieldList_cases :
    (∀ text, params.get? "fields" = some text → IsBlank text) ∧
        fieldList rule params = .error (.invalidParameters rule (.missing "fields")) ∨
      (∃ text, params.get? "fields" = some text ∧ ¬ IsBlank text ∧ Lists text []) ∧
        fieldList rule params = .error (.invalidParameters rule .noFields) ∨
      ∃ names, (names ≠ [] ∧ ∃ text, params.get? "fields" = some text ∧ Lists text names) ∧
        fieldList rule params = .ok names := by
  by_cases blank : ∀ text, params.get? "fields" = some text → IsBlank text
  · exact .inl ⟨blank, fieldList_of_blank blank⟩
  · push Not at blank
    obtain ⟨text, found, filled⟩ := blank
    have lists : Lists text (listedFields text) := listedFields_eq_iff.1 rfl
    by_cases none : listedFields text = []
    · rw [none] at lists
      exact .inr (.inl ⟨⟨text, found, filled, lists⟩, fieldList_of_none found filled lists⟩)
    · exact .inr (.inr ⟨_, ⟨none, text, found, lists⟩, fieldList_of_some found filled lists none⟩)

/-- What comes of reading the parameter `fields`: the names that its text lists if there are any,
and otherwise an error that tells a text of white space from one of white space and commas. -/
structure ReadsFields (rule : String) (params : Parameters)
    (read : Except PolicyError (List String)) : Prop where
  ok_iff : ∀ names, read = .ok names ↔
    names ≠ [] ∧ ∃ text, params.get? "fields" = some text ∧ Lists text names
  missing_iff : read = .error (.invalidParameters rule (.missing "fields")) ↔
    ∀ text, params.get? "fields" = some text → IsBlank text
  noFields_iff : read = .error (.invalidParameters rule .noFields) ↔
    ∃ text, params.get? "fields" = some text ∧ ¬ IsBlank text ∧ Lists text []
  error : ∀ error, read = .error error →
    error = .invalidParameters rule (.missing "fields") ∨ error = .invalidParameters rule .noFields

theorem fieldList_readsFields (rule : String) (params : Parameters) :
    ReadsFields rule params (fieldList rule params) where
  ok_iff names := by
    constructor
    · intro read
      rcases fieldList_cases rule params with ⟨-, read'⟩ | ⟨-, read'⟩ | ⟨listed, lists, read'⟩
      · cases read.symm.trans read'
      · cases read.symm.trans read'
      · cases read.symm.trans read'
        exact lists
    · rintro ⟨some_name, text, found, lists⟩
      exact fieldList_of_some found (not_isBlank_of_lists lists some_name) lists some_name
  missing_iff := by
    refine ⟨fun read => ?_, fieldList_of_blank⟩
    rcases fieldList_cases rule params with ⟨blank, -⟩ | ⟨-, read'⟩ | ⟨listed, -, read'⟩
    · exact blank
    · cases read.symm.trans read'
    · cases read.symm.trans read'
  noFields_iff := by
    constructor
    · intro read
      rcases fieldList_cases rule params with ⟨-, read'⟩ | ⟨none, -⟩ | ⟨listed, -, read'⟩
      · cases read.symm.trans read'
      · exact none
      · cases read.symm.trans read'
    · rintro ⟨text, found, filled, lists⟩
      exact fieldList_of_none found filled lists
  error error failed := by
    rcases fieldList_cases rule params with ⟨-, read⟩ | ⟨-, read⟩ | ⟨listed, -, read⟩
    · cases failed.symm.trans read
      exact .inl rfl
    · cases failed.symm.trans read
      exact .inr rfl
    · cases failed.symm.trans read

end Parameters

/-! ## The rules with fields -/

open Parameters (fieldList ReadsFields)

/-- A list of fields is read as the names that are written in it, in order and with repetitions,
unless there are none; and what is read are the fields of the two rules of the library that take
fields out or cover them. -/
theorem fields_read_exactly (params : Parameters) :
    (∀ rule, ReadsFields rule params (fieldList rule params)) ∧
      (∀ rule, (PolicyError.invalidParameters rule (.missing "fields")).message =
        "Invalid parameters for rule '" ++ rule ++ "': " ++
          "missing required parameter 'fields'") ∧
      (∀ rule, (PolicyError.invalidParameters rule .noFields).message =
        "Invalid parameters for rule '" ++ rule ++ "': " ++ "no fields listed") ∧
      Registry.builtin.makeRecordRule "redact-fields" params =
        (fieldList "redact-fields" params).map (fun fields =>
          (RecordRule.redact fields (params.get? "exempt_role")).judge) ∧
      Registry.builtin.makeRecordRule "mask-fields" params =
        (fieldList "mask-fields" params).map fun fields =>
          (RecordRule.mask fields ((params.get? "mask").getD "***")).judge := by
  refine ⟨fun rule => Parameters.fieldList_readsFields rule params, fun rule => ?_,
    fun rule => rfl, ?_, ?_⟩
  · have detail : (ParameterFlaw.missing "fields").message =
        "missing required parameter 'fields'" := by
      decide +kernel
    rw [← detail]
    rfl
  · show (RecordRule.makeRedact params).map _ = _
    rw [RecordRule.makeRedact]
    cases fieldList "redact-fields" params <;> rfl
  · show (RecordRule.makeMask params).map _ = _
    rw [RecordRule.makeMask]
    cases fieldList "mask-fields" params <;> rfl

example : Parameters.listedFields "\u00A0 ssn,, date of birth\t , ssn," =
    ["ssn", "date of birth", "ssn"] := by
  decide

end PolicyTree
