import Mathlib.Data.List.Induction
import Mathlib.Data.List.TakeWhile
import PolicyTree.Text.Blank
import PolicyTree.Text.Fields
/-
  Text taken apart. A text trimmed is the one text without white space at its ends to which white
  space can be put to have the text again (`trim_eq_iff`). The fields of a text are the one list,
  not empty, of fields without the separator that put together make the text (`splitOn_eq_iff`),
  and the first separator is found between the one pair of which the front is without it
  (`splitOnce?_eq_some_iff`).

  White space at the ends of the whole text is at the ends of its first and its last field, so that
  it is lost when the fields are trimmed (`map_trim_split`).
-/
namespace PolicyTree.Text

/-- More text behind it does not change the characters of a text. -/
theorem getElem?_append {text : String} {i : Nat} {c : Char} (h : text.toList[i]? = some c)
    (more : String) : (text ++ more).toList[i]? = some c := by
  have within : i < text.toList.length := (List.getElem?_eq_some_iff.1 h).1
  rw [String.toList_append, List.getElem?_append_left within, h]

/-! ## White space at the ends -/

/-- A text of white space, or of nothing. -/
def IsBlank (s : String) : Prop := ∀ c ∈ s.toList, isBlank c = true

/-- A text that neither starts nor ends with white space. -/
structure IsTrimmed (s : String) : Prop where
  start : ∀ c, s.toList.head? = some c → isBlank c = false
  stop : ∀ c, s.toList.getLast? = some c → isBlank c = false

section blanks

variable {before cs after : List Char}

theorem dropWhile_eq_self {cs : List Char} (start : ∀ c, cs.head? = some c → isBlank c = false) :
    cs.dropWhile isBlank = cs := by
  cases cs with
  | nil => rfl
  | cons c cs => rw [List.dropWhile_cons, start c rfl, if_neg Bool.false_ne_true]

theorem trimEndList_append (blank : ∀ c ∈ after, isBlank c = true) :
    trimEndList (cs ++ after) = trimEndList cs := by
  have reversed : ∀ c ∈ after.reverse, isBlank c = true :=
    fun c mem => blank c (List.mem_reverse.1 mem)
  rw [trimEndList, List.reverse_append, List.dropWhile_append_of_pos reversed, trimEndList]

theorem trimList_append_left (blank : ∀ c ∈ before, isBlank c = true) :
    trimList (before ++ cs) = trimList cs := by
  rw [trimList, List.dropWhile_append_of_pos blank, trimList]

theorem trimList_append_right (blank : ∀ c ∈ after, isBlank c = true) :
    trimList (cs ++ after) = trimList cs := by
  rw [trimList, trimList, List.dropWhile_append]
  split
  · next none =>
    rw [List.isEmpty_iff.1 none, List.dropWhile_eq_nil_iff.2 blank]
  · exact trimEndList_append blank

theorem trimList_eq_self (start : ∀ c, cs.head? = some c → isBlank c = false)
    (stop : ∀ c, cs.getLast? = some c → isBlank c = false) : trimList cs = cs := by
  have reversed : ∀ c, cs.reverse.head? = some c → isBlank c = false := by
    intro c first
    rw [List.head?_reverse] at first
    exact stop c first
  rw [trimList, dropWhile_eq_self start, trimEndList, dropWhile_eq_self reversed,
    List.reverse_reverse]

theorem exists_trimEndList (cs : List Char) :
    ∃ after, (∀ c ∈ after, isBlank c = true) ∧ cs = trimEndList cs ++ after := by
  refine ⟨(cs.reverse.takeWhile isBlank).reverse, fun c mem => ?_, ?_⟩
  · exact List.all_eq_true.1 List.all_takeWhile c (List.mem_reverse.1 mem)
  · rw [trimEndList, ← List.reverse_append, List.takeWhile_append_dropWhile, List.reverse_reverse]

theorem exists_trimList (cs : List Char) :
    ∃ before after, (∀ c ∈ before, isBlank c = true) ∧ (∀ c ∈ after, isBlank c = true) ∧
      cs = before ++ trimList cs ++ after := by
  obtain ⟨after, blank, split⟩ := exists_trimEndList (cs.dropWhile isBlank)
  refine ⟨cs.takeWhile isBlank, after, List.all_eq_true.1 List.all_takeWhile, blank, ?_⟩
  calc cs = cs.takeWhile isBlank ++ cs.dropWhile isBlank :=
        List.takeWhile_append_dropWhile.symm
    _ = cs.takeWhile isBlank ++ (trimList cs ++ after) := congrArg _ split
    _ = _ := (List.append_assoc ..).symm

theorem head?_dropWhile (cs : List Char) :
    ∀ c, (cs.dropWhile isBlank).head? = some c → isBlank c = false := by
  intro c first
  have fits := List.head?_dropWhile_not isBlank cs
  rw [first] at fits
  exact fits

end blanks

theorem trim_isTrimmed (s : String) : IsTrimmed (trim s) where
  start c first := by
    rw [trim, String.toList_ofList] at first
    obtain ⟨after, -, split⟩ := exists_trimEndList (s.toList.dropWhile isBlank)
    refine head?_dropWhile s.toList c ?_
    rw [split, List.head?_append]
    exact Option.or_eq_some_iff.2 (.inl first)
  stop c last := by
    rw [trim, String.toList_ofList, trimList, trimEndList, List.getLast?_reverse] at last
    exact head?_dropWhile _ c last

theorem trim_append {before s after : String} (blank : IsBlank before) (blank' : IsBlank after) :
    trim (before ++ s ++ after) = trim s := by
  rw [trim, String.toList_append, String.toList_append, trimList_append_right blank',
    trimList_append_left blank, trim]

theorem IsTrimmed.trim_eq {s : String} (trimmed : IsTrimmed s) : trim s = s := by
  rw [trim, trimList_eq_self trimmed.start trimmed.stop, String.ofList_toList]

/-- Nothing else is left of a text than what is without white space at its ends, and nothing else
is taken off than white space. -/
theorem trim_eq_iff {s t : String} : trim s = t ↔ IsTrimmed t ∧
    ∃ before after, IsBlank before ∧ IsBlank after ∧ s = before ++ t ++ after := by
  constructor
  · rintro rfl
    obtain ⟨before, after, blank, blank', split⟩ := exists_trimList s.toList
    refine ⟨trim_isTrimmed s, String.ofList before, String.ofList after, ?_, ?_, ?_⟩
    · simpa [IsBlank] using blank
    · simpa [IsBlank] using blank'
    · refine String.toList_injective ?_
      simpa [trim] using split
  · rintro ⟨trimmed, before, after, blank, blank', rfl⟩
    rw [trim_append blank blank', trimmed.trim_eq]

theorem trimList_eq_nil_iff {cs : List Char} : trimList cs = [] ↔ ∀ c ∈ cs, isBlank c = true := by
  rw [trimList, trimEndList, List.reverse_eq_nil_iff, List.dropWhile_eq_nil_iff]
  constructor
  · intro rest c mem
    rw [← List.takeWhile_append_dropWhile (p := isBlank) (l := cs), List.mem_append] at mem
    rcases mem with mem | mem
    · exact List.all_eq_true.1 List.all_takeWhile c mem
    · exact rest c (List.mem_reverse.2 mem)
  · intro all c mem
    exact all c ((List.dropWhile_sublist isBlank).subset (List.mem_reverse.1 mem))

theorem trim_eq_empty_iff {s : String} : trim s = "" ↔ IsBlank s := by
  rw [trim, IsBlank, ← trimList_eq_nil_iff, String.ofList_eq_empty_iff]

/-! ## All fields -/

section fields

variable {separator : Char} {cs before after : List Char} {fields : List (List Char)}

theorem not_mem_of_mem_splitOn {field : List Char} (mem : field ∈ cs.splitOn separator) :
    separator ∉ field := by
  induction cs generalizing field with
  | nil =>
    rw [List.splitOn_nil, List.mem_singleton] at mem
    exact mem ▸ List.not_mem_nil
  | cons c cs ih =>
    rw [List.splitOn_cons_eq_if_modifyHead] at mem
    split at mem
    · rcases List.mem_cons.1 mem with rfl | mem
      · exact List.not_mem_nil
      · exact ih mem
    · next other =>
      cases fields : cs.splitOn separator with
      | nil => exact absurd fields (List.splitOn_ne_nil separator cs)
      | cons first rest =>
        rw [fields, List.modifyHead_cons, List.mem_cons] at mem
        rcases mem with rfl | mem
        · have absent : separator ∉ first := ih (fields ▸ List.mem_cons_self)
          rw [List.mem_cons, not_or]
          exact ⟨fun eq => other (beq_iff_eq.2 eq.symm), absent⟩
        · exact ih (fields ▸ List.mem_cons_of_mem _ mem)

/-- A text has one list of fields. -/
theorem splitOn_eq_iff : cs.splitOn separator = fields ↔
    fields ≠ [] ∧ (∀ field ∈ fields, separator ∉ field) ∧ cs = [separator].intercalate fields := by
  constructor
  · rintro rfl
    exact ⟨List.splitOn_ne_nil separator cs, fun field => not_mem_of_mem_splitOn,
      (List.intercalate_splitOn separator).symm⟩
  · rintro ⟨some_field, absent, rfl⟩
    exact List.splitOn_intercalate separator absent some_field

/-- Every field but the first one stands behind a separator. -/
theorem intercalate_cons (separator field : List Char) (fields : List (List Char)) :
    separator.intercalate (field :: fields) = field ++ fields.flatMap (separator ++ ·) := by
  induction fields generalizing field with
  | nil => rw [List.intercalate_singleton, List.flatMap_nil, List.append_nil]
  | cons next fields ih =>
    rw [List.intercalate_cons_cons, ih, List.flatMap_cons, List.append_assoc, List.append_assoc]

theorem intercalate_append_head (before field : List Char) (rest : List (List Char)) :
    [separator].intercalate ((before ++ field) :: rest) =
      before ++ [separator].intercalate (field :: rest) := by
  rw [intercalate_cons, intercalate_cons, List.append_assoc]

theorem intercalate_append_last (front : List (List Char)) (field after : List Char) :
    [separator].intercalate (front ++ [field ++ after]) =
      [separator].intercalate (front ++ [field]) ++ after := by
  induction front with
  | nil => simp
  | cons first front ih =>
    have more (last : List Char) : front ++ [last] ≠ [] := by simp
    rw [List.cons_append, List.cons_append, List.intercalate_cons_of_ne_nil (more _),
      List.intercalate_cons_of_ne_nil (more _), ih]
    simp only [List.append_assoc]

theorem map_trimList_splitOn_left (blank : ∀ c ∈ before, isBlank c = true)
    (absent : separator ∉ before) (cs : List Char) :
    ((before ++ cs).splitOn separator).map trimList = (cs.splitOn separator).map trimList := by
  cases fields : cs.splitOn separator with
  | nil => exact absurd fields (List.splitOn_ne_nil separator cs)
  | cons field rest =>
    obtain ⟨-, apart, made⟩ := splitOn_eq_iff.1 fields
    rw [List.forall_mem_cons] at apart
    have padded : (before ++ cs).splitOn separator = (before ++ field) :: rest := by
      refine splitOn_eq_iff.2 ⟨List.cons_ne_nil _ _, ?_, ?_⟩
      · rw [List.forall_mem_cons, List.mem_append, not_or]
        exact ⟨⟨absent, apart.1⟩, apart.2⟩
      · rw [intercalate_append_head, made]
    rw [padded, List.map_cons, List.map_cons, trimList_append_left blank]

theorem map_trimList_splitOn_right (blank : ∀ c ∈ after, isBlank c = true)
    (absent : separator ∉ after) (cs : List Char) :
    ((cs ++ after).splitOn separator).map trimList = (cs.splitOn separator).map trimList := by
  rcases List.eq_nil_or_concat (cs.splitOn separator) with none | ⟨front, field, fields⟩
  · exact absurd none (List.splitOn_ne_nil separator cs)
  · rw [List.concat_eq_append] at fields
    obtain ⟨-, apart, made⟩ := splitOn_eq_iff.1 fields
    have padded : (cs ++ after).splitOn separator = front ++ [field ++ after] := by
      refine splitOn_eq_iff.2 ⟨by simp, fun other mem => ?_, ?_⟩
      · rcases List.mem_append.1 mem with mem | mem
        · exact apart other (List.mem_append_left _ mem)
        · rw [List.mem_singleton.1 mem, List.mem_append, not_or]
          exact ⟨apart field (by simp), absent⟩
      · rw [intercalate_append_last, made]
    rw [padded, fields, List.map_append, List.map_append, List.map_singleton, List.map_singleton,
      trimList_append_right blank]

end fields

theorem split_eq_iff {separator : Char} {s : String} {fields : List String} :
    split separator s = fields ↔ fields ≠ [] ∧ (∀ field ∈ fields, separator ∉ field.toList) ∧
      s = (String.singleton separator).intercalate fields := by
  have lists : split separator s = fields ↔
      s.toList.splitOn separator = fields.map String.toList := by
    rw [split]
    constructor
    · rintro rfl
      simp [Function.comp_def]
    · intro same
      simp [same, Function.comp_def]
  have text : s.toList = [separator].intercalate (fields.map String.toList) ↔
      s = (String.singleton separator).intercalate fields := by
    rw [← String.toList_inj, String.toList_intercalate, String.toList_singleton]
  rw [lists, splitOn_eq_iff, text, ne_eq, List.map_eq_nil_iff, List.forall_mem_map]

/-- White space at the ends of a text is lost when its fields are trimmed. -/
theorem map_trim_split {separator : Char} (solid : isBlank separator = false)
    {before after : String} (blank : IsBlank before) (blank' : IsBlank after) (s : String) :
    (split separator (before ++ s ++ after)).map trim = (split separator s).map trim := by
  have absent : ∀ {t : String}, IsBlank t → separator ∉ t.toList := by
    intro t blank mem
    rw [blank separator mem] at solid
    cases solid
  have lists : ∀ t, (split separator t).map trim =
      ((t.toList.splitOn separator).map trimList).map String.ofList := by
    intro t
    simp [split, trim, Function.comp_def]
  rw [lists, lists, String.toList_append, String.toList_append,
    map_trimList_splitOn_right blank' (absent blank'),
    map_trimList_splitOn_left blank (absent blank)]

/-! ## The first separator -/

section once

variable {separator : Char} {s front behind : String}

theorem splitOnce?_eq_none_iff : splitOnce? separator s = none ↔ separator ∉ s.toList := by
  have passes : s.toList.dropWhile (· ≠ separator) = [] ↔ separator ∉ s.toList := by
    rw [List.dropWhile_eq_nil_iff]
    constructor
    · intro all mem
      simpa using all separator mem
    · intro absent c mem
      exact decide_eq_true fun eq => absent (eq ▸ mem)
  rw [← passes, splitOnce?]
  split
  · next none => exact iff_of_true rfl none
  · next found => exact iff_of_false (Option.some_ne_none _) (found ▸ List.cons_ne_nil _ _)

theorem splitOnce?_eq_some_iff : splitOnce? separator s = some (front, behind) ↔
    separator ∉ front.toList ∧ s = front ++ String.singleton separator ++ behind := by
  constructor
  · intro found
    rw [splitOnce?] at found
    split at found
    · cases found
    · next c after dropped =>
      cases found
      have stops := List.head?_dropWhile_not (fun c => decide (c ≠ separator)) s.toList
      rw [dropped] at stops
      have eq : c = separator := by simpa using stops
      refine ⟨?_, String.toList_injective ?_⟩
      · intro mem
        rw [String.toList_ofList] at mem
        simpa using List.all_eq_true.1 List.all_takeWhile separator mem
      · have whole := List.takeWhile_append_dropWhile (p := (· ≠ separator)) (l := s.toList)
        rw [dropped, eq] at whole
        simpa using whole.symm
  · rintro ⟨absent, rfl⟩
    have passes : ∀ c ∈ front.toList, decide (c ≠ separator) = true :=
      fun c mem => decide_eq_true fun eq => absent (eq ▸ mem)
    have text : (front ++ String.singleton separator ++ behind).toList =
        front.toList ++ separator :: behind.toList := by
      simp
    have taken : (front.toList ++ separator :: behind.toList).takeWhile (· ≠ separator) =
        front.toList := by
      rw [List.takeWhile_append_of_pos passes]
      simp
    have dropped : (front.toList ++ separator :: behind.toList).dropWhile (· ≠ separator) =
        separator :: behind.toList := by
      rw [List.dropWhile_append_of_pos passes]
      simp
    rw [splitOnce?, text, dropped, taken]
    simp

/-- There is one way to cut a text at its first separator. -/
theorem eq_of_cut_eq {front' behind' : String} (absent : separator ∉ front.toList)
    (absent' : separator ∉ front'.toList)
    (same : front ++ String.singleton separator ++ behind =
      front' ++ String.singleton separator ++ behind') : front = front' ∧ behind = behind' := by
  have cut := splitOnce?_eq_some_iff.2
    ⟨absent, (rfl : front ++ String.singleton separator ++ behind = _)⟩
  have cut' := splitOnce?_eq_some_iff.2 ⟨absent', same⟩
  exact Prod.ext_iff.1 (Option.some.inj (cut.symm.trans cut'))

end once

end PolicyTree.Text
