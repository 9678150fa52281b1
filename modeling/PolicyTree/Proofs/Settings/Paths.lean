import PolicyTree.Proofs.Text.Fields
import PolicyTree.Settings.Error
/-
  The paths of texts in a configuration as they are written: names with dots between them, an
  element of a list by its index in brackets (`SettingPath.segments`, `text_eq`).

  No name has a dot or a bracket in it, so that the segments are got back by cutting at the dots,
  and name and index by cutting at the bracket. Hence a path is told by its text
  (`text_injective`), and so is what a message blames (`SettingsError.message_blank_injective`).
-/
namespace PolicyTree

/-- An element of a list, by its index. -/
def indexed (name : String) (i : Nat) : String := name ++ "[" ++ toString i ++ "]"

theorem isDigit_of_mem_index {i : Nat} {c : Char} (mem : c ∈ (toString i).toList) :
    c.isDigit = true := by
  have digits : (toString i).toList = Nat.toDigits 10 i := Nat.toList_repr
  rw [digits] at mem
  exact Nat.isDigit_of_mem_toDigits (by decide) (by decide) mem

theorem ofDigitChars_index (i : Nat) : Nat.ofDigitChars 10 (toString i).toList 0 = i := by
  rw [Nat.toString_eq_ofList_toDigits, String.toList_ofList, Nat.ofDigitChars_ten_toDigits]

theorem index_inj {i j : Nat} (same : toString i = toString j) : i = j :=
  calc i = Nat.ofDigitChars 10 (toString i).toList 0 := (ofDigitChars_index i).symm
    _ = Nat.ofDigitChars 10 (toString j).toList 0 := by rw [same]
    _ = j := ofDigitChars_index j

theorem dot_not_mem_indexed {name : String} (absent : '.' ∉ name.toList) (i : Nat) :
    '.' ∉ (indexed name i).toList := by
  intro mem
  simp only [indexed, String.toList_append, List.mem_append, or_assoc] at mem
  rcases mem with mem | mem | mem | mem
  · exact absent mem
  · exact absurd mem (by decide)
  · exact absurd (isDigit_of_mem_index mem) (by decide)
  · exact absurd mem (by decide)

theorem indexed_inj {name other : String} {i j : Nat} (absent : '[' ∉ name.toList)
    (absent' : '[' ∉ other.toList) (same : indexed name i = indexed other j) :
    name = other ∧ i = j := by
  have cut : ∀ (name : String) (i : Nat),
      indexed name i = name ++ String.singleton '[' ++ (toString i ++ "]") :=
    fun name i => String.append_assoc
  rw [cut, cut] at same
  obtain ⟨names, behind⟩ := Text.eq_of_cut_eq absent absent' same
  exact ⟨names, index_inj ((String.append_left_inj "]").1 behind)⟩

/-! ## Names -/

/-- There is neither a dot nor a bracket in the name. -/
def IsBareName (name : String) : Prop := '.' ∉ name.toList ∧ '[' ∉ name.toList

theorem PolicyList.name_isBare (list : PolicyList) : IsBareName list.name := by
  cases list <;> exact ⟨by decide, by decide⟩

theorem PolicyList.name_inj {list other : PolicyList} (same : list.name = other.name) :
    list = other := by
  revert same
  cases list <;> cases other <;> decide

/-- The name of the rules of a level. -/
def Level.rulesName (level : Level) : String := level.name ++ "_rules"

theorem Level.rulesName_isBare (level : Level) : IsBareName level.rulesName := by
  cases level <;> exact ⟨by decide, by decide⟩

theorem Level.rulesName_inj {level other : Level} (same : level.rulesName = other.rulesName) :
    level = other := by
  revert same
  cases level <;> cases other <;> decide

namespace SettingPath

/-! ## Paths -/

/-- The names on the way to a text. -/
def segments : SettingPath → List String
  | .resourceId i => ["bootstrap", indexed "resources" i, "id"]
  | .subject list i => ["bootstrap", indexed list.name i, list.subjectName]
  | .ruleName list i level j =>
    ["bootstrap", indexed list.name i, indexed level.rulesName j, "name"]
  | .ruleIdentifier list i level j =>
    ["bootstrap", indexed list.name i, indexed level.rulesName j, "rule"]

theorem ruleText_eq (list : PolicyList) (i : Nat) (level : Level) (j : Nat) {name stop : String}
    (parts : stop = "]" ++ "." ++ name) :
    "bootstrap." ++ list.name ++ "[" ++ toString i ++ "]" ++
        ("." ++ level.name ++ "_rules[" ++ toString j ++ stop) =
      ".".intercalate ["bootstrap", indexed list.name i, indexed level.rulesName j, name] := by
  have start : "bootstrap." = "bootstrap" ++ "." := by decide
  have rules : "_rules[" = "_rules" ++ "[" := by decide
  rw [start, rules, parts]
  simp only [indexed, Level.rulesName, String.intercalate_cons_cons, String.intercalate_singleton,
    String.append_assoc]

theorem text_eq (path : SettingPath) : path.text = ".".intercalate path.segments := by
  cases path with
  | resourceId i =>
    have start : "bootstrap.resources[" = "bootstrap" ++ "." ++ "resources" ++ "[" := by
      decide +kernel
    have stop : "].id" = "]" ++ "." ++ "id" := by decide
    show "bootstrap.resources[" ++ toString i ++ "].id" = _
    rw [start, stop]
    simp only [segments, indexed, String.intercalate_cons_cons, String.intercalate_singleton,
      String.append_assoc]
  | subject list i =>
    have start : "bootstrap." = "bootstrap" ++ "." := by decide
    show "bootstrap." ++ list.name ++ "[" ++ toString i ++ "]" ++ "." ++ list.subjectName = _
    rw [start]
    simp only [segments, indexed, String.intercalate_cons_cons, String.intercalate_singleton,
      String.append_assoc]
  | ruleName list i level j => exact ruleText_eq list i level j (by decide)
  | ruleIdentifier list i level j => exact ruleText_eq list i level j (by decide)

/-! ## A path is told by its text -/

variable {list other : PolicyList} {level level' : Level} {i j : Nat}

theorem policies_inj : indexed list.name i = indexed other.name j ↔ list = other ∧ i = j := by
  constructor
  · intro same
    obtain ⟨names, indices⟩ := indexed_inj list.name_isBare.2 other.name_isBare.2 same
    exact ⟨PolicyList.name_inj names, indices⟩
  · rintro ⟨rfl, rfl⟩
    rfl

theorem rules_inj :
    indexed level.rulesName i = indexed level'.rulesName j ↔ level = level' ∧ i = j := by
  constructor
  · intro same
    obtain ⟨names, indices⟩ := indexed_inj level.rulesName_isBare.2 level'.rulesName_isBare.2 same
    exact ⟨Level.rulesName_inj names, indices⟩
  · rintro ⟨rfl, rfl⟩
    rfl

theorem resources_inj : indexed "resources" i = indexed "resources" j ↔ i = j := by
  constructor
  · intro same
    exact (indexed_inj (by decide) (by decide) same).2
  · rintro rfl
    rfl

theorem resources_ne_policies : indexed "resources" i ≠ indexed list.name j := by
  intro same
  have names := (indexed_inj (by decide) list.name_isBare.2 same).1
  cases list with
  | resourcePolicies => exact absurd names (by decide)
  | typePolicies => exact absurd names (by decide)

theorem segments_injective : Function.Injective segments := by
  intro path other same
  cases path <;> cases other <;>
    simp_all [segments, policies_inj, rules_inj, resources_inj, resources_ne_policies,
      resources_ne_policies.symm]

theorem dot_not_mem_segment (path : SettingPath) :
    ∀ name ∈ path.segments, '.' ∉ name.toList := by
  have start : '.' ∉ "bootstrap".toList := by decide
  have policies : ∀ (list : PolicyList) i, '.' ∉ (indexed list.name i).toList :=
    fun list => dot_not_mem_indexed list.name_isBare.1
  have rules : ∀ (level : Level) j, '.' ∉ (indexed level.rulesName j).toList :=
    fun level => dot_not_mem_indexed level.rulesName_isBare.1
  cases path with
  | resourceId i =>
    simp only [segments, List.forall_mem_cons]
    exact ⟨start, dot_not_mem_indexed (by decide) i, by decide, nofun⟩
  | subject list i =>
    simp only [segments, List.forall_mem_cons]
    exact ⟨start, policies list i, by cases list <;> decide, nofun⟩
  | ruleName list i level j =>
    simp only [segments, List.forall_mem_cons]
    exact ⟨start, policies list i, rules level j, by decide, nofun⟩
  | ruleIdentifier list i level j =>
    simp only [segments, List.forall_mem_cons]
    exact ⟨start, policies list i, rules level j, by decide, nofun⟩

theorem split_text (path : SettingPath) : Text.split '.' path.text = path.segments := by
  refine Text.split_eq_iff.2 ⟨?_, dot_not_mem_segment path, text_eq path⟩
  cases path <;> exact List.cons_ne_nil _ _

theorem text_injective : Function.Injective text := by
  intro path other same
  have split : Text.split '.' path.text = Text.split '.' other.text := by rw [same]
  rw [split_text, split_text] at split
  exact segments_injective split

end SettingPath

/-- The message of a blank text tells which text it is. -/
theorem SettingsError.message_blank_injective :
    Function.Injective fun path => (validation (.blank path)).message := by
  intro path other same
  have behind : path.text ++ " must not be empty" = other.text ++ " must not be empty" :=
    (String.append_right_inj "Validation error: ").1 same
  exact SettingPath.text_injective ((String.append_left_inj " must not be empty").1 behind)

end PolicyTree
