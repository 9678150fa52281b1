import PolicyTree.Json.Reading
import PolicyTree.Proofs.Map.Sorted
import PolicyTree.User.Codec
import PolicyTree.Settings.Codec
/-
  What is read of what was written. `ReadsBack` says of a way to read and a way to write that
  the one undoes the other; lists and maps of such values, and members of objects, are read back
  as they were written.

  An object is written from a list of members. Each is found under its name if no two members
  share one (`Sorted.lookup_ofList_of_nodup`); a member that is left out is read as its default,
  so no more may be left out than what the default stands for (`withDefault_of_skipped`).
-/
namespace PolicyTree.Json

variable {α : Type}

/-- Reading gives back whatever was written. -/
def ReadsBack (read : Json → Option α) (write : α → Json) : Prop :=
  ∀ value, read (write value) = some value

variable {read : Json → Option α} {write : α → Json}

/-! ## Values -/

theorem text_readsBack : ReadsBack reading.text .text := fun _ => rfl

theorem flag_readsBack : ReadsBack reading.flag .bool := fun _ => rfl

/-- A count is a number of 64 bits, so it is in range. -/
theorem count_readsBack : ReadsBack reading.count fun n => .int n.toNat := by
  intro n
  have fits : (n.toNat : Int) ≤ 18446744073709551615 := by
    have := n.toNat_lt
    omega
  show Word.ofInt? n.toNat = some n
  rw [Word.ofInt?, if_pos ⟨Int.natCast_nonneg _, fits⟩, Int.toNat_natCast, UInt64.ofNat_toNat]

/-- Items that are read in one way each are read together. -/
theorem mapM_map_of_read {β : Type} {write : β → Json} {shown : β → α}
    (h : ∀ value, read (write value) = some (shown value)) (values : List β) :
    (values.map write).mapM read = some (values.map shown) := by
  induction values with
  | nil => rfl
  | cons value rest ih =>
    rw [List.map_cons, List.mapM_cons, h value, ih]
    rfl

theorem list_readsBack (h : ReadsBack read write) :
    ReadsBack (reading.list read) fun values => .array (values.map write) := by
  intro values
  show (values.map write).mapM read = some values
  rw [mapM_map_of_read h, List.map_id']

theorem nameSet_readsBack : ReadsBack reading.nameSet fun names => .texts names.names := by
  intro names
  have back : reading.list reading.text (.texts names.names) = some names.names :=
    list_readsBack text_readsBack names.names
  rw [Reading.nameSet, back, Option.map_some, NameSet.ofList_names]

/-! ## Texts under names -/

theorem mapM_entries (entries : List (String × String)) :
    (entries.map fun entry => (entry.1, Json.text entry.2)).mapM
        (fun member => (reading.text member.2).map (member.1, ·)) = some entries := by
  induction entries with
  | nil => rfl
  | cons entry rest ih =>
    rw [List.map_cons, List.mapM_cons, ih]
    rfl

theorem entries_of_mapM {members : List (String × Json)} {entries : List (String × String)}
    (h : members.mapM (fun member => (reading.text member.2).map (member.1, ·)) = some entries) :
    members = entries.map fun entry => (entry.1, Json.text entry.2) := by
  induction members generalizing entries with
  | nil =>
    cases h
    rfl
  | cons member rest ih =>
    obtain ⟨name, value⟩ := member
    rw [List.mapM_cons] at h
    cases value with
    | text value =>
      obtain ⟨first, own, others⟩ := Option.bind_eq_some_iff.1 h
      cases own
      obtain ⟨entries, back, made⟩ := Option.bind_eq_some_iff.1 others
      cases made
      rw [ih back]
      rfl
    | _ => cases h

/-- Texts under names are read from objects of texts, and from nothing else. -/
theorem textMap_eq_some_iff {value : Json} {map : NameMap String} :
    reading.textMap value = some map ↔ ∃ entries : List (String × String),
      value = .object (entries.map fun entry => (entry.1, .text entry.2)) ∧
        map = .ofList entries := by
  constructor
  · intro h
    cases value with
    | object members =>
      obtain ⟨entries, back, rfl⟩ := Option.map_eq_some_iff.1 h
      exact ⟨entries, congrArg _ (entries_of_mapM back), rfl⟩
    | _ => cases h
  · rintro ⟨entries, rfl, rfl⟩
    show Option.map _ (List.mapM _ _) = _
    rw [mapM_entries, Option.map_some]

theorem textMap_readsBack : ReadsBack reading.textMap textMapJson := fun map =>
  textMap_eq_some_iff.2 ⟨map.entries, rfl, (NameMap.ofList_entries map).symm⟩

/-! ## Members -/

section members

open Reading (required withDefault)

variable {fields : List (String × Json)} {name : String} {value : α}

/-- An object shows the members that it was written from. -/
theorem exists_fields {names : List String} (members : List (String × Json))
    (distinct : names.Nodup) (among : (members.map Prod.fst).Sublist names) :
    ∃ fields, reading.record names (.ofMembers members) = some fields ∧
      ∀ name, fields.lookup name = members.lookup name :=
  ⟨Sorted.ofList members, rfl, Sorted.lookup_ofList_of_nodup (distinct.sublist among)⟩

theorem required_of_lookup (h : ReadsBack read write)
    (found : fields.lookup name = some (write value)) :
    required read fields name = some value := by
  rw [required, found]
  exact h value

theorem withDefault_of_lookup (h : ReadsBack read write) {default : α}
    (found : fields.lookup name = some (write value)) :
    withDefault read default fields name = some value := by
  rw [withDefault, found]
  exact h value

/-- A member may be left out where its value is the default. -/
theorem withDefault_of_skipped (h : ReadsBack read write) {default : α} {skipped : Bool}
    (found : fields.lookup name = if skipped then none else some (write value))
    (same : skipped = true → default = value) :
    withDefault read default fields name = some value := by
  rw [withDefault, found]
  cases skipped with
  | true => exact congrArg some (same rfl)
  | false => exact h value

/-- A member may be left out where there is no value, if no value is written as null. -/
theorem optional_of_lookup (h : ReadsBack read write) {value : Option α}
    (nonnull : ∀ value, reading.isNull (write value) = false)
    (found : fields.lookup name = value.map write) :
    reading.optional read fields name = some value := by
  rw [Reading.optional, found]
  cases value with
  | none => rfl
  | some value =>
    show (if reading.isNull (write value) = true then some none else _) = _
    rw [nonnull value, if_neg Bool.false_ne_true, h value, Option.map_some]

/-! ## Members that are left out -/

theorem lookup_setMember (name other : String) (names : NameSet) :
    (User.setMember name names).lookup other =
      if other = name then if names.isEmpty then none else some (.texts names.names) else none := by
  unfold User.setMember
  cases names.isEmpty with
  | true => simp
  | false => by_cases eq : other = name <;> simp [eq, List.lookup_cons, beq_false_of_ne]

theorem names_setMember_sublist (name : String) (names : NameSet) :
    ((User.setMember name names).map Prod.fst).Sublist [name] := by
  unfold User.setMember
  split
  · exact List.nil_sublist _
  · exact List.Sublist.refl _

theorem lookup_optionalMember (name other : String) (write : α → Json) (value : Option α) :
    (optionalMember name write value).lookup other =
      if other = name then value.map write else none := by
  cases value with
  | none => simp [optionalMember]
  | some value =>
    by_cases eq : other = name <;> simp [optionalMember, eq, List.lookup_cons, beq_false_of_ne]

theorem names_optionalMember_sublist (name : String) (write : α → Json) (value : Option α) :
    ((optionalMember name write value).map Prod.fst).Sublist [name] := by
  cases value with
  | none => exact List.nil_sublist _
  | some value => exact List.Sublist.refl _

end members

end PolicyTree.Json
