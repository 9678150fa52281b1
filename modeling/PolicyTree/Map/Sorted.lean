/-
  Maps from names and sets of names, both in the order of the code points of the names.
  Two maps with the same look-ups are equal, so a map can be compared and written as it
  stands.

  Main statements: what `insert` does to a look-up (`NameMap.get?_insert_self`,
  `NameMap.get?_insert_of_ne`) and to membership (`NameSet.mem_insert`).
-/
namespace PolicyTree

/-! ## Sorted association lists -/

/-- A list of pairs whose names strictly increase. -/
def NamesIncrease {β : Type} (entries : List (String × β)) : Prop :=
  (entries.map Prod.fst).Pairwise (· < ·)

namespace Sorted

variable {β : Type}

/-- Put a pair at its place, in the place of a pair of the same name. -/
def put (name : String) (value : β) : List (String × β) → List (String × β)
  | [] => [(name, value)]
  | (n, v) :: rest =>
    if name = n then (name, value) :: rest
    else if name < n then (name, value) :: (n, v) :: rest
    else (n, v) :: put name value rest

theorem lt_of_not_lt_of_ne {a b : String} (h : ¬ a < b) (ne : a ≠ b) : b < a := by
  by_cases h' : b < a
  · exact h'
  · exact absurd (String.le_antisymm (String.not_lt.1 h') (String.not_lt.1 h)) ne

theorem mem_keys_put {name x : String} (value : β) {entries : List (String × β)} :
    x ∈ (put name value entries).map Prod.fst ↔ x = name ∨ x ∈ entries.map Prod.fst := by
  induction entries with
  | nil => simp [put]
  | cons entry rest ih =>
    obtain ⟨n, v⟩ := entry
    by_cases h : name = n
    · subst h
      simp [put]
    · by_cases lt : name < n
      · simp [put, h, lt]
      · simp only [put, h, lt, if_false, List.map_cons, List.mem_cons, ih]
        exact or_left_comm

theorem increase_put (name : String) (value : β) {entries : List (String × β)}
    (h : NamesIncrease entries) : NamesIncrease (put name value entries) := by
  induction entries with
  | nil => simp [put, NamesIncrease]
  | cons entry rest ih =>
    obtain ⟨n, v⟩ := entry
    simp only [NamesIncrease, List.map_cons, List.pairwise_cons] at h
    obtain ⟨first, tail⟩ := h
    by_cases eq : name = n
    · subst eq
      simp only [put, if_true, NamesIncrease, List.map_cons, List.pairwise_cons]
      exact ⟨first, tail⟩
    · by_cases lt : name < n
      · simp only [put, eq, lt, if_false, if_true, NamesIncrease, List.map_cons,
          List.pairwise_cons, List.mem_cons]
        refine ⟨?_, first, tail⟩
        rintro x (rfl | hx)
        · exact lt
        · exact String.lt_trans lt (first x hx)
      · simp only [put, eq, lt, if_false, NamesIncrease, List.map_cons, List.pairwise_cons]
        refine ⟨?_, ih tail⟩
        intro x hx
        rcases (mem_keys_put value).1 hx with rfl | hx
        · exact lt_of_not_lt_of_ne lt eq
        · exact first x hx

theorem lookup_put_self (name : String) (value : β) (entries : List (String × β)) :
    (put name value entries).lookup name = some value := by
  induction entries with
  | nil => simp [put]
  | cons entry rest ih =>
    obtain ⟨n, v⟩ := entry
    by_cases h : name = n
    · simp [put, h]
    · by_cases lt : name < n
      · simp [put, h, lt]
      · simp [put, h, lt, List.lookup_cons, beq_false_of_ne h, ih]

theorem lookup_put_of_ne {name other : String} (ne : other ≠ name) (value : β)
    (entries : List (String × β)) :
    (put name value entries).lookup other = entries.lookup other := by
  have apart : (other == name) = false := beq_false_of_ne ne
  induction entries with
  | nil => simp [put, List.lookup_cons, apart]
  | cons entry rest ih =>
    obtain ⟨n, v⟩ := entry
    by_cases h : name = n
    · subst h
      simp [put, List.lookup_cons, apart]
    · by_cases lt : name < n
      · simp [put, h, lt, List.lookup_cons, apart]
      · simp [put, h, lt, List.lookup_cons, ih]

/-- Put pairs one after the other: of two pairs of one name the later one stays. -/
def ofList (pairs : List (String × β)) : List (String × β) :=
  pairs.foldl (fun entries pair => put pair.1 pair.2 entries) []

end Sorted

/-! ## Maps from names -/

/-- Names with their values, in increasing order of the names. -/
structure NameMap (β : Type) where
  entries : List (String × β)
  increase : NamesIncrease entries

namespace NameMap

variable {β : Type}

/-- The map without entries. -/
def empty : NameMap β := ⟨[], by simp [NamesIncrease]⟩

instance : EmptyCollection (NameMap β) := ⟨empty⟩

instance : Inhabited (NameMap β) := ⟨empty⟩

instance [DecidableEq β] : DecidableEq (NameMap β) := fun a b =>
  decidable_of_iff (a.entries = b.entries)
    ⟨fun h => by cases a; cases b; simp_all, fun h => h ▸ rfl⟩

/-- The names in increasing order. -/
def keys (m : NameMap β) : List String := m.entries.map Prod.fst

/-- The number of names. -/
def size (m : NameMap β) : Nat := m.entries.length

/-- Whether there is no name. -/
def isEmpty (m : NameMap β) : Bool := m.entries.isEmpty

/-- The value of a name. -/
def get? (m : NameMap β) (name : String) : Option β := m.entries.lookup name

/-- Whether a name has a value. -/
def contains (m : NameMap β) (name : String) : Bool := (m.get? name).isSome

/-- Give a name a value, in the place of the one it had. -/
def insert (m : NameMap β) (name : String) (value : β) : NameMap β :=
  ⟨Sorted.put name value m.entries, Sorted.increase_put name value m.increase⟩

/-- Insert pairs one after the other. -/
def ofList (pairs : List (String × β)) : NameMap β :=
  pairs.foldl (fun m pair => m.insert pair.1 pair.2) empty

@[simp] theorem get?_empty (name : String) : (empty : NameMap β).get? name = none := rfl

@[simp] theorem get?_insert_self (m : NameMap β) (name : String) (value : β) :
    (m.insert name value).get? name = some value :=
  Sorted.lookup_put_self name value m.entries

theorem get?_insert_of_ne (m : NameMap β) {name other : String} (ne : other ≠ name) (value : β) :
    (m.insert name value).get? other = m.get? other :=
  Sorted.lookup_put_of_ne ne value m.entries

end NameMap

/-! ## Sets of names -/

/-- Names in increasing order, each once. -/
structure NameSet where
  names : List String
  increase : names.Pairwise (· < ·)
  deriving DecidableEq

namespace NameSet

/-- The set without names. -/
def empty : NameSet := ⟨[], by simp⟩

instance : EmptyCollection NameSet := ⟨empty⟩

instance : Inhabited NameSet := ⟨empty⟩

/-- Put a name at its place among increasing names. -/
def put (name : String) : List String → List String
  | [] => [name]
  | n :: rest =>
    if name = n then n :: rest
    else if name < n then name :: n :: rest
    else n :: put name rest

theorem mem_put {name x : String} {names : List String} :
    x ∈ put name names ↔ x = name ∨ x ∈ names := by
  induction names with
  | nil => simp [put]
  | cons n rest ih =>
    by_cases h : name = n
    · subst h
      simp [put]
    · by_cases lt : name < n
      · simp [put, h, lt]
      · simp only [put, h, lt, if_false, List.mem_cons, ih]
        exact or_left_comm

theorem increase_put (name : String) {names : List String} (h : names.Pairwise (· < ·)) :
    (put name names).Pairwise (· < ·) := by
  induction names with
  | nil => simp [put]
  | cons n rest ih =>
    rw [List.pairwise_cons] at h
    obtain ⟨first, tail⟩ := h
    by_cases eq : name = n
    · simp only [put, eq, if_true, List.pairwise_cons]
      exact ⟨first, tail⟩
    · by_cases lt : name < n
      · simp only [put, eq, lt, if_false, if_true, List.pairwise_cons, List.mem_cons]
        refine ⟨?_, first, tail⟩
        rintro x (rfl | hx)
        · exact lt
        · exact String.lt_trans lt (first x hx)
      · simp only [put, eq, lt, if_false, List.pairwise_cons]
        refine ⟨?_, ih tail⟩
        intro x hx
        rcases mem_put.1 hx with rfl | hx
        · exact Sorted.lt_of_not_lt_of_ne lt eq
        · exact first x hx

/-- Add a name. -/
def insert (s : NameSet) (name : String) : NameSet :=
  ⟨put name s.names, increase_put name s.increase⟩

/-- Add every name of a list. -/
def insertAll (s : NameSet) (names : List String) : NameSet :=
  names.foldl insert s

/-- The names of a list. -/
def ofList (names : List String) : NameSet := empty.insertAll names

/-- Whether a name is in the set. -/
def contains (s : NameSet) (name : String) : Bool := s.names.contains name

/-- Whether there is no name. -/
def isEmpty (s : NameSet) : Bool := s.names.isEmpty

theorem mem_insert {s : NameSet} {name x : String} :
    x ∈ (s.insert name).names ↔ x = name ∨ x ∈ s.names := mem_put

end NameSet

end PolicyTree
