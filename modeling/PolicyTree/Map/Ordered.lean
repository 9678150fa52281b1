/-
  Maps in order of first insertion. A key keeps its place when its value is replaced,
  and occurs once: the order of the keys is part of the value.

  Main statements: what `insert` and `erase` do to a look-up (`get?_insert_self`,
  `get?_insert_of_ne`, `get?_erase_self`, `get?_erase_of_ne`) and to the keys
  (`keys_insert`).
-/
namespace PolicyTree

/-- Keys with their values, in order of first insertion. -/
structure OrderedMap (κ : Type) (β : Type) where
  entries : List (κ × β)
  nodup : (entries.map Prod.fst).Nodup

namespace OrderedMap

variable {κ β : Type} [DecidableEq κ]

/-! ## Association lists -/

/-- Replace the value of `key` where it stands, or add the pair at the end. -/
def put (key : κ) (value : β) : List (κ × β) → List (κ × β)
  | [] => [(key, value)]
  | (k, v) :: rest => if k = key then (k, value) :: rest else (k, v) :: put key value rest

theorem keys_put (key : κ) (value : β) (entries : List (κ × β)) :
    (put key value entries).map Prod.fst =
      if key ∈ entries.map Prod.fst then entries.map Prod.fst
      else entries.map Prod.fst ++ [key] := by
  induction entries with
  | nil => simp [put]
  | cons entry rest ih =>
    obtain ⟨k, v⟩ := entry
    by_cases h : k = key
    · simp [put, h]
    · have h' : ¬ key = k := fun e => h e.symm
      simp only [put, h, if_false, List.map_cons, ih, List.mem_cons, h', false_or]
      split <;> simp

theorem nodup_put (key : κ) (value : β) {entries : List (κ × β)}
    (h : (entries.map Prod.fst).Nodup) : ((put key value entries).map Prod.fst).Nodup := by
  rw [keys_put]
  split
  · exact h
  · rename_i absent
    rw [List.nodup_append]
    refine ⟨h, by simp, ?_⟩
    intro a ha b hb
    rw [List.mem_singleton] at hb
    subst hb
    exact fun e => absent (e ▸ ha)

theorem lookup_put_self (key : κ) (value : β) (entries : List (κ × β)) :
    (put key value entries).lookup key = some value := by
  induction entries with
  | nil => simp [put]
  | cons entry rest ih =>
    obtain ⟨k, v⟩ := entry
    by_cases h : k = key
    · simp [put, h]
    · have h' : (key == k) = false := by simpa using fun e : key = k => h e.symm
      simp [put, h, List.lookup_cons, h', ih]

theorem lookup_put_of_ne {key other : κ} (ne : other ≠ key) (value : β)
    (entries : List (κ × β)) : (put key value entries).lookup other = entries.lookup other := by
  have apart : (other == key) = false := beq_false_of_ne ne
  induction entries with
  | nil => simp [put, List.lookup_cons, apart]
  | cons entry rest ih =>
    obtain ⟨k, v⟩ := entry
    by_cases h : k = key
    · subst h
      simp [put, List.lookup_cons, apart]
    · simp [put, h, List.lookup_cons, ih]

/-! ## Maps -/

/-- The map without entries. -/
def empty : OrderedMap κ β := ⟨[], by simp⟩

instance : EmptyCollection (OrderedMap κ β) := ⟨empty⟩

instance : Inhabited (OrderedMap κ β) := ⟨empty⟩

/-- The keys in order of first insertion. -/
def keys (m : OrderedMap κ β) : List κ := m.entries.map Prod.fst

/-- The values in the order of their keys. -/
def values (m : OrderedMap κ β) : List β := m.entries.map Prod.snd

/-- The number of keys. -/
def size (m : OrderedMap κ β) : Nat := m.entries.length

/-- The value of `key`. -/
def get? (m : OrderedMap κ β) (key : κ) : Option β := m.entries.lookup key

/-- Whether `key` has a value. -/
def contains (m : OrderedMap κ β) (key : κ) : Bool := (m.get? key).isSome

/-- Give `key` a value: a key that is there keeps its place. -/
def insert (m : OrderedMap κ β) (key : κ) (value : β) : OrderedMap κ β :=
  ⟨put key value m.entries, nodup_put key value m.nodup⟩

/-- Take `key` and its value out. -/
def erase (m : OrderedMap κ β) (key : κ) : OrderedMap κ β :=
  ⟨m.entries.filter (fun entry => entry.1 ≠ key), by
    have sub : (m.entries.filter (fun entry => entry.1 ≠ key)).map Prod.fst
        |>.Sublist (m.entries.map Prod.fst) := List.Sublist.map _ List.filter_sublist
    exact m.nodup.sublist sub⟩

/-- Insert pairs one after the other. -/
def ofList (pairs : List (κ × β)) : OrderedMap κ β :=
  pairs.foldl (fun m pair => m.insert pair.1 pair.2) empty

@[simp] theorem keys_insert (m : OrderedMap κ β) (key : κ) (value : β) :
    (m.insert key value).keys = if key ∈ m.keys then m.keys else m.keys ++ [key] :=
  keys_put key value m.entries

@[simp] theorem get?_empty (key : κ) : (empty : OrderedMap κ β).get? key = none := rfl

@[simp] theorem get?_insert_self (m : OrderedMap κ β) (key : κ) (value : β) :
    (m.insert key value).get? key = some value :=
  lookup_put_self key value m.entries

theorem get?_insert_of_ne (m : OrderedMap κ β) {key other : κ} (ne : other ≠ key) (value : β) :
    (m.insert key value).get? other = m.get? other :=
  lookup_put_of_ne ne value m.entries

@[simp] theorem get?_erase_self (m : OrderedMap κ β) (key : κ) :
    (m.erase key).get? key = none := by
  simp only [get?, erase, List.lookup_eq_none_iff, List.mem_filter]
  rintro ⟨k, v⟩ ⟨-, h⟩
  simpa using fun e : key = k => (of_decide_eq_true h) e.symm

theorem get?_erase_of_ne (m : OrderedMap κ β) {key other : κ} (ne : other ≠ key) :
    (m.erase key).get? other = m.get? other := by
  have apart : (other == key) = false := beq_false_of_ne ne
  simp only [get?, erase]
  induction m.entries with
  | nil => rfl
  | cons entry rest ih =>
    obtain ⟨k, v⟩ := entry
    by_cases h : k = key
    · subst h
      simpa [List.lookup_cons, apart] using ih
    · have kept : decide (k ≠ key) = true := decide_eq_true h
      rw [List.filter_cons_of_pos (by exact kept), List.lookup_cons, List.lookup_cons, ih]

end OrderedMap

end PolicyTree
