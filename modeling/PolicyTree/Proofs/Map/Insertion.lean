import Mathlib.Data.List.Basic
import Mathlib.Data.List.Induction
import PolicyTree.Map.Ordered
import PolicyTree.Map.Sorted
/-
  Insertion of many pairs into a map, one after the other.

  The keys that come out of an ordered map are the keys that were there and the inserted ones,
  each at its first occurrence (`keys_insertAll`); the value of a key is the last one inserted
  under it, or else the one it had (`get?_insertAll`). What is last in a list is found from its
  end (`concat_eq_append_cons_iff`, `exists_last_of_exists`).
-/
namespace PolicyTree

/-! ## Places in lists -/

/-- An element of a list with one more at the end is that one, or stands in front of it. -/
theorem concat_eq_append_cons_iff {α : Type} {list before behind : List α} {last x : α} :
    list ++ [last] = before ++ x :: behind ↔
      behind = [] ∧ list = before ∧ last = x ∨
        ∃ front, behind = front ++ [last] ∧ list = before ++ x :: front := by
  constructor
  · intro split
    rcases List.eq_nil_or_concat behind with rfl | ⟨front, own, rfl⟩
    · obtain ⟨same, eq⟩ := List.append_inj' split rfl
      exact .inl ⟨rfl, same, List.singleton_inj.1 eq⟩
    · rw [List.concat_eq_append, ← List.cons_append, ← List.append_assoc] at split
      obtain ⟨same, eq⟩ := List.append_inj' split rfl
      rw [List.concat_eq_append, List.singleton_inj.1 eq]
      exact .inr ⟨front, rfl, same⟩
  · rintro (⟨rfl, rfl, rfl⟩ | ⟨front, rfl, rfl⟩)
    · rfl
    · rw [List.append_assoc, List.cons_append]

/-- If there is such an element in a list, there is a last one. -/
theorem exists_last_of_exists {α : Type} {P : α → Prop} {list : List α} (h : ∃ x ∈ list, P x) :
    ∃ before x later, list = before ++ x :: later ∧ P x ∧ ∀ y ∈ later, ¬ P y := by
  induction list using List.reverseRecOn with
  | nil =>
    obtain ⟨x, mem, -⟩ := h
    cases mem
  | append_singleton list last ih =>
    by_cases holds : P last
    · exact ⟨list, last, [], rfl, holds, nofun⟩
    · obtain ⟨x, mem, hx⟩ := h
      rcases List.mem_append.1 mem with mem | mem
      · obtain ⟨before, x, later, rfl, hx, others⟩ := ih ⟨x, mem, hx⟩
        refine ⟨before, x, later ++ [last], by simp, hx, fun y mem => ?_⟩
        rcases List.mem_append.1 mem with mem | mem
        · exact others y mem
        · rw [List.mem_singleton.1 mem]
          exact holds
      · rw [List.mem_singleton.1 mem] at hx
        exact absurd hx holds

namespace OrderedMap

variable {κ β : Type} [DecidableEq κ]

/-! ## Lists with every element at its first occurrence -/

theorem eraseDups_concat (xs : List κ) (x : κ) :
    (xs ++ [x]).eraseDups = if x ∈ xs then xs.eraseDups else xs.eraseDups ++ [x] := by
  rw [List.eraseDups_append]
  by_cases h : x ∈ xs
  · simp [h, List.cons_removeAll]
  · simp [h, List.cons_removeAll, List.eraseDups_cons]

theorem eraseDups_of_nodup {xs : List κ} (h : xs.Nodup) : xs.eraseDups = xs := by
  induction xs using List.reverseRecOn with
  | nil => rfl
  | append_singleton xs x ih =>
    rw [List.nodup_append] at h
    obtain ⟨nodup, -, apart⟩ := h
    have fresh : x ∉ xs := fun hx => apart x hx x (by simp) rfl
    rw [eraseDups_concat, if_neg fresh, ih nodup]

/-- What is repeated in front may be dropped before the whole is looked at. -/
theorem eraseDups_eraseDups_append (xs ys : List κ) :
    (xs.eraseDups ++ ys).eraseDups = (xs ++ ys).eraseDups := by
  induction ys using List.reverseRecOn with
  | nil =>
    rw [List.append_nil, List.append_nil]
    induction xs using List.reverseRecOn with
    | nil => rfl
    | append_singleton xs x ih =>
      by_cases h : x ∈ xs
      · rw [eraseDups_concat, if_pos h, ih]
      · rw [eraseDups_concat, if_neg h, eraseDups_concat, if_neg (by simpa using h), ih]
  | append_singleton ys y ih =>
    rw [← List.append_assoc, ← List.append_assoc, eraseDups_concat, eraseDups_concat, ih]
    simp only [List.mem_append, List.mem_eraseDups]

/-- What is repeated behind may be dropped before the whole is looked at. -/
theorem eraseDups_append_eraseDups (xs ys : List κ) :
    (xs ++ ys.eraseDups).eraseDups = (xs ++ ys).eraseDups := by
  induction ys using List.reverseRecOn with
  | nil => rfl
  | append_singleton ys y ih =>
    by_cases h : y ∈ ys
    · have again : y ∈ xs ++ ys := List.mem_append_right xs h
      rw [eraseDups_concat, if_pos h, ih, ← List.append_assoc, eraseDups_concat, if_pos again]
    · rw [eraseDups_concat, if_neg h, ← List.append_assoc, ← List.append_assoc, eraseDups_concat,
        eraseDups_concat, ih]
      simp only [List.mem_append, List.mem_eraseDups]

/-- What stands in front of an element that is kept is kept in front of it. -/
theorem exists_split_of_eraseDups {xs pre post : List κ} {x : κ}
    (h : xs.eraseDups = pre ++ x :: post) :
    ∃ before after, xs = before ++ x :: after ∧ ∀ y ∈ before, y ∈ pre := by
  induction xs using List.reverseRecOn generalizing post with
  | nil => simp at h
  | append_singleton xs z ih =>
    rw [eraseDups_concat] at h
    split at h
    · obtain ⟨before, after, rfl, kept⟩ := ih h
      exact ⟨before, after ++ [z], by simp, kept⟩
    · rcases concat_eq_append_cons_iff.1 h with ⟨-, eq, rfl⟩ | ⟨post, -, front⟩
      · -- The element is the new one, and in front of it stands all the rest.
        exact ⟨xs, [], rfl, fun y hy => eq ▸ List.mem_eraseDups.2 hy⟩
      · obtain ⟨before, after, rfl, kept⟩ := ih front
        exact ⟨before, after ++ [z], by simp, kept⟩

/-! ## What a map shows -/

theorem get?_eq_some_iff {m : OrderedMap κ β} {key : κ} {value : β} :
    m.get? key = some value ↔ (key, value) ∈ m.entries := by
  obtain ⟨entries, nodup⟩ := m
  show entries.lookup key = some value ↔ _
  induction entries with
  | nil => simp
  | cons entry rest ih =>
    obtain ⟨k, v⟩ := entry
    rw [List.map_cons, List.nodup_cons] at nodup
    by_cases h : key = k
    · subst h
      have absent : (key, value) ∉ rest := fun hm => nodup.1 (List.mem_map.2 ⟨_, hm, rfl⟩)
      simp [absent, eq_comm]
    · simp [List.lookup_cons, beq_false_of_ne h, h, ih nodup.2]

theorem get?_eq_none_iff {m : OrderedMap κ β} {key : κ} : m.get? key = none ↔ key ∉ m.keys := by
  rw [get?, List.lookup_eq_none_iff, keys, List.mem_map]
  constructor
  · rintro h ⟨entry, hm, rfl⟩
    simpa using h entry hm
  · intro h entry hm
    have ne : entry.1 ≠ key := fun e => h ⟨entry, hm, e⟩
    simpa using fun e : key = entry.1 => ne e.symm

theorem contains_eq_true_iff {m : OrderedMap κ β} {key : κ} :
    m.contains key = true ↔ key ∈ m.keys := by
  rw [contains, Option.isSome_iff_ne_none, ne_eq, get?_eq_none_iff, not_not]

theorem entries_insert_of_not_mem {m : OrderedMap κ β} {key : κ} (h : key ∉ m.keys) (value : β) :
    (m.insert key value).entries = m.entries ++ [(key, value)] := by
  show put key value m.entries = _
  replace h : key ∉ m.entries.map Prod.fst := h
  generalize m.entries = entries at h ⊢
  induction entries with
  | nil => rfl
  | cons entry rest ih =>
    obtain ⟨k, v⟩ := entry
    rw [List.map_cons, List.mem_cons, not_or] at h
    rw [put, if_neg (Ne.symm h.1), ih h.2, List.cons_append]

theorem get?_insert (m : OrderedMap κ β) (key other : κ) (value : β) :
    (m.insert key value).get? other = if other = key then some value else m.get? other := by
  split
  · next eq => rw [eq, get?_insert_self]
  · next ne => rw [get?_insert_of_ne m ne]

theorem contains_insert_iff {m : OrderedMap κ β} {key other : κ} {value : β} :
    (m.insert key value).contains other = true ↔ other = key ∨ m.contains other = true := by
  rw [contains, contains, get?_insert]
  split
  · next eq => exact iff_of_true rfl (.inl eq)
  · next ne => exact (or_iff_right ne).symm

/-- The entries are the keys in their order, each with its value. -/
theorem entries_eq_filterMap_keys (m : OrderedMap κ β) :
    m.entries = m.keys.filterMap fun key => (m.get? key).map (key, ·) := by
  have own : ∀ entry ∈ m.entries, (m.get? entry.1).map (entry.1, ·) = some entry := by
    intro entry mem
    rw [get?_eq_some_iff.2 mem]
    rfl
  rw [keys, List.filterMap_map]
  calc m.entries = m.entries.filterMap some := List.filterMap_some.symm
    _ = _ := List.filterMap_congr fun entry mem => (own entry mem).symm

/-- A map is determined by its keys in their order and by what is found under them. -/
theorem eq_of_get?_eq {m other : OrderedMap κ β} (keys : m.keys = other.keys)
    (values : ∀ key, m.get? key = other.get? key) : m = other := by
  have entries : m.entries = other.entries := by
    rw [entries_eq_filterMap_keys m, entries_eq_filterMap_keys other, keys, funext values]
  cases m
  cases other
  cases entries
  rfl

/-! ## Sizes -/

omit [DecidableEq κ] in
theorem size_eq_length_keys (m : OrderedMap κ β) : m.size = m.keys.length :=
  (List.length_map Prod.fst).symm

theorem size_insert (m : OrderedMap κ β) (key : κ) (value : β) :
    (m.insert key value).size = if m.contains key then m.size else m.size + 1 := by
  simp only [size_eq_length_keys, keys_insert, contains_eq_true_iff]
  split
  · rfl
  · exact List.length_append

theorem keys_erase (m : OrderedMap κ β) (key : κ) : (m.erase key).keys = m.keys.erase key := by
  have nodup : m.keys.Nodup := m.nodup
  rw [nodup.erase_eq_filter, keys, keys, erase, List.filter_map]
  refine congrArg (List.map Prod.fst) (List.filter_congr fun entry _ => ?_)
  rw [Function.comp_apply, decide_not, bne]
  rfl

theorem size_erase {m : OrderedMap κ β} {key : κ} (held : m.contains key = true) :
    (m.erase key).size + 1 = m.size := by
  rw [contains_eq_true_iff] at held
  rw [size_eq_length_keys, size_eq_length_keys, keys_erase, List.length_erase_of_mem held]
  have filled := List.length_pos_of_mem held
  omega

/-! ## Insertion of pairs -/

/-- Insert pairs one after the other. -/
def insertAll (m : OrderedMap κ β) (pairs : List (κ × β)) : OrderedMap κ β :=
  pairs.foldl (fun map entry => map.insert entry.1 entry.2) m

@[simp] theorem insertAll_nil (m : OrderedMap κ β) : m.insertAll [] = m := rfl

theorem insertAll_append (m : OrderedMap κ β) (pairs more : List (κ × β)) :
    m.insertAll (pairs ++ more) = (m.insertAll pairs).insertAll more :=
  List.foldl_append

theorem insertAll_concat (m : OrderedMap κ β) (pairs : List (κ × β)) (pair : κ × β) :
    m.insertAll (pairs ++ [pair]) = (m.insertAll pairs).insert pair.1 pair.2 := by
  rw [insertAll_append]
  rfl

theorem keys_insertAll (m : OrderedMap κ β) (pairs : List (κ × β)) :
    (m.insertAll pairs).keys = (m.keys ++ pairs.map Prod.fst).eraseDups := by
  induction pairs using List.reverseRecOn with
  | nil =>
    have nodup : m.keys.Nodup := m.nodup
    rw [insertAll_nil, List.map_nil, List.append_nil, eraseDups_of_nodup nodup]
  | append_singleton pairs pair ih =>
    rw [insertAll_concat, keys_insert, ih, List.map_append, ← List.append_assoc, List.map_singleton,
      eraseDups_concat]
    simp only [List.mem_eraseDups]

/-- The last value inserted under a key stands, or else the one from before. -/
theorem get?_insertAll (m : OrderedMap κ β) (pairs : List (κ × β)) (key : κ) :
    (m.insertAll pairs).get? key = (pairs.reverse.lookup key).or (m.get? key) := by
  induction pairs using List.reverseRecOn with
  | nil => simp
  | append_singleton pairs pair ih =>
    rw [insertAll_concat, List.reverse_append, List.reverse_singleton, List.singleton_append]
    obtain ⟨k, v⟩ := pair
    by_cases h : key = k
    · subst h
      simp
    · rw [get?_insert_of_ne _ h, ih, List.lookup_cons, beq_false_of_ne h]

/-- In a list that names each key once the direction of the search does not matter. -/
theorem lookup_reverse_of_nodup {entries : List (κ × β)} (h : (entries.map Prod.fst).Nodup)
    (key : κ) : entries.reverse.lookup key = entries.lookup key := by
  have h' : (entries.reverse.map Prod.fst).Nodup := by
    rw [List.map_reverse]
    exact List.pairwise_reverse.2 (h.imp Ne.symm)
  refine Option.ext fun value => ?_
  have forward : entries.lookup key = some value ↔ (key, value) ∈ entries :=
    get?_eq_some_iff (m := ⟨entries, h⟩)
  have backward : entries.reverse.lookup key = some value ↔ (key, value) ∈ entries.reverse :=
    get?_eq_some_iff (m := ⟨entries.reverse, h'⟩)
  rw [List.mem_reverse] at backward
  exact backward.trans forward.symm

/-- Inserting the entries of another map: its values win. -/
theorem get?_insertAll_entries (m other : OrderedMap κ β) (key : κ) :
    (m.insertAll other.entries).get? key = (other.get? key).or (m.get? key) := by
  rw [get?_insertAll, lookup_reverse_of_nodup other.nodup]
  rfl

end OrderedMap

/-! ## Maps from names -/

namespace NameMap

variable {β : Type}

theorem ofList_concat (pairs : List (String × β)) (pair : String × β) :
    ofList (pairs ++ [pair]) = (ofList pairs).insert pair.1 pair.2 := by
  unfold ofList
  rw [List.foldl_append]
  rfl

/-- A look-up in the map made of pairs finds one of them. -/
theorem mem_of_get?_ofList {pairs : List (String × β)} {name : String} {value : β}
    (h : (ofList pairs).get? name = some value) : (name, value) ∈ pairs := by
  induction pairs using List.reverseRecOn with
  | nil => cases h
  | append_singleton pairs pair ih =>
    rw [ofList_concat] at h
    rw [List.mem_append, List.mem_singleton]
    by_cases eq : name = pair.1
    · subst eq
      rw [get?_insert_self] at h
      exact .inr (Prod.ext rfl (Option.some.inj h).symm)
    · rw [get?_insert_of_ne _ eq] at h
      exact .inl (ih h)

end NameMap

end PolicyTree
