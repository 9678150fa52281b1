import Mathlib.Data.Finset.Card
import PolicyTree.Proofs.Map.Insertion
/-
  Sorted maps made of lists of pairs. What a map or a set lists makes the same map or set again
  (`NameMap.ofList_entries`, `NameSet.ofList_names`), because a pair with the greatest name so
  far is put at the end; and a look-up in what is made of pairs finds the last pair of the name
  (`Sorted.lookup_ofList`).
-/
namespace PolicyTree

variable {β : Type}

namespace Sorted

theorem ofList_concat (pairs : List (String × β)) (pair : String × β) :
    ofList (pairs ++ [pair]) = put pair.1 pair.2 (ofList pairs) := by
  unfold ofList
  rw [List.foldl_append]
  rfl

/-- A pair with a greater name than all the others comes last. -/
theorem put_of_greatest {name : String} (value : β) {entries : List (String × β)}
    (greatest : ∀ other ∈ entries.map Prod.fst, other < name) :
    put name value entries = entries ++ [(name, value)] := by
  induction entries with
  | nil => rfl
  | cons entry rest ih =>
    rw [List.map_cons, List.forall_mem_cons] at greatest
    obtain ⟨less, others⟩ := greatest
    have ne : name ≠ entry.1 := by
      rintro rfl
      exact String.lt_irrefl _ less
    have notLess : ¬ name < entry.1 := fun h => String.lt_irrefl _ (String.lt_trans h less)
    rw [put, if_neg ne, if_neg notLess, ih others, List.cons_append]

/-- Pairs in increasing order are kept as they stand. -/
theorem ofList_of_increase {entries : List (String × β)} (h : NamesIncrease entries) :
    ofList entries = entries := by
  -- From the end, since each name is greater than all those put before it.
  induction entries using List.reverseRecOn with
  | nil => rfl
  | append_singleton entries entry ih =>
    unfold NamesIncrease at h
    rw [List.map_append, List.pairwise_append] at h
    obtain ⟨before, -, apart⟩ := h
    have greatest : ∀ other ∈ entries.map Prod.fst, other < entry.1 :=
      fun other mem => apart other mem entry.1 (by simp)
    rw [ofList_concat, ih before, put_of_greatest entry.2 greatest]

theorem lookup_ofList (pairs : List (String × β)) (name : String) :
    (ofList pairs).lookup name = pairs.reverse.lookup name := by
  induction pairs using List.reverseRecOn with
  | nil => rfl
  | append_singleton pairs pair ih =>
    obtain ⟨key, value⟩ := pair
    rw [ofList_concat, List.reverse_append, List.reverse_singleton, List.singleton_append]
    by_cases eq : name = key
    · subst eq
      rw [lookup_put_self, List.lookup_cons_self]
    · rw [lookup_put_of_ne eq, ih, List.lookup_cons, beq_false_of_ne eq]

/-- Of names that come once each the only pair is found. -/
theorem lookup_ofList_of_nodup {pairs : List (String × β)} (nodup : (pairs.map Prod.fst).Nodup)
    (name : String) : (ofList pairs).lookup name = pairs.lookup name := by
  rw [lookup_ofList, OrderedMap.lookup_reverse_of_nodup nodup]

end Sorted

/-! ## Maps -/

namespace NameMap

theorem entries_ofList (pairs : List (String × β)) :
    (ofList pairs).entries = Sorted.ofList pairs := by
  induction pairs using List.reverseRecOn with
  | nil => rfl
  | append_singleton pairs pair ih =>
    rw [ofList_concat, Sorted.ofList_concat, ← ih]
    rfl

theorem ofList_entries (m : NameMap β) : ofList m.entries = m := by
  obtain ⟨entries, increase⟩ := m
  have same : (ofList entries).entries = entries := by
    rw [entries_ofList, Sorted.ofList_of_increase increase]
  generalize ofList entries = made at same
  cases made
  cases same
  rfl

/-- A look-up in the map made of pairs finds the last pair of the name. -/
theorem get?_ofList (pairs : List (String × β)) (name : String) :
    (ofList pairs).get? name = pairs.reverse.lookup name := by
  rw [get?, entries_ofList, Sorted.lookup_ofList]

/-- A name has a value if one of the pairs gives it one. -/
theorem contains_ofList_iff {pairs : List (String × β)} {name : String} :
    (ofList pairs).contains name = true ↔ name ∈ pairs.map Prod.fst := by
  rw [contains, get?_ofList, Option.isSome_iff_ne_none, ne_eq, List.lookup_eq_none_iff]
  constructor
  · intro found
    by_contra absent
    refine found fun pair mem => ?_
    rw [bne_iff_ne]
    rintro rfl
    exact absent (List.mem_map_of_mem (List.mem_reverse.1 mem))
  · rintro given none
    obtain ⟨pair, mem, rfl⟩ := List.mem_map.1 given
    simpa using none pair (List.mem_reverse.2 mem)

theorem contains_eq_true_iff {m : NameMap β} {name : String} :
    m.contains name = true ↔ name ∈ m.keys := by
  rw [contains, Option.isSome_iff_ne_none, ne_eq, get?, List.lookup_eq_none_iff, keys, List.mem_map]
  constructor
  · intro found
    by_contra absent
    exact found fun entry mem => bne_iff_ne.2 fun eq => absent ⟨entry, mem, eq.symm⟩
  · rintro ⟨entry, mem, rfl⟩ none
    simpa using none entry mem

theorem nodup_keys (m : NameMap β) : m.keys.Nodup := by
  have increase : m.keys.Pairwise (· < ·) := m.increase
  refine increase.imp fun less eq => ?_
  rw [eq] at less
  exact String.lt_irrefl _ less

/-- The map made of pairs has as many names as occur in them. -/
theorem size_ofList (pairs : List (String × β)) :
    (ofList pairs).size = (pairs.map Prod.fst).toFinset.card := by
  have same : (ofList pairs).keys.toFinset = (pairs.map Prod.fst).toFinset := by
    ext name
    rw [List.mem_toFinset, List.mem_toFinset, ← contains_eq_true_iff, contains_ofList_iff]
  rw [← same, List.toFinset_card_of_nodup (nodup_keys _), keys, List.length_map, size]

end NameMap

/-! ## Sets -/

namespace NameSet

theorem ofList_concat (names : List String) (name : String) :
    ofList (names ++ [name]) = (ofList names).insert name := by
  unfold ofList insertAll
  rw [List.foldl_append]
  rfl

theorem put_of_greatest {name : String} {names : List String}
    (greatest : ∀ other ∈ names, other < name) : put name names = names ++ [name] := by
  induction names with
  | nil => rfl
  | cons first rest ih =>
    rw [List.forall_mem_cons] at greatest
    obtain ⟨less, others⟩ := greatest
    have ne : name ≠ first := by
      rintro rfl
      exact String.lt_irrefl _ less
    have notLess : ¬ name < first := fun h => String.lt_irrefl _ (String.lt_trans h less)
    rw [put, if_neg ne, if_neg notLess, ih others, List.cons_append]

theorem names_ofList_of_increase {names : List String} (h : names.Pairwise (· < ·)) :
    (ofList names).names = names := by
  induction names using List.reverseRecOn with
  | nil => rfl
  | append_singleton names name ih =>
    rw [List.pairwise_append] at h
    obtain ⟨before, -, apart⟩ := h
    have greatest : ∀ other ∈ names, other < name :=
      fun other mem => apart other mem name (by simp)
    rw [ofList_concat, insert]
    show put name (ofList names).names = _
    rw [ih before, put_of_greatest greatest]

theorem ofList_names (s : NameSet) : ofList s.names = s := by
  obtain ⟨names, increase⟩ := s
  have same := names_ofList_of_increase increase
  generalize ofList names = made at same
  cases made
  cases same
  rfl

end NameSet

end PolicyTree
