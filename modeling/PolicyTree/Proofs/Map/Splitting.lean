import PolicyTree.Proofs.Map.Insertion
/-
  A map that takes in another one, split into what was there and what is new. The keys that were
  there keep their places, with the values of the other map where it has them (`replaceFrom`); the
  keys that only the other map has follow in its order (`without`). Main statement:
  `entries_insertAll_entries`.
-/
namespace PolicyTree.OrderedMap

variable {κ β : Type} [DecidableEq κ]

/-! ## The two parts -/

/-- The map, with the values of another one under the keys that it shares with it. -/
def replaceFrom (m other : OrderedMap κ β) : OrderedMap κ β :=
  ⟨m.entries.map fun entry => (entry.1, (other.get? entry.1).getD entry.2), by
    rw [List.map_map]
    exact m.nodup⟩

/-- The map less the keys that another one has. -/
def without (m other : OrderedMap κ β) : OrderedMap κ β :=
  ⟨m.entries.filter fun entry => entry.1 ∉ other.keys,
    m.nodup.sublist (List.filter_sublist.map Prod.fst)⟩

theorem keys_replaceFrom (m other : OrderedMap κ β) : (m.replaceFrom other).keys = m.keys := by
  unfold keys replaceFrom
  rw [List.map_map]
  rfl

theorem get?_replaceFrom (m other : OrderedMap κ β) (key : κ) :
    (m.replaceFrom other).get? key =
      if key ∈ m.keys then (other.get? key).or (m.get? key) else none := by
  by_cases h : key ∈ m.keys
  · obtain ⟨⟨own, value⟩, mem, rfl⟩ := List.mem_map.1 h
    have here : m.get? own = some value := get?_eq_some_iff.2 mem
    have there : (own, (other.get? own).getD value) ∈ (m.replaceFrom other).entries :=
      List.mem_map.2 ⟨(own, value), mem, rfl⟩
    rw [if_pos h, get?_eq_some_iff.2 there, here]
    cases other.get? own <;> rfl
  · rw [if_neg h, get?_eq_none_iff, keys_replaceFrom]
    exact h

theorem keys_without (m other : OrderedMap κ β) :
    (m.without other).keys = m.keys.filter fun key => key ∉ other.keys := by
  unfold keys without
  rw [List.filter_map]
  rfl

theorem get?_without (m other : OrderedMap κ β) (key : κ) :
    (m.without other).get? key = if key ∈ other.keys then none else m.get? key := by
  refine Option.ext fun value => ?_
  rw [get?_eq_some_iff]
  unfold without
  rw [List.mem_filter, decide_eq_true_iff, ← get?_eq_some_iff]
  split
  · next h => simp [h]
  · next h => simp [h]

/-! ## The whole -/

/-- A map whose keys are those of two others, one behind the other, and that finds under them what
these find, has the entries of both. -/
theorem entries_eq_append {m front back : OrderedMap κ β} (keys : m.keys = front.keys ++ back.keys)
    (first : ∀ key ∈ front.keys, m.get? key = front.get? key)
    (second : ∀ key ∈ back.keys, m.get? key = back.get? key) :
    m.entries = front.entries ++ back.entries := by
  rw [entries_eq_filterMap_keys m, entries_eq_filterMap_keys front, entries_eq_filterMap_keys back,
    keys, List.filterMap_append]
  congr 1
  · refine List.filterMap_congr fun key mem => ?_
    rw [first key mem]
  · refine List.filterMap_congr fun key mem => ?_
    rw [second key mem]

theorem eraseDups_append_of_nodup {xs ys : List κ} (h : xs.Nodup) (h' : ys.Nodup) :
    (xs ++ ys).eraseDups = xs ++ ys.filter fun y => y ∉ xs := by
  have rest : ys.removeAll xs = ys.filter fun y => y ∉ xs := by
    unfold List.removeAll
    refine List.filter_congr fun y _ => ?_
    rw [List.elem_eq_mem, decide_not]
  have nodup : (ys.filter fun y => y ∉ xs).Nodup := h'.filter _
  rw [List.eraseDups_append, rest, eraseDups_of_nodup h, eraseDups_of_nodup nodup]

theorem entries_insertAll_entries (m other : OrderedMap κ β) :
    (m.insertAll other.entries).entries =
      (m.replaceFrom other).entries ++ (other.without m).entries := by
  have keys : (m.insertAll other.entries).keys = (m.replaceFrom other).keys ++
      (other.without m).keys := by
    rw [keys_insertAll, keys_replaceFrom, keys_without]
    exact eraseDups_append_of_nodup m.nodup other.nodup
  refine entries_eq_append keys (fun key mem => ?_) (fun key mem => ?_)
  · rw [keys_replaceFrom] at mem
    rw [get?_insertAll_entries, get?_replaceFrom, if_pos mem]
  · rw [keys_without, List.mem_filter, decide_eq_true_iff] at mem
    have absent : m.get? key = none := get?_eq_none_iff.2 mem.2
    rw [get?_insertAll_entries, get?_without, if_neg mem.2, absent, Option.or_none]

end PolicyTree.OrderedMap
