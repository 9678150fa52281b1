import PolicyTree.Proofs.Catalog.Building
/-
  A catalog is built from exactly the rows that are a forest, and shows them as they were
  declared. In what order they stand decides only in what order the resources are listed.
-/
namespace PolicyTree.Catalog

variable {rows : List ResourceRow} {catalog : Catalog}

/-- The catalog shows the rows: a resource for each, in their order, with the data of its row
and the declared parents as its chain. -/
structure Reproduces (rows : List ResourceRow) (catalog : Catalog) : Prop where
  ids : catalog.toList.map (·.id) = rows.map (·.id)
  listed : catalog.toList.map some = rows.map fun row => catalog.get? row.id
  shown : ∀ row ∈ rows, ∃ r, catalog.get? row.id = some r ∧ r.id = row.id ∧ r.kind = row.kind ∧
    (row.kind = .leaf →
      r.type? = row.type ∧ r.format? = row.format ∧ r.connection? = row.connection) ∧
    ∃ path chain, RootPath rows row path ∧ r.chain = .ok chain ∧
      chain.map (·.id) = (path.map (·.id)).reverse

/-- What a catalog that was built has entered. -/
theorem entries_of_ofRows (h : ofRows rows = .ok catalog) :
    (rows.map (·.id)).Nodup ∧ catalog.resources.keys = rows.map (·.id) ∧
      ∀ id r, catalog.get? id = some r → ∃ row, row.id = id ∧ Represents rows row r := by
  obtain ⟨table, indexed, h⟩ := bind_eq_ok_iff.1 h
  obtain ⟨out, resolved, h⟩ := bind_eq_ok_iff.1 h
  cases h
  obtain ⟨nodup, keys, indexes⟩ := indexes_of_index indexed
  rw [keys] at resolved
  obtain ⟨added, entries, ids, all⟩ :=
    resolveAll_sound nodup indexes sound_empty (by simpa [OrderedMap.keys, OrderedMap.empty]
      using nodup) resolved
  replace entries : out.entries = added := entries
  refine ⟨nodup, ?_, fun id r found => ?_⟩
  · rw [OrderedMap.keys, entries, ids]
  · have mem := OrderedMap.get?_eq_some_iff.1 found
    rw [entries] at mem
    exact all (id, r) mem

/-- A resource stands under its own id. -/
theorem id_eq_of_get? (h : ofRows rows = .ok catalog) {id : String} {r : Resource}
    (found : catalog.get? id = some r) : r.id = id := by
  obtain ⟨row, rfl, represents⟩ := (entries_of_ofRows h).2.2 id r found
  exact represents.id_eq

theorem mem_toList_of_get? {id : String} {r : Resource} (found : catalog.get? id = some r) :
    r ∈ catalog.toList :=
  List.mem_map.2 ⟨(id, r), OrderedMap.get?_eq_some_iff.1 found, rfl⟩

/-- A catalog that was built lists what its rows stand for. -/
theorem exists_represents_of_mem (h : ofRows rows = .ok catalog) {r : Resource}
    (listed : r ∈ catalog.toList) : ∃ row, Represents rows row r := by
  obtain ⟨entry, mem, rfl⟩ := List.mem_map.1 listed
  have found : catalog.get? entry.1 = some entry.2 := OrderedMap.get?_eq_some_iff.2 mem
  obtain ⟨row, -, represents⟩ := (entries_of_ofRows h).2.2 entry.1 entry.2 found
  exact ⟨row, represents⟩

/-- A catalog that was built lists constructible resources only. -/
theorem constructible_of_ofRows (h : ofRows rows = .ok catalog) {r : Resource}
    (listed : r ∈ catalog.toList) : r.Constructible := by
  obtain ⟨row, represents⟩ := exists_represents_of_mem h listed
  exact represents.constructible

/-- In a catalog an id stands for one resource, also where it occurs above another one. -/
theorem eq_of_id_eq_of_mem_chain (h : ofRows rows = .ok catalog) {x r node : Resource}
    (listed : x ∈ catalog.toList) (onChain : node ∈ x.lineage) (listed' : r ∈ catalog.toList)
    (same : node.id = r.id) : node = r := by
  obtain ⟨nodup, -, -⟩ := entries_of_ofRows h
  obtain ⟨row, represents⟩ := exists_represents_of_mem h listed
  obtain ⟨upper, above⟩ := represents.exists_of_mem_lineage onChain
  obtain ⟨row', represents'⟩ := exists_represents_of_mem h listed'
  have rows_eq : upper = row' := by
    refine eq_of_id_eq nodup above.declared represents'.declared ?_
    rw [← above.id_eq, same, represents'.id_eq]
  subst rows_eq
  exact above.unique nodup represents'

/-- In a catalog that was built each row has its resource. -/
theorem exists_get? (h : ofRows rows = .ok catalog) {row : ResourceRow} (declared : row ∈ rows) :
    ∃ r, catalog.get? row.id = some r ∧ Represents rows row r := by
  obtain ⟨nodup, keys, entered⟩ := entries_of_ofRows h
  have known : row.id ∈ catalog.resources.keys := by
    rw [keys]
    exact List.mem_map.2 ⟨row, declared, rfl⟩
  have held : catalog.get? row.id ≠ none := fun none => OrderedMap.get?_eq_none_iff.1 none known
  obtain ⟨r, found⟩ := Option.ne_none_iff_exists'.1 held
  obtain ⟨row', id, represents⟩ := entered row.id r found
  have same := eq_of_id_eq nodup represents.declared declared id
  subst same
  exact ⟨r, found, represents⟩

theorem ofRows_eq_ok_iff : (∃ catalog, ofRows rows = .ok catalog) ↔ IsForest rows := by
  rw [isForest_iff]
  constructor
  · rintro ⟨catalog, h⟩
    refine ⟨(entries_of_ofRows h).1, fun row declared => ?_⟩
    obtain ⟨r, -, represents⟩ := exists_get? h declared
    exact ⟨r, represents⟩
  · rintro ⟨nodup, all⟩
    have indexed : ∃ table, index rows .empty = .ok table := by
      have keys : ((rows.map fun row => (row.id, row)).map Prod.fst).Nodup := by
        rw [List.map_map]
        exact nodup
      exact ⟨⟨_, keys⟩, index_eq_ok_iff.2 ⟨by simpa [OrderedMap.keys, OrderedMap.empty] using nodup,
        by simp [OrderedMap.empty]⟩⟩
    obtain ⟨table, indexed⟩ := indexed
    obtain ⟨-, keys, indexes⟩ := indexes_of_index indexed
    have resolved : ∃ out, resolveAll table table.keys .empty .empty = .ok out := by
      refine resolveAll_complete nodup indexes all sound_empty fun id mem => ?_
      rw [keys] at mem
      exact List.mem_map.1 mem
    obtain ⟨out, resolved⟩ := resolved
    exact ⟨⟨out⟩, bind_eq_ok_iff.2 ⟨table, indexed, bind_eq_ok_iff.2 ⟨out, resolved, rfl⟩⟩⟩

/-! ## What a catalog shows -/

/-- The resource at each place is the one found under the key at that place. -/
theorem values_map_some (m : ResourceMap) : m.values.map some = m.keys.map m.get? := by
  rw [OrderedMap.values, OrderedMap.keys, List.map_map, List.map_map]
  refine List.map_congr_left fun entry mem => ?_
  exact (OrderedMap.get?_eq_some_iff.2 mem).symm

theorem reproduces_of_ofRows (h : ofRows rows = .ok catalog) : Reproduces rows catalog := by
  obtain ⟨-, keys, -⟩ := entries_of_ofRows h
  have listed : catalog.toList.map some = rows.map fun row => catalog.get? row.id := by
    rw [toList, values_map_some, keys, List.map_map]
    rfl
  refine ⟨?_, listed, fun row declared => ?_⟩
  · have found : ∀ row ∈ rows, (catalog.get? row.id).map (·.id) = some row.id := by
      intro row declared
      obtain ⟨r, found, represents⟩ := exists_get? h declared
      rw [found, Option.map_some, represents.id_eq]
    have ids : (catalog.toList.map (·.id)).map some = (rows.map (·.id)).map some := by
      calc (catalog.toList.map (·.id)).map some
          = (catalog.toList.map some).map (Option.map (·.id)) := by simp
        _ = rows.map fun row => (catalog.get? row.id).map (·.id) := by rw [listed]; simp
        _ = (rows.map (·.id)).map some := by
          rw [List.map_map]
          exact List.map_congr_left found
    exact List.map_injective_iff.2 (fun _ _ => Option.some.inj) ids
  · obtain ⟨r, found, represents⟩ := exists_get? h declared
    obtain ⟨path, upward, ids⟩ := represents.rootPath
    refine ⟨r, found, represents.id_eq, represents.kind_eq,
      fun kind => (represents.leaf_data kind).2, path, r.lineage, upward,
      Resource.chain_eq_of_depth_lt represents.depth_lt, ?_⟩
    rw [Resource.lineage, List.map_reverse, ids]

/-- Catalogs of the same rows in different orders agree on every id. -/
theorem get?_eq_of_perm {other : List ResourceRow} (perm : rows.Perm other) {catalog' : Catalog}
    (h : ofRows rows = .ok catalog) (h' : ofRows other = .ok catalog') (id : String) :
    catalog.get? id = catalog'.get? id := by
  obtain ⟨-, keys, entered⟩ := entries_of_ofRows h
  obtain ⟨nodup, keys', -⟩ := entries_of_ofRows h'
  cases found : catalog.get? id with
  | none =>
    have unknown : id ∉ catalog'.resources.keys := by
      rw [keys', ← (perm.map _).mem_iff, ← keys]
      exact OrderedMap.get?_eq_none_iff.1 found
    exact (OrderedMap.get?_eq_none_iff.2 unknown).symm
  | some r =>
    obtain ⟨row, rfl, represents⟩ := entered id r found
    obtain ⟨r', found', represents'⟩ := exists_get? h' (perm.subset represents.declared)
    rw [found', (represents.mono perm.subset).unique nodup represents']

/-- A catalog is built from rows if and only if they are a forest, and then shows them as
declared; the order of the rows decides neither whether there is a catalog nor what it has
under an id. -/
theorem ofRows_exact (rows : List ResourceRow) :
    ((∃ catalog, ofRows rows = .ok catalog) ↔ IsForest rows) ∧
      (∀ catalog, ofRows rows = .ok catalog → Reproduces rows catalog) ∧
      ∀ other : List ResourceRow, rows.Perm other →
        ((∃ catalog, ofRows rows = .ok catalog) ↔ ∃ catalog, ofRows other = .ok catalog) ∧
        ∀ catalog catalog', ofRows rows = .ok catalog → ofRows other = .ok catalog' →
          ∀ id, catalog.get? id = catalog'.get? id := by
  refine ⟨ofRows_eq_ok_iff, fun catalog => reproduces_of_ofRows, fun other perm => ⟨?_, ?_⟩⟩
  · rw [ofRows_eq_ok_iff, ofRows_eq_ok_iff]
    exact isForest_perm perm
  · exact fun catalog catalog' h h' => get?_eq_of_perm perm h h'

namespace Sample

/-- A leaf in a directory in a system, each in front of its parent. -/
def upward : List ResourceRow :=
  [⟨"/s/d/f", .leaf, some "/s/d", some "T", some "txt", none⟩,
    ⟨"/s/d", .directory, some "/s", none, none, none⟩, ⟨"/s", .system, none, none, none, none⟩]

end Sample

/-- Both ways round the rows give a catalog, and the same one but for the order. -/
theorem ofRows_exact_upward : ∃ catalog catalog', ofRows Sample.upward = .ok catalog ∧
    ofRows Sample.upward.reverse = .ok catalog' ∧ IsForest Sample.upward ∧
    Reproduces Sample.upward catalog ∧ ∀ id, catalog.get? id = catalog'.get? id := by
  obtain ⟨forest, reproduces, perm⟩ := ofRows_exact Sample.upward
  have built : ∃ catalog, ofRows Sample.upward = .ok catalog := ⟨_, rfl⟩
  obtain ⟨same, agree⟩ := perm _ (List.reverse_perm Sample.upward).symm
  obtain ⟨catalog, h⟩ := built
  obtain ⟨catalog', h'⟩ := same.1 ⟨catalog, h⟩
  exact ⟨catalog, catalog', h, h', forest.1 ⟨catalog, h⟩, reproduces catalog h,
    agree catalog catalog' h h'⟩

end PolicyTree.Catalog
