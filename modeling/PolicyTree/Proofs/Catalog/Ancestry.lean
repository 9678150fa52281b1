import PolicyTree.Proofs.Catalog.Reproduction
/-
  Who stands above whom in a catalog. `isDescendantOf` goes up the parents that a resource
  carries with it and compares ids alone. In a catalog that was built an id stands for one
  resource wherever it occurs, so what is found is the resource itself
  (`isDescendantOf_eq_true_iff`), and the rows say the same (`Represents.mem_ancestors_iff`).

  Hence the declared tree is ordered (`descendants_ordered`).
-/
namespace PolicyTree.Catalog

variable {rows : List ResourceRow} {catalog : Catalog} {a b : Resource}

/-- Among the nodes above a resource of a catalog the comparison of ids finds the resource it is
asked for, and no other. -/
theorem isDescendantOf_eq_true_iff (h : ofRows rows = .ok catalog) (listed : a ∈ catalog.toList)
    (listed' : b ∈ catalog.toList) : a.isDescendantOf b = true ↔ b ∈ a.ancestors := by
  rw [Resource.isDescendantOf, List.any_eq_true]
  constructor
  · rintro ⟨node, above, same⟩
    have onChain : node ∈ a.lineage := List.mem_reverse.2 (List.mem_cons_of_mem _ above)
    rwa [← eq_of_id_eq_of_mem_chain h listed onChain listed' (eq_of_beq same)]
  · intro above
    exact ⟨b, above, beq_self_eq_true b.id⟩

theorem isDescendantOf_iff_transGen (h : ofRows rows = .ok catalog) (listed : a ∈ catalog.toList)
    (listed' : b ∈ catalog.toList) {row : ResourceRow} (declared : row ∈ rows)
    (own : row.id = a.id) : a.isDescendantOf b = true ↔
      ∃ upper, Relation.TransGen (DeclaredUnder rows) row upper ∧ upper.id = b.id := by
  obtain ⟨nodup, -⟩ := entries_of_ofRows h
  obtain ⟨lower, represents⟩ := exists_represents_of_mem h listed
  obtain ⟨upper, above⟩ := exists_represents_of_mem h listed'
  have same := eq_of_id_eq nodup represents.declared declared (represents.id_eq.symm.trans own.symm)
  subst same
  rw [isDescendantOf_eq_true_iff h listed listed', represents.mem_ancestors_iff nodup above]
  constructor
  · intro steps
    exact ⟨upper, steps, above.id_eq.symm⟩
  · rintro ⟨other, steps, id⟩
    have known : other ∈ rows := by
      cases steps with
      | single under => exact under.1
      | tail _ under => exact under.1
    rwa [eq_of_id_eq nodup above.declared known (above.id_eq.symm.trans id.symm)]

/-- A node stands above a resource exactly if its chain passes it on the way down. -/
theorem mem_ancestors_iff_chain (fits : a.Constructible) : b ∈ a.ancestors ↔
    ∃ upper lower, a.chain = .ok (upper ++ b :: (lower ++ [a])) := by
  have chain : a.chain = .ok (a.ancestors.reverse ++ [a]) := by
    rw [fits.chain_eq, Resource.lineage, List.reverse_cons]
  rw [chain]
  constructor
  · intro above
    obtain ⟨upper, lower, split⟩ := List.append_of_mem (List.mem_reverse.2 above)
    refine ⟨upper, lower, ?_⟩
    rw [split, List.append_assoc, List.cons_append]
  · rintro ⟨upper, lower, split⟩
    rw [Except.ok.injEq, ← List.cons_append, ← List.append_assoc] at split
    have upward : a.ancestors.reverse = upper ++ b :: lower := List.append_inj_left' split rfl
    rw [← List.mem_reverse, upward]
    exact List.mem_append_right _ List.mem_cons_self

variable (rows catalog) in
/-- Being a descendant is what the rows declare, and what the chains show; and it is the order of
a tree, in which nothing stands above a system. -/
structure OrdersDescendants : Prop where
  ids : catalog.toList.map (·.id) = rows.map (·.id)
  declared : ∀ a ∈ catalog.toList, ∀ b ∈ catalog.toList, ∀ row ∈ rows, row.id = a.id →
    (a.isDescendantOf b = true ↔
      ∃ upper, Relation.TransGen (DeclaredUnder rows) row upper ∧ upper.id = b.id)
  onChain : ∀ a ∈ catalog.toList, ∀ b ∈ catalog.toList,
    (a.isDescendantOf b = true ↔ ∃ upper lower, a.chain = .ok (upper ++ b :: (lower ++ [a])))
  irreflexive : ∀ a ∈ catalog.toList, a.isDescendantOf a = false
  asymmetric : ∀ a ∈ catalog.toList, ∀ b ∈ catalog.toList,
    a.isDescendantOf b = true → b.isDescendantOf a = false
  transitive : ∀ a ∈ catalog.toList, ∀ b ∈ catalog.toList, ∀ c ∈ catalog.toList,
    a.isDescendantOf b = true → b.isDescendantOf c = true → a.isDescendantOf c = true
  system : ∀ a ∈ catalog.toList, a.kind = .system → ∀ b, a.isDescendantOf b = false
  comparable : ∀ a ∈ catalog.toList, ∀ b ∈ catalog.toList, ∀ c ∈ catalog.toList,
    a.isDescendantOf b = true → a.isDescendantOf c = true →
      b = c ∨ b.isDescendantOf c = true ∨ c.isDescendantOf b = true

/-- On a catalog that was built being a descendant is the strict order of the declared tree. -/
theorem descendants_ordered (h : ofRows rows = .ok catalog) : OrdersDescendants rows catalog where
  ids := (reproduces_of_ofRows h).ids
  declared a listed b listed' row declared own :=
    isDescendantOf_iff_transGen h listed listed' declared own
  onChain a listed b listed' := by
    rw [isDescendantOf_eq_true_iff h listed listed']
    exact mem_ancestors_iff_chain (constructible_of_ofRows h listed)
  irreflexive a listed := by
    rw [Bool.eq_false_iff, ne_eq, isDescendantOf_eq_true_iff h listed listed]
    intro above
    exact Nat.lt_irrefl _ (Resource.depth_lt_of_mem_ancestors above)
  asymmetric a listed b listed' under := by
    rw [isDescendantOf_eq_true_iff h listed listed'] at under
    rw [Bool.eq_false_iff, ne_eq, isDescendantOf_eq_true_iff h listed' listed]
    intro above
    have less := Resource.depth_lt_of_mem_ancestors under
    exact Nat.lt_asymm less (Resource.depth_lt_of_mem_ancestors above)
  transitive a listed b listed' c listed'' under under' := by
    rw [isDescendantOf_eq_true_iff h listed listed'] at under
    rw [isDescendantOf_eq_true_iff h listed' listed''] at under'
    rw [isDescendantOf_eq_true_iff h listed listed'']
    exact Resource.mem_ancestors_trans under under'
  system a listed kind b := by
    cases a with
    | system id => rfl
    | directory id parent => cases kind
    | leaf id parent type format connection => cases kind
  comparable a listed b listed' c listed'' under under' := by
    rw [isDescendantOf_eq_true_iff h listed listed'] at under
    rw [isDescendantOf_eq_true_iff h listed listed''] at under'
    rw [isDescendantOf_eq_true_iff h listed' listed'',
      isDescendantOf_eq_true_iff h listed'' listed']
    exact Resource.ancestors_comparable under under'

/-- The leaf, whose row stands in front of all others, is two steps below the system, and not the
other way round. -/
theorem descendants_ordered_upward : ∃ catalog file root, ofRows Sample.upward = .ok catalog ∧
    OrdersDescendants Sample.upward catalog ∧ catalog.get? "/s/d/f" = some file ∧
    catalog.get? "/s" = some root ∧ file.isDescendantOf root = true ∧
    root.isDescendantOf file = false := by
  have built : ∃ catalog file root, ofRows Sample.upward = .ok catalog ∧
      catalog.get? "/s/d/f" = some file ∧ catalog.get? "/s" = some root :=
    ⟨_, _, _, rfl, rfl, rfl⟩
  obtain ⟨catalog, file, root, h, found, found'⟩ := built
  have order := descendants_ordered h
  have listed := mem_toList_of_get? found
  have listed' := mem_toList_of_get? found'
  have first : DeclaredUnder Sample.upward
      ⟨"/s/d/f", .leaf, some "/s/d", some "T", some "txt", none⟩
      ⟨"/s/d", .directory, some "/s", none, none, none⟩ := ⟨by simp [Sample.upward], rfl⟩
  have second : DeclaredUnder Sample.upward ⟨"/s/d", .directory, some "/s", none, none, none⟩
      ⟨"/s", .system, none, none, none, none⟩ := ⟨by simp [Sample.upward], rfl⟩
  have below : file.isDescendantOf root = true := by
    refine (order.declared file listed root listed' _ List.mem_cons_self ?_).2
      ⟨_, .tail (.single first) second, ?_⟩
    · exact (id_eq_of_get? h found).symm
    · exact (id_eq_of_get? h found').symm
  exact ⟨catalog, file, root, h, order, found, found', below,
    order.asymmetric file listed root listed' below⟩

end PolicyTree.Catalog
