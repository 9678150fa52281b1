import Mathlib.Data.List.Chain
import PolicyTree.Proofs.Resource.Construction
/-
  The shape of a chain of parents. `IsChainOf` says what the chain of a resource is to look
  like: it starts at a system and ends at the resource, each node is the parent of the next, and
  it has no more nodes than a chain may have. One step down keeps this (`IsChainOf.below`), so
  it holds of every constructible resource (`Constructible.isChainOf`).

  The chain of a node above is the upper piece of the chain (`lineage_eq_append`).
-/
namespace PolicyTree.Resource

variable {a parent r : Resource}

/-! ## Nodes above -/

/-- The chain goes through the chain of a node above, and on below that node. -/
theorem lineage_eq_append (h : a ∈ r.ancestors) :
    ∃ below, r.lineage = a.lineage ++ below ∧ ∀ node ∈ below, a ∈ node.ancestors := by
  induction r using parent_induction with
  | root id => cases h
  | below r parent above ih =>
    have mem := h
    rw [ancestors_of_parent above] at mem
    rcases List.mem_cons.1 mem with rfl | mem
    · exact ⟨[r], lineage_of_parent above, List.forall_mem_singleton.2 h⟩
    · obtain ⟨below, eq, under⟩ := ih mem
      refine ⟨below ++ [r], ?_, ?_⟩
      · rw [lineage_of_parent above, eq, List.append_assoc]
      · exact List.forall_mem_append.2 ⟨under, List.forall_mem_singleton.2 h⟩

theorem depth_lt_of_mem_ancestors (h : a ∈ r.ancestors) : a.depth < r.depth := by
  induction r using parent_induction with
  | root id => cases h
  | below r parent above ih =>
    rw [depth_of_parent above]
    rw [ancestors_of_parent above] at h
    rcases List.mem_cons.1 h with rfl | mem
    · exact Nat.lt_succ_self _
    · exact Nat.lt_succ_of_lt (ih mem)

theorem mem_ancestors_trans {b : Resource} (h : a ∈ r.ancestors) (h' : b ∈ a.ancestors) :
    b ∈ r.ancestors := by
  induction r using parent_induction with
  | root id => cases h
  | below r parent above ih =>
    rw [ancestors_of_parent above] at h ⊢
    rcases List.mem_cons.1 h with rfl | mem
    · exact List.mem_cons_of_mem _ h'
    · exact List.mem_cons_of_mem _ (ih mem)

/-- Of two nodes above one stands above the other. -/
theorem ancestors_comparable {b : Resource} (h : a ∈ r.ancestors) (h' : b ∈ r.ancestors) :
    a = b ∨ b ∈ a.ancestors ∨ a ∈ b.ancestors := by
  induction r using parent_induction with
  | root id => cases h
  | below r parent above ih =>
    rw [ancestors_of_parent above] at h h'
    rcases List.mem_cons.1 h with rfl | mem <;> rcases List.mem_cons.1 h' with rfl | mem'
    · exact .inl rfl
    · exact .inr (.inl mem')
    · exact .inr (.inr mem)
    · exact ih mem mem'

/-! ## Chains -/

/-- A list is the chain from a system down to a resource, and not longer than a chain may be. -/
structure IsChainOf (r : Resource) (chain : List Resource) : Prop where
  root : ∃ id, chain.head? = some (.system id)
  last : chain.getLast? = some r
  inner : ∀ node ∈ chain.tail, node.kind ≠ .system
  branching : ∀ node ∈ chain.dropLast, node.kind ≠ .leaf
  linked : chain.IsChain fun upper lower => lower.parent? = some upper
  length : chain.length = r.depth + 1
  fits : chain.length ≤ 64

theorem isChainOf_system (id : String) : IsChainOf (.system id) [.system id] where
  root := ⟨id, rfl⟩
  last := rfl
  inner := nofun
  branching := nofun
  linked := .singleton _
  length := rfl
  fits := by
    show 1 ≤ 64
    decide

/-- A node below one that takes children goes to the end of its chain. -/
theorem IsChainOf.below {chain : List Resource} (h : parent.IsChainOf chain)
    (takes : parent.TakesChildren) (above : r.parent? = some parent) :
    r.IsChainOf (chain ++ [r]) := by
  obtain ⟨id, head⟩ := h.root
  have nonempty : chain ≠ [] := by
    rintro rfl
    cases head
  have ends : chain = chain.dropLast ++ [parent] :=
    (List.dropLast_append_getLast? parent h.last).symm
  exact {
    root := ⟨id, by rw [List.head?_append, head]; rfl⟩
    last := List.getLast?_concat
    inner := by
      rw [List.tail_append_of_ne_nil nonempty]
      exact List.forall_mem_append.2 ⟨h.inner, List.forall_mem_singleton.2 (kind_ne_system above)⟩
    branching := by
      rw [List.dropLast_concat, ends]
      exact List.forall_mem_append.2 ⟨h.branching, List.forall_mem_singleton.2 takes.1⟩
    linked := by
      refine List.isChain_append.2 ⟨h.linked, .singleton _, ?_⟩
      intro upper hu lower hl
      rw [h.last] at hu
      cases hu
      cases hl
      exact above
    length := by
      rw [List.length_append, h.length, depth_of_parent above]
      rfl
    fits := by
      have room := takes.2
      rw [List.length_append, h.length]
      exact room }

theorem Constructible.isChainOf (h : r.Constructible) : r.IsChainOf r.lineage := by
  induction h with
  | system id => exact isChainOf_system id
  | directory above built ih =>
    obtain ⟨takes, rfl⟩ := directory?_eq_ok_iff.1 built
    rw [lineage_of_parent rfl]
    exact ih.below takes rfl
  | leaf above built ih =>
    obtain ⟨takes, t, f, -, -, -, -, rfl⟩ := leaf?_eq_ok_iff.1 built
    rw [lineage_of_parent rfl]
    exact ih.below takes rfl

/-- A node above is no leaf, so it has no data type. -/
theorem Constructible.typeName_of_mem_ancestors (h : r.Constructible) (mem : a ∈ r.ancestors) :
    a.typeName = "" := by
  have upper : r.lineage.dropLast = r.ancestors.reverse := by
    rw [lineage, List.reverse_cons, List.dropLast_concat]
  have inner : a.kind ≠ .leaf := by
    refine h.isChainOf.branching a ?_
    rw [upper]
    exact List.mem_reverse.2 mem
  cases a with
  | system id => rfl
  | directory id parent => rfl
  | leaf id parent type format connection => exact absurd rfl inner

end PolicyTree.Resource
