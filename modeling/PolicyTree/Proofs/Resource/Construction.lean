import PolicyTree.Resource.Basic
/-
  Which resources there are. Each is a system or stands one step below its parent
  (`parent_induction`). `directory?` and `leaf?` succeed exactly below a node that
  `TakesChildren`; `Constructible` holds of what they and the roots yield.

  The chain of a constructible resource is never refused (`Constructible.chain_eq`), and if the
  resource is a leaf its type has a name (`Constructible.type_ne_empty`).
-/
namespace PolicyTree

/-- A step behind another one succeeds if both do. -/
theorem bind_eq_ok_iff {ε α β : Type} {step : Except ε α} {next : α → Except ε β} {result : β} :
    (step >>= next) = .ok result ↔ ∃ value, step = .ok value ∧ next value = .ok result := by
  cases step with
  | error e => simp [bind, Except.bind]
  | ok value => simp [bind, Except.bind]

/-- A step behind another one fails if the first fails, or if it does itself. -/
theorem bind_eq_error_iff {ε α β : Type} {step : Except ε α} {next : α → Except ε β} {error : ε} :
    (step >>= next) = .error error ↔
      step = .error error ∨ ∃ value, step = .ok value ∧ next value = .error error := by
  cases step with
  | error e => simp [bind, Except.bind]
  | ok value => simp [bind, Except.bind]

namespace Resource

/-! ## One step down -/

section parents

variable {parent r : Resource}

/-- What holds of the systems, and of a node if it holds of its parent, holds of all. -/
@[elab_as_elim]
theorem parent_induction {P : Resource → Prop} (root : ∀ id, P (.system id))
    (below : ∀ r parent, r.parent? = some parent → P parent → P r) (r : Resource) : P r := by
  induction r with
  | system id => exact root id
  | directory id parent ih => exact below _ parent rfl ih
  | leaf id parent type format connection ih => exact below _ parent rfl ih

theorem ancestors_of_parent (h : r.parent? = some parent) :
    r.ancestors = parent :: parent.ancestors := by
  cases r with
  | system id => cases h
  | directory id above =>
    cases h
    rfl
  | leaf id above type format connection =>
    cases h
    rfl

theorem depth_of_parent (h : r.parent? = some parent) : r.depth = parent.depth + 1 := by
  rw [depth, ancestors_of_parent h]
  rfl

theorem lineage_of_parent (h : r.parent? = some parent) : r.lineage = parent.lineage ++ [r] := by
  rw [lineage, lineage, ancestors_of_parent h, List.reverse_cons]

theorem kind_ne_system (h : r.parent? = some parent) : r.kind ≠ .system := by
  cases r with
  | system id => cases h
  | directory id above => nofun
  | leaf id above type format connection => nofun

end parents

/-! ## The constructors -/

/-- A node may stand below: this one is no leaf, and the chain of the new node fits. -/
def TakesChildren (parent : Resource) : Prop :=
  parent.kind ≠ .leaf ∧ parent.depth + 2 ≤ maxChain

theorem isLeaf_eq_true_iff (r : Resource) : r.isLeaf = true ↔ r.kind = .leaf := by
  cases r <;> simp [isLeaf, kind]

theorem attach_eq_ok_iff (id : String) {parent : Resource} :
    attach id parent = .ok () ↔ parent.TakesChildren := by
  unfold attach TakesChildren
  rw [ne_eq, ← isLeaf_eq_true_iff]
  split
  · next leaf => simp [leaf]
  · next inner =>
    split
    · next long => simp [inner]; omega
    · next fits => simp [inner]; omega

/-- A node is refused below a leaf, and at the end of a chain that is full. -/
theorem attach_eq_error {id : String} {parent : Resource} {error : ModelError}
    (h : attach id parent = .error error) :
    parent.kind = .leaf ∧ error = .malformedHierarchy id (.leafParent parent.id) ∨
      maxChain < parent.depth + 2 ∧ error = .malformedHierarchy id .chainTooLong := by
  unfold attach at h
  split at h
  · next leaf =>
    cases h
    exact .inl ⟨(isLeaf_eq_true_iff parent).1 leaf, rfl⟩
  · split at h
    · next long =>
      cases h
      exact .inr ⟨long, rfl⟩
    · cases h

theorem directory?_eq_ok_iff {id : String} {parent r : Resource} :
    directory? id parent = .ok r ↔ parent.TakesChildren ∧ r = .directory id parent := by
  rw [← attach_eq_ok_iff id, directory?, bind_eq_ok_iff]
  constructor
  · rintro ⟨_, attached, built⟩
    exact ⟨attached, (Except.ok.inj built).symm⟩
  · rintro ⟨attached, rfl⟩
    exact ⟨(), attached, rfl⟩

/-- What `leaf?` asks of a type or a format: that it is given and not empty. -/
theorem filter_ne_empty_eq_some_iff (text : Option String) {t : String} :
    text.filter (· ≠ "") = some t ↔ text = some t ∧ t ≠ "" := by
  rw [Option.filter_eq_some_iff, decide_eq_true_eq]

theorem leaf?_eq_ok_iff {id : String} {parent r : Resource} {type format : Option String}
    {connection : Option Connection} :
    leaf? id parent type format connection = .ok r ↔
      parent.TakesChildren ∧ ∃ t f, type = some t ∧ t ≠ "" ∧ format = some f ∧ f ≠ "" ∧
        r = .leaf id parent t f connection := by
  rw [leaf?]
  cases ht : type.filter (· ≠ "") with
  | none =>
    refine iff_of_false nofun ?_
    rintro ⟨-, t, f, given, ne, -⟩
    rw [(filter_ne_empty_eq_some_iff type).2 ⟨given, ne⟩] at ht
    cases ht
  | some t =>
    cases hf : format.filter (· ≠ "") with
    | none =>
      refine iff_of_false nofun ?_
      rintro ⟨-, t, f, -, -, given, ne, -⟩
      rw [(filter_ne_empty_eq_some_iff format).2 ⟨given, ne⟩] at hf
      cases hf
    | some f =>
      obtain ⟨rfl, t_ne⟩ := (filter_ne_empty_eq_some_iff type).1 ht
      obtain ⟨rfl, f_ne⟩ := (filter_ne_empty_eq_some_iff format).1 hf
      show (attach id parent >>= fun _ => pure (.leaf id parent t f connection)) = .ok r ↔ _
      rw [bind_eq_ok_iff]
      constructor
      · rintro ⟨_, attached, built⟩
        exact ⟨(attach_eq_ok_iff id).1 attached, t, f, rfl, t_ne, rfl, f_ne,
          (Except.ok.inj built).symm⟩
      · rintro ⟨takes, t', f', ht', -, hf', -, rfl⟩
        cases ht'
        cases hf'
        exact ⟨(), (attach_eq_ok_iff id).2 takes, rfl⟩

/-- What `directory?` is refused for is the place below the parent. -/
theorem attach_of_directory?_eq_error {id : String} {parent : Resource} {error : ModelError}
    (h : directory? id parent = .error error) : attach id parent = .error error := by
  rcases bind_eq_error_iff.1 h with refused | ⟨_, -, built⟩
  · exact refused
  · cases built

/-- What `leaf?` is refused for is a type or a format that is missing or empty, or else the place
below the parent. -/
theorem leaf?_eq_error {id : String} {parent : Resource} {type format : Option String}
    {connection : Option Connection} {error : ModelError}
    (h : leaf? id parent type format connection = .error error) :
    type.filter (· ≠ "") = none ∧ error = .invalidResource (.leafWithoutType id) ∨
      format.filter (· ≠ "") = none ∧ error = .invalidResource (.leafWithoutFormat id) ∨
        attach id parent = .error error := by
  rw [leaf?] at h
  cases ht : type.filter (· ≠ "") with
  | none =>
    rw [ht] at h
    cases h
    exact .inl ⟨rfl, rfl⟩
  | some t =>
    rw [ht] at h
    cases hf : format.filter (· ≠ "") with
    | none =>
      rw [hf] at h
      cases h
      exact .inr (.inl ⟨rfl, rfl⟩)
    | some f =>
      rw [hf] at h
      rcases bind_eq_error_iff.1 h with refused | ⟨_, -, built⟩
      · exact .inr (.inr refused)
      · cases built

/-! ## What they yield -/

/-- A resource that the constructors can build. -/
inductive Constructible : Resource → Prop
  | system (id : String) : Constructible (.system id)
  | directory {id : String} {parent r : Resource} (above : Constructible parent)
      (built : directory? id parent = .ok r) : Constructible r
  | leaf {id : String} {parent r : Resource} {type format : Option String}
      {connection : Option Connection} (above : Constructible parent)
      (built : leaf? id parent type format connection = .ok r) : Constructible r

theorem Constructible.depth_lt {r : Resource} (h : Constructible r) : r.depth < maxChain := by
  cases h with
  | system id =>
    show 0 < maxChain
    decide
  | directory above built =>
    obtain ⟨takes, rfl⟩ := directory?_eq_ok_iff.1 built
    have := takes.2
    simp only [depth, ancestors, List.length_cons] at this ⊢
    omega
  | leaf above built =>
    obtain ⟨takes, t, f, -, -, -, -, rfl⟩ := leaf?_eq_ok_iff.1 built
    have := takes.2
    simp only [depth, ancestors, List.length_cons] at this ⊢
    omega

/-- Only systems have no parent, so every chain starts at one. -/
theorem exists_head?_lineage (r : Resource) : ∃ id, r.lineage.head? = some (.system id) := by
  induction r using parent_induction with
  | root id => exact ⟨id, rfl⟩
  | below r parent above ih =>
    obtain ⟨id, head⟩ := ih
    refine ⟨id, ?_⟩
    rw [lineage_of_parent above, List.head?_append, head]
    rfl

theorem chain_eq_of_depth_lt {r : Resource} (h : r.depth < maxChain) :
    r.chain = .ok r.lineage := by
  obtain ⟨id, root⟩ := exists_head?_lineage r
  rw [chain, if_pos (by rw [length_lineage]; omega), root]

/-- The chain of parents of a constructible resource is never refused. -/
theorem Constructible.chain_eq {r : Resource} (h : Constructible r) : r.chain = .ok r.lineage :=
  chain_eq_of_depth_lt h.depth_lt

theorem Constructible.type_ne_empty {r : Resource} (h : Constructible r) {type : String}
    (typed : r.type? = some type) : type ≠ "" := by
  cases h with
  | system id => cases typed
  | directory above built =>
    obtain ⟨-, rfl⟩ := directory?_eq_ok_iff.1 built
    cases typed
  | leaf above built =>
    obtain ⟨-, t, f, -, ne, -, -, rfl⟩ := leaf?_eq_ok_iff.1 built
    cases typed
    exact ne

end Resource

end PolicyTree
