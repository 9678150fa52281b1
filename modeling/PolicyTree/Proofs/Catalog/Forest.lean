import Mathlib.Data.List.Nodup
import Mathlib.Logic.Relation
import PolicyTree.Catalog.Basic
import PolicyTree.Proofs.Resource.Lineage
/-
  What rows describe, without regard to how a catalog is built. `IsForest` lists the
  conditions on rows in terms of their declared parents alone. `Represents` says which resource
  a row stands for; a row stands for one resource at most, and the order of the rows does not
  matter.

  Main statement: `isForest_iff` (rows are a forest if and only if no id stands twice and each
  row stands for a resource).
-/
namespace PolicyTree

namespace ResourceRow

/-! ## One row -/

theorem declaredParent_eq_none_iff {row : ResourceRow} :
    row.declaredParent = .ok none ↔ row.kind = .system ∧ row.parent = none := by
  unfold declaredParent
  split <;> simp_all

theorem declaredParent_eq_some_iff {row : ResourceRow} {above : String} :
    row.declaredParent = .ok (some above) ↔ row.kind ≠ .system ∧ row.parent = some above := by
  unfold declaredParent
  split <;> simp_all

/-- A leaf must be given a type and a format, and neither may be empty. -/
def Typed (row : ResourceRow) : Prop :=
  (∃ type, row.type = some type ∧ type ≠ "") ∧ ∃ format, row.format = some format ∧ format ≠ ""

theorem build_root {row : ResourceRow} (kind : row.kind = .system) (parent : Option Resource) :
    row.build parent = .ok (.system row.id) := by
  unfold build
  rw [kind]

theorem build_directory_iff {row : ResourceRow} (kind : row.kind = .directory)
    {parent r : Resource} :
    row.build (some parent) = .ok r ↔ parent.TakesChildren ∧ r = .directory row.id parent := by
  rw [← Resource.directory?_eq_ok_iff]
  unfold build
  rw [kind]

theorem getD_eq_iff {text : Option String} {t : String} (ne : t ≠ "") :
    text.getD "" = t ↔ text = some t := by
  cases text with
  | none => simp [ne.symm]
  | some own => simp

theorem build_leaf_iff {row : ResourceRow} (kind : row.kind = .leaf) {parent r : Resource} :
    row.build (some parent) = .ok r ↔
      parent.TakesChildren ∧ ∃ t f, row.type = some t ∧ t ≠ "" ∧ row.format = some f ∧ f ≠ "" ∧
        r = .leaf row.id parent t f row.connection := by
  have built : row.build (some parent) = Resource.leaf? row.id parent
      (some (row.type.getD "")) (some (row.format.getD "")) row.connection := by
    unfold build
    rw [kind]
  rw [built, Resource.leaf?_eq_ok_iff]
  refine and_congr_right fun _ => exists_congr fun t => exists_congr fun f => ?_
  constructor
  · rintro ⟨ht, t_ne, hf, f_ne, rfl⟩
    exact ⟨(getD_eq_iff t_ne).1 (Option.some.inj ht), t_ne,
      (getD_eq_iff f_ne).1 (Option.some.inj hf), f_ne, rfl⟩
  · rintro ⟨ht, t_ne, hf, f_ne, rfl⟩
    exact ⟨congrArg some ((getD_eq_iff t_ne).2 ht), t_ne,
      congrArg some ((getD_eq_iff f_ne).2 hf), f_ne, rfl⟩

/-- The resource has the data of the row, and stands below the parent it was given. -/
structure BuiltBelow (row : ResourceRow) (parent r : Resource) : Prop where
  takes : parent.TakesChildren
  id : r.id = row.id
  kind : r.kind = row.kind
  ancestors : r.ancestors = parent :: parent.ancestors
  leaf : row.kind = .leaf → row.Typed ∧ r.type? = row.type ∧ r.format? = row.format ∧
    r.connection? = row.connection

theorem BuiltBelow.depth {row : ResourceRow} {parent r : Resource}
    (h : row.BuiltBelow parent r) : r.depth = parent.depth + 1 := by
  rw [Resource.depth, h.ancestors, List.length_cons]
  rfl

theorem BuiltBelow.lineage {row : ResourceRow} {parent r : Resource}
    (h : row.BuiltBelow parent r) : r.lineage = parent.lineage ++ [r] := by
  rw [Resource.lineage, h.ancestors, List.reverse_cons]
  rfl

theorem builtBelow {row : ResourceRow} {above : String}
    (under : row.declaredParent = .ok (some above)) {parent r : Resource}
    (built : row.build (some parent) = .ok r) : row.BuiltBelow parent r := by
  cases kind : row.kind with
  | system => exact absurd kind (declaredParent_eq_some_iff.1 under).1
  | directory =>
    obtain ⟨takes, rfl⟩ := (build_directory_iff kind).1 built
    exact ⟨takes, rfl, kind.symm, rfl, by rw [kind]; nofun⟩
  | leaf =>
    obtain ⟨takes, t, f, ht, t_ne, hf, f_ne, rfl⟩ := (build_leaf_iff kind).1 built
    exact ⟨takes, rfl, kind.symm, rfl,
      fun _ => ⟨⟨⟨t, ht, t_ne⟩, f, hf, f_ne⟩, ht.symm, hf.symm, rfl⟩⟩

/-- What is built below a constructible parent is constructible. -/
theorem constructible_of_build {row : ResourceRow} {parent r : Resource}
    (above : parent.Constructible) (built : row.build (some parent) = .ok r) :
    r.Constructible := by
  cases kind : row.kind with
  | system =>
    rw [build_root kind] at built
    cases built
    exact .system row.id
  | directory =>
    exact .directory above (Resource.directory?_eq_ok_iff.2 ((build_directory_iff kind).1 built))
  | leaf =>
    obtain ⟨takes, t, f, -, t_ne, -, f_ne, shape⟩ := (build_leaf_iff kind).1 built
    exact .leaf above (Resource.leaf?_eq_ok_iff.2 ⟨takes, t, f, rfl, t_ne, rfl, f_ne, shape⟩)

/-- A row that is no root can be built below any node that takes children, if it is typed
when it is a leaf. -/
theorem exists_build {row : ResourceRow} (kind : row.kind ≠ .system) {parent : Resource}
    (takes : parent.TakesChildren) (typed : row.kind = .leaf → row.Typed) :
    ∃ r, row.build (some parent) = .ok r := by
  cases h : row.kind with
  | system => exact absurd h kind
  | directory => exact ⟨_, (build_directory_iff h).2 ⟨takes, rfl⟩⟩
  | leaf =>
    obtain ⟨⟨t, ht, t_ne⟩, f, hf, f_ne⟩ := typed h
    exact ⟨_, (build_leaf_iff h).2 ⟨takes, t, f, ht, t_ne, hf, f_ne, rfl⟩⟩

end ResourceRow

namespace Catalog

variable {rows : List ResourceRow}

/-! ## Declared parents -/

variable (rows) in
/-- The second row is declared as the parent of the first. -/
def DeclaredUnder (lower upper : ResourceRow) : Prop :=
  upper ∈ rows ∧ lower.parent = some upper.id

variable (rows) in
/-- The rows passed when declared parents are followed from a row to a system, both ends
included. -/
inductive RootPath : ResourceRow → List ResourceRow → Prop
  | root {row : ResourceRow} (declared : row ∈ rows) (kind : row.kind = .system) :
      RootPath row [row]
  | step {row upper : ResourceRow} {path : List ResourceRow} (declared : row ∈ rows)
      (under : DeclaredUnder rows row upper) (above : RootPath upper path) :
      RootPath row (row :: path)

variable (rows) in
/-- Rows that describe trees of resources. -/
structure IsForest : Prop where
  nodup : (rows.map (·.id)).Nodup
  system_parentless : ∀ row ∈ rows, row.kind = .system → row.parent = none
  parent_declared : ∀ row ∈ rows, row.kind ≠ .system →
    ∃ upper, DeclaredUnder rows row upper ∧ upper.kind ≠ .leaf
  acyclic : ∀ row ∈ rows, ¬ Relation.TransGen (DeclaredUnder rows) row row
  rooted : ∀ row ∈ rows, ∃ path, RootPath rows row path ∧ path.length ≤ maxChain
  typed : ∀ row ∈ rows, row.kind = .leaf → row.Typed

theorem eq_of_id_eq (nodup : (rows.map (·.id)).Nodup) {row other : ResourceRow}
    (declared : row ∈ rows) (declared' : other ∈ rows) (h : row.id = other.id) : row = other :=
  List.inj_on_of_nodup_map nodup declared declared' h

/-! ## The resource of a row -/

variable (rows) in
/-- The resource is what a row describes, together with the rows above it. -/
inductive Represents : ResourceRow → Resource → Prop
  | root {row : ResourceRow} (declared : row ∈ rows) (top : row.declaredParent = .ok none) :
      Represents row (.system row.id)
  | child {row upper : ResourceRow} {parent r : Resource} (declared : row ∈ rows)
      (under : row.declaredParent = .ok (some upper.id)) (above : Represents upper parent)
      (built : row.build (some parent) = .ok r) : Represents row r

namespace Represents

variable {row : ResourceRow} {r : Resource}

theorem declared (h : Represents rows row r) : row ∈ rows := by
  cases h <;> assumption

theorem id_eq (h : Represents rows row r) : r.id = row.id := by
  cases h with
  | root => rfl
  | child declared under above built => exact (ResourceRow.builtBelow under built).id

theorem kind_eq (h : Represents rows row r) : r.kind = row.kind := by
  cases h with
  | root declared top => exact (ResourceRow.declaredParent_eq_none_iff.1 top).1.symm
  | child declared under above built => exact (ResourceRow.builtBelow under built).kind

/-- A leaf has the data of its row. -/
theorem leaf_data (h : Represents rows row r) (kind : row.kind = .leaf) :
    row.Typed ∧ r.type? = row.type ∧ r.format? = row.format ∧ r.connection? = row.connection := by
  cases h with
  | root declared top =>
    rw [(ResourceRow.declaredParent_eq_none_iff.1 top).1] at kind
    cases kind
  | child declared under above built => exact (ResourceRow.builtBelow under built).leaf kind

theorem depth_lt (h : Represents rows row r) : r.depth < maxChain := by
  cases h with
  | root =>
    show 0 < maxChain
    decide
  | child declared under above built =>
    have below := ResourceRow.builtBelow under built
    have room := below.takes.2
    rw [below.depth]
    omega

theorem constructible (h : Represents rows row r) : r.Constructible := by
  induction h with
  | root => exact .system _
  | child declared under above built ih => exact ResourceRow.constructible_of_build ih built

/-- The nodes from the resource up are the rows passed from its row to a system. -/
theorem rootPath (h : Represents rows row r) :
    ∃ path, RootPath rows row path ∧
      (r :: r.ancestors).map (·.id) = path.map (·.id) := by
  induction h with
  | root declared top =>
    exact ⟨_, .root declared (ResourceRow.declaredParent_eq_none_iff.1 top).1, rfl⟩
  | @child row upper parent r declared under above built ih =>
    have parent_eq := (ResourceRow.declaredParent_eq_some_iff.1 under).2
    obtain ⟨path, upward, ids⟩ := ih
    have below := ResourceRow.builtBelow under built
    refine ⟨row :: path, .step declared ⟨above.declared, parent_eq⟩ upward, ?_⟩
    rw [List.map_cons, List.map_cons, below.ancestors, ids, below.id]

/-- The nodes above a resource are what rows stand for, too. -/
theorem exists_of_mem_lineage (h : Represents rows row r) {node : Resource}
    (onChain : node ∈ r.lineage) : ∃ upper, Represents rows upper node := by
  induction h with
  | root declared top =>
    rw [List.mem_singleton.1 onChain]
    exact ⟨_, .root declared top⟩
  | child declared under above built ih =>
    rw [(ResourceRow.builtBelow under built).lineage] at onChain
    rcases List.mem_append.1 onChain with mem | mem
    · exact ih mem
    · rw [List.mem_singleton.1 mem]
      exact ⟨_, .child declared under above built⟩

theorem unique (nodup : (rows.map (·.id)).Nodup) {r' : Resource} (h : Represents rows row r)
    (h' : Represents rows row r') : r = r' := by
  induction h generalizing r' with
  | root declared top =>
    cases h' with
    | root => rfl
    | child declared' under' above' built' =>
      rw [top] at under'
      cases under'
  | child declared under above built ih =>
    cases h' with
    | root declared' top' =>
      rw [top'] at under
      cases under
    | child declared' under' above' built' =>
      rw [under] at under'
      have same := eq_of_id_eq nodup above.declared above'.declared
        (Option.some.inj (Except.ok.inj under'))
      subst same
      rw [ih above', built'] at built
      exact (Except.ok.inj built).symm

/-- More rows leave what a row stands for as it is. -/
theorem mono {other : List ResourceRow} (sub : rows ⊆ other) (h : Represents rows row r) :
    Represents other row r := by
  induction h with
  | root declared top => exact .root (sub declared) top
  | child declared under above built ih => exact .child (sub declared) under ih built

/-- The declared parent of a row stands for the resource right above. -/
theorem exists_above (nodup : (rows.map (·.id)).Nodup) {upper : ResourceRow}
    (h : Represents rows row r) (under : DeclaredUnder rows row upper) :
    ∃ parent, Represents rows upper parent ∧ r.ancestors = parent :: parent.ancestors := by
  cases h with
  | root declared top =>
    have parentless := (ResourceRow.declaredParent_eq_none_iff.1 top).2
    rw [DeclaredUnder, parentless] at under
    cases under.2
  | @child _ upper' parent _ declared under' above built =>
    have parent_eq := (ResourceRow.declaredParent_eq_some_iff.1 under').2
    have same : upper' = upper := by
      refine eq_of_id_eq nodup above.declared under.1 ?_
      rw [under.2] at parent_eq
      exact (Option.some.inj parent_eq).symm
    subst same
    exact ⟨parent, above, (ResourceRow.builtBelow under' built).ancestors⟩

/-- Above a resource stand the resources of the rows that following declared parents from its
row leads to. -/
theorem mem_ancestors_iff (nodup : (rows.map (·.id)).Nodup) {upper : ResourceRow}
    {node : Resource} (h : Represents rows row r) (h' : Represents rows upper node) :
    node ∈ r.ancestors ↔ Relation.TransGen (DeclaredUnder rows) row upper := by
  constructor
  · intro mem
    induction h with
    | root => cases mem
    | child declared under above built ih =>
      have under' := (ResourceRow.declaredParent_eq_some_iff.1 under).2
      rw [(ResourceRow.builtBelow under built).ancestors] at mem
      rcases List.mem_cons.1 mem with rfl | mem
      · have same := eq_of_id_eq nodup above.declared h'.declared (above.id_eq.symm.trans h'.id_eq)
        exact .single ⟨h'.declared, same ▸ under'⟩
      · exact .head ⟨above.declared, under'⟩ (ih mem)
  · intro steps
    induction steps using Relation.TransGen.head_induction_on generalizing r with
    | single under =>
      obtain ⟨parent, above, ancestors⟩ := h.exists_above nodup under
      rw [ancestors, above.unique nodup h']
      exact List.mem_cons_self
    | head under _ ih =>
      obtain ⟨parent, above, ancestors⟩ := h.exists_above nodup under
      rw [ancestors]
      exact List.mem_cons_of_mem _ (ih above)

theorem not_transGen_self (nodup : (rows.map (·.id)).Nodup) (h : Represents rows row r) :
    ¬ Relation.TransGen (DeclaredUnder rows) row row := by
  intro cycle
  have above := (h.mem_ancestors_iff nodup h).2 cycle
  exact Nat.lt_irrefl _ (Resource.depth_lt_of_mem_ancestors above)

end Represents

/-! ## Forests -/

/-- Along a path to a system of a forest that is not too long, resources can be built. -/
theorem IsForest.exists_represents (forest : IsForest rows) {row : ResourceRow}
    {path : List ResourceRow} (h : RootPath rows row path) (fits : path.length ≤ maxChain) :
    ∃ r, Represents rows row r ∧ r.depth + 1 = path.length := by
  induction h with
  | root declared kind =>
    have top := ResourceRow.declaredParent_eq_none_iff.2
      ⟨kind, forest.system_parentless _ declared kind⟩
    exact ⟨_, .root declared top, rfl⟩
  | @step row upper path declared under above ih =>
    rw [List.length_cons] at fits
    obtain ⟨parent, represents, depth⟩ := ih (by omega)
    have inner : row.kind ≠ .system := by
      intro kind
      rw [DeclaredUnder, forest.system_parentless row declared kind] at under
      cases under.2
    obtain ⟨upper', under', no_leaf⟩ := forest.parent_declared row declared inner
    have same : upper' = upper := by
      refine eq_of_id_eq forest.nodup under'.1 under.1 ?_
      exact Option.some.inj (under'.2.symm.trans under.2)
    subst same
    have takes : parent.TakesChildren := by
      refine ⟨?_, by omega⟩
      rw [represents.kind_eq]
      exact no_leaf
    obtain ⟨r, built⟩ := ResourceRow.exists_build inner takes (forest.typed row declared)
    have up := ResourceRow.declaredParent_eq_some_iff.2 ⟨inner, under.2⟩
    refine ⟨r, .child declared up represents built, ?_⟩
    rw [(ResourceRow.builtBelow up built).depth, depth, List.length_cons]

/-- Rows that each stand for a resource are a forest. -/
theorem isForest_of_represents (nodup : (rows.map (·.id)).Nodup)
    (all : ∀ row ∈ rows, ∃ r, Represents rows row r) : IsForest rows where
  nodup := nodup
  system_parentless row declared kind := by
    obtain ⟨r, represents⟩ := all row declared
    cases represents with
    | root _ top => exact (ResourceRow.declaredParent_eq_none_iff.1 top).2
    | child _ under => exact absurd kind (ResourceRow.declaredParent_eq_some_iff.1 under).1
  parent_declared row declared kind := by
    obtain ⟨r, represents⟩ := all row declared
    cases represents with
    | root _ top => exact absurd (ResourceRow.declaredParent_eq_none_iff.1 top).1 kind
    | @child _ upper _ _ _ under above built =>
      have parent_eq := (ResourceRow.declaredParent_eq_some_iff.1 under).2
      refine ⟨upper, ⟨above.declared, parent_eq⟩, ?_⟩
      rw [← above.kind_eq]
      exact (ResourceRow.builtBelow under built).takes.1
  acyclic row declared := by
    obtain ⟨r, represents⟩ := all row declared
    exact represents.not_transGen_self nodup
  rooted row declared := by
    obtain ⟨r, represents⟩ := all row declared
    obtain ⟨path, upward, ids⟩ := represents.rootPath
    have length : r.depth + 1 = path.length := by
      simpa [Resource.depth] using congrArg List.length ids
    have fits := represents.depth_lt
    exact ⟨path, upward, by omega⟩
  typed row declared kind := by
    obtain ⟨r, represents⟩ := all row declared
    exact (represents.leaf_data kind).1

/-- Rows are a forest if and only if their ids differ and each stands for a resource. -/
theorem isForest_iff : IsForest rows ↔
    (rows.map (·.id)).Nodup ∧ ∀ row ∈ rows, ∃ r, Represents rows row r := by
  constructor
  · intro forest
    refine ⟨forest.nodup, fun row declared => ?_⟩
    obtain ⟨path, upward, fits⟩ := forest.rooted row declared
    obtain ⟨r, represents, -⟩ := forest.exists_represents upward fits
    exact ⟨r, represents⟩
  · rintro ⟨nodup, all⟩
    exact isForest_of_represents nodup all

/-- The order of the rows does not matter. -/
theorem isForest_perm {other : List ResourceRow} (perm : rows.Perm other) :
    IsForest rows ↔ IsForest other := by
  have half : ∀ {xs ys : List ResourceRow}, xs.Perm ys → IsForest xs → IsForest ys := by
    intro xs ys perm forest
    obtain ⟨nodup, all⟩ := isForest_iff.1 forest
    refine isForest_iff.2 ⟨(perm.map _).nodup_iff.1 nodup, fun row declared => ?_⟩
    obtain ⟨r, represents⟩ := all row (perm.mem_iff.2 declared)
    exact ⟨r, represents.mono perm.subset⟩
  exact ⟨half perm, half perm.symm⟩

end Catalog

end PolicyTree
