import PolicyTree.Proofs.Catalog.Forest
import PolicyTree.Proofs.Map.Insertion
/-
  How a catalog is built, against what its rows stand for. A climb passes rows that lie below
  one another (`Descent`), and building them from the top down gives each the resource that it
  stands for. What has been built before a climb shortens it and does not change what comes
  out: `Sound` is all that is asked of it.

  Each step has a lemma for what a success says (`_sound`) and one for when there is a success
  (`_complete`).
-/
namespace PolicyTree.Catalog

variable {rows : List ResourceRow} {table : OrderedMap String ResourceRow} {built : ResourceMap}

/-! ## The table of rows -/

theorem index_eq_ok_iff {specs : List ResourceRow} {base out : OrderedMap String ResourceRow} :
    index specs base = .ok out ↔
      (base.keys ++ specs.map (·.id)).Nodup ∧
        out.entries = base.entries ++ specs.map fun row => (row.id, row) := by
  induction specs generalizing base with
  | nil =>
    have nodup : base.keys.Nodup := base.nodup
    obtain ⟨entries, _⟩ := base
    obtain ⟨entries', _⟩ := out
    simpa [index, nodup] using eq_comm
  | cons row rest ih =>
    rw [index]
    split
    · next stands =>
      have twice : row.id ∈ base.keys := OrderedMap.contains_eq_true_iff.1 stands
      refine iff_of_false (by simp) ?_
      rintro ⟨nodup, -⟩
      rw [List.nodup_append] at nodup
      exact nodup.2.2 _ twice _ (by simp) rfl
    · next fresh =>
      have absent : row.id ∉ base.keys := fun h => fresh (OrderedMap.contains_eq_true_iff.2 h)
      rw [ih, OrderedMap.keys_insert, if_neg absent, OrderedMap.entries_insert_of_not_mem absent]
      simp only [List.map_cons, List.append_assoc, List.singleton_append]

variable (rows table) in
/-- The table has each row under its id, and nothing else. -/
def Indexes : Prop := ∀ id row, table.get? id = some row ↔ row ∈ rows ∧ row.id = id

theorem indexes_of_index (h : index rows .empty = .ok table) :
    (rows.map (·.id)).Nodup ∧ table.keys = rows.map (·.id) ∧ Indexes rows table := by
  obtain ⟨nodup, entries⟩ := index_eq_ok_iff.1 h
  refine ⟨nodup, ?_, fun id row => ?_⟩
  · rw [OrderedMap.keys, entries]
    simp [OrderedMap.empty]
  · rw [OrderedMap.get?_eq_some_iff, entries]
    simp [OrderedMap.empty, and_comm]

/-! ## What has been built -/

variable (rows built) in
/-- Everything built so far is what a row of its id stands for. -/
def Sound : Prop :=
  ∀ id r, built.get? id = some r → ∃ row, row.id = id ∧ Represents rows row r

theorem sound_empty : Sound rows .empty := by
  intro id r h
  cases h

theorem Sound.insert (sound : Sound rows built) {row : ResourceRow} {r : Resource}
    (h : Represents rows row r) : Sound rows (built.insert row.id r) := by
  intro id r' found
  rw [OrderedMap.get?_insert] at found
  split at found
  · next eq =>
    cases found
    exact ⟨row, eq.symm, h⟩
  · exact sound id r' found

variable (rows) in
/-- Nothing, or the resource of a row. -/
def Stands (base : Option Resource) : Prop := ∀ b, base = some b → ∃ row, Represents rows row b

/-- Below the resource of its declared parent a row is built into what it stands for. -/
theorem build_eq_ok_iff_represents (nodup : (rows.map (·.id)).Nodup) {row : ResourceRow}
    {base : Option Resource} {r : Resource} (declared : row ∈ rows)
    (up : row.declaredParent = .ok (base.map (·.id))) (stands : Stands rows base) :
    row.build base = .ok r ↔ Represents rows row r := by
  cases base with
  | none =>
    rw [ResourceRow.build_root (ResourceRow.declaredParent_eq_none_iff.1 up).1]
    constructor
    · intro h
      cases h
      exact .root declared up
    · intro h
      cases h with
      | root => rfl
      | child _ under =>
        rw [up] at under
        cases under
  | some b =>
    obtain ⟨upper, represents⟩ := stands b rfl
    rw [Option.map_some, represents.id_eq] at up
    constructor
    · exact .child declared up represents
    · intro h
      cases h with
      | root _ top =>
        rw [top] at up
        cases up
      | child _ under above built =>
        rw [up] at under
        have same := eq_of_id_eq nodup represents.declared above.declared
          (Option.some.inj (Except.ok.inj under))
        subst same
        rw [represents.unique nodup above]
        exact built

/-! ## Climbing -/

variable (rows) in
/-- Rows from the top down, each declared under the one before it, the first under `above` and
the last of the id `start`. -/
inductive Descent (start : String) : (above : Option String) → List ResourceRow → Prop
  | here : Descent start (some start) []
  | down {above : Option String} {row : ResourceRow} {rest : List ResourceRow}
      (declared : row ∈ rows) (up : row.declaredParent = .ok above)
      (lower : Descent start (some row.id) rest) : Descent start above (row :: rest)

variable (table built) in
/-- How a climb ends. It takes steps up, each from a row that is not built and was not passed
before, and then it ends in one of the other ways. -/
inductive Climbs (start : String) : (room : Nat) → (passed : List ResourceRow) →
    (current : String) → Except ModelError (Option Resource × List ResourceRow) → Prop
  | built {room : Nat} {passed : List ResourceRow} {current : String} {base : Resource}
      (found : built.get? current = some base) :
      Climbs start room passed current (.ok (some base, passed))
  | cycle {room : Nat} {passed : List ResourceRow} {current : String}
      (unbuilt : built.get? current = none) (twice : passed.any (·.id == current) = true) :
      Climbs start room passed current (.error (.malformedHierarchy start (.parentCycle current)))
  | full {passed : List ResourceRow} {current : String} (unbuilt : built.get? current = none)
      (fresh : ¬ passed.any (·.id == current) = true) :
      Climbs start 0 passed current (.error (.malformedHierarchy start .chainTooLong))
  | unknown {room : Nat} {passed : List ResourceRow} {current : String}
      (unbuilt : built.get? current = none) (fresh : ¬ passed.any (·.id == current) = true)
      (absent : table.get? current = none) :
      Climbs start (room + 1) passed current (.error (.malformedHierarchy
        ((passed.head?.map (·.id)).getD start) (.unknownParent current)))
  | refused {room : Nat} {passed : List ResourceRow} {current : String} {row : ResourceRow}
      {error : ModelError} (unbuilt : built.get? current = none)
      (fresh : ¬ passed.any (·.id == current) = true) (found : table.get? current = some row)
      (up : row.declaredParent = .error error) :
      Climbs start (room + 1) passed current (.error error)
  | top {room : Nat} {passed : List ResourceRow} {current : String} {row : ResourceRow}
      (unbuilt : built.get? current = none) (fresh : ¬ passed.any (·.id == current) = true)
      (found : table.get? current = some row) (up : row.declaredParent = .ok none) :
      Climbs start (room + 1) passed current (.ok (none, row :: passed))
  | step {room : Nat} {passed : List ResourceRow} {current parent : String} {row : ResourceRow}
      {result : Except ModelError (Option Resource × List ResourceRow)}
      (unbuilt : built.get? current = none) (fresh : ¬ passed.any (·.id == current) = true)
      (found : table.get? current = some row) (up : row.declaredParent = .ok (some parent))
      (rest : Climbs start room (row :: passed) parent result) :
      Climbs start (room + 1) passed current result

theorem climbs_climb (start : String) (room : Nat) (passed : List ResourceRow) (current : String) :
    Climbs table built start room passed current
      (climb table built start room passed current) := by
  fun_induction climb table built start room passed current with
  | case1 room passed current base found => exact .built found
  | case2 room passed current unbuilt twice => exact .cycle unbuilt twice
  | case3 passed current unbuilt fresh => exact .full unbuilt fresh
  | case4 passed current unbuilt fresh room absent => exact .unknown unbuilt fresh absent
  | case5 passed current unbuilt fresh room row found error up =>
    exact .refused unbuilt fresh found up
  | case6 passed current unbuilt fresh room row found up => exact .top unbuilt fresh found up
  | case7 passed current unbuilt fresh room row found parent up ih =>
    exact .step unbuilt fresh found up ih

/-- A climb that succeeds has passed a descent, and ended above all rows or at a resource that
was there. -/
theorem climb_sound (indexes : Indexes rows table) (sound : Sound rows built) {start : String}
    {room : Nat} {passed out : List ResourceRow} {current : String} {base : Option Resource}
    (h : climb table built start room passed current = .ok (base, out))
    (descent : Descent rows start (some current) passed) :
    Descent rows start (base.map (·.id)) out ∧ Stands rows base := by
  have climbs : Climbs table built start room passed current _ :=
    climbs_climb start room passed current
  generalize climb table built start room passed current = result at h climbs
  induction climbs with
  | built found =>
    cases h
    obtain ⟨row, id, represents⟩ := sound _ _ found
    refine ⟨?_, fun _ eq => ⟨row, Option.some.inj eq ▸ represents⟩⟩
    rw [Option.map_some, represents.id_eq, id]
    exact descent
  | top unbuilt fresh found up =>
    cases h
    obtain ⟨declared, rfl⟩ := (indexes _ _).1 found
    exact ⟨.down declared up descent, nofun⟩
  | step unbuilt fresh found up rest ih =>
    obtain ⟨declared, rfl⟩ := (indexes _ _).1 found
    exact ih (.down declared up descent) h
  | _ => cases h

/-- There is a climb from the row of a resource, if there is room for the chain and only rows
of greater depth have been passed. -/
theorem climb_complete (indexes : Indexes rows table) (nodup : (rows.map (·.id)).Nodup)
    {start : String} {room : Nat} {passed : List ResourceRow} {row : ResourceRow} {r : Resource}
    (h : Represents rows row r) (enough : r.depth < room)
    (deeper : ∀ p ∈ passed, ∃ q, Represents rows p q ∧ r.depth < q.depth) :
    ∃ result, climb table built start room passed row.id = .ok result := by
  have climbs : Climbs table built start room passed row.id _ :=
    climbs_climb start room passed row.id
  generalize climb table built start room passed row.id = result at climbs ⊢
  generalize current_eq : row.id = current at climbs
  induction climbs generalizing row r with
  | built found => exact ⟨_, rfl⟩
  | top => exact ⟨_, rfl⟩
  | cycle unbuilt twice =>
    obtain ⟨p, mem, id⟩ := List.any_eq_true.1 twice
    obtain ⟨q, represents, less⟩ := deeper p mem
    have same := eq_of_id_eq nodup represents.declared h.declared
      ((eq_of_beq id).trans current_eq.symm)
    subst same
    rw [represents.unique nodup h] at less
    exact absurd less (Nat.lt_irrefl _)
  | full => exact absurd enough (Nat.not_lt_zero _)
  | unknown unbuilt fresh absent =>
    rw [(indexes _ row).2 ⟨h.declared, current_eq⟩] at absent
    cases absent
  | refused unbuilt fresh found up =>
    rw [(indexes _ row).2 ⟨h.declared, current_eq⟩] at found
    cases found
    cases h with
    | root declared top =>
      rw [top] at up
      cases up
    | child declared under =>
      rw [under] at up
      cases up
  | step unbuilt fresh found up rest ih =>
    rw [(indexes _ row).2 ⟨h.declared, current_eq⟩] at found
    cases found
    cases h with
    | root declared top =>
      rw [top] at up
      cases up
    | @child _ upper parent _ declared under above built =>
      rw [under] at up
      have depth := (ResourceRow.builtBelow under built).depth
      have less : parent.depth < r.depth := by omega
      refine ih above (by omega) ?_ (Option.some.inj (Except.ok.inj up))
      intro p mem
      rcases List.mem_cons.1 mem with rfl | mem
      · exact ⟨r, .child declared under above built, less⟩
      · obtain ⟨q, represents, less'⟩ := deeper p mem
        exact ⟨q, represents, Nat.lt_trans less less'⟩

/-! ## Building from the top down -/

theorem descend_sound (nodup : (rows.map (·.id)).Nodup) {start : String} {above : Option String}
    {passed : List ResourceRow} (descent : Descent rows start above passed)
    {built built' : ResourceMap} {base last : Option Resource}
    (h : descend passed built base = .ok (built', last)) (under : base.map (·.id) = above)
    (stands : Stands rows base) (sound : Sound rows built) :
    Sound rows built' ∧ ∃ row r, last = some r ∧ row.id = start ∧ Represents rows row r := by
  induction descent generalizing built base with
  | here =>
    rw [descend] at h
    cases h
    obtain ⟨b, eq, id⟩ := Option.map_eq_some_iff.1 under
    obtain ⟨row, represents⟩ := stands b eq
    exact ⟨sound, row, b, eq, represents.id_eq.symm.trans id, represents⟩
  | @down above row rest declared up lower ih =>
    rw [descend] at h
    cases step : row.build base with
    | error error =>
      rw [step] at h
      cases h
    | ok r =>
      rw [step] at h
      have represents := (build_eq_ok_iff_represents nodup declared (under ▸ up) stands).1 step
      refine ih h ?_ ?_ (sound.insert represents)
      · rw [Option.map_some, represents.id_eq]
      · intro b eq
        cases eq
        exact ⟨row, represents⟩

theorem descend_complete (nodup : (rows.map (·.id)).Nodup)
    (all : ∀ row ∈ rows, ∃ r, Represents rows row r) {start : String} {above : Option String}
    {passed : List ResourceRow} (descent : Descent rows start above passed) {built : ResourceMap}
    {base : Option Resource} (under : base.map (·.id) = above) (stands : Stands rows base) :
    ∃ result, descend passed built base = .ok result := by
  induction descent generalizing built base with
  | here => exact ⟨_, rfl⟩
  | @down above row rest declared up lower ih =>
    obtain ⟨r, represents⟩ := all row declared
    rw [descend, (build_eq_ok_iff_represents nodup declared (under ▸ up) stands).2 represents]
    refine ih ?_ ?_
    · rw [Option.map_some, represents.id_eq]
    · intro b eq
      cases eq
      exact ⟨row, represents⟩

/-! ## One row and all rows -/

theorem resolve_sound (nodup : (rows.map (·.id)).Nodup) (indexes : Indexes rows table)
    (sound : Sound rows built) {id : String} {built' : ResourceMap} {r : Resource}
    (h : resolve table built id = .ok (built', r)) :
    Sound rows built' ∧ ∃ row, row.id = id ∧ Represents rows row r := by
  obtain ⟨⟨base, passed⟩, climbed, h⟩ := bind_eq_ok_iff.1 h
  obtain ⟨⟨after, last⟩, descended, h⟩ := bind_eq_ok_iff.1 h
  obtain ⟨descent, stands⟩ := climb_sound indexes sound climbed .here
  obtain ⟨sound', row, r', rfl, id, represents⟩ :=
    descend_sound nodup descent descended rfl stands sound
  cases h
  exact ⟨sound', row, id, represents⟩

theorem resolve_complete (nodup : (rows.map (·.id)).Nodup) (indexes : Indexes rows table)
    (all : ∀ row ∈ rows, ∃ r, Represents rows row r) (sound : Sound rows built)
    {row : ResourceRow} (declared : row ∈ rows) :
    ∃ result, resolve table built row.id = .ok result := by
  obtain ⟨r, represents⟩ := all row declared
  have climbs : ∃ result, climb table built row.id maxChain [] row.id = .ok result :=
    climb_complete indexes nodup represents represents.depth_lt nofun
  obtain ⟨⟨base, passed⟩, climbed⟩ := climbs
  obtain ⟨descent, stands⟩ := climb_sound indexes sound climbed .here
  have descends : ∃ result, descend passed built base = .ok result :=
    descend_complete nodup all descent rfl stands
  obtain ⟨⟨after, last⟩, descended⟩ := descends
  obtain ⟨-, -, r', rfl, -⟩ := descend_sound nodup descent descended rfl stands sound
  exact ⟨(after, r'), bind_eq_ok_iff.2 ⟨_, climbed, bind_eq_ok_iff.2 ⟨_, descended, rfl⟩⟩⟩

/-- What is resolved is entered under the ids asked for, in their order. -/
theorem resolveAll_sound (nodup : (rows.map (·.id)).Nodup) (indexes : Indexes rows table)
    {ids : List String} {resources out : ResourceMap} (sound : Sound rows built)
    (fresh : (resources.keys ++ ids).Nodup)
    (h : resolveAll table ids built resources = .ok out) :
    ∃ added, out.entries = resources.entries ++ added ∧ added.map Prod.fst = ids ∧
      ∀ entry ∈ added, ∃ row, row.id = entry.1 ∧ Represents rows row entry.2 := by
  induction ids generalizing built resources with
  | nil =>
    cases h
    exact ⟨[], by simp, rfl, nofun⟩
  | cons id rest ih =>
    obtain ⟨⟨built', r⟩, resolved, h⟩ := bind_eq_ok_iff.1 h
    obtain ⟨sound', row, id_eq, represents⟩ := resolve_sound nodup indexes sound resolved
    have same : r.id = id := represents.id_eq.trans id_eq
    have absent : id ∉ resources.keys := by
      intro twice
      rw [List.nodup_append] at fresh
      exact fresh.2.2 id twice id (by simp) rfl
    replace h : resolveAll table rest built' (resources.insert id r) = .ok out := same ▸ h
    obtain ⟨added, entries, ids, all⟩ := ih sound'
      (by rw [OrderedMap.keys_insert, if_neg absent]; simpa using fresh) h
    refine ⟨(id, r) :: added, ?_, by rw [List.map_cons, ids], ?_⟩
    · rw [entries, OrderedMap.entries_insert_of_not_mem absent]
      simp
    · exact List.forall_mem_cons.2 ⟨⟨row, id_eq, represents⟩, all⟩

theorem resolveAll_complete (nodup : (rows.map (·.id)).Nodup) (indexes : Indexes rows table)
    (all : ∀ row ∈ rows, ∃ r, Represents rows row r) {ids : List String} {resources : ResourceMap}
    (sound : Sound rows built) (declared : ∀ id ∈ ids, ∃ row ∈ rows, row.id = id) :
    ∃ out, resolveAll table ids built resources = .ok out := by
  induction ids generalizing built resources with
  | nil => exact ⟨resources, rfl⟩
  | cons id rest ih =>
    obtain ⟨row, mem, rfl⟩ := declared id (by simp)
    obtain ⟨⟨built', r⟩, resolved⟩ := resolve_complete nodup indexes all sound mem
    obtain ⟨sound', -⟩ := resolve_sound nodup indexes sound resolved
    obtain ⟨out, h⟩ := ih sound' fun id mem => declared id (List.mem_cons_of_mem _ mem)
    exact ⟨out, bind_eq_ok_iff.2 ⟨_, resolved, h⟩⟩

end PolicyTree.Catalog
