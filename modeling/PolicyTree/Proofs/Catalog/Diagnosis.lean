import Mathlib.Data.List.Duplicate
import PolicyTree.Proofs.Catalog.Building
import PolicyTree.Proofs.Text.Fields
/-
  Why rows are refused. `Diagnosis` lists the errors that are true of rows, each with the words it
  is reported in and with what makes it true, in terms of the rows alone; what has been built on
  the way does not come into it. Only such errors are reported, in these words
  (`rejections_diagnosed`).

  A climb reports what is wrong with a chain where it started, and a parent that is not declared
  at the row that names it: the rows passed so far are a descent, which says how both are
  connected (`Descent.transGen`, `Descent.upward`). On the way down a row is refused for itself, or
  for the resource it is to stand below, which is what its declared parent stands for.
-/
namespace PolicyTree.Catalog

open Text (getElem?_append)

variable {rows : List ResourceRow} {table : OrderedMap String ResourceRow} {built : ResourceMap}
  {error : ModelError}

/-! ## Diagnoses -/

variable (rows) in
/-- Following declared parents from a row passes 64 rows, and the last of them declares a parent
still. -/
def Overlong (row : ResourceRow) : Prop :=
  ∃ (path : List ResourceRow) (last : ResourceRow), path.head? = some row ∧
    path.IsChain (DeclaredUnder rows) ∧ path.length = 64 ∧ path.getLast? = some last ∧
    last.parent ≠ none

/-- What an error says is wrong, without the name of what it is wrong with. -/
def reasonOf : ModelError → String
  | .malformedHierarchy _ flaw => flaw.message
  | .invalidResource flaw => flaw.message
  | .invalidContext flaw => flaw.message

variable (rows) in
/-- What an error says is true of the rows; the text is the reason that it gives. -/
inductive Diagnosis : ModelError → String → Prop
  | systemWithParent {row : ResourceRow} (declared : row ∈ rows) (kind : row.kind = .system)
      (parent : row.parent ≠ none) :
      Diagnosis (.invalidResource (.systemWithParent row.id))
        s!"system {row.id} cannot have a parent"
  | leafWithoutType {row : ResourceRow} (declared : row ∈ rows) (kind : row.kind = .leaf)
      (missing : row.type = none ∨ row.type = some "") :
      Diagnosis (.invalidResource (.leafWithoutType row.id))
        s!"leaf {row.id} requires a resource type"
  | leafWithoutFormat {row : ResourceRow} (declared : row ∈ rows) (kind : row.kind = .leaf)
      (missing : row.format = none ∨ row.format = some "") :
      Diagnosis (.invalidResource (.leafWithoutFormat row.id))
        s!"leaf {row.id} requires a serialised format"
  | duplicateId {id : String} (twice : (rows.map (·.id)).Duplicate id) :
      Diagnosis (.malformedHierarchy id .duplicateId) "duplicate resource id"
  | unknownParent {row : ResourceRow} {parent : String} (declared : row ∈ rows)
      (names : row.parent = some parent) (unknown : ∀ other ∈ rows, other.id ≠ parent) :
      Diagnosis (.malformedHierarchy row.id (.unknownParent parent)) s!"unknown parent {parent}"
  | parentCycle {row through : ResourceRow} (declared : row ∈ rows) (declared' : through ∈ rows)
      (cycle : Relation.TransGen (DeclaredUnder rows) through through) :
      Diagnosis (.malformedHierarchy row.id (.parentCycle through.id))
        s!"parent cycle through {through.id}"
  | chainTooLong {row : ResourceRow} (declared : row ∈ rows) (long : Overlong rows row) :
      Diagnosis (.malformedHierarchy row.id .chainTooLong) "parent chain exceeds 64 levels"
  | leafParent {row upper : ResourceRow} (declared : row ∈ rows)
      (under : DeclaredUnder rows row upper) (kind : upper.kind = .leaf) :
      Diagnosis (.malformedHierarchy row.id (.leafParent upper.id))
        s!"parent {upper.id} is a leaf and cannot hold children"
  | directoryWithoutParent {row : ResourceRow} (declared : row ∈ rows)
      (kind : row.kind = .directory) (orphan : row.parent = none) :
      Diagnosis (.malformedHierarchy row.id (.parentRequired .directory))
        "directory requires a parent"
  | leafWithoutParent {row : ResourceRow} (declared : row ∈ rows) (kind : row.kind = .leaf)
      (orphan : row.parent = none) :
      Diagnosis (.malformedHierarchy row.id (.parentRequired .leaf)) "leaf requires a parent"

/-! ## The table of rows -/

theorem duplicate_of_index {specs : List ResourceRow} {base : OrderedMap String ResourceRow}
    (h : index specs base = .error error) :
    ∃ id, (base.keys ++ specs.map (·.id)).Duplicate id ∧
      error = .malformedHierarchy id .duplicateId := by
  induction specs generalizing base with
  | nil => cases h
  | cons row rest ih =>
    rw [index] at h
    split at h
    · next stands =>
      cases h
      have first : row.id ∈ base.keys := OrderedMap.contains_eq_true_iff.1 stands
      refine ⟨row.id, List.duplicate_iff_sublist.2 ?_, rfl⟩
      exact (List.singleton_sublist.2 first).append
        (List.singleton_sublist.2 (List.mem_cons_self (l := rest.map (·.id))))
    · next fresh =>
      have absent : row.id ∉ base.keys := fun h => fresh (OrderedMap.contains_eq_true_iff.2 h)
      obtain ⟨id, twice, eq⟩ := ih h
      rw [OrderedMap.keys_insert, if_neg absent, List.append_assoc] at twice
      exact ⟨id, twice, eq⟩

/-! ## The way up -/

theorem diagnosis_of_declaredParent {row : ResourceRow} (declared : row ∈ rows)
    (h : row.declaredParent = .error error) : Diagnosis rows error (reasonOf error) := by
  unfold ResourceRow.declaredParent at h
  cases kind : row.kind <;> cases parent : row.parent <;> rw [kind, parent] at h <;> cases h
  · exact .systemWithParent declared kind (by simp [parent])
  · exact .directoryWithoutParent declared kind parent
  · exact .leafWithoutParent declared kind parent

theorem Descent.mem {start : String} {above : Option String} {passed : List ResourceRow}
    (descent : Descent rows start above passed) : ∀ row ∈ passed, row ∈ rows := by
  induction descent with
  | here => exact nofun
  | down declared up lower ih => exact List.forall_mem_cons.2 ⟨declared, ih⟩

/-- All rows of a descent lie below the row that it stands under. -/
theorem Descent.transGen {start : String} {above : Option String} {passed : List ResourceRow}
    (descent : Descent rows start above passed) {upper : ResourceRow} (declared : upper ∈ rows)
    (top : above = some upper.id) :
    ∀ row ∈ passed, Relation.TransGen (DeclaredUnder rows) row upper := by
  induction descent generalizing upper with
  | here => exact nofun
  | @down above row rest declared' up lower ih =>
    subst top
    have under : DeclaredUnder rows row upper :=
      ⟨declared, (ResourceRow.declaredParent_eq_some_iff.1 up).2⟩
    refine List.forall_mem_cons.2 ⟨.single under, fun p mem => ?_⟩
    exact .tail (ih declared' rfl p mem) under

/-- Read from its lowest row, a descent follows declared parents. -/
theorem Descent.upward {start : String} {above : Option String} {passed : List ResourceRow}
    (descent : Descent rows start above passed) :
    passed.reverse.IsChain (DeclaredUnder rows) ∧
      ∀ lowest, passed.getLast? = some lowest → lowest ∈ rows ∧ lowest.id = start := by
  induction descent with
  | here => exact ⟨.nil, nofun⟩
  | @down above row rest declared up lower ih =>
    obtain ⟨linked, last⟩ := ih
    cases lower with
    | here => exact ⟨.singleton row, fun lowest eq => by cases eq; exact ⟨declared, rfl⟩⟩
    | @down _ next rest declared' up' lower =>
      refine ⟨?_, fun lowest eq => last lowest eq⟩
      have under := (ResourceRow.declaredParent_eq_some_iff.1 up').2
      rw [List.reverse_cons, List.isChain_append]
      refine ⟨linked, .singleton row, ?_⟩
      intro lower hl upper hu
      rw [List.getLast?_reverse] at hl
      cases hl
      cases hu
      exact ⟨declared, under⟩

/-- Whatever stops a climb is true of the rows. -/
theorem diagnosis_of_climb (indexes : Indexes rows table) {start : String} {room : Nat}
    {passed : List ResourceRow} {current : String} (known : ∃ row ∈ rows, row.id = start)
    (h : climb table built start room passed current = .error error)
    (descent : Descent rows start (some current) passed)
    (spent : passed.length + room = maxChain) : Diagnosis rows error (reasonOf error) := by
  have climbs : Climbs table built start room passed current _ :=
    climbs_climb start room passed current
  generalize climb table built start room passed current = result at h climbs
  induction climbs with
  | built => cases h
  | top => cases h
  | cycle unbuilt twice =>
    cases h
    obtain ⟨row, declared, rfl⟩ := known
    obtain ⟨through, mem, id⟩ := List.any_eq_true.1 twice
    obtain rfl := eq_of_beq id
    have declared' : through ∈ rows := descent.mem through mem
    exact .parentCycle declared declared' (descent.transGen declared' rfl through mem)
  | @full passed current unbuilt fresh =>
    cases h
    -- There is no room left, so the rows passed are as many as a chain may have.
    cases descent with
    | here => cases spent
    | @down _ top rest declared up lower =>
      have descent : Descent rows start (some current) (top :: rest) := .down declared up lower
      obtain ⟨linked, last⟩ := descent.upward
      obtain ⟨lowest, ends⟩ : ∃ lowest, (top :: rest).getLast? = some lowest :=
        Option.isSome_iff_exists.1 (List.getLast?_isSome.2 (List.cons_ne_nil top rest))
      obtain ⟨declared', rfl⟩ := last lowest ends
      refine .chainTooLong declared' ⟨(top :: rest).reverse, top, ?_, linked, ?_, ?_, ?_⟩
      · rw [List.head?_reverse, ends]
      · rw [List.length_reverse]
        exact spent
      · rw [List.getLast?_reverse, List.head?_cons]
      · rw [(ResourceRow.declaredParent_eq_some_iff.1 up).2]
        exact Option.some_ne_none current
  | unknown unbuilt fresh absent =>
    cases h
    cases descent with
    | here =>
      obtain ⟨row, declared, id⟩ := known
      rw [(indexes _ row).2 ⟨declared, id⟩] at absent
      cases absent
    | down declared up lower =>
      refine .unknownParent declared (ResourceRow.declaredParent_eq_some_iff.1 up).2 ?_
      intro other declared' id
      rw [(indexes _ other).2 ⟨declared', id⟩] at absent
      cases absent
  | refused unbuilt fresh found up =>
    cases h
    exact diagnosis_of_declaredParent ((indexes _ _).1 found).1 up
  | step unbuilt fresh found up rest ih =>
    obtain ⟨declared, rfl⟩ := (indexes _ _).1 found
    refine ih (.down declared up descent) ?_ h
    rw [List.length_cons]
    omega

/-! ## The way down -/

theorem RootPath.head? {row : ResourceRow} {path : List ResourceRow}
    (h : RootPath rows row path) : path.head? = some row := by
  cases h <;> rfl

theorem RootPath.isChain {row : ResourceRow} {path : List ResourceRow}
    (h : RootPath rows row path) : path.IsChain (DeclaredUnder rows) := by
  induction h with
  | root => exact .singleton _
  | step declared under above ih =>
    refine List.isChain_cons.2 ⟨fun upper eq => ?_, ih⟩
    rw [above.head?] at eq
    cases eq
    exact under

/-- A row under one whose chain is full is at the lower end of a chain that is too long. -/
theorem overlong_of_under {row upper : ResourceRow} {parent : Resource}
    (under : DeclaredUnder rows row upper) (represents : Represents rows upper parent)
    (full : maxChain < parent.depth + 2) : Overlong rows row := by
  obtain ⟨path, upward, ids⟩ := represents.rootPath
  have length : parent.depth + 1 = path.length := by
    simpa [Resource.depth] using congrArg List.length ids
  have linked : (row :: path).IsChain (DeclaredUnder rows) := by
    refine List.isChain_cons.2 ⟨fun other eq => ?_, upward.isChain⟩
    rw [upward.head?] at eq
    cases eq
    exact under
  have enough : 64 ≤ path.length := by
    unfold maxChain at full
    omega
  -- The chain is cut behind 64 rows, and goes on behind the cut.
  have cut : ((row :: path).take 64).length = 64 := by
    rw [List.length_take, List.length_cons]
    omega
  obtain ⟨next, rest, behind⟩ : ∃ next rest, (row :: path).drop 64 = next :: rest :=
    List.exists_cons_of_length_pos (by rw [List.length_drop, List.length_cons]; omega)
  rw [← List.take_append_drop 64 (row :: path), behind, List.isChain_append] at linked
  obtain ⟨linked, -, cross⟩ := linked
  obtain ⟨last, ends⟩ : ∃ last, ((row :: path).take 64).getLast? = some last :=
    Option.isSome_iff_exists.1 (List.getLast?_isSome.2 (List.ne_nil_of_length_pos (by omega)))
  refine ⟨_, last, rfl, linked, cut, ends, ?_⟩
  rw [(cross last ends next rfl).2]
  exact Option.some_ne_none _

theorem diagnosis_of_attach {row upper : ResourceRow} {parent : Resource} (declared : row ∈ rows)
    (under : DeclaredUnder rows row upper) (represents : Represents rows upper parent)
    (h : Resource.attach row.id parent = .error error) : Diagnosis rows error (reasonOf error) := by
  rcases Resource.attach_eq_error h with ⟨leaf, rfl⟩ | ⟨full, rfl⟩
  · rw [represents.id_eq]
    exact .leafParent declared under (represents.kind_eq.symm.trans leaf)
  · exact .chainTooLong declared (overlong_of_under under represents full)

/-- What `leaf?` refuses is a text that the row does not give, or gives empty. -/
theorem missing_of_filter {text : Option String}
    (h : (some (text.getD "")).filter (· ≠ "") = none) : text = none ∨ text = some "" := by
  cases text with
  | none => exact .inl rfl
  | some own => simpa using h

/-- Whatever keeps a row from being built below the resource of its declared parent is true of the
rows. -/
theorem diagnosis_of_build {row : ResourceRow} {base : Option Resource} (declared : row ∈ rows)
    (up : row.declaredParent = .ok (base.map (·.id))) (stands : Stands rows base)
    (h : row.build base = .error error) : Diagnosis rows error (reasonOf error) := by
  cases base with
  | none =>
    rw [ResourceRow.build_root (ResourceRow.declaredParent_eq_none_iff.1 up).1] at h
    cases h
  | some parent =>
    obtain ⟨upper, represents⟩ := stands parent rfl
    rw [Option.map_some, represents.id_eq] at up
    obtain ⟨inner, parent_eq⟩ := ResourceRow.declaredParent_eq_some_iff.1 up
    have under : DeclaredUnder rows row upper := ⟨represents.declared, parent_eq⟩
    unfold ResourceRow.build at h
    cases kind : row.kind with
    | system => exact absurd kind inner
    | directory =>
      rw [kind] at h
      exact diagnosis_of_attach declared under represents
        (Resource.attach_of_directory?_eq_error h)
    | leaf =>
      rw [kind] at h
      rcases Resource.leaf?_eq_error h with ⟨missing, rfl⟩ | ⟨missing, rfl⟩ | refused
      · exact .leafWithoutType declared kind (missing_of_filter missing)
      · exact .leafWithoutFormat declared kind (missing_of_filter missing)
      · exact diagnosis_of_attach declared under represents refused

theorem diagnosis_of_descend (nodup : (rows.map (·.id)).Nodup) {start : String}
    {above : Option String} {passed : List ResourceRow} (descent : Descent rows start above passed)
    {base : Option Resource} (h : descend passed built base = .error error)
    (under : base.map (·.id) = above) (stands : Stands rows base) :
    Diagnosis rows error (reasonOf error) := by
  induction descent generalizing built base with
  | here => cases h
  | @down above row rest declared up lower ih =>
    rw [descend] at h
    cases step : row.build base with
    | error reason =>
      rw [step] at h
      cases h
      exact diagnosis_of_build declared (under ▸ up) stands step
    | ok r =>
      rw [step] at h
      have represents := (build_eq_ok_iff_represents nodup declared (under ▸ up) stands).1 step
      refine ih h ?_ ?_
      · rw [Option.map_some, represents.id_eq]
      · intro b eq
        cases eq
        exact ⟨row, represents⟩

/-! ## One row and all rows -/

theorem diagnosis_of_resolve (nodup : (rows.map (·.id)).Nodup) (indexes : Indexes rows table)
    (sound : Sound rows built) {id : String} (known : ∃ row ∈ rows, row.id = id)
    (h : resolve table built id = .error error) : Diagnosis rows error (reasonOf error) := by
  rcases bind_eq_error_iff.1 h with stopped | ⟨⟨base, passed⟩, climbed, h⟩
  · exact diagnosis_of_climb indexes known stopped .here (Nat.zero_add _)
  · obtain ⟨descent, stands⟩ := climb_sound indexes sound climbed .here
    rcases bind_eq_error_iff.1 h with refused | ⟨⟨after, last⟩, descended, h⟩
    · exact diagnosis_of_descend nodup descent refused rfl stands
    -- What has been built down to the row is never nothing.
    · obtain ⟨-, -, r, rfl, -⟩ := descend_sound nodup descent descended rfl stands sound
      cases h

theorem diagnosis_of_resolveAll (nodup : (rows.map (·.id)).Nodup) (indexes : Indexes rows table)
    {ids : List String} (known : ∀ id ∈ ids, ∃ row ∈ rows, row.id = id) {resources : ResourceMap}
    (sound : Sound rows built) (h : resolveAll table ids built resources = .error error) :
    Diagnosis rows error (reasonOf error) := by
  induction ids generalizing built resources with
  | nil => cases h
  | cons id rest ih =>
    obtain ⟨first, others⟩ := List.forall_mem_cons.1 known
    rcases bind_eq_error_iff.1 h with refused | ⟨⟨built', r⟩, resolved, h⟩
    · exact diagnosis_of_resolve nodup indexes sound first refused
    · exact ih others (resolve_sound nodup indexes sound resolved).1 h

/-! ## Rejections -/

/-- Ids that stand twice are reported first. -/
theorem ofRows_of_not_nodup (twice : ¬ (rows.map (·.id)).Nodup) :
    ∃ node, (rows.map (·.id)).Duplicate node ∧
      ofRows rows = .error (.malformedHierarchy node .duplicateId) := by
  cases indexed : index rows .empty with
  | error reason =>
    obtain ⟨node, stands, rfl⟩ := duplicate_of_index indexed
    exact ⟨node, stands, bind_eq_error_iff.2 (.inl indexed)⟩
  | ok table => exact absurd (indexes_of_index indexed).1 twice

theorem diagnosis_of_ofRows (h : ofRows rows = .error error) :
    Diagnosis rows error (reasonOf error) := by
  rcases bind_eq_error_iff.1 h with refused | ⟨table, indexed, h⟩
  · obtain ⟨node, twice, rfl⟩ := duplicate_of_index refused
    exact .duplicateId twice
  · obtain ⟨nodup, keys, indexes⟩ := indexes_of_index indexed
    have known : ∀ id ∈ table.keys, ∃ row ∈ rows, row.id = id := by
      rw [keys]
      exact fun id => List.mem_map.1
    rcases bind_eq_error_iff.1 h with refused | ⟨out, -, h⟩
    · exact diagnosis_of_resolveAll nodup indexes known sound_empty refused
    · cases h

/-- How reasons are told from each other: by their first letters, but for two that share it. -/
theorem Diagnosis.wording {reason : String} (h : Diagnosis rows error reason) :
    (reason = "duplicate resource id" ∧ ¬ (rows.map (·.id)).Nodup) ∨
      reason = "directory requires a parent" ∨
      ∃ c, reason.toList[0]? = some c ∧ c ∈ ['s', 'l', 'u', 'p'] := by
  cases h with
  | systemWithParent => exact .inr (.inr ⟨'s', getElem?_append (getElem?_append rfl _) _, by simp⟩)
  | leafWithoutType => exact .inr (.inr ⟨'l', getElem?_append (getElem?_append rfl _) _, by simp⟩)
  | leafWithoutFormat => exact .inr (.inr ⟨'l', getElem?_append (getElem?_append rfl _) _, by simp⟩)
  | duplicateId twice => exact .inl ⟨rfl, twice.not_nodup⟩
  | unknownParent => exact .inr (.inr ⟨'u', getElem?_append rfl _, by simp⟩)
  | parentCycle => exact .inr (.inr ⟨'p', getElem?_append rfl _, by simp⟩)
  | chainTooLong => exact .inr (.inr ⟨'p', rfl, by simp⟩)
  | leafParent => exact .inr (.inr ⟨'p', getElem?_append (getElem?_append rfl _) _, by simp⟩)
  | directoryWithoutParent => exact .inr (.inl rfl)
  | leafWithoutParent => exact .inr (.inr ⟨'l', rfl, by simp⟩)

/-- Repeated ids are reported in words of their own. -/
theorem Diagnosis.not_nodup (h : Diagnosis rows error "duplicate resource id") :
    ¬ (rows.map (·.id)).Nodup := by
  rcases h.wording with ⟨-, twice⟩ | same | ⟨c, starts, mem⟩
  · exact twice
  · exact absurd same (by decide)
  · cases starts
    exact absurd mem (by decide)

/-- No row is said to have been built without a parent, or not at all. -/
theorem Diagnosis.ne_fallback {reason : String} (h : Diagnosis rows error reason) :
    reason ≠ "missing parent" ∧ reason ≠ "resource could not be built" := by
  rcases h.wording with ⟨rfl, -⟩ | rfl | ⟨c, starts, mem⟩
  · decide
  · decide
  · constructor <;> rintro rfl <;> cases starts <;> exact absurd mem (by decide)

/-- Every refusal of rows is true of them, in the words it is reported in, and none says that a row
was built without a parent or not at all. Repeated ids are what is reported wherever there are any,
whatever else is wrong. -/
theorem rejections_diagnosed (rows : List ResourceRow) :
    (∀ error, ofRows rows = .error error →
      Diagnosis rows error (reasonOf error) ∧
        reasonOf error ≠ "missing parent" ∧ reasonOf error ≠ "resource could not be built" ∧
        ∀ node, error ≠ .malformedHierarchy node .missingParent ∧
          error ≠ .malformedHierarchy node .notBuilt) ∧
    (∀ node, reasonOf (.malformedHierarchy node .missingParent) = "missing parent" ∧
      reasonOf (.malformedHierarchy node .notBuilt) = "resource could not be built") ∧
    ((∃ error, ofRows rows = .error error ∧ reasonOf error = "duplicate resource id") ↔
      ¬ (rows.map (·.id)).Nodup) := by
  refine ⟨fun error h => ?_, fun node => ⟨rfl, rfl⟩, ?_, fun twice => ?_⟩
  · have diagnosed := diagnosis_of_ofRows h
    obtain ⟨parented, built⟩ := diagnosed.ne_fallback
    refine ⟨diagnosed, parented, built, fun node => ⟨?_, ?_⟩⟩
    · rintro rfl
      exact parented rfl
    · rintro rfl
      exact built rfl
  · rintro ⟨error, h, reason⟩
    have diagnosed := diagnosis_of_ofRows h
    rw [reason] at diagnosed
    exact diagnosed.not_nodup
  · obtain ⟨node, -, h⟩ := ofRows_of_not_nodup twice
    exact ⟨_, h, rfl⟩

namespace Sample

/-- Two directories below each other, and a leaf without a type below a parent that is missing. -/
def tangled : List ResourceRow :=
  [⟨"/x", .directory, some "/y", none, none, none⟩,
    ⟨"/y", .directory, some "/x", none, none, none⟩,
    ⟨"/f", .leaf, some "/s", none, some "txt", none⟩]

end Sample

/-- Of three things that are wrong the first one met is reported; twice the rows are refused for
their ids. -/
theorem rejections_diagnosed_tangled :
    ofRows Sample.tangled = .error (.malformedHierarchy "/x" (.parentCycle "/x")) ∧
      Diagnosis Sample.tangled (.malformedHierarchy "/x" (.parentCycle "/x"))
        "parent cycle through /x" ∧
      ∃ error, ofRows (Sample.tangled ++ Sample.tangled) = .error error ∧
        reasonOf error = "duplicate resource id" := by
  have refused : ofRows Sample.tangled = .error (.malformedHierarchy "/x" (.parentCycle "/x")) :=
    rfl
  refine ⟨refused, ((rejections_diagnosed Sample.tangled).1 _ refused).1, ?_⟩
  refine (rejections_diagnosed (Sample.tangled ++ Sample.tangled)).2.2.2 ?_
  decide

end PolicyTree.Catalog
