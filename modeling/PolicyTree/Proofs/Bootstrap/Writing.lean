import Mathlib.Data.List.TakeWhile
import PolicyTree.Bootstrap.Basic
import PolicyTree.Proofs.Catalog.Reproduction
import PolicyTree.Proofs.Registry.Building
import PolicyTree.Proofs.Store.Coherence
import PolicyTree.Registry.Builtin
/-
  What of a configuration gets written. The rows of policies are gone through in order, those on
  resources first, up to the first that has a fault; what was held before stays as it was, but for
  the keys of the rows before that one, and each of these has the policy of the last such row
  (`Populates`).

  `Contents` says so of any rows. Writing a row first and then the others keeps it
  (`Contents.cons`), since a later row of the same key is written over the first.
-/
namespace PolicyTree

namespace Inventory

variable {σ : Type} {store : Store σ} {registry : Registry} {catalog : Catalog}
  {rows other : List (PolicyList × PolicyRow)} {entry : PolicyList × PolicyRow}
  {key : PolicyKey} {policy : Policy} {held now now' : PolicyKey → Option Policy} {state : σ}
  {serial serial' : Nat}

/-! ## Rows of policies -/

variable (catalog) in
/-- What the policy of a row is written under: a data type, or a resource of the catalog. -/
inductive Binds : PolicyList × PolicyRow → PolicyKey → Prop
  | type (row : PolicyRow) : Binds (.typePolicies, row) (.type row.subject)
  | resource {row : PolicyRow} {resource : Resource}
      (found : catalog.get? row.subject = some resource) :
      Binds (.resourcePolicies, row) (.resource resource.id)

variable (catalog) in
/-- The resource of a row is not in the catalog. -/
def unknown? : PolicyList × PolicyRow → Option SettingsError
  | (.typePolicies, _) => none
  | (.resourcePolicies, row) =>
    if catalog.contains row.subject then none
    else some (.bootstrap (.unknownResource row.subject))

variable (registry catalog) in
/-- What is wrong with a row: first its resource, then its rules. -/
def faults (entry : PolicyList × PolicyRow) : List SettingsError :=
  (unknown? catalog entry).toList ++ (entry.2.faults registry).map .policy

theorem Binds.unique (binds : Binds catalog entry key) {key' : PolicyKey}
    (binds' : Binds catalog entry key') : key = key' := by
  cases binds with
  | type row =>
    cases binds'
    rfl
  | resource found =>
    cases binds' with
    | resource found' =>
      rw [found] at found'
      cases found'
      rfl

theorem key_eq_error {error : SettingsError} (unknown : unknown? catalog entry = some error) :
    Inventory.key catalog entry.1 entry.2 = .error error := by
  obtain ⟨policies, row⟩ := entry
  cases policies with
  | typePolicies => cases unknown
  | resourcePolicies =>
    rw [unknown?, Catalog.contains] at unknown
    rw [Inventory.key]
    cases found : catalog.get? row.subject with
    | some resource =>
      rw [found] at unknown
      cases unknown
    | none =>
      rw [found] at unknown
      cases unknown
      rfl

theorem exists_key (known : unknown? catalog entry = none) :
    ∃ key, Inventory.key catalog entry.1 entry.2 = .ok key ∧ Binds catalog entry key := by
  obtain ⟨policies, row⟩ := entry
  cases policies with
  | typePolicies => exact ⟨_, rfl, .type row⟩
  | resourcePolicies =>
    rw [unknown?, Catalog.contains] at known
    rw [Inventory.key]
    cases found : catalog.get? row.subject with
    | some resource => exact ⟨_, rfl, .resource found⟩
    | none =>
      rw [found] at known
      cases known

/-- The first fault of a row is the one that is reported. -/
theorem binding_of_faults {error : SettingsError} {more : List SettingsError}
    (faulty : faults registry catalog entry = error :: more) :
    binding registry catalog serial entry.1 entry.2 = .error error := by
  unfold binding
  unfold faults at faulty
  cases unknown : unknown? catalog entry with
  | some first =>
    rw [unknown] at faulty
    cases faulty
    exact bind_eq_error_iff.2 (.inl (key_eq_error unknown))
  | none =>
    rw [unknown, Option.toList_none, List.nil_append] at faulty
    obtain ⟨fault, rest, wrong, rfl, -⟩ := List.map_eq_cons_iff.1 faulty
    obtain ⟨key, found, -⟩ := exists_key unknown
    refine bind_eq_error_iff.2 (.inr ⟨key, found, bind_eq_error_iff.2 (.inl ?_)⟩)
    rw [PolicyRow.build_of_faults wrong]
    rfl

variable (serial) in
/-- A row without a fault yields a key and a policy. -/
theorem exists_binding (faultless : faults registry catalog entry = []) :
    ∃ key policy, binding registry catalog serial entry.1 entry.2 = .ok (key, policy) ∧
      Binds catalog entry key ∧ policy.DescribedBy registry entry.2 serial := by
  obtain ⟨known, right⟩ := List.append_eq_nil_iff.1 faultless
  obtain ⟨key, found, binds⟩ := exists_key (Option.toList_eq_nil_iff.1 known)
  obtain ⟨policy, built, described⟩ :=
    PolicyRow.exists_build serial (List.map_eq_nil_iff.1 right)
  refine ⟨key, policy, ?_, binds, described⟩
  refine bind_eq_ok_iff.2 ⟨key, found, bind_eq_ok_iff.2 ⟨policy, ?_, rfl⟩⟩
  rw [built]
  rfl

/-! ## Contents -/

variable (registry catalog) in
/-- What is held after rows were written: under the key of a row the policy of the last such row,
its rules numbered on from those of the rows before it, and what was held under every other key. -/
structure Contents (rows : List (PolicyList × PolicyRow)) (serial : Nat)
    (held now : PolicyKey → Option Policy) : Prop where
  last : ∀ before entry later key, rows = before ++ entry :: later → Binds catalog entry key →
    (∀ other ∈ later, ¬ Binds catalog other key) → ∃ policy, now key = some policy ∧
      policy.DescribedBy registry entry.2
        (before.foldl (fun count entry => count + entry.2.ruleCount) serial)
  other : ∀ key, (∀ entry ∈ rows, ¬ Binds catalog entry key) → now key = held key

theorem contents_nil : Contents registry catalog [] serial held held where
  last before entry later _ split :=
    absurd split.symm (List.append_ne_nil_of_right_ne_nil before (List.cons_ne_nil entry later))
  other _ _ := rfl

theorem Contents.cons (binds : Binds catalog entry key)
    (described : policy.DescribedBy registry entry.2 serial)
    (rest : Contents registry catalog rows (serial + entry.2.ruleCount)
      (Function.update held key (some policy)) now) :
    Contents registry catalog (entry :: rows) serial held now where
  last before own later key' split binds' others := by
    rcases List.cons_eq_append_iff.1 split with ⟨rfl, same⟩ | ⟨before, rfl, behind⟩
    · cases same
      obtain rfl := binds.unique binds'
      refine ⟨policy, ?_, described⟩
      rw [rest.other key others, Function.update_self]
    · exact rest.last before own later key' behind binds' others
  other key' unbound := by
    rw [List.forall_mem_cons] at unbound
    have ne : key' ≠ key := by
      rintro rfl
      exact unbound.1 binds
    rw [rest.other key' unbound.2, Function.update_of_ne ne]

/-! ## Writing -/

variable (registry catalog) in
/-- The rows before the first that has a fault. -/
def written (rows : List (PolicyList × PolicyRow)) : List (PolicyList × PolicyRow) :=
  rows.takeWhile fun entry => (faults registry catalog entry).isEmpty

variable (registry catalog) in
/-- The first fault of the first row that has one. -/
def firstFault? (rows : List (PolicyList × PolicyRow)) : Option SettingsError :=
  rows.findSome? fun entry => (faults registry catalog entry).head?

variable (registry catalog serial) in
/-- Writing rows writes those before the first that has a fault, and reports that fault. -/
theorem writeRows_contents (rows : List (PolicyList × PolicyRow))
    (keeps : store.Keeps state held) :
    ∃ next now, writeRows store registry catalog rows serial state =
        ((firstFault? registry catalog rows).elim (.ok ()) .error, next) ∧
      store.Keeps next now ∧
      Contents registry catalog (written registry catalog rows) serial held now := by
  induction rows generalizing serial state held with
  | nil => exact ⟨state, held, rfl, keeps, contents_nil⟩
  | cons entry rest ih =>
    unfold firstFault? written
    cases found : faults registry catalog entry with
    | cons error more =>
      refine ⟨state, held, ?_, keeps, ?_⟩
      · rw [writeRows, binding_of_faults found, List.findSome?_cons, found]
        rfl
      · rw [List.takeWhile_cons, found]
        exact contents_nil
    | nil =>
      obtain ⟨key, policy, bound, binds, described⟩ := exists_binding serial found
      obtain ⟨after, saved, keeps⟩ := keeps.save key policy
      obtain ⟨next, now, run, keeps, contents⟩ := ih (serial + entry.2.ruleCount) keeps
      refine ⟨next, now, ?_, keeps, ?_⟩
      · rw [writeRows, bound]
        dsimp only
        rw [saved]
        dsimp only
        rw [run, List.findSome?_cons, found]
        rfl
      · rw [List.takeWhile_cons, found]
        exact contents.cons binds described

/-! ## Reordering -/

variable (catalog) in
/-- No two rows are bound to the same key. -/
def Distinct (rows : List (PolicyList × PolicyRow)) : Prop :=
  rows.Pairwise fun entry other => ∀ key, Binds catalog entry key → ¬ Binds catalog other key

theorem Distinct.perm (distinct : Distinct catalog rows) (perm : other.Perm rows) :
    Distinct catalog other :=
  (perm.pairwise_iff fun apart key binds binds' => apart key binds' binds).2 distinct

/-- No resource shares its key with a data type. -/
theorem distinct_policyRows {inventory : Inventory}
    (resources : Distinct catalog (inventory.resourcePolicies.map (.resourcePolicies, ·)))
    (types : Distinct catalog (inventory.typePolicies.map (.typePolicies, ·))) :
    Distinct catalog inventory.policyRows := by
  refine List.pairwise_append.2 ⟨resources, types, fun entry mem other mem' key binds binds' => ?_⟩
  obtain ⟨row, -, rfl⟩ := List.mem_map.1 mem
  obtain ⟨row', -, rfl⟩ := List.mem_map.1 mem'
  cases binds
  cases binds'

/-- Where no two rows have the same key, each of them is the last of its key. -/
theorem Contents.of_distinct (contents : Contents registry catalog rows serial held now)
    (distinct : Distinct catalog rows) (mem : entry ∈ rows) (binds : Binds catalog entry key) :
    ∃ policy n, now key = some policy ∧ policy.DescribedBy registry entry.2 n := by
  obtain ⟨before, later, rfl⟩ := List.append_of_mem mem
  have apart := (List.pairwise_cons.1 (List.pairwise_append.1 distinct).2.1).1
  obtain ⟨policy, eq, described⟩ :=
    contents.last before entry later key rfl binds fun other mem => apart other mem key binds
  exact ⟨policy, _, eq, described⟩

theorem Contents.alike (contents : Contents registry catalog rows serial held now)
    (contents' : Contents registry catalog other serial' held now')
    (distinct : Distinct catalog rows) (perm : other.Perm rows) (key : PolicyKey) :
    Option.Rel Policy.Alike (now key) (now' key) := by
  by_cases bound : ∃ entry ∈ rows, Binds catalog entry key
  · obtain ⟨entry, mem, binds⟩ := bound
    obtain ⟨policy, n, eq, described⟩ := contents.of_distinct distinct mem binds
    obtain ⟨policy', n', eq', described'⟩ :=
      contents'.of_distinct (distinct.perm perm) (perm.mem_iff.2 mem) binds
    rw [eq, eq']
    exact .some (described.alike described')
  · have unbound : ∀ entry ∈ rows, ¬ Binds catalog entry key :=
      fun entry mem binds => bound ⟨entry, mem, binds⟩
    rw [contents.other key unbound,
      contents'.other key fun entry mem => unbound entry (perm.mem_iff.1 mem)]
    exact Policy.rel_alike_refl _

/-- Rows that are written once more leave what they left the first time. -/
theorem Contents.again (contents : Contents registry catalog rows serial held now)
    (contents' : Contents registry catalog rows serial' now now') (key : PolicyKey) :
    Option.Rel Policy.Alike (now key) (now' key) := by
  by_cases bound : ∃ entry ∈ rows, Binds catalog entry key
  · obtain ⟨before, entry, later, split, binds, others⟩ := exists_last_of_exists bound
    obtain ⟨policy, eq, described⟩ := contents.last before entry later key split binds others
    obtain ⟨policy', eq', described'⟩ := contents'.last before entry later key split binds others
    rw [eq, eq']
    exact .some (described.alike described')
  · rw [contents'.other key fun entry mem binds => bound ⟨entry, mem, binds⟩]
    exact Policy.rel_alike_refl _

/-! ## Populating a store -/

variable (store) in
/-- Under each key two states of a store hold policies that judge alike, or none. -/
def HoldsAlike (state state' : σ) : Prop :=
  ∃ now now', store.Keeps state now ∧ store.Keeps state' now' ∧
    ∀ key, Option.Rel Policy.Alike (now key) (now' key)

variable (store registry catalog) in
/-- What populating a store ends with, and what the store holds then. -/
structure Populates (inventory : Inventory) (serial : Nat) (state : σ)
    (held : PolicyKey → Option Policy) : Prop where
  ok : (∀ entry ∈ inventory.policyRows, faults registry catalog entry = []) →
    (inventory.populate store registry catalog serial state).1 =
      .ok (inventory.resourcePolicies.length + inventory.typePolicies.length)
  error : ∀ before entry behind error more, inventory.policyRows = before ++ entry :: behind →
    (∀ good ∈ before, faults registry catalog good = []) →
    faults registry catalog entry = error :: more →
      (inventory.populate store registry catalog serial state).1 = .error error
  contents : ∃ now,
    store.Keeps (inventory.populate store registry catalog serial state).2 now ∧
      Contents registry catalog (written registry catalog inventory.policyRows) serial held now
  named : ∀ rows, Catalog.ofRows rows = .ok catalog → ∀ row key,
    Binds catalog (.resourcePolicies, row) key → key = .resource row.subject
  repeated : ∀ serial' answer next,
    inventory.populate store registry catalog serial state = (answer, next) →
      (inventory.populate store registry catalog serial' next).1 = answer ∧
        HoldsAlike store next (inventory.populate store registry catalog serial' next).2
  reordered : ∀ other : Inventory, other.resourcePolicies.Perm inventory.resourcePolicies →
    other.typePolicies.Perm inventory.typePolicies →
    (∀ entry ∈ inventory.policyRows, faults registry catalog entry = []) →
    Distinct catalog (inventory.resourcePolicies.map (.resourcePolicies, ·)) →
    Distinct catalog (inventory.typePolicies.map (.typePolicies, ·)) →
      ∀ serial', (other.populate store registry catalog serial' state).1 =
          (inventory.populate store registry catalog serial state).1 ∧
        HoldsAlike store (inventory.populate store registry catalog serial state).2
          (other.populate store registry catalog serial' state).2

variable (registry catalog serial) in
theorem populate_contents (inventory : Inventory) (keeps : store.Keeps state held) :
    ∃ next now, inventory.populate store registry catalog serial state =
        ((firstFault? registry catalog inventory.policyRows).elim
          (.ok (inventory.resourcePolicies.length + inventory.typePolicies.length)) .error, next) ∧
      store.Keeps next now ∧ Contents registry catalog
        (written registry catalog inventory.policyRows) serial held now := by
  obtain ⟨next, now, run, keeps, contents⟩ :=
    writeRows_contents registry catalog serial inventory.policyRows keeps
  refine ⟨next, now, ?_, keeps, contents⟩
  rw [populate, run]
  cases firstFault? registry catalog inventory.policyRows with
  | some error => rfl
  | none =>
    have count : inventory.policyCount =
        inventory.resourcePolicies.length + inventory.typePolicies.length := by
      rw [policyCount, policyRows, List.length_append, List.length_map, List.length_map]
    rw [Option.elim_none, Option.elim_none, ← count]

theorem firstFault?_eq_none (faultless : ∀ entry ∈ rows, faults registry catalog entry = []) :
    firstFault? registry catalog rows = none := by
  refine List.findSome?_eq_none_iff.2 fun entry mem => ?_
  rw [faultless entry mem]
  rfl

theorem firstFault?_eq_some {behind : List (PolicyList × PolicyRow)} {error : SettingsError}
    {more : List SettingsError} (good : ∀ entry ∈ rows, faults registry catalog entry = [])
    (faulty : faults registry catalog entry = error :: more) :
    firstFault? registry catalog (rows ++ entry :: behind) = some error := by
  have none : rows.findSome? _ = none := firstFault?_eq_none good
  rw [firstFault?, List.findSome?_append, none, List.findSome?_cons, faulty]
  rfl

theorem written_eq_self (faultless : ∀ entry ∈ rows, faults registry catalog entry = []) :
    written registry catalog rows = rows := by
  refine List.takeWhile_eq_self_iff.2 fun entry mem => ?_
  rw [faultless entry mem, List.isEmpty_nil]

theorem populate_reordered {inventory reordered : Inventory} (keeps : store.Keeps state held)
    (resources : reordered.resourcePolicies.Perm inventory.resourcePolicies)
    (types : reordered.typePolicies.Perm inventory.typePolicies)
    (faultless : ∀ entry ∈ inventory.policyRows, faults registry catalog entry = [])
    (distinct : Distinct catalog inventory.policyRows) :
    (reordered.populate store registry catalog serial' state).1 =
        (inventory.populate store registry catalog serial state).1 ∧
      HoldsAlike store (inventory.populate store registry catalog serial state).2
        (reordered.populate store registry catalog serial' state).2 := by
  have perm : reordered.policyRows.Perm inventory.policyRows :=
    (resources.map _).append (types.map _)
  have faultless' : ∀ entry ∈ reordered.policyRows, faults registry catalog entry = [] :=
    fun entry mem => faultless entry (perm.mem_iff.1 mem)
  obtain ⟨next, now, run, after, contents⟩ :=
    populate_contents registry catalog serial inventory keeps
  obtain ⟨next', now', run', after', contents'⟩ :=
    populate_contents registry catalog serial' reordered keeps
  rw [written_eq_self faultless] at contents
  rw [written_eq_self faultless'] at contents'
  rw [run, run', firstFault?_eq_none faultless, firstFault?_eq_none faultless',
    resources.length_eq, types.length_eq]
  exact ⟨rfl, now, now', after, after', contents.alike contents' distinct perm⟩

/-- A store that does not fail is populated with the policies of the rows before the first bad one,
whatever it held. If there is no bad one and no key stands twice, the order of the rows of either
list does not count. -/
theorem populate_writes_prefix (inventory : Inventory) (keeps : store.Keeps state held) :
    Populates store registry catalog inventory serial state held := by
  obtain ⟨next, now, run, after, contents⟩ :=
    populate_contents registry catalog serial inventory keeps
  constructor
  · intro faultless
    rw [run, firstFault?_eq_none faultless]
    rfl
  · intro before entry behind error more split good faulty
    rw [run, split, firstFault?_eq_some good faulty]
    rfl
  · rw [run]
    exact ⟨now, after, contents⟩
  · intro rows built row key binds
    cases binds with
    | resource found => rw [Catalog.id_eq_of_get? built found]
  · intro serial' answer left populated
    rw [run] at populated
    cases populated
    obtain ⟨next', now', run', after', contents'⟩ :=
      populate_contents registry catalog serial' inventory after
    rw [run']
    exact ⟨rfl, now, now', after, after', contents.again contents'⟩
  · intro other resources types faultless distinct distinct' serial'
    exact populate_reordered keeps resources types faultless
      (distinct_policyRows distinct distinct')

namespace Sample

/-- One system. -/
def tree : Catalog := ⟨.insert .empty "s" (.system "s")⟩

def first : User := .named "u"

def second : User := .named "v"

/-- Two policies on the system, a policy on a type, and one more on it with a rule that nobody
knows, whose name the rule behind it takes. -/
def inventory : Inventory where
  resources := [⟨"s", .system, none, none, none, none⟩]
  resourcePolicies :=
    [⟨"s", first, [⟨"staff", "role", .ofList [("role", "staff")]⟩], []⟩,
      ⟨"s", second, [⟨"staff", "role", .ofList [("role", "staff")]⟩], []⟩]
  typePolicies :=
    [⟨"t", first, [], []⟩,
      ⟨"t", second, [⟨"a", "nothing", .empty⟩, ⟨"a", "role", .ofList [("role", "staff")]⟩], []⟩]

/-- A memory with the policy of another type. -/
def memory : Memory := Memory.empty.put (.type "x") (.ofOwner first)

/-- A cache of five minutes in front of a memory. -/
def cached : Store (Cache Memory) := Cache.store Memory.store (.ofSeconds 300) fun _ => ⟨0⟩

theorem keeps : cached.Keeps (.around memory) memory.get? :=
  (Cache.coherent_around memory).keeps fun _ _ => rfl

end Sample

open Sample in
/-- The rule that nobody knows is reported. The system has its second policy by then, the type its
first, and the other type what it had. -/
theorem populate_writes_prefix_shadowed :
    cached.Keeps (.around memory) memory.get? ∧
      Populates cached .builtin tree inventory 0 (.around memory) memory.get? ∧
      ∃ next, inventory.populate cached .builtin tree 0 (.around memory) =
          (.error (.policy (.unknownRule .resource "nothing")), next) ∧
        (next.inner.get? (.resource "s")).map (·.owner) = some second ∧
        (next.inner.get? (.type "t")).map (·.owner) = some first ∧
        next.inner.get? (.type "x") = some (.ofOwner first) ∧
        next.inner.get? (.resource "x") = none :=
  ⟨keeps, populate_writes_prefix inventory keeps, _, rfl, rfl, rfl, rfl, rfl⟩

end Inventory

end PolicyTree
