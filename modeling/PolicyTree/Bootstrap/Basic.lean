import PolicyTree.Catalog.Basic
import PolicyTree.Policy.Build
import PolicyTree.Settings.Error
import PolicyTree.Store.Cache
import PolicyTree.Store.Memory
import PolicyTree.Word
/-
  From a configuration to a service that answers: the tree of resources is built, every
  policy is made and written, those on resources first, and the store gets its cache.
  Writing stops at the first policy that is bad; the ones before it stay written.
-/
namespace PolicyTree

/-! ## Writing the policies of a configuration -/

namespace Inventory

/-- What the policy of a row is written under. A resource must be in the catalog. -/
def key (catalog : Catalog) (policies : PolicyList) (row : PolicyRow) :
    Except SettingsError PolicyKey :=
  match policies with
  | .typePolicies => .ok (.type row.subject)
  | .resourcePolicies =>
    match catalog.get? row.subject with
    | some resource => .ok (.resource resource.id)
    | none => .error (.bootstrap (.unknownResource row.subject))

/-- The key and the policy of a row. -/
def binding (registry : Registry) (catalog : Catalog) (serial : Nat) (policies : PolicyList)
    (row : PolicyRow) : Except SettingsError (PolicyKey × Policy) := do
  let key ← key catalog policies row
  let policy ← (row.build registry serial).mapError .policy
  return (key, policy)

/-- The rows of policies in the order in which they are written. -/
def policyRows (inventory : Inventory) : List (PolicyList × PolicyRow) :=
  inventory.resourcePolicies.map (PolicyList.resourcePolicies, ·) ++
    inventory.typePolicies.map (PolicyList.typePolicies, ·)

/-- Write the policies of rows one after the other, up to the first bad one. -/
def writeRows {σ : Type} (store : Store σ) (registry : Registry) (catalog : Catalog) :
    List (PolicyList × PolicyRow) → (serial : Nat) → σ → Except SettingsError Unit × σ
  | [], _, state => (.ok (), state)
  | (policies, row) :: rest, serial, state =>
    match binding registry catalog serial policies row with
    | .error error => (.error error, state)
    | .ok (key, policy) =>
      match (store.save key policy).on state with
      | (.error failure, state) => (.error (.failed failure), state)
      | (.ok _, state) => writeRows store registry catalog rest (serial + row.ruleCount) state

/-- The number of policies in a configuration. -/
def policyCount (inventory : Inventory) : Nat := inventory.policyRows.length

/-- The number of rules in a configuration. -/
def ruleCount (inventory : Inventory) : Nat :=
  inventory.policyRows.foldl (fun count (_, row) => count + row.ruleCount) 0

/-- Write every policy; the answer is how many there are. -/
def populate {σ : Type} (store : Store σ) (registry : Registry) (catalog : Catalog)
    (inventory : Inventory) (serial : Nat) (state : σ) : Except SettingsError Nat × σ :=
  match writeRows store registry catalog inventory.policyRows serial state with
  | (.error error, state) => (.error error, state)
  | (.ok (), state) => (.ok inventory.policyCount, state)

end Inventory

/-! ## The service -/

namespace Caching

/-- How long look-ups are remembered when the cache is on. -/
def ttl (caching : Caching) : Duration :=
  .ofSeconds (min caching.ttlSecs.toNat Word.maxSigned)

/-- How long look-ups are remembered; not at all when the cache is off. -/
def lifetime (caching : Caching) : Duration :=
  if caching.enabled then caching.ttl else .zero

end Caching

/-- A service that answers questions about access. `serial` numbers the next new rule. -/
structure Service where
  catalog : Catalog
  state : Cache Memory
  lifetime : Duration
  policies : Nat
  serial : Nat

namespace Service

/-- The store of a service. -/
def store (service : Service) (clock : Clock) : Store (Cache Memory) :=
  Cache.store Memory.store service.lifetime clock

/-- The service that a configuration describes. -/
def start (registry : Registry) (settings : Settings) : Except SettingsError Service := do
  let catalog ← (Catalog.ofRows settings.inventory.resources).mapError
    fun error => .policy (.model error)
  let lifetime := settings.caching.lifetime
  let store := Cache.store Memory.store lifetime fun _ => ⟨0⟩
  match settings.inventory.populate store registry catalog 0 (Cache.around .empty) with
  | (.error error, _) => .error error
  | (.ok policies, state) =>
    .ok ⟨catalog, state, lifetime, policies, settings.inventory.ruleCount⟩

end Service

end PolicyTree
