import PolicyTree.Map.Ordered
import PolicyTree.Store.Basic
/-
  The store that keeps policies in memory. It never fails, and the last write of a key is
  what a look-up of it answers.

  Main statements: `find_save_self` and `find_save_of_ne`.
-/
namespace PolicyTree

/-- The policies kept in memory. -/
structure Memory where
  policies : OrderedMap PolicyKey Policy

namespace Memory

/-- The memory without policies. -/
def empty : Memory := ⟨.empty⟩

instance : EmptyCollection Memory := ⟨empty⟩

instance : Inhabited Memory := ⟨empty⟩

/-- The policy kept under a key. -/
def get? (memory : Memory) (key : PolicyKey) : Option Policy := memory.policies.get? key

/-- Keep a policy under a key, in the place of the one that was there. -/
def put (memory : Memory) (key : PolicyKey) (policy : Policy) : Memory :=
  ⟨memory.policies.insert key policy⟩

/-- The number of policies. -/
def size (memory : Memory) : Nat := memory.policies.size

def isEmpty (memory : Memory) : Bool := memory.policies.entries.isEmpty

/-- The number of policies kept for resources. -/
def resourceCount (memory : Memory) : Nat :=
  (memory.policies.keys.filter fun key => key matches .resource _).length

/-- The number of policies kept for data types. -/
def typeCount (memory : Memory) : Nat :=
  (memory.policies.keys.filter fun key => key matches .type _).length

/-- The memory as a store. -/
def store : Store Memory where
  find key := .of fun memory => (.ok (memory.get? key), memory)
  save key policy := .of fun memory => (.ok policy, memory.put key policy)

@[simp] theorem find_save_self (memory : Memory) (key : PolicyKey) (policy : Policy) :
    (memory.put key policy).get? key = some policy :=
  OrderedMap.get?_insert_self memory.policies key policy

theorem find_save_of_ne (memory : Memory) {key other : PolicyKey} (ne : other ≠ key)
    (policy : Policy) : (memory.put key policy).get? other = memory.get? other :=
  OrderedMap.get?_insert_of_ne memory.policies ne policy

end Memory

end PolicyTree
