import PolicyTree.Error
import PolicyTree.Map.Sorted
/-
  What a request is for: entries under names, one of which is always the purpose.

  Main statement: `purpose_set` (only an entry `purpose` changes the purpose).
-/
namespace PolicyTree

/-- The name of the entry that every context has. -/
def purposeKey : String := "purpose"

/-- The entries of a request. -/
structure Context where
  entries : NameMap String
  hasPurpose : entries.contains purposeKey = true
  deriving DecidableEq

namespace Context

/-- The context with a purpose and nothing else. -/
def ofPurpose (purpose : String) : Context :=
  ⟨NameMap.empty.insert purposeKey purpose, by simp [NameMap.contains]⟩

instance : Inhabited Context := ⟨ofPurpose ""⟩

/-- The context with an entry set. -/
def set (c : Context) (key value : String) : Context :=
  ⟨c.entries.insert key value, by
    have h := c.hasPurpose
    by_cases eq : purposeKey = key
    · subst eq
      simp [NameMap.contains]
    · simpa [NameMap.contains, NameMap.get?_insert_of_ne _ eq] using h⟩

/-- Entries make a context if the purpose is among them. -/
def ofEntries (entries : NameMap String) : Except ModelError Context :=
  if h : entries.contains purposeKey = true then .ok ⟨entries, h⟩
  else .error (.invalidContext .missingPurpose)

def get? (c : Context) (key : String) : Option String := c.entries.get? key

def contains (c : Context) (key : String) : Bool := c.entries.contains key

def size (c : Context) : Nat := c.entries.size

def isEmpty (c : Context) : Bool := c.entries.isEmpty

def purpose (c : Context) : String := (c.get? purposeKey).getD ""

theorem purpose_set (c : Context) {key : String} (ne : key ≠ purposeKey) (value : String) :
    (c.set key value).purpose = c.purpose := by
  simp [purpose, get?, set, NameMap.get?_insert_of_ne _ ne.symm]

end Context

end PolicyTree
