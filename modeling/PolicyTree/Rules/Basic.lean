import PolicyTree.Map.Ordered
import PolicyTree.Rule.Basic
import PolicyTree.Text.Quoted
/-
  A collection of rules under names. Rules are applied in the order in which their names
  were first inserted; a later rule of a name takes the place of the earlier one. Beside
  the rules the collection keeps every name ever inserted, in order: its contributions.

  Main statements: `merge_empty`, `contributions_merge` and `names_insert`.
-/
namespace PolicyTree

/-- Rules under names, and the names that were inserted. -/
structure Rules (α : Type) where
  rules : OrderedMap String (Rule α)
  contributions : List String

namespace Rules

variable {α : Type}

/-- The collection without rules. -/
def empty : Rules α := ⟨.empty, []⟩

instance : EmptyCollection (Rules α) := ⟨empty⟩

instance : Inhabited (Rules α) := ⟨empty⟩

/-- Insert a rule, in the place of the one of that name if there is one. -/
def insert (rules : Rules α) (name : String) (rule : Rule α) : Rules α :=
  ⟨rules.rules.insert name rule, rules.contributions ++ [name]⟩

/-- Insert the rules of another collection in their order; all its contributions follow. -/
def merge (rules other : Rules α) : Rules α :=
  ⟨other.rules.entries.foldl (fun map entry => map.insert entry.1 entry.2) rules.rules,
    rules.contributions ++ other.contributions⟩

/-- Merge collections one after the other. -/
def mergeAll (collections : List (Rules α)) : Rules α := collections.foldl merge empty

/-- What the message of a collection without contributions says. -/
def noRulesSet : String := "no rules set"

/-- The contributions, for a reader. -/
def message (rules : Rules α) : String :=
  if rules.contributions.isEmpty then noRulesSet else ", ".intercalate rules.contributions

/-- The names in the order of application. -/
def names (rules : Rules α) : List String := rules.rules.keys

def get? (rules : Rules α) (name : String) : Option (Rule α) := rules.rules.get? name

def contains (rules : Rules α) (name : String) : Bool := rules.rules.contains name

def size (rules : Rules α) : Nat := rules.rules.size

def isEmpty (rules : Rules α) : Bool := rules.rules.entries.isEmpty

/-- Whether the same instances stand under the same names in the same order, after the same
contributions. -/
def same (a b : Rules α) : Bool :=
  a.contributions == b.contributions && a.size == b.size &&
    (a.rules.entries.zip b.rules.entries).all fun (x, y) => x.1 == y.1 && x.2.same y.2

/-- The collection, for a reader who looks into it. -/
def debugText (rules : Rules α) : String :=
  "Rules \x7b names: " ++ Text.quotedList rules.names ++ ", message: " ++
    Text.quoted rules.message ++ " \x7d"

@[simp] theorem merge_empty (rules : Rules α) : rules.merge empty = rules := by
  simp [merge, empty, OrderedMap.empty]

@[simp] theorem contributions_merge (rules other : Rules α) :
    (rules.merge other).contributions = rules.contributions ++ other.contributions := rfl

theorem names_insert (rules : Rules α) (name : String) (rule : Rule α) :
    (rules.insert name rule).names =
      if name ∈ rules.names then rules.names else rules.names ++ [name] :=
  OrderedMap.keys_insert rules.rules name rule

end Rules

end PolicyTree
