import PolicyTree.Map.Sorted
/-
  JSON values. A number is a decimal fraction, so an integer is told from a fraction by its
  form alone. The members of an object stand in increasing order of their names, each name
  once, when the object is made by `Json.ofMembers`.
-/
namespace PolicyTree

/-- The decimal fraction `mantissa / 10 ^ places`. -/
structure Decimal where
  mantissa : Int
  places : Nat
  deriving DecidableEq, Repr

/-- A JSON value. -/
inductive Json where
  | null
  | bool (value : Bool)
  | number (value : Decimal)
  | text (value : String)
  | array (items : List Json)
  | object (members : List (String × Json))
  deriving Inhabited

namespace Json

/-- An integer. -/
def int (n : Int) : Json := .number ⟨n, 0⟩

/-- An object of the given members; of two members of one name the later one stays. -/
def ofMembers (members : List (String × Json)) : Json := .object (Sorted.ofList members)

/-- An array of texts. -/
def texts (values : List String) : Json := .array (values.map .text)

/-- A text, or null. -/
def optionalText : Option String → Json
  | none => .null
  | some value => .text value

end Json

end PolicyTree
