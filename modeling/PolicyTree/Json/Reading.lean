import PolicyTree.Document.Reading
import PolicyTree.Json.Basic
import PolicyTree.Word
/-
  JSON documents are taken strictly: nothing is converted, and a count is a number without
  a fraction between 0 and 2^64 - 1.
-/
namespace PolicyTree.Json

/-- A number without a fraction. -/
def int? : Json → Option Int
  | .number ⟨mantissa, 0⟩ => some mantissa
  | _ => none

/-- A number that a word of 64 bits holds. -/
def word? (value : Json) : Option UInt64 :=
  value.int?.bind Word.ofInt?

/-- The members of a record: those of an object, or the items of an array that is not longer
than the names. -/
def record? (names : List String) : Json → Option (List (String × Json))
  | .object members => some members
  | .array items => if items.length ≤ names.length then some (names.zip items) else none
  | _ => none

/-- The strict reading of JSON. -/
def reading : Reading Json where
  text := fun | .text value => some value | _ => none
  flag := fun | .bool value => some value | _ => none
  count := word?
  items := fun | .array items => some items | _ => none
  members := fun | .object members => some members | _ => none
  record := record?
  choice := fun | .text value => some value | .object [(name, .null)] => some name | _ => none
  isNull := fun | .null => true | _ => false

end PolicyTree.Json
