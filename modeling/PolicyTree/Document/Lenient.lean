import PolicyTree.Decimal.Numeral
import PolicyTree.Decimal.Shortest
import PolicyTree.Document.Basic
import PolicyTree.Document.Reading
import PolicyTree.Word
/-
  Documents of settings are taken leniently: a scalar that is not of the wanted type is
  converted where that makes sense. Every scalar has a text; a flag may be a word or a
  number that is not zero; a count may be a text of digits, a flag or a word for one, or a
  real number, which is rounded with halves away from zero.
-/
namespace PolicyTree.Document

/-- The flag that a word or a digit stands for, in any case. -/
def flagOfWord? (word : String) : Option Bool :=
  let lower := String.ofList (word.toList.map Char.toLower)
  if ["true", "yes", "on", "1"].contains lower then some true
  else if ["false", "no", "off", "0"].contains lower then some false
  else none

/-- A flag as a count. -/
def countOfFlag (value : Bool) : UInt64 := if value then 1 else 0

def text? : Document → Option String
  | .text value => some value
  | .flag value => some (if value then "true" else "false")
  | .integer value => some (toString value)
  | .real value => some (Decimal.text value)
  | _ => none

def flag? : Document → Option Bool
  | .flag value => some value
  | .integer value => some (value != 0)
  | .real value => some (value != 0.0)
  | .text value => flagOfWord? value
  | _ => none

def count? : Document → Option UInt64
  | .integer value => Word.ofInt? value
  | .flag value => some (countOfFlag value)
  | .real value => some value.round.toUInt64
  | .text value => ((flagOfWord? value).map countOfFlag).or (Decimal.word? value)
  | _ => none

/-- The lenient reading of documents. -/
def reading : Reading Document where
  text := text?
  flag := flag?
  count := count?
  items := fun | .list items => some items | _ => none
  members := fun | .table entries => some entries | _ => none
  record names := fun
    | .table entries => some entries
    | .list items => some (names.zip items)
    | _ => none
  choice := fun | .text value => some value | .table [(name, _)] => some name | _ => none
  isNull := fun | .null => true | _ => false

end PolicyTree.Document
