import PolicyTree.Decimal.Numeral
import PolicyTree.Document.Basic
/-
  Places in a document. A path starts with a name and goes on with names, each after a dot,
  and with indices in brackets. Setting a place makes the tables and lists on the way, in
  the place of what is not one. A table that is set goes into the table that is there.
-/
namespace PolicyTree.Document

/-- One step down. -/
inductive Step where
  | key (name : String)
  | index (i : Int)
  deriving DecidableEq, Repr

/-! ## Paths in text -/

/-- Whether a character may stand in a name of a path. -/
def isNameChar (c : Char) : Bool := c.isAlphanum || c == '_' || c == '-'

/-- A name off the front. -/
def takeName? (cs : List Char) : Option (String × List Char) :=
  let name := cs.takeWhile isNameChar
  if name.isEmpty then none else some (String.ofList name, cs.dropWhile isNameChar)

/-- Whether a character may stand around an index. -/
def isGap (c : Char) : Bool := c == ' ' || c == '\t'

/-- An index off the front, after its bracket, and the bracket that closes it: digits with a
minus sign at most. -/
def takeIndex? (cs : List Char) : Option (Int × List Char) :=
  let start := cs.dropWhile isGap
  let number := start.takeWhile fun c => c.isDigit || c == '-'
  let rest := (start.drop number.length).dropWhile isGap
  match Decimal.signedWord? (String.ofList number), rest with
  | some i, ']' :: rest => some (i, rest)
  | _, _ => none

/-- The steps after the first name. -/
def takeSteps? (cs : List Char) : Option (List Step) :=
  match cs with
  | [] => some []
  | '.' :: more =>
    match takeName? more with
    | none => none
    | some (name, rest) =>
      if rest.length ≤ more.length then (takeSteps? rest).map (.key name :: ·) else none
  | '[' :: more =>
    match takeIndex? more with
    | none => none
    | some (i, rest) =>
      if rest.length ≤ more.length then (takeSteps? rest).map (.index i :: ·) else none
  | _ => none
termination_by cs.length
decreasing_by all_goals (simp only [List.length_cons]; omega)

/-- The path that a text writes; a text that writes none is one name. -/
def pathOfText (text : String) : List Step :=
  match takeName? text.toList with
  | none => [.key text]
  | some (name, rest) =>
    match takeSteps? rest with
    | none => [.key text]
    | some steps => .key name :: steps

/-! ## Setting -/

/-- Put an entry in the place of the one under its key, or at the end. -/
def putEntry (key : String) (value : Document) : List (String × Document) → List (String × Document)
  | [] => [(key, value)]
  | (k, v) :: rest => if k = key then (k, value) :: rest else (k, v) :: putEntry key value rest

mutual

/-- What stands at a place after a value was set there: a table goes into a table, and any
other value takes the place. -/
def overlaid (there : Option Document) : Document → Document
  | .table incoming => .table (overlaidEntries ((there.map entries).getD []) incoming)
  | value => value

/-- The entries of a table after others were set in it. -/
def overlaidEntries (there : List (String × Document)) :
    List (String × Document) → List (String × Document)
  | [] => there
  | (key, value) :: rest =>
    overlaidEntries (putEntry key (overlaid (there.lookup key) value) there) rest

end

/-- The items of a list; another value has none. -/
def items : Document → List Document
  | .list items => items
  | _ => []

/-- A list with room for an index, and the place of it. Nulls fill the room; an index below
zero counts from the end. -/
def roomFor (i : Int) (items : List Document) : List Document × Nat :=
  if 0 ≤ i then (items ++ List.replicate (i.toNat + 1 - items.length) .null, i.toNat)
  else
    let back := (-i).toNat
    if back ≤ items.length then (items, items.length - back)
    else (List.replicate (back - items.length) .null ++ items, 0)

/-- What stands somewhere after a value was set at the end of some steps from there. -/
def setAt (value : Document) : List Step → Option Document → Document
  | [], there => overlaid there value
  | .key name :: steps, there =>
    let entries := (there.map entries).getD []
    .table (putEntry name (setAt value steps (entries.lookup name)) entries)
  | .index i :: steps, there =>
    let (items, place) := roomFor i ((there.map items).getD [])
    .list (items.modify place fun item => setAt value steps (some item))

/-- A document after a value was set at the place that a text writes. -/
def setPath (document : Document) (path : String) (value : Document) : Document :=
  setAt value (pathOfText path) (some document)

end PolicyTree.Document
