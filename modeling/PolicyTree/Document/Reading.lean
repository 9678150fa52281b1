import PolicyTree.Map.Sorted
/-
  How the values of a kind of document are taken: as texts, flags, counts, lists and
  records. One kind of document is strict and takes only what is written in the right form;
  another converts. What is read from a document is said once for all kinds.

  A record is given by its members, or by a list of values in the order of the names.
-/
namespace PolicyTree

/-- How the values of a kind of document are taken. -/
structure Reading (ν : Type) where
  text : ν → Option String
  flag : ν → Option Bool
  count : ν → Option UInt64
  items : ν → Option (List ν)
  members : ν → Option (List (String × ν))
  record : List String → ν → Option (List (String × ν))
  choice : ν → Option String
  isNull : ν → Bool

namespace Reading

variable {ν α : Type} (reading : Reading ν)

/-- A member that must be there. -/
def required (read : ν → Option α) (fields : List (String × ν)) (name : String) : Option α :=
  (fields.lookup name).bind read

/-- A member that has a default; a null is not the default. -/
def withDefault (read : ν → Option α) (default : α) (fields : List (String × ν))
    (name : String) : Option α :=
  match fields.lookup name with
  | none => some default
  | some value => read value

/-- A member that may be left out or be null. -/
def optional (read : ν → Option α) (fields : List (String × ν)) (name : String) :
    Option (Option α) :=
  match fields.lookup name with
  | none => some none
  | some value => if reading.isNull value then some none else (read value).map some

/-- A list of which every item is read in one way. -/
def list (read : ν → Option α) (value : ν) : Option (List α) :=
  (reading.items value).bind fun items => items.mapM read

/-- A set of names. -/
def nameSet (value : ν) : Option NameSet :=
  (reading.list reading.text value).map .ofList

/-- Texts under names. -/
def textMap (value : ν) : Option (NameMap String) :=
  (reading.members value).bind fun members =>
    (members.mapM fun member => (reading.text member.2).map (member.1, ·)).map .ofList

end Reading

end PolicyTree
