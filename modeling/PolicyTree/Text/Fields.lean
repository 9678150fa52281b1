/-
  Text cut at a separator: into all its fields, or once at the first separator.
-/
namespace PolicyTree.Text

/-- The stretches between the occurrences of a separator; the empty text is one empty field. -/
def split (separator : Char) (s : String) : List String :=
  (s.toList.splitOn separator).map String.ofList

/-- What stands before and after the first separator, if there is one. -/
def splitOnce? (separator : Char) (s : String) : Option (String × String) :=
  match s.toList.dropWhile (· ≠ separator) with
  | [] => none
  | _ :: after => some (String.ofList (s.toList.takeWhile (· ≠ separator)), String.ofList after)

end PolicyTree.Text
