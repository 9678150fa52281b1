import PolicyTree.Document.Basic
/-
  The tables of a TOML text while it is read. Which table may still be extended depends on
  how it came about: by a header of its own, on the way to a deeper header, or by the dots
  of a key. A header may not name a table twice. Dots pass through the last table of a list
  and through a table on the way to a header, but they set values only in tables that came
  about by dots, and they may not reach into a table that has a header.
-/
namespace PolicyTree.Toml

/-- How a table came about. -/
inductive Origin where
  | header
  | implied
  | dotted
  deriving DecidableEq, Repr

/-- What stands under a key. -/
inductive Node where
  | value (document : Document)
  | table (origin : Origin) (entries : List (String × Node))
  | tables (items : List (List (String × Node)))

/-- The entries of a table in the order of their first mention. -/
abbrev Entries := List (String × Node)

/-- Put a node in the place of the one under a key. -/
def replaceNode (key : String) (node : Node) (entries : Entries) : Entries :=
  entries.map fun entry => if entry.1 = key then (key, node) else entry

/-- Change the last table of a list. -/
def changeLast? (change : Entries → Option Entries) : List Entries → Option (List Entries)
  | [] => none
  | [last] => (change last).map ([·])
  | first :: rest => (changeLast? change rest).map (first :: ·)

/-- Change the table at the end of a path of headers, which is made where it is not there. -/
def changeAt? (change : Entries → Option Entries) : List String → Entries → Option Entries
  | [], entries => change entries
  | key :: path, entries =>
    match entries.lookup key with
    | none =>
      (changeAt? change path []).map fun inner => entries ++ [(key, .table .implied inner)]
    | some (.table origin inner) =>
      (changeAt? change path inner).map fun inner => replaceNode key (.table origin inner) entries
    | some (.tables items) =>
      (changeLast? (changeAt? change path) items).map fun items =>
        replaceNode key (.tables items) entries
    | some (.value _) => none

/-- Change the table at the end of dots, which is made where it is not there. The table
itself came about by dots alone, and no table on the way by a header of its own. -/
def changeByDots? (change : Entries → Option Entries) : List String → Entries → Option Entries
  | [], entries => change entries
  | key :: path, entries =>
    match entries.lookup key with
    | none =>
      (changeByDots? change path []).map fun inner => entries ++ [(key, .table .dotted inner)]
    | some (.table origin inner) =>
      if origin = .dotted || (origin = .implied && !path.isEmpty) then
        (changeByDots? change path inner).map fun inner =>
          replaceNode key (.table origin inner) entries
      else none
    | some (.tables items) =>
      if path.isEmpty then none
      else (changeLast? (changeByDots? change path) items).map fun items =>
        replaceNode key (.tables items) entries
    | some (.value _) => none

/-- A path without its last part, and that part. -/
def splitPath (path : List String) : List String × String := (path.dropLast, path.getLastD "")

/-- Give a key that is not there a value. -/
def addValue? (path : List String) (document : Document) : Entries → Option Entries :=
  let (above, key) := splitPath path
  changeByDots? (fun entries =>
    if (entries.lookup key).isSome then none else some (entries ++ [(key, .value document)])) above

/-- Open the table of a header. -/
def openTable? (path : List String) : Entries → Option Entries :=
  let (above, key) := splitPath path
  changeAt? (fun entries =>
    match entries.lookup key with
    | none => some (entries ++ [(key, .table .header [])])
    | some (.table .implied inner) => some (replaceNode key (.table .header inner) entries)
    | _ => none) above

/-- Open a new table at the end of the list of a header. -/
def openListItem? (path : List String) : Entries → Option Entries :=
  let (above, key) := splitPath path
  changeAt? (fun entries =>
    match entries.lookup key with
    | none => some (entries ++ [(key, .tables [[]])])
    | some (.tables items) => some (replaceNode key (.tables (items ++ [[]])) entries)
    | _ => none) above

/-- Give a key a value in the table of a header. -/
def addValueIn? (header path : List String) (document : Document) : Entries → Option Entries :=
  changeAt? (addValue? path document) header

mutual

/-- The document of a node. -/
def Node.toDocument : Node → Document
  | .value document => document
  | .table _ entries => .table (entriesToDocuments entries)
  | .tables items => .list (itemsToDocuments items)

/-- The documents under the keys of a table. -/
def entriesToDocuments : List (String × Node) → List (String × Document)
  | [] => []
  | (key, node) :: rest => (key, node.toDocument) :: entriesToDocuments rest

/-- The documents of a list of tables. -/
def itemsToDocuments : List (List (String × Node)) → List Document
  | [] => []
  | entries :: rest => .table (entriesToDocuments entries) :: itemsToDocuments rest

end

end PolicyTree.Toml
