import PolicyTree.Toml.Scalar
import PolicyTree.Toml.Tree
/-
  The document of a TOML text. Arrays and inline tables may run over lines, with comments in
  between, and end with a comma. They nest at most `maxNesting` deep.
-/
namespace PolicyTree.Toml

/-- How deep arrays and inline tables may nest. -/
def maxNesting : Nat := 80

/-- The items of an array after its bracket. -/
def arrayRest (read : Reader Document) (cs : List Char) : Option (List Document × List Char) :=
  match skipBlank cs with
  | none => none
  | some (']' :: rest) => some ([], rest)
  | some start =>
    match read start with
    | none => none
    | some (item, after) =>
      match skipBlank after with
      | some (',' :: rest) =>
        if rest.length < cs.length then
          (arrayRest read rest).map fun (items, rest) => (item :: items, rest)
        else none
      | some (']' :: rest) => some ([item], rest)
      | _ => none
termination_by cs.length

/-- A key with its value, an equals sign between them; `skip` takes off what may stand around
the sign. -/
def keyValue (skip : List Char → Option (List Char)) (read : Reader Document)
    (cs : List Char) : Option ((List String × Document) × List Char) := do
  let (path, rest) ← key? cs
  match ← skip rest with
  | '=' :: rest =>
    let (document, rest) ← read (← skip rest)
    return ((path, document), rest)
  | _ => none

/-- The entries of an inline table after its brace or a comma. -/
def inlineRest (read : Reader Document) (entries : Entries) (cs : List Char) :
    Option (Entries × List Char) :=
  match skipBlank cs with
  | none => none
  | some ('\x7d' :: rest) => some (entries, rest)
  | some start =>
    match keyValue skipBlank read start with
    | none => none
    | some ((path, document), after) =>
      match addValue? path document entries, skipBlank after with
      | some entries, some (',' :: rest) =>
        if rest.length < cs.length then inlineRest read entries rest else none
      | some entries, some ('\x7d' :: rest) => some (entries, rest)
      | _, _ => none
termination_by cs.length

/-- An inline table after its brace. -/
def inlineTable (read : Reader Document) (cs : List Char) : Option (Document × List Char) :=
  (inlineRest read [] cs).map fun (entries, rest) => ((Node.table .dotted entries).toDocument, rest)

/-- A value that holds no others. -/
def plainValue : Reader Document
  | '"' :: cs => (string? ('"' :: cs)).map fun (text, rest) => (.text text, rest)
  | '\'' :: cs => (string? ('\'' :: cs)).map fun (text, rest) => (.text text, rest)
  | cs => scalarWord? cs

/-- A value in which arrays and inline tables nest no deeper than allowed. -/
def value : (nesting : Nat) → Reader Document
  | 0 => plainValue
  | nesting + 1 => fun cs =>
    match cs with
    | '[' :: rest => (arrayRest (value nesting) rest).map fun (items, rest) => (.list items, rest)
    | '\x7b' :: rest => inlineTable (value nesting) rest
    | _ => plainValue cs

/-! ## Lines -/

/-- What one line says. -/
inductive Statement where
  | header (path : List String)
  | listHeader (path : List String)
  | entry (path : List String) (document : Document)

/-- A header after its brackets have been opened, with the brackets that close it. -/
def headerRest (closing : List Char) (cs : List Char) : Option (List String × List Char) := do
  let (path, rest) ← key? (skipSpaces cs)
  let rest := skipSpaces rest
  if closing.isPrefixOf rest then some (path, rest.drop closing.length) else none

/-- A statement at the front. -/
def statement? : Reader Statement
  | '[' :: '[' :: cs => (headerRest [']', ']'] cs).map fun (path, rest) => (.listHeader path, rest)
  | '[' :: cs => (headerRest [']'] cs).map fun (path, rest) => (.header path, rest)
  | cs => (keyValue (some ∘ skipSpaces) (value maxNesting) cs).map fun ((path, document), rest) =>
    (.entry path document, rest)

/-- The tables so far, and the header under which entries stand. -/
structure Draft where
  tables : Entries
  header : List String

/-- Take a statement in. -/
def Draft.take (state : Draft) : Statement → Option Draft
  | .header path => (openTable? path state.tables).map (⟨·, path⟩)
  | .listHeader path => (openListItem? path state.tables).map (⟨·, path⟩)
  | .entry path document =>
    (addValueIn? state.header path document state.tables).map (⟨·, state.header⟩)

/-- Read the lines that are left. -/
def readLines (state : Draft) (cs : List Char) : Option Draft :=
  match skipBlank cs with
  | none => none
  | some [] => some state
  | some start =>
    match statement? start with
    | none => none
    | some (statement, rest) =>
      match state.take statement, endOfLine? rest with
      | some state, some next =>
        if next.length < cs.length then readLines state next else none
      | _, _ => none
termination_by cs.length

/-- The document of a text, unless it is not TOML. A byte order mark may stand in front. -/
def parse? (text : String) : Option Document :=
  (readLines ⟨[], []⟩ (afterMark text.toList)).map fun state =>
    .table (entriesToDocuments state.tables)

end PolicyTree.Toml
