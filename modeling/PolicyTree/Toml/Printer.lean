import PolicyTree.Decimal.Shortest
import PolicyTree.Document.Basic
import PolicyTree.Json.Printer
import PolicyTree.Toml.Lexical
/-
  Documents as TOML text. In each table the plain entries come first, then the tables and
  lists of tables, in the order of the entries. A blank line stands before every header but
  the first. A list with more than one item is spread over lines. An empty list of tables is
  a plain entry, and so is every other list.

  A table shows its header if it has plain entries, has no entries at all, or is an item of
  a list.
-/
namespace PolicyTree.Toml

/-! ## Strings and keys -/

/-- One character as it stands between double quotes, by an escape if it needs one. -/
def basicChar (c : Char) : String :=
  match c with
  | '"' => "\\\""
  | '\\' => "\\\\"
  | '\x08' => "\\b"
  | '\t' => "\\t"
  | '\n' => "\\n"
  | '\x0c' => "\\f"
  | '\r' => "\\r"
  | c =>
    if c.toNat < 0x20 || c.toNat = 0x7F then
      let digits := Text.hexDigits c.toNat
      "\\u" ++ String.ofList (List.replicate (4 - digits.length) '0') ++ digits.map Char.toUpper
    else String.singleton c

/-- A text between double quotes. -/
def basicText (s : String) : String :=
  "\"" ++ String.join (s.toList.map basicChar) ++ "\""

/-- Characters between threefold double quotes. Line ends stand as they are, and so do up to
two quotes in a row; `quotes` of them stand right before. -/
def blockChars (quotes : Nat) : List Char → String
  | [] => ""
  | '\n' :: cs => "\n" ++ blockChars 0 cs
  | '"' :: cs =>
    if quotes < 2 then "\"" ++ blockChars (quotes + 1) cs else "\\\"" ++ blockChars 0 cs
  | c :: cs => basicChar c ++ blockChars 0 cs

/-- The longest run of a character; `run` of them stand right before. -/
def longestRun (mark : Char) (run : Nat) : List Char → Nat
  | [] => run
  | c :: cs => if c = mark then longestRun mark (run + 1) cs else max run (longestRun mark 0 cs)

/-- Whether only an escape can write a character: a control other than a tab or a line end. -/
def needsEscape (c : Char) : Bool := !isPlain c && c != '\n'

/-- A text between single quotes, which take every character as it is. -/
def literalText (s : String) : String := "'" ++ s ++ "'"

/-- A text between threefold quotes. A line end right after the opening quotes does not
count, so that a text of several lines starts on a line of its own. -/
def blockText (quotes : String) (severalLines : Bool) (body : String) : String :=
  quotes ++ (if severalLines then "\n" else "") ++ body ++ quotes

/-- A string, in the first of the four forms that shows it without escapes: between double
quotes, single quotes, threefold double quotes, threefold single quotes. Where none does,
double quotes serve, threefold if there are several lines. -/
def stringText (s : String) : String :=
  let cs := s.toList
  let severalLines := cs.contains '\n'
  let literal := !cs.any needsEscape
  let basic := literal && !cs.contains '\\'
  let block := blockText "\"\"\"" severalLines (blockChars 0 cs)
  if basic && !severalLines && !cs.contains '"' then basicText s
  else if literal && !severalLines && !cs.contains '\'' then literalText s
  else if basic && longestRun '"' 0 cs ≤ 2 then block
  else if literal && longestRun '\'' 0 cs ≤ 2 then blockText "\x27\x27\x27" severalLines s
  else if severalLines then block
  else basicText s

/-- A key, without quotes where none are needed, else on one line: between single quotes if
that saves escapes. -/
def keyText (key : String) : String :=
  let cs := key.toList
  if key ≠ "" && cs.all isBare then key
  else if cs.all (fun c => isPlain c && c != '\'') && cs.any (fun c => c == '"' || c == '\\') then
    literalText key
  else basicText key

/-- A path of keys. -/
def pathText (path : List String) : String := ".".intercalate (path.map keyText)

/-! ## Plain values -/

/-- A real number; a point tells it from an integer. -/
def realText (x : Float) : String :=
  if x.isNaN then "nan"
  else
    let text := Decimal.text x
    if x.isInf || text.toList.contains '.' then text else text ++ ".0"

mutual

/-- A value on the right of an equals sign. -/
def valueText : Document → String
  | .null => "\"\""
  | .flag value => if value then "true" else "false"
  | .integer value => toString value
  | .real value => realText value
  | .text value => stringText value
  | .list items =>
    match itemTexts items with
    | [] => "[]"
    | [only] => "[" ++ only ++ "]"
    | texts => "[\n" ++ String.join (texts.map fun text => "    " ++ text ++ ",\n") ++ "]"
  | .table entries => "\x7b " ++ ", ".intercalate (entryTexts entries) ++ " \x7d"

/-- The items of a list. -/
def itemTexts : List Document → List String
  | [] => []
  | item :: rest => valueText item :: itemTexts rest

/-- The entries of a table on one line. -/
def entryTexts : List (String × Document) → List String
  | [] => []
  | (key, value) :: rest => (keyText key ++ " = " ++ valueText value) :: entryTexts rest

end

/-! ## Tables -/

/-- Whether a value is a table. -/
def isTable : Document → Bool
  | .table _ => true
  | _ => false

/-- Whether a value gets headers of its own: a table, or a list of tables. -/
def hasHeader : Document → Bool
  | .table _ => true
  | .list items => !items.isEmpty && items.all isTable
  | _ => false

/-- The plain entries of a table, each on its lines. -/
def plainLines (entries : List (String × Document)) : List String :=
  (entries.filter fun entry => !hasHeader entry.2).map fun entry =>
    keyText entry.1 ++ " = " ++ valueText entry.2 ++ "\n"

/-- The header and the plain entries of a table, if it shows. -/
def ownBlock (header : String) (always : Bool) (entries : List (String × Document)) :
    List String :=
  let plain := plainLines entries
  if always || entries.isEmpty || !plain.isEmpty then [header ++ "\n" ++ String.join plain] else []

mutual

/-- The blocks of what stands under a key and gets headers. -/
def blocks (path : List String) : Document → List String
  | .table entries =>
    ownBlock ("[" ++ pathText path ++ "]") false entries ++ entryBlocks path entries
  | .list items => itemBlocks path items
  | _ => []

/-- The blocks of the entries of a table that get headers. -/
def entryBlocks (path : List String) : List (String × Document) → List String
  | [] => []
  | (key, value) :: rest =>
    (if hasHeader value then blocks (path ++ [key]) value else []) ++ entryBlocks path rest

/-- The blocks of a list of tables. -/
def itemBlocks (path : List String) : List Document → List String
  | [] => []
  | .table entries :: rest =>
    ownBlock ("[[" ++ pathText path ++ "]]") true entries ++ entryBlocks path entries ++
      itemBlocks path rest
  | _ :: rest => itemBlocks path rest

end

/-- The text of a table of settings. -/
def print (entries : List (String × Document)) : String :=
  let plain := plainLines entries
  let first := if plain.isEmpty then [] else [String.join plain]
  "\n".intercalate (first ++ entryBlocks [] entries)

end PolicyTree.Toml
