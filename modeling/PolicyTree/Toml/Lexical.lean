import PolicyTree.Decimal.Numeral
/-
  The smallest parts of TOML: white space, comments, line ends, keys and strings. A reader
  takes characters off the front and gives what they mean with the characters left, or
  refuses.
-/
namespace PolicyTree.Toml

/-- Takes a value off the front of some characters. -/
abbrev Reader (α : Type) := List Char → Option (α × List Char)

/-- Whether a character is a space or a tab. -/
def isSpace (c : Char) : Bool := c == ' ' || c == '\t'

/-- What follows spaces and tabs. -/
def skipSpaces (cs : List Char) : List Char := cs.dropWhile isSpace

/-- Whether a character may stand in a comment or between quotes. -/
def isPlain (c : Char) : Bool := c == '\t' || (0x20 ≤ c.toNat && c.toNat != 0x7F)

/-- What follows a line end. -/
def lineEnd? : List Char → Option (List Char)
  | '\n' :: cs => some cs
  | '\r' :: '\n' :: cs => some cs
  | _ => none

/-- What follows a comment, if there is one; the line end stays. -/
def skipComment : List Char → Option (List Char)
  | '#' :: cs =>
    let rest := cs.dropWhile fun c => c != '\n' && c != '\r'
    let body := cs.takeWhile fun c => c != '\n' && c != '\r'
    if body.all isPlain && (rest.isEmpty || (lineEnd? rest).isSome) then some rest else none
  | cs => some cs

/-- What follows white space, comments and line ends. -/
def skipBlank (cs : List Char) : Option (List Char) :=
  match skipComment (skipSpaces cs) with
  | none => none
  | some rest =>
    match lineEnd? rest with
    | none => some rest
    | some next => if next.length < cs.length then skipBlank next else some next
termination_by cs.length

/-- What follows the end of a line that may hold a comment, or the end of the text. -/
def endOfLine? (cs : List Char) : Option (List Char) :=
  match skipComment (skipSpaces cs) with
  | some [] => some []
  | some rest => lineEnd? rest
  | none => none

/-! ## Strings -/

/-- The value of a hexadecimal digit. -/
def hexValue? (c : Char) : Option Nat :=
  if c.isDigit then some (c.toNat - '0'.toNat)
  else if 'a' ≤ c && c ≤ 'f' then some (c.toNat - 'a'.toNat + 10)
  else if 'A' ≤ c && c ≤ 'F' then some (c.toNat - 'A'.toNat + 10)
  else none

/-- The character of a number written in `width` hexadecimal digits. -/
def scalar? (width : Nat) (cs : List Char) : Option (Char × List Char) := do
  let digits := cs.take width
  if digits.length < width then none
  let values ← digits.mapM hexValue?
  let n := values.foldl (fun n d => n * 16 + d) 0
  if n < 0xD800 || (0xDFFF < n && n < 0x110000) then some (Char.ofNat n, cs.drop width) else none

/-- The character that an escape stands for, after the backslash. -/
def escape? : List Char → Option (Char × List Char)
  | 'b' :: cs => some ('\x08', cs)
  | 'e' :: cs => some ('\x1b', cs)
  | 't' :: cs => some ('\t', cs)
  | 'n' :: cs => some ('\n', cs)
  | 'f' :: cs => some ('\x0c', cs)
  | 'r' :: cs => some ('\r', cs)
  | '"' :: cs => some ('"', cs)
  | '\\' :: cs => some ('\\', cs)
  | 'x' :: cs => scalar? 2 cs
  | 'u' :: cs => scalar? 4 cs
  | 'U' :: cs => scalar? 8 cs
  | _ => none

/-- The rest of a string in double quotes; `done` holds what was read, the last first. -/
def basicRest (done : List Char) (cs : List Char) : Option (String × List Char) :=
  match cs with
  | [] => none
  | '"' :: rest => some (String.ofList done.reverse, rest)
  | '\\' :: rest =>
    match escape? rest with
    | none => none
    | some (c, after) => if after.length ≤ rest.length then basicRest (c :: done) after else none
  | c :: rest => if isPlain c then basicRest (c :: done) rest else none
termination_by cs.length
decreasing_by all_goals (simp only [List.length_cons]; omega)

/-- The rest of a string in single quotes. -/
def literalRest (cs : List Char) : Option (String × List Char) :=
  let body := cs.takeWhile (· != '\'')
  match cs.dropWhile (· != '\'') with
  | [] => none
  | _ :: rest => if body.all isPlain then some (String.ofList body, rest) else none

/-- The number of quotes at the front, five at most. -/
def quoteRun (quote : Char) (cs : List Char) : Nat :=
  ((cs.take 5).takeWhile (· == quote)).length

/-- What follows a backslash at the end of a line: white space up to the next text. -/
def continued? (cs : List Char) : Option (List Char) :=
  match lineEnd? (skipSpaces cs) with
  | none => none
  | some rest => some (rest.dropWhile fun c => isSpace c || c == '\n' || c == '\r')

/-- The rest of a string in three quotes. Up to two quotes may stand at its very end. -/
def blockRest (quote : Char) (escapes : Bool) (done : List Char) (cs : List Char) :
    Option (String × List Char) :=
  match cs with
  | [] => none
  | c :: rest =>
    if c = quote then
      let run := quoteRun quote cs
      if 3 ≤ run then
        some (String.ofList (done.reverse ++ List.replicate (run - 3) quote), cs.drop run)
      else blockRest quote escapes (c :: done) rest
    else if escapes && c = '\\' then
      match continued? rest with
      | some after =>
        if after.length ≤ rest.length then blockRest quote escapes done after else none
      | none =>
        match escape? rest with
        | none => none
        | some (e, after) =>
          if after.length ≤ rest.length then blockRest quote escapes (e :: done) after else none
    else if isPlain c || c = '\n' || (c = '\r' && (lineEnd? cs).isSome) then
      blockRest quote escapes (c :: done) rest
    else none
termination_by cs.length
decreasing_by all_goals (simp only [List.length_cons]; omega)

/-- What follows a line end right after the opening quotes. -/
def afterOpening (cs : List Char) : List Char := (lineEnd? cs).getD cs

/-- A string of any of the four forms. -/
def string? : Reader String
  | '"' :: '"' :: '"' :: cs => blockRest '"' true [] (afterOpening cs)
  | '\'' :: '\'' :: '\'' :: cs => blockRest '\'' false [] (afterOpening cs)
  | '"' :: cs => basicRest [] cs
  | '\'' :: cs => literalRest cs
  | _ => none

/-! ## Keys -/

/-- Whether a character may stand in a key without quotes. -/
def isBare (c : Char) : Bool := c.isAlphanum || c == '_' || c == '-'

/-- One part of a key: bare, or a string on one line. -/
def simpleKey? : Reader String
  | '"' :: cs => basicRest [] cs
  | '\'' :: cs => literalRest cs
  | cs =>
    let name := cs.takeWhile isBare
    if name.isEmpty then none else some (String.ofList name, cs.dropWhile isBare)

/-- Parts of a key with dots between them, and white space around the dots. -/
def parts? (cs : List Char) : Option (List String × List Char) :=
  match simpleKey? cs with
  | none => none
  | some (name, rest) =>
    match skipSpaces rest with
    | '.' :: more =>
      let next := skipSpaces more
      if next.length < cs.length then (parts? next).map fun (names, rest) => (name :: names, rest)
      else none
    | _ => some ([name], rest)
termination_by cs.length

/-- How many parts a key may have. -/
def maxParts : Nat := 80

/-- A key: not more parts than allowed. -/
def key? : Reader (List String) := fun cs =>
  (parts? cs).filter fun (names, _) => names.length ≤ maxParts

/-- What follows a byte order mark at the front. -/
def afterMark : List Char → List Char
  | '\uFEFF' :: cs => cs
  | cs => cs

end PolicyTree.Toml
