import PolicyTree.Json.Basic
/-
  A reader of JSON text, which says what a text means. It reads the grammar but for two things that
  are never printed: numbers with an exponent, and characters written as a pair of surrogates. It
  also lets a number start with zeros that it does not need.

  A text is read from the left, and every reader gives what it has read with what is left over.
-/
namespace PolicyTree.Json

/-! ## White space -/

/-- White space between the parts of a text. -/
def isSpace (c : Char) : Bool := c = ' ' || c = '\n' || c = '\r' || c = '\t'

/-- What follows white space. -/
def skip (cs : List Char) : List Char := cs.dropWhile isSpace

/-! ## Strings -/

/-- The value of a digit to base sixteen. -/
def hexValue? (c : Char) : Option Nat :=
  if '0' ≤ c ∧ c ≤ '9' then some (c.toNat - '0'.toNat)
  else if 'a' ≤ c ∧ c ≤ 'f' then some (c.toNat - 'a'.toNat + 10)
  else if 'A' ≤ c ∧ c ≤ 'F' then some (c.toNat - 'A'.toNat + 10)
  else none

/-- The character with the given digits to base sixteen, unless it is one of a pair. -/
def hexChar? (digits : List Char) : Option Char := do
  let values ← digits.mapM hexValue?
  let n := values.foldl (16 * · + ·) 0
  if n.isValidChar then some (Char.ofNat n) else none

/-- What a character stands for behind a backslash. -/
def escaped? : Char → Option Char
  | '"' => some '"'
  | '\\' => some '\\'
  | '/' => some '/'
  | 'b' => some '\x08'
  | 'f' => some '\x0c'
  | 'n' => some '\n'
  | 'r' => some '\r'
  | 't' => some '\t'
  | _ => none

/-- A character in front of what is read of a string. -/
def prepend (c : Char) (read : Option (List Char × List Char)) : Option (List Char × List Char) :=
  read.map fun (cs, rest) => (c :: cs, rest)

/-- The characters of a string behind its opening quote. -/
def string? : List Char → Option (List Char × List Char)
  | [] => none
  | '"' :: rest => some ([], rest)
  | '\\' :: 'u' :: a :: b :: c :: d :: rest =>
    (hexChar? [a, b, c, d]).bind fun c => prepend c (string? rest)
  | '\\' :: letter :: rest => (escaped? letter).bind fun c => prepend c (string? rest)
  | c :: rest => if c = '\\' ∨ c.toNat < 0x20 then none else prepend c (string? rest)

/-! ## Numbers -/

/-- The digits behind a decimal point, if there is one. -/
def places? : List Char → Option (List Char × List Char)
  | '.' :: cs =>
    let digits := cs.takeWhile Char.isDigit
    if digits = [] then none else some (digits, cs.dropWhile Char.isDigit)
  | cs => some ([], cs)

/-- A number without a sign. -/
def size? (cs : List Char) : Option ((Nat × Nat) × List Char) := do
  let digits := cs.takeWhile Char.isDigit
  if digits = [] then none
  let (places, rest) ← places? (cs.dropWhile Char.isDigit)
  return ((Nat.ofDigitChars 10 (digits ++ places) 0, places.length), rest)

/-- A number, with or without a sign. -/
def number? : List Char → Option (Decimal × List Char)
  | '-' :: cs => (size? cs).map fun ((n, places), rest) => (⟨-n, places⟩, rest)
  | cs => (size? cs).map fun ((n, places), rest) => (⟨n, places⟩, rest)

/-! ## Values -/

section lists

variable {α : Type} (item? : List Char → Option (α × List Char)) (closing : Char)

/-- Items with commas between them, up to the closing bracket; at most as many as the number
says. -/
def items? : Nat → List Char → Option (List α × List Char)
  | 0, _ => none
  | most + 1, cs => (item? cs).bind fun (item, rest) =>
    match skip rest with
    | [] => none
    | c :: rest =>
      if c = closing then some ([item], rest)
      else if c = ',' then (items? most rest).map fun (items, rest) => (item :: items, rest)
      else none

/-- The items behind an opening bracket. -/
def bracketed? (most : Nat) (cs : List Char) : Option (List α × List Char) :=
  if (skip cs).head? = some closing then some ([], (skip cs).tail)
  else items? item? closing most cs

end lists

/-- A member of an object, whose value is read as said. -/
def member? (value? : List Char → Option (Json × List Char)) (cs : List Char) :
    Option ((String × Json) × List Char) :=
  match skip cs with
  | '"' :: rest => (string? rest).bind fun (name, rest) =>
    match skip rest with
    | ':' :: rest => (value? rest).map fun (value, rest) => ((String.ofList name, value), rest)
    | _ => none
  | _ => none

/-- Whether a number starts here. -/
def startsNumber (cs : List Char) : Bool := cs.head?.any fun c => c = '-' || c.isDigit

/-- A value of at most so many levels and so many items on each. -/
def value? : Nat → List Char → Option (Json × List Char)
  | 0, _ => none
  | most + 1, cs =>
    let cs := skip cs
    if startsNumber cs then (number? cs).map fun (value, rest) => (.number value, rest)
    else
      match cs with
      | 'n' :: 'u' :: 'l' :: 'l' :: rest => some (.null, rest)
      | 't' :: 'r' :: 'u' :: 'e' :: rest => some (.bool true, rest)
      | 'f' :: 'a' :: 'l' :: 's' :: 'e' :: rest => some (.bool false, rest)
      | '"' :: rest => (string? rest).map fun (cs, rest) => (.text (String.ofList cs), rest)
      | '[' :: rest =>
        (bracketed? (value? most) ']' most rest).map fun (items, rest) => (.array items, rest)
      | '\x7b' :: rest =>
        (bracketed? (member? (value? most)) '\x7d' most rest).map fun (members, rest) =>
          (.object members, rest)
      | _ => none

/-- The value of a text that has white space around it at most. A text has fewer levels and items
than characters. -/
def parse? (text : String) : Option Json :=
  (value? (text.toList.length + 1) text.toList).bind fun (value, rest) =>
    if skip rest = [] then some value else none

end PolicyTree.Json
