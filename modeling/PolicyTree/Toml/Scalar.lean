import PolicyTree.Document.Basic
import PolicyTree.Toml.Lexical
import PolicyTree.Word
/-
  Numbers, flags and dates of TOML. A word is what stands before white space, a comma, a
  bracket or a comment; its form tells what it is. Dates and times become texts in one
  normal form: a `T` before the time, a `Z` for universal time, no zeros at the end of a
  fraction of a second but for a lone one.
-/
namespace PolicyTree.Toml

/-- Digits with single underscores between them, the underscores taken out. -/
def grouped? (isDigit : Char → Bool) : List Char → Option (List Char)
  | [] => none
  | [c] => if isDigit c then some [c] else none
  | c :: '_' :: rest => if isDigit c then (grouped? isDigit rest).map (c :: ·) else none
  | c :: rest => if isDigit c then (grouped? isDigit rest).map (c :: ·) else none

/-- Decimal digits without a zero in front of others. -/
def wholePart? (cs : List Char) : Option (List Char) :=
  (grouped? Char.isDigit cs).filter fun digits => digits.length = 1 || digits.head? ≠ some '0'

/-- An integer in the range of 64 bits. -/
def inRange? (n : Int) : Option Document :=
  if Word.isSigned n then some (.integer n) else none

/-- Digits to a base, after the letter that names it. -/
def based? (base : Nat) (cs : List Char) : Option Document := do
  let isDigit (c : Char) : Bool := (hexValue? c).any (· < base)
  let digits ← grouped? isDigit cs
  let values ← digits.mapM hexValue?
  inRange? (values.foldl (fun n d => n * base + d) 0 : Nat)

/-- An integer, to any base. -/
def integerWord? : List Char → Option Document
  | '0' :: 'x' :: cs => based? 16 cs
  | '0' :: 'o' :: cs => based? 8 cs
  | '0' :: 'b' :: cs => based? 2 cs
  | cs =>
    let (negative, digits) := Decimal.takeSign cs
    (wholePart? digits).bind fun digits =>
      let n : Int := Decimal.ofDigits digits
      inRange? (if negative then -n else n)

/-- The value of an exponent, after its letter. -/
def power? (cs : List Char) : Option Int :=
  let (negative, digits) := Decimal.takeSign cs
  (grouped? Char.isDigit digits).map fun digits =>
    let n : Int := Decimal.ofDigits digits
    if negative then -n else n

/-- A finite real number without a sign: it has a fraction or an exponent. -/
def finiteWord? (cs : List Char) : Option Float := do
  let isMark (c : Char) : Bool := c == 'e' || c == 'E'
  let front := cs.takeWhile fun c => !isMark c
  let power ← match cs.dropWhile fun c => !isMark c with
    | [] => if front.contains '.' then some (0 : Int) else none
    | _ :: after => power? after
  let whole ← wholePart? (front.takeWhile (· != '.'))
  let fraction ← match front.dropWhile (· != '.') with
    | [] => some []
    | _ :: digits => grouped? Char.isDigit digits
  let digits := Decimal.ofDigits (whole ++ fraction)
  let value := Decimal.nearestDouble digits (power - fraction.length)
  if value.isInf then none else some value

/-- A real number. -/
def realWord? (cs : List Char) : Option Document := do
  let (negative, size) := Decimal.takeSign cs
  let value ← match size with
    | ['i', 'n', 'f'] => some (1.0 / 0.0 : Float)
    | ['n', 'a', 'n'] => some (0.0 / 0.0 : Float)
    | _ => finiteWord? size
  return .real (if negative then -value else value)

/-! ## Dates and times -/

/-- A number of exactly `width` digits, within bounds. -/
def fixed? (width low high : Nat) (cs : List Char) : Option (Nat × List Char) :=
  let digits := cs.take width
  if digits.length = width && digits.all Char.isDigit then
    let n := Decimal.ofDigits digits
    if low ≤ n && n ≤ high then some (n, cs.drop width) else none
  else none

/-- What follows a given character. -/
def expect? (c : Char) : List Char → Option (List Char)
  | d :: cs => if d = c then some cs else none
  | [] => none

/-- The number of days in a month. -/
def daysIn (year month : Nat) : Nat :=
  if month = 2 then
    if year % 4 = 0 && (year % 100 ≠ 0 || year % 400 = 0) then 29 else 28
  else if month = 4 || month = 6 || month = 9 || month = 11 then 30
  else 31

/-- What follows a date. -/
def date? (cs : List Char) : Option (List Char) := do
  let (year, cs) ← fixed? 4 0 9999 cs
  let cs ← expect? '-' cs
  let (month, cs) ← fixed? 2 1 12 cs
  let cs ← expect? '-' cs
  let (_, cs) ← fixed? 2 1 (daysIn year month) cs
  return cs

/-- The fraction of a second, nine digits at most; of zeros at the end only a lone one stays. -/
def secondFraction (digits : List Char) : List Char :=
  let kept := ((digits.take 9).reverse.dropWhile (· == '0')).reverse
  '.' :: if kept.isEmpty then ['0'] else kept

/-- A time of day in normal form, and what follows it. The seconds may be left out. -/
def time? (cs : List Char) : Option (List Char × List Char) := do
  let (_, afterHour) ← fixed? 2 0 23 cs
  let (_, afterMinute) ← fixed? 2 0 59 (← expect? ':' afterHour)
  match expect? ':' afterMinute with
  | none => some (cs.take 5, afterMinute)
  | some seconds =>
    match ← fixed? 2 0 60 seconds with
    | (_, '.' :: rest) =>
      let digits := rest.takeWhile Char.isDigit
      if digits.isEmpty then none
      else some (cs.take 8 ++ secondFraction digits, rest.dropWhile Char.isDigit)
    | (_, rest) => some (cs.take 8, rest)

/-- The offset from universal time in normal form, a zero offset east; nothing may follow it. -/
def offset? : List Char → Option (List Char)
  | [] => some []
  | ['Z'] => some ['Z']
  | ['z'] => some ['Z']
  | c :: cs =>
    if c = '+' || c = '-' then do
      let (hours, rest) ← fixed? 2 0 23 cs
      let (minutes, rest) ← fixed? 2 0 59 (← expect? ':' rest)
      if !rest.isEmpty then none
      else if hours = 0 && minutes = 0 then some ('+' :: cs)
      else some (c :: cs)
    else none

/-- A date, a time, or both, as a text. -/
def momentWord? (cs : List Char) : Option Document :=
  match date? cs with
  | some [] => some (.text (String.ofList cs))
  | some (c :: rest) =>
    if c = 'T' || c = 't' || c = ' ' then do
      let (time, after) ← time? rest
      let offset ← offset? after
      return .text (String.ofList (cs.take 10 ++ 'T' :: time ++ offset))
    else none
  | none =>
    match time? cs with
    | some (time, []) => some (.text (String.ofList time))
    | _ => none

/-! ## Words -/

/-- Whether a character ends a word. -/
def endsWord (c : Char) : Bool :=
  isSpace c || c == '\n' || c == '\r' || c == ',' || c == ']' || c == '\x7d' || c == '#'

/-- A word, with the time after it if it is a date with a space behind. -/
def word (cs : List Char) : List Char × List Char :=
  let first := cs.takeWhile fun c => !endsWord c
  let rest := cs.dropWhile fun c => !endsWord c
  match rest with
  | ' ' :: d :: more =>
    if date? first = some [] && d.isDigit then
      let second := (d :: more).takeWhile fun c => !endsWord c
      (first ++ ' ' :: second, (d :: more).dropWhile fun c => !endsWord c)
    else (first, rest)
  | _ => (first, rest)

/-- The first that is there. -/
def firstOf (attempts : List (Option Document)) : Option Document :=
  attempts.findSome? id

/-- The value of a word. -/
def scalarWord? (cs : List Char) : Option (Document × List Char) :=
  let (w, rest) := word cs
  let value : Option Document :=
    match String.ofList w with
    | "true" => some (.flag true)
    | "false" => some (.flag false)
    | _ => firstOf [integerWord? w, realWord? w, momentWord? w]
  value.map (·, rest)

end PolicyTree.Toml
