import PolicyTree.Word
/-
  Numbers read from text. An integer has an optional sign and decimal digits. A real number
  may have a fraction and an exponent, and may be one of the words for infinity and for no
  number.
-/
namespace PolicyTree.Decimal

/-- The number that decimal digits write. -/
def ofDigits (cs : List Char) : Nat :=
  cs.foldl (fun n c => n * 10 + (c.toNat - '0'.toNat)) 0

/-- An optional sign: whether it is a minus, and what follows it. -/
def takeSign : List Char → Bool × List Char
  | '-' :: cs => (true, cs)
  | '+' :: cs => (false, cs)
  | cs => (false, cs)

/-- Digits and nothing else, at least one. -/
def natural? (cs : List Char) : Option Nat :=
  if cs ≠ [] && cs.all Char.isDigit then some (ofDigits cs) else none

/-- An integer. -/
def integer? (s : String) : Option Int :=
  let (negative, digits) := takeSign s.toList
  (natural? digits).map fun n => if negative then -(n : Int) else n

/-- An integer that 64 bits with a sign hold. -/
def signedWord? (s : String) : Option Int :=
  (integer? s).filter Word.isSigned

/-- A count that 64 bits hold; it may have a plus in front. -/
def word? (s : String) : Option UInt64 :=
  let digits := match s.toList with
    | '+' :: cs => cs
    | cs => cs
  (natural? digits).bind fun n => Word.ofInt? n

/-- The double nearest to `digits * 10 ^ exponent`. Beyond the range of doubles the size of
the exponent no longer matters. -/
def nearestDouble (digits : Nat) (exponent : Int) : Float :=
  let magnitude := (toString digits).length + exponent
  if digits = 0 || magnitude < -400 then 0.0
  else if 400 < magnitude then 1.0 / 0.0
  else if 0 ≤ exponent then Float.ofScientific (digits * Nat.pow 10 exponent.toNat) false 0
  else Float.ofScientific digits true (-exponent).toNat

/-- The digits, the fraction and the exponent of a decimal number without a sign. -/
def decimal? (cs : List Char) : Option Float := do
  let whole := cs.takeWhile Char.isDigit
  let rest := cs.dropWhile Char.isDigit
  let (fraction, rest) := match rest with
    | '.' :: after => (after.takeWhile Char.isDigit, after.dropWhile Char.isDigit)
    | _ => ([], rest)
  if whole.isEmpty && fraction.isEmpty then none
  let power ← match rest with
    | [] => some (0 : Int)
    | c :: after =>
      if c = 'e' || c = 'E' then
        let (negative, digits) := takeSign after
        (natural? digits).map fun n => if negative then -(n : Int) else n
      else none
  return nearestDouble (ofDigits (whole ++ fraction)) (power - fraction.length)

/-- A real number. -/
def real? (s : String) : Option Float :=
  let (negative, cs) := takeSign s.toList
  let size : Option Float :=
    match String.ofList (cs.map Char.toLower) with
    | "inf" => some (1.0 / 0.0)
    | "infinity" => some (1.0 / 0.0)
    | "nan" => some (0.0 / 0.0)
    | _ => decimal? cs
  size.map fun x => if negative then -x else x

end PolicyTree.Decimal
