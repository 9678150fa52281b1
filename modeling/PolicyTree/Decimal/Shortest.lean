/-
  The shortest decimal text of a binary fraction. Among the decimals that lie nearer to a
  double than to any other one, the fewest digits win, and of those the nearest; the text
  is positional, never with an exponent.

  A double is taken apart into sign, mantissa and exponent, and all comparisons are made
  between natural numbers.
-/
namespace PolicyTree.Decimal

/-- A positive double, as `mantissa * 2 ^ exponent`. `lowest` says that the doubles below lie
twice as close as those above. -/
structure Binary where
  mantissa : Nat
  exponent : Int
  lowest : Bool

/-- The parts of a positive double from its bits without the sign. -/
def Binary.ofBits (bits : Nat) : Binary :=
  let fraction := bits % Nat.pow 2 52
  let field := bits / Nat.pow 2 52
  if field = 0 then ⟨fraction, -1074, false⟩
  else ⟨fraction + Nat.pow 2 52, Int.ofNat field - 1075, fraction = 0 && 1 < field⟩

/-- A positive fraction. -/
structure Fraction where
  num : Nat
  den : Nat

/-- The fraction `n * 2 ^ e`. -/
def Fraction.ofPower (n : Nat) (e : Int) : Fraction :=
  if 0 ≤ e then ⟨n * Nat.pow 2 e.toNat, 1⟩ else ⟨n, Nat.pow 2 (-e).toNat⟩

/-- The number of decimal digits. -/
def digitCount (n : Nat) : Nat := (toString n).length

/-- The least `j ≤ limit` for which `num * 10 ^ j` is at least `den`. -/
def scaleUp (num den : Nat) : (limit : Nat) → Nat
  | 0 => 0
  | limit + 1 => if den ≤ num then 0 else scaleUp (num * 10) den limit + 1

/-- The exponent of the leading decimal digit. -/
def Fraction.magnitude (x : Fraction) : Int :=
  if x.den ≤ x.num then (digitCount (x.num / x.den) : Int) - 1
  else -(scaleUp x.num x.den 400 : Int)

/-- A number with `digits` in front of `10 ^ exponent`. -/
structure Digits where
  digits : Nat
  exponent : Int

/-- Whether `digits * 10 ^ exponent` lies between two fractions of one denominator. -/
def Digits.between (d : Digits) (low high den : Nat) (closed : Bool) : Bool :=
  let (left, right) :=
    if 0 ≤ d.exponent then (d.digits * Nat.pow 10 d.exponent.toNat * den, 1)
    else (d.digits * den, Nat.pow 10 (-d.exponent).toNat)
  if closed then low * right ≤ left && left ≤ high * right
  else low * right < left && left < high * right

/-- The nearest of the two neighbours on the grid `10 ^ exponent` that lie in the interval. -/
def nearest? (b : Binary) (exponent : Int) : Option Digits :=
  let x := Fraction.ofPower (4 * b.mantissa) (b.exponent - 2)
  let unit := Fraction.ofPower 1 (b.exponent - 2)
  let low := x.num - (if b.lowest then 1 else 2) * unit.num
  let high := x.num + 2 * unit.num
  let closed := b.mantissa % 2 = 0
  let (num, den) :=
    if 0 ≤ exponent then (x.num, x.den * Nat.pow 10 exponent.toNat)
    else (x.num * Nat.pow 10 (-exponent).toNat, x.den)
  let below : Digits := ⟨num / den, exponent⟩
  let above : Digits := ⟨num / den + 1, exponent⟩
  let fits (d : Digits) : Bool := d.between low high x.den closed
  match fits below, fits above with
  | true, true => if 2 * (num % den) ≤ den then some below else some above
  | true, false => some below
  | false, true => some above
  | false, false => none

/-- The first grid with a hit, from `count` digits up. -/
def shortestFrom (b : Binary) (magnitude : Int) : (tries : Nat) → (count : Nat) → Digits
  | 0, _ => ⟨b.mantissa, b.exponent⟩
  | tries + 1, count =>
    match nearest? b (magnitude + 1 - count) with
    | some d => d
    | none => shortestFrom b magnitude tries (count + 1)

/-- A zero at the end goes into the exponent. -/
def Digits.withoutZero (d : Digits) : Digits :=
  if d.digits % 10 = 0 then ⟨d.digits / 10, d.exponent + 1⟩ else d

/-- The shortest digits of a positive double. A hit on the coarsest grid may be the next power
of ten, whose zero goes into the exponent. -/
def shortest (b : Binary) : Digits :=
  (shortestFrom b (Fraction.ofPower b.mantissa b.exponent).magnitude 17 1).withoutZero

/-- Digits in positional notation. -/
def Digits.text (d : Digits) : String :=
  let digits := toString d.digits
  if 0 ≤ d.exponent then digits ++ String.ofList (List.replicate d.exponent.toNat '0')
  else
    let places := (-d.exponent).toNat
    let padded := String.ofList (List.replicate (places + 1 - digits.length) '0') ++ digits
    let cs := padded.toList
    let split := cs.length - places
    String.ofList (cs.take split) ++ "." ++ String.ofList (cs.drop split)

/-- The text of a double: `NaN`, `inf`, or the shortest decimal, with a minus where the sign is
set. -/
def text (x : Float) : String :=
  let bits := x.toBits.toNat
  let size := bits % Nat.pow 2 63
  let sign := if Nat.pow 2 63 ≤ bits then "-" else ""
  if 2047 * Nat.pow 2 52 < size then "NaN"
  else if size = 2047 * Nat.pow 2 52 then sign ++ "inf"
  else if size = 0 then sign ++ "0"
  else sign ++ (shortest (.ofBits size)).text

end PolicyTree.Decimal
