/-
  Whole numbers of 64 bits, with and without a sign.
-/
namespace PolicyTree.Word

/-- The largest number of 64 bits with a sign. -/
def maxSigned : Nat := 9223372036854775807

/-- Whether a number has 64 bits with a sign. -/
def isSigned (n : Int) : Bool := -9223372036854775808 ≤ n && n ≤ 9223372036854775807

/-- A number of 64 bits without a sign, if it is one. -/
def ofInt? (n : Int) : Option UInt64 :=
  if 0 ≤ n ∧ n ≤ 18446744073709551615 then some (UInt64.ofNat n.toNat) else none

end PolicyTree.Word
