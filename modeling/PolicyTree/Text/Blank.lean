/-
  White space as the Unicode property `White_Space` draws it, and text with the white
  space at both ends taken off. Zero-width characters (U+200B, U+2060, U+FEFF), U+180E
  and the information separators (U+001C to U+001F) are not white space.
-/
namespace PolicyTree.Text

/-- Whether a character has the property `White_Space`. -/
def isBlank (c : Char) : Bool :=
  let n := c.toNat
  (9 ≤ n && n ≤ 13) || n == 0x20 || n == 0x85 || n == 0xA0 || n == 0x1680 ||
    (0x2000 ≤ n && n ≤ 0x200A) || n == 0x2028 || n == 0x2029 || n == 0x202F ||
    n == 0x205F || n == 0x3000

/-- Drop the blank characters at the end. -/
def trimEndList (cs : List Char) : List Char :=
  (cs.reverse.dropWhile isBlank).reverse

/-- Drop the blank characters at both ends. -/
def trimList (cs : List Char) : List Char :=
  trimEndList (cs.dropWhile isBlank)

/-- The text without the white space at its ends. -/
def trim (s : String) : String := String.ofList (trimList s.toList)

/-- Whether there is nothing but white space. -/
def isBlankText (s : String) : Bool := (trim s).isEmpty

end PolicyTree.Text
