import PolicyTree.Text.Column
/-
  How many columns of a terminal a text takes. Some sequences are drawn as one picture or
  letter and take fewer columns than their characters, or more: pictures and signs by a
  selector, skin tones, pictures with joiners between them, and the ligatures of some
  scripts. A text is measured from its end; for each character it matters what follows.
-/
namespace PolicyTree.Text

/-! ## What follows a character -/

/-- What may change the columns of the character before. -/
inductive Follow where
  | nothing
  | emoji
  | skinTone
  /-- Letters of flags: one, or several. -/
  | flagLetters (several : Bool)
  /-- A joiner with an emoji behind. -/
  | joiner
  /-- The mark of a keycap before a joiner. -/
  | keycapJoiner
  /-- Letters of flags before a joiner: one, an even number, or a greater odd number. -/
  | flagLetterJoiner
  | evenFlagJoiner
  | oddFlagJoiner
  /-- Tags of a flag before a joiner, the end tag last. -/
  | tagJoiner (letters digits : Nat)
  /-- The Arabic letter alef. -/
  | alef
  /-- Letters that make ligatures, with or without a joiner before them. -/
  | lamed (joined : Bool)
  | bugineseYa (joined : Bool)
  | tifinagh (joined : Bool)
  | orkhonI (joined : Bool)
  /-- The Buginese vowel sign i, a joiner and ya. -/
  | bugineseVowel
  /-- The joiner of Tifinagh letters with a letter behind. -/
  | tifinaghJoiner
  | lisuTone
  /-- A Khmer letter that the sign coeng puts below another. -/
  | khmerLetter
  /-- Kirat Rai vowel signs: an e that may still pair, and ai. -/
  | kiratE
  | kiratAi
  deriving DecidableEq, Repr

/-- What a selector asks for. -/
inductive Selector where
  | sign
  | picture
  deriving DecidableEq, Repr

/-- What stands right of a place. -/
structure Right where
  follow : Follow
  selector : Option Selector

/-- The end of a text. -/
def Right.nothing : Right := ⟨.nothing, none⟩

namespace Follow

/-- The letters of ligatures, which marks that show nothing do not part. -/
def isLigature : Follow → Bool
  | lamed _ | bugineseYa _ | tifinagh _ | orkhonI _ => true
  | bugineseVowel | tifinaghJoiner | lisuTone | khmerLetter => true
  | _ => false

/-- What is left of it behind a selector that has nothing to select. -/
def pastSelector (follow : Follow) : Follow :=
  if follow.isLigature || follow = .alef then follow else .nothing

/-- It with a joiner before. -/
def joined : Follow → Follow
  | lamed _ => lamed true
  | bugineseYa _ => bugineseYa true
  | tifinagh _ => tifinagh true
  | orkhonI _ => orkhonI true
  | follow => follow

/-- Whether a joiner before it makes one picture of it and an emoji before the joiner. -/
def isJoinable : Follow → Bool
  | emoji | skinTone | evenFlagJoiner | oddFlagJoiner => true
  | flagLetters several => several
  | _ => false

end Follow

/-! ## Characters of ligatures -/

/-- Whether the code point of a character lies in a closed range. -/
def isBetween (low high : Nat) (c : Char) : Bool := low ≤ c.toNat && c.toNat ≤ high

/-- The Arabic letters with the shape of lam. -/
def isLam (c : Char) : Bool :=
  inRanges [(0x644, 0x644), (0x6B5, 0x6B8), (0x76A, 0x76A), (0x8A6, 0x8A6), (0x8C7, 0x8C7)] c.toNat

/-- The Arabic letters with the shape of alef. -/
def isAlef (c : Char) : Bool :=
  inRanges [(0x622, 0x623), (0x625, 0x625), (0x627, 0x627), (0x671, 0x673), (0x675, 0x675),
    (0x773, 0x774), (0x870, 0x882)] c.toNat

/-- The Tifinagh letters of consonants. -/
def isTifinaghConsonant (c : Char) : Bool := isBetween 0x2D31 0x2D65 c || c.toNat = 0x2D6F

/-- The Khmer letters that the sign coeng puts below another. -/
def isKhmerLetter (c : Char) : Bool :=
  inRanges [(0x1780, 0x1782), (0x1784, 0x1787), (0x1789, 0x178C), (0x178E, 0x1793),
    (0x1795, 0x1798), (0x179B, 0x179D), (0x17A0, 0x17A0), (0x17A2, 0x17A2), (0x17A7, 0x17A7),
    (0x17AB, 0x17AC), (0x17AF, 0x17AF)] c.toNat

/-- Marks that show nothing, the joiner among them. -/
def isHiddenMark (c : Char) : Bool :=
  inRanges [(0x34F, 0x34F), (0x17B4, 0x17B5), (0x180B, 0x180D), (0x180F, 0x180F), (0x200D, 0x200D),
    (0xFE00, 0xFE0F), (0xE0100, 0xE01EF)] c.toNat

/-- Code points of no column that part Arabic letters. -/
def partingRanges : List (Nat × Nat) :=
  [(0x605, 0x605), (0x890, 0x891), (0x8E2, 0x8E2), (0x9BE, 0x9BE), (0x9D7, 0x9D7), (0xB3E, 0xB3E),
   (0xB57, 0xB57), (0xBBE, 0xBBE), (0xBD7, 0xBD7), (0xCC0, 0xCC0), (0xCC2, 0xCC2), (0xCC7, 0xCC8),
   (0xCCA, 0xCCB), (0xCD5, 0xCD6), (0xD3E, 0xD3E), (0xD4E, 0xD4E), (0xD57, 0xD57), (0xDCF, 0xDCF),
   (0xDDF, 0xDDF), (0x1160, 0x11FF), (0x1715, 0x1715), (0x1734, 0x1734), (0x180E, 0x180E),
   (0x1B35, 0x1B35), (0x1B3B, 0x1B3B), (0x1B3D, 0x1B3D), (0x1B43, 0x1B44), (0x1BAA, 0x1BAA),
   (0x1BF2, 0x1BF3), (0x200C, 0x200D), (0x2065, 0x2069), (0x302E, 0x302F), (0x3164, 0x3164),
   (0xA8FA, 0xA8FA), (0xA953, 0xA953), (0xA9C0, 0xA9C0), (0xD7B0, 0xD7C6), (0xD7CB, 0xD7FB),
   (0xFFA0, 0xFFA0), (0xFFF0, 0xFFF8), (0x111C0, 0x111C0), (0x111C2, 0x111C3), (0x11235, 0x11235),
   (0x1133E, 0x1133E), (0x1134D, 0x1134D), (0x11357, 0x11357), (0x113B8, 0x113B8),
   (0x113C2, 0x113C2), (0x113C5, 0x113C5), (0x113C7, 0x113C9), (0x113CF, 0x113CF),
   (0x113D1, 0x113D1), (0x114B0, 0x114B0), (0x114BD, 0x114BD), (0x115AF, 0x115AF),
   (0x116B6, 0x116B6), (0x11930, 0x11930), (0x1193D, 0x1193D), (0x1193F, 0x1193F),
   (0x11941, 0x11941), (0x11A84, 0x11A89), (0x11D46, 0x11D46), (0x11F02, 0x11F02),
   (0x11F41, 0x11F41), (0x16FF0, 0x16FF1), (0x1D165, 0x1D166), (0x1D16D, 0x1D172),
   (0xE0000, 0xE0000), (0xE0002, 0xE001F), (0xE0080, 0xE00FF), (0xE01F0, 0xE0FFF)]

/-- Marks between Arabic letters that do not part them. -/
def isPassedOver (c : Char) : Bool := charWidth c = 0 && !inRanges partingRanges c.toNat

/-! ## Measuring -/

/-- What a character is to the one before, when nothing behind it matters. -/
def Follow.ofChar (c : Char) : Follow :=
  if c.toNat < 0xAD then .nothing
  else if isSkinTone c then .skinTone
  else if isFlagLetter c then .flagLetters false
  else if isEmoji c then .emoji
  else if isAlef c then .alef
  else if c = '\u05DC' then .lamed false
  else if c = '\u1A10' then .bugineseYa false
  else if isTifinaghConsonant c then .tifinagh false
  else if isBetween 0xA4FC 0xA4FD c then .lisuTone
  else if c.toNat = 0x10C03 then .orkhonI false
  else if isKhmerLetter c then .khmerLetter
  else if c.toNat = 0x16D67 then .kiratE
  else if c.toNat = 0x16D68 then .kiratAi
  else .nothing

/-- The columns that a character adds where it makes a ligature with what follows, and what
the two are to the character before. -/
def ligature? (c : Char) : Follow → Option (Int × Follow)
  | .alef =>
    if isLam c then some (0, .nothing) else if isPassedOver c then some (0, .alef) else none
  | .lamed true => if c = '\u05D0' then some (0, .nothing) else none
  | .bugineseYa true => if c = '\u1A17' then some (0, .bugineseVowel) else none
  | .bugineseVowel => if c = '\u1A15' then some (0, .nothing) else none
  | .tifinagh joined =>
    if c = '\u2D7F' then some (1, .tifinaghJoiner)
    else if joined && isTifinaghConsonant c then some (0, .nothing)
    else none
  | .tifinaghJoiner => if isTifinaghConsonant c then some (-1, .nothing) else none
  | .lisuTone => if isBetween 0xA4F8 0xA4FB c then some (0, .nothing) else none
  | .orkhonI true => if c.toNat = 0x10C32 then some (0, .nothing) else none
  | .khmerLetter => if c = '\u17D2' then some (-1, .nothing) else none
  | .kiratE =>
    if c.toNat = 0x16D63 || c.toNat = 0x16D69 then some (0, .nothing)
    else if c.toNat = 0x16D67 then some (0, .kiratAi)
    else if c.toNat = 0x16D68 then some (1, .kiratE)
    else none
  | .kiratAi => if c.toNat = 0x16D63 then some (0, .nothing) else none
  | _ => none

/-- The columns that a character adds where it makes one picture with what follows, and what
the two are to the character before. -/
def picture? (c : Char) : Follow → Option (Int × Follow)
  | .skinTone => if isToneable c then some (0, .emoji) else none
  | .flagLetters _ => if isFlagLetter c then some (1, .flagLetters true) else none
  | .joiner =>
    if c = '\u20E3' then some (0, .keycapJoiner)
    else if isFlagLetter c then some (1, .flagLetterJoiner)
    else if isSkinTone c then some (0, .skinTone)
    else if c.toNat = 0xE007F then some (0, .tagJoiner 0 0)
    else if isEmoji c then some (0, .emoji)
    else none
  | .flagLetterJoiner | .oddFlagJoiner =>
    if isFlagLetter c then some (-1, .evenFlagJoiner) else none
  | .evenFlagJoiner => if isFlagLetter c then some (3, .oddFlagJoiner) else none
  | .tagJoiner letters digits =>
    if isBetween 0xE0061 0xE007A c && digits = 0 && letters < 6 then
      some (0, .tagJoiner (letters + 1) 0)
    else if isBetween 0xE0030 0xE0039 c && letters < 5 && digits < 3 then
      some (0, .tagJoiner letters (digits + 1))
    else if c.toNat = 0x1F3F4 && (digits = 3 || (digits = 0 && 3 ≤ letters)) then some (0, .emoji)
    else none
  | _ => none

/-- The columns that a character adds, no selector behind it, and what it is with what follows
to the character before. -/
def measure (c : Char) (follow : Follow) : Int × Follow :=
  if c = '\u200D' && follow.isLigature then (0, follow.joined)
  else if c = '\u200D' && follow.isJoinable then (0, .joiner)
  else if isHiddenMark c && follow.isLigature then (0, follow)
  else ((ligature? c follow).or (picture? c follow)).getD (charWidth c, .ofChar c)

/-- The columns that a character adds, and what is right of the character before. -/
def step (c : Char) (right : Right) : Int × Right :=
  let isJoiner : Bool := right.follow = .joiner || right.follow = .keycapJoiner
  if right.selector = some .picture && isStyled c then (if isJoiner then 0 else 2, ⟨.emoji, none⟩)
  else if c = '\uFE0F' then
    let keeps : Bool := isJoiner && right.selector.isNone
    (0, ⟨if keeps then right.follow else right.follow.pastSelector, some .picture⟩)
  else if c = '\uFE0E' then (0, ⟨right.follow.pastSelector, some .sign⟩)
  else if right.selector = some .sign && isNarrowedByText c then (1, .nothing)
  else
    let follow := if right.selector.isNone then right.follow else right.follow.pastSelector
    let (columns, follow) := measure c follow
    (columns, ⟨follow, none⟩)

/-- The columns of a text on one line, and what its first characters are to one before. -/
def measureList : List Char → Int × Right
  | [] => (0, .nothing)
  | c :: cs =>
    let (columns, right) := measureList cs
    let (more, right) := step c right
    (columns + more, right)

/-- The columns of a text on one line. -/
def displayWidth (s : String) : Nat := (measureList s.toList).1.toNat

end PolicyTree.Text
