import PolicyTree.Text.Quoted
/-
  Which texts stand between quotes as they are. All ranges of characters that would not show are
  beyond ASCII, so that a printable character of ASCII shows, and is written as itself unless it is
  a quote or a backslash (`quotedChar_eq_singleton`).
-/
namespace PolicyTree.Text

/-- A character of ASCII that is neither a control nor escaped. -/
structure IsPlain (c : Char) : Prop where
  shows : 0x20 ≤ c.toNat
  ascii : c.toNat < 0x7F
  noQuote : c ≠ '"'
  noBackslash : c ≠ '\\'

instance (c : Char) : Decidable (IsPlain c) :=
  decidable_of_iff (0x20 ≤ c.toNat ∧ c.toNat < 0x7F ∧ c ≠ '"' ∧ c ≠ '\\')
    ⟨fun ⟨shows, ascii, noQuote, noBackslash⟩ => ⟨shows, ascii, noQuote, noBackslash⟩,
      fun plain => ⟨plain.shows, plain.ascii, plain.noQuote, plain.noBackslash⟩⟩

theorem inRanges_of_lt {ranges : List (Nat × Nat)} {n : Nat}
    (beyond : ∀ range ∈ ranges, n < range.1) : inRanges ranges n = false := by
  rw [← Bool.not_eq_true, inRanges_eq_true_iff]
  rintro ⟨range, mem, from_start, -⟩
  exact absurd (beyond range mem) (Nat.not_lt.2 from_start)

theorem IsPlain.isPrintable {c : Char} (plain : IsPlain c) : isPrintable c = true := by
  have beyond : ∀ {ranges : List (Nat × Nat)}, (∀ range ∈ ranges, 0x7F ≤ range.1) →
      inRanges ranges c.toNat = false :=
    fun start => inRanges_of_lt fun range mem => Nat.lt_of_lt_of_le plain.ascii (start range mem)
  have unmarked : inRanges unmarkedRanges c.toNat = false := beyond (by decide +kernel)
  have ignorable : inRanges ignorableRanges c.toNat = false := beyond (by decide +kernel)
  have joining : inRanges joiningRanges c.toNat = false := beyond (by decide +kernel)
  simp [Text.isPrintable, isUnmarked, isIgnorable, isJoining, unmarked, ignorable, joining,
    plain.shows]

theorem IsPlain.quotedChar_eq_singleton {c : Char} (plain : IsPlain c) :
    quotedChar c = String.singleton c := by
  unfold quotedChar
  split
  · exact absurd plain.shows (by decide)
  · exact absurd plain.shows (by decide)
  · exact absurd plain.shows (by decide)
  · exact absurd plain.shows (by decide)
  · exact absurd rfl plain.noQuote
  · exact absurd rfl plain.noBackslash
  · exact if_pos plain.isPrintable

theorem quoted_of_plain {s : String} (plain : ∀ c ∈ s.toList, IsPlain c) :
    quoted s = "\"" ++ s ++ "\"" := by
  have same : s.toList.map quotedChar = s.toList.map String.singleton :=
    List.map_congr_left fun c mem => (plain c mem).quotedChar_eq_singleton
  have joined : String.join (s.toList.map String.singleton) = s := by
    refine String.toList_injective ?_
    simp [List.flatMap_map]
  rw [quoted, same, joined]

end PolicyTree.Text
