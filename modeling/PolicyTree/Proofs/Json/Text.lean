import Mathlib.Data.List.Forall2
import PolicyTree.Json.Printer
import PolicyTree.Proofs.Json.Parser
import PolicyTree.Proofs.Text.Fields
/-
  Printed JSON read back. The text of a value is read as this value (`parse?_pretty`), so two values
  are never printed alike (`pretty_injective`).

  For each part of a printed value there is a lemma that the reader of this part takes all of it and
  nothing of what stands behind (`Reads`). The end of a number alone is not seen from the number
  itself, so what stands behind a value must not go on as one (`Stops`). Lines between brackets are
  read for any reader of items (`bracketed?_bracketed`); values, items and members are then taken
  together, as they are printed.
-/
namespace PolicyTree.Json

/-! ## White space -/

section space

variable {margin cs : List Char}

/-- A text of white space, or of nothing. -/
def IsSpaces (cs : List Char) : Prop := ∀ c ∈ cs, isSpace c = true

theorem isSpace_iff {c : Char} :
    isSpace c = true ↔ c = ' ' ∨ c = '\n' ∨ c = '\r' ∨ c = '\t' := by
  simp [isSpace, or_assoc]

theorem isSpaces_singleton {c : Char} (space : isSpace c = true) : IsSpaces [c] :=
  fun _ mem => List.mem_singleton.1 mem ▸ space

theorem isSpaces_indent (level : Nat) : IsSpaces (indent level).toList := by
  intro c mem
  rw [indent, String.toList_ofList, List.mem_replicate] at mem
  rw [mem.2]
  rfl

theorem skip_append (spaces : IsSpaces margin) (cs : List Char) :
    skip (margin ++ cs) = skip cs :=
  List.dropWhile_append_of_pos spaces

/-- A text starts with something else than white space and a closing bracket. -/
def Opens (closing : Char) (cs : List Char) : Prop :=
  ∃ c rest, cs = c :: rest ∧ isSpace c = false ∧ c ≠ closing

theorem skip_cons {c : Char} (solid : isSpace c = false) (cs : List Char) :
    skip (c :: cs) = c :: cs := by
  rw [skip, List.dropWhile_cons, solid, if_neg Bool.false_ne_true]

theorem Opens.skip_eq {closing : Char} (opens : Opens closing cs) : skip cs = cs := by
  obtain ⟨c, rest, rfl, solid, -⟩ := opens
  exact skip_cons solid rest

theorem value?_append (spaces : IsSpaces margin) (most : Nat) (cs : List Char) :
    value? most (margin ++ cs) = value? most cs := by
  cases most with
  | zero => rfl
  | succ most => rw [value?, value?, skip_append spaces]

end space

/-! ## Strings -/

/-- The two digits of a control character. -/
def controlDigits (n : Nat) : List Char := (if n < 0x10 then ['0'] else []) ++ Nat.toDigits 16 n

theorem hexChar?_of_control {n : Nat} (control : n < 0x20) :
    (controlDigits n).length = 2 ∧
      hexChar? ('0' :: '0' :: controlDigits n) = some (Char.ofNat n) := by
  have all : ∀ n : Fin 0x20, (controlDigits n).length = 2 ∧
      hexChar? ('0' :: '0' :: controlDigits n) = some (Char.ofNat n) := by
    decide
  exact all ⟨n, control⟩

/-- A control character without a letter of its own is read from its digits. -/
theorem string?_control {c : Char} (control : c.toNat < 0x20) (cs : List Char) :
    string? ('\\' :: 'u' :: '0' :: '0' :: controlDigits c.toNat ++ cs) =
      prepend c (string? cs) := by
  obtain ⟨two, digits⟩ := hexChar?_of_control control
  obtain ⟨a, b, eq⟩ := List.length_eq_two.1 two
  rw [Char.ofNat_toNat, eq] at digits
  rw [eq]
  show (hexChar? ['0', '0', a, b]).bind (fun c => prepend c (string? cs)) = _
  rw [digits, Option.bind_some]

/-- A character that is not escaped stands for itself. -/
theorem string?_plain {c : Char} (quote : c ≠ '"') (slash : c ≠ '\\')
    (shown : ¬ c.toNat < 0x20) (cs : List Char) :
    string? (c :: cs) = prepend c (string? cs) := by
  rw [string?]
  · rw [if_neg (not_or.2 ⟨slash, shown⟩)]
  · exact quote
  · exact fun _ _ _ _ _ eq _ => slash eq
  · exact fun _ _ eq _ => slash eq

/-- What is read of a character and what follows. -/
theorem string?_escapedChar (c : Char) (cs : List Char) :
    string? ((escapedChar c).toList ++ cs) = prepend c (string? cs) := by
  unfold escapedChar
  split
  case h_8 _ quote slash _ _ _ _ _ =>
    split
    · next control =>
      have text : ("\\u00" ++ (if c.toNat < 0x10 then "0" else "") ++
          Text.hexDigits c.toNat).toList = '\\' :: 'u' :: '0' :: '0' :: controlDigits c.toNat := by
        simp [apply_ite String.toList, Text.hexDigits, controlDigits]
      rw [text, string?_control control]
    · next shown =>
      rw [String.toList_singleton]
      exact string?_plain quote slash shown cs
  all_goals rfl

theorem string?_stringText (s : String) (rest : List Char) :
    string? (((s.toList.map escapedChar).flatMap String.toList) ++ '"' :: rest) =
      some (s.toList, rest) := by
  generalize s.toList = cs
  induction cs with
  | nil => rw [List.map_nil, List.flatMap_nil, List.nil_append, string?]
  | cons c cs ih =>
    rw [List.map_cons, List.flatMap_cons, List.append_assoc, string?_escapedChar, ih]
    rfl

/-! ## Numbers -/

/-- No number goes on here. -/
def Stops (cs : List Char) : Prop := ∀ c, cs.head? = some c → c.isDigit = false ∧ c ≠ '.'

/-- A reader takes all of a text, and nothing of what stands behind it. -/
def Reads {α : Type} (item? : List Char → Option (α × List Char)) (item : α) (text : List Char) :
    Prop :=
  ∀ rest, Stops rest → item? (text ++ rest) = some (item, rest)

theorem stops_cons {c : Char} (digit : c.isDigit = false) (point : c ≠ '.') (cs : List Char) :
    Stops (c :: cs) := by
  rintro _ ⟨⟩
  exact ⟨digit, point⟩

theorem stops_of_isSpaces {cs : List Char} (spaces : IsSpaces cs) : Stops cs := by
  intro c first
  rcases isSpace_iff.1 (spaces c (List.mem_of_mem_head? first)) with rfl | rfl | rfl | rfl <;>
    exact ⟨rfl, by decide⟩

section numbers

variable {digits places rest : List Char}

theorem takeWhile_digits (all : ∀ c ∈ digits, c.isDigit = true)
    (ends : ∀ c, rest.head? = some c → c.isDigit = false) :
    (digits ++ rest).takeWhile Char.isDigit = digits ∧
      (digits ++ rest).dropWhile Char.isDigit = rest := by
  rw [List.takeWhile_append_of_pos all, List.dropWhile_append_of_pos all]
  cases rest with
  | nil => exact ⟨List.append_nil digits, rfl⟩
  | cons c rest => simp [ends c rfl]

theorem size?_whole (some_digit : digits ≠ []) (all : ∀ c ∈ digits, c.isDigit = true)
    (stops : Stops rest) :
    size? (digits ++ rest) = some ((Nat.ofDigitChars 10 digits 0, 0), rest) := by
  obtain ⟨taken, left⟩ := takeWhile_digits all fun c starts => (stops c starts).1
  have none_behind : places? rest = some ([], rest) := by
    cases rest with
    | nil => rfl
    | cons c rest =>
      rw [places?]
      rintro cs eq
      exact (stops c rfl).2 (List.cons.inj eq).1
  simp [size?, taken, left, some_digit, none_behind]

theorem size?_fraction (some_digit : digits ≠ []) (all : ∀ c ∈ digits, c.isDigit = true)
    (some_place : places ≠ []) (all' : ∀ c ∈ places, c.isDigit = true) (stops : Stops rest) :
    size? (digits ++ '.' :: (places ++ rest)) =
      some ((Nat.ofDigitChars 10 (digits ++ places) 0, places.length), rest) := by
  have ends : ∀ c, ('.' :: (places ++ rest)).head? = some c → c.isDigit = false := by
    rintro c ⟨⟩
    rfl
  obtain ⟨taken, left⟩ := takeWhile_digits all ends
  obtain ⟨taken', left'⟩ := takeWhile_digits all' fun c starts => (stops c starts).1
  have behind : places? ('.' :: (places ++ rest)) = some (places, rest) := by
    rw [places?, taken', left', if_neg some_place]
  simp [size?, taken, left, some_digit, behind]

end numbers

theorem toList_toString (n : Nat) : (toString n).toList = Nat.toDigits 10 n := by
  rw [Nat.toString_eq_repr, Nat.toList_repr]

theorem isDigit_of_mem_digits {n : Nat} : ∀ c ∈ Nat.toDigits 10 n, c.isDigit = true :=
  fun _ => Nat.isDigit_of_mem_toDigits (by decide) (by decide)

theorem digits_ne_nil (n : Nat) : Nat.toDigits 10 n ≠ [] :=
  List.ne_nil_of_length_pos Nat.length_toDigits_pos

theorem toList_paddedDigits (width n : Nat) : (paddedDigits width n).toList =
    List.replicate (width - (Nat.toDigits 10 n).length) '0' ++ Nat.toDigits 10 n := by
  rw [paddedDigits, String.toList_append, String.toList_ofList, toList_toString,
    ← String.length_toList, toList_toString]

/-- The text of a number without its sign. -/
def sizeText (n places : Nat) : List Char :=
  if places = 0 then Nat.toDigits 10 n
  else Nat.toDigits 10 (n / Nat.pow 10 places) ++
    '.' :: (paddedDigits places (n % Nat.pow 10 places)).toList

theorem toList_decimalText (d : Decimal) : (decimalText d).toList =
    (if d.mantissa < 0 then ['-'] else []) ++ sizeText d.mantissa.natAbs d.places := by
  unfold decimalText sizeText
  by_cases none : d.places = 0 <;> simp [none, apply_ite String.toList]

/-- As many places are printed as there are. -/
theorem length_paddedDigits {places n : Nat} (some_place : places ≠ 0)
    (fits : n < Nat.pow 10 places) : (paddedDigits places n).toList.length = places := by
  have short : (Nat.toDigits 10 n).length ≤ places :=
    (Nat.length_toDigits_le_iff (by decide) (Nat.pos_of_ne_zero some_place)).2 fits
  rw [toList_paddedDigits, List.length_append, List.length_replicate, Nat.sub_add_cancel short]

theorem isDigit_of_mem_paddedDigits {places n : Nat} :
    ∀ c ∈ (paddedDigits places n).toList, c.isDigit = true := by
  intro c mem
  rw [toList_paddedDigits, List.mem_append, List.mem_replicate] at mem
  rcases mem with ⟨-, rfl⟩ | mem
  · rfl
  · exact isDigit_of_mem_digits c mem

theorem ofDigitChars_paddedDigits {places n : Nat} :
    Nat.ofDigitChars 10 (paddedDigits places n).toList 0 = n := by
  rw [toList_paddedDigits, Nat.ofDigitChars_append, Nat.ofDigitChars_replicate_zero, Nat.mul_zero,
    Nat.ofDigitChars_toDigits (by decide) (by decide)]

theorem size?_sizeText (n places : Nat) {rest : List Char} (stops : Stops rest) :
    size? (sizeText n places ++ rest) = some ((n, places), rest) := by
  unfold sizeText
  split
  · next none =>
    rw [size?_whole (digits_ne_nil n) isDigit_of_mem_digits stops, none,
      Nat.ofDigitChars_toDigits (by decide) (by decide)]
  · next some_place =>
    have fits : n % Nat.pow 10 places < Nat.pow 10 places :=
      Nat.mod_lt _ (Nat.pow_pos (by decide))
    have length := length_paddedDigits some_place fits
    have written : (paddedDigits places (n % Nat.pow 10 places)).toList ≠ [] :=
      List.ne_nil_of_length_pos (by rw [length]; exact Nat.pos_of_ne_zero some_place)
    have value : Nat.ofDigitChars 10 (Nat.toDigits 10 (n / Nat.pow 10 places) ++
        (paddedDigits places (n % Nat.pow 10 places)).toList) 0 = n := by
      rw [Nat.ofDigitChars_append, Nat.ofDigitChars_toDigits (by decide) (by decide),
        Nat.ofDigitChars_eq_ofDigitChars_zero, length, ofDigitChars_paddedDigits]
      exact Nat.div_add_mod n (Nat.pow 10 places)
    rw [List.append_assoc, List.cons_append, size?_fraction (digits_ne_nil _)
      isDigit_of_mem_digits written isDigit_of_mem_paddedDigits stops, value, length]

theorem exists_digit_sizeText (n places : Nat) :
    ∃ c cs, sizeText n places = c :: cs ∧ c.isDigit = true := by
  have starts (m : Nat) : ∃ c cs, Nat.toDigits 10 m = c :: cs ∧ c.isDigit = true := by
    obtain ⟨c, cs, eq⟩ := List.exists_cons_of_ne_nil (digits_ne_nil m)
    exact ⟨c, cs, eq, isDigit_of_mem_digits c (eq ▸ List.mem_cons_self)⟩
  unfold sizeText
  split
  · exact starts n
  · obtain ⟨c, cs, eq, digit⟩ := starts (n / Nat.pow 10 places)
    exact ⟨c, _, by rw [eq, List.cons_append], digit⟩

theorem number?_decimalText (d : Decimal) {rest : List Char} (stops : Stops rest) :
    number? ((decimalText d).toList ++ rest) = some (d, rest) := by
  have read := size?_sizeText d.mantissa.natAbs d.places stops
  rw [toList_decimalText]
  split
  · next negative =>
    have mantissa : -(d.mantissa.natAbs : Int) = d.mantissa := by omega
    rw [List.singleton_append, List.cons_append, number?, read]
    show some ((⟨-(d.mantissa.natAbs : Int), d.places⟩ : Decimal), rest) = _
    rw [mantissa]
  · next positive =>
    have mantissa : (d.mantissa.natAbs : Int) = d.mantissa := by omega
    obtain ⟨c, cs, eq, digit⟩ := exists_digit_sizeText d.mantissa.natAbs d.places
    rw [List.nil_append, number?, read]
    · show some ((⟨(d.mantissa.natAbs : Int), d.places⟩ : Decimal), rest) = _
      rw [mantissa]
    · rintro cs' starts
      rw [eq, List.cons_append, List.cons.injEq] at starts
      rw [starts.1] at digit
      cases digit

theorem startsNumber_decimalText (d : Decimal) (rest : List Char) :
    startsNumber ((decimalText d).toList ++ rest) = true := by
  obtain ⟨c, cs, eq, digit⟩ := exists_digit_sizeText d.mantissa.natAbs d.places
  rw [toList_decimalText, eq]
  split
  · rfl
  · simp [startsNumber, digit]

/-! ## Lists -/

section lists

variable {α : Type} {item? : List Char → Option (α × List Char)} {closing : Char}

section step

variable {most : Nat} {cs rest behind : List Char} {item : α} (read : item? cs = some (item, rest))
include read

theorem items?_of_last (ends : skip rest = closing :: behind) :
    items? item? closing (most + 1) cs = some ([item], behind) := by
  simp [items?, read, ends]

theorem items?_of_more (comma : closing ≠ ',') (continues : skip rest = ',' :: behind)
    {items : List α} {rest' : List Char}
    (others : items? item? closing most behind = some (items, rest')) :
    items? item? closing (most + 1) cs = some (item :: items, rest') := by
  simp [items?, read, continues, comma.symm, others]

end step

/-- Texts, each with a comma in front. -/
def behindCommas (texts : List (List Char)) : List Char := texts.flatMap (',' :: ·)

theorem behindCommas_cons (text : List Char) (texts : List (List Char)) :
    behindCommas (text :: texts) = ',' :: (text ++ behindCommas texts) := rfl

/-- Items are read one by one where each is read from its own text. -/
theorem items?_behindCommas (comma : closing ≠ ',') (solid : isSpace closing = false)
    {margin : List Char} (spaces : IsSpaces margin) (rest : List Char) {item : α} {items : List α}
    {text : List Char} {texts : List (List Char)} (read : Reads item? item text)
    (others : List.Forall₂ (Reads item?) items texts) {most : Nat} (enough : texts.length < most) :
    items? item? closing most
        (text ++ (behindCommas texts ++ '\n' :: (margin ++ closing :: rest))) =
      some (item :: items, rest) := by
  induction others generalizing item text most with
  | nil =>
    obtain ⟨most, rfl⟩ := Nat.exists_eq_add_of_le' enough
    have behind : skip ('\n' :: (margin ++ closing :: rest)) = closing :: rest := by
      show skip (margin ++ closing :: rest) = _
      rw [skip_append spaces, skip_cons solid]
    exact items?_of_last (read _ (stops_cons rfl (by decide) _)) behind
  | @cons second text' items texts read' others ih =>
    obtain ⟨most, rfl⟩ := Nat.exists_eq_add_of_le' (Nat.one_le_of_lt enough)
    have more := ih read' (Nat.lt_of_succ_lt_succ enough)
    rw [behindCommas_cons, List.cons_append, List.append_assoc]
    exact items?_of_more (read _ (stops_cons rfl (by decide) _)) comma (skip_cons rfl _) more

theorem bracketed?_of_items? {most : Nat} {cs rest : List Char} {items : List α}
    (some_item : (skip cs).head? ≠ some closing)
    (read : items? item? closing most cs = some (items, rest)) :
    bracketed? item? closing most cs = some (items, rest) := by
  rw [bracketed?, if_neg some_item, read]

end lists

/-! ## Text between brackets -/

theorem bracketed_nil (opening closing : String) (level : Nat) :
    bracketed opening closing level [] = opening ++ closing := rfl

/-- A line as it stands between brackets. -/
def lineText (level : Nat) (line : String) : List Char :=
  '\n' :: ((indent (level + 1)).toList ++ line.toList)

theorem toList_bracketed (opening closing : String) (level : Nat) (line : String)
    (lines : List String) :
    (bracketed opening closing level (line :: lines)).toList =
      opening.toList ++ (lineText level line ++ (behindCommas (lines.map (lineText level)) ++
        '\n' :: ((indent level).toList ++ closing.toList))) := by
  have separator : ",\n".toList = [',', '\n'] := rfl
  have newline : "\n".toList = ['\n'] := rfl
  simp only [bracketed, List.map_cons, String.toList_append, String.toList_intercalate, separator,
    newline, Text.intercalate_cons, behindCommas, lineText, List.flatMap_map, List.append_assoc,
    List.cons_append, List.nil_append]

theorem lengths_le_behindCommas (texts : List (List Char)) :
    texts.length ≤ (behindCommas texts).length ∧
      ∀ text ∈ texts, text.length < (behindCommas texts).length := by
  induction texts with
  | nil => exact ⟨Nat.le_refl 0, nofun⟩
  | cons text texts ih =>
    obtain ⟨count, lengths⟩ := ih
    rw [behindCommas_cons, List.forall_mem_cons, List.length_cons, List.length_cons,
      List.length_append]
    refine ⟨by omega, by omega, fun other mem => ?_⟩
    have := lengths other mem
    omega

/-- A text between brackets has as many characters as it has lines, and as any line has. -/
theorem lengths_of_bracketed {opening closing : String} {level most : Nat} {lines : List String}
    (enough : (bracketed opening closing level lines).toList.length < most + 1) :
    lines.length ≤ most ∧ ∀ line ∈ lines, line.toList.length < most := by
  cases lines with
  | nil => exact ⟨Nat.zero_le most, nofun⟩
  | cons line lines =>
    obtain ⟨count, lengths⟩ := lengths_le_behindCommas (lines.map (lineText level))
    rw [toList_bracketed] at enough
    simp only [lineText, List.length_append, List.length_cons, List.length_map] at enough count
    rw [List.length_cons, List.forall_mem_cons]
    refine ⟨by omega, by omega, fun other mem => ?_⟩
    have length := lengths _ (List.mem_map_of_mem mem)
    simp only [lineText, List.length_append, List.length_cons] at length
    omega

section lines

variable {α : Type} {item? : List Char → Option (α × List Char)} {closing : Char}

theorem reads_lineText
    (passes : ∀ margin cs, IsSpaces margin → item? (margin ++ cs) = item? cs) (level : Nat)
    {item : α} {line : String} (read : Reads item? item line.toList) :
    Reads item? item (lineText level line) := by
  intro rest stops
  have margin : IsSpaces ('\n' :: (indent (level + 1)).toList) := by
    rw [IsSpaces, List.forall_mem_cons]
    exact ⟨rfl, isSpaces_indent _⟩
  have split : lineText level line ++ rest =
      ('\n' :: (indent (level + 1)).toList) ++ (line.toList ++ rest) := by
    simp [lineText]
  rw [split, passes _ _ margin, read rest stops]

/-- Where there is a line, no closing bracket comes first. -/
theorem head?_skip_lineText {line : String} (opens : Opens closing line.toList) (level : Nat)
    (rest : List Char) : (skip (lineText level line ++ rest)).head? ≠ some closing := by
  obtain ⟨c, cs, eq, solid, apart⟩ := opens
  have front : skip (lineText level line ++ rest) = c :: (cs ++ rest) := by
    rw [lineText, eq, List.cons_append, List.append_assoc]
    show skip ((indent (level + 1)).toList ++ c :: (cs ++ rest)) = _
    rw [skip_append (isSpaces_indent _), skip_cons solid]
  rw [front]
  exact fun same => apart (Option.some.inj same)

variable (item? closing) in
/-- What is printed between brackets is read again. -/
theorem bracketed?_bracketed {opening close : String} (closes : close.toList = [closing])
    (comma : closing ≠ ',') (solid : isSpace closing = false)
    (passes : ∀ margin cs, IsSpaces margin → item? (margin ++ cs) = item? cs) {level most : Nat}
    {items : List α} {lines : List String}
    (opens : ∀ line ∈ lines, Opens closing line.toList)
    (enough : (bracketed opening close level lines).toList.length < most + 1)
    (reads : List.Forall₂ (fun item line => Reads item? item line.toList) items lines) :
    ∃ body, (bracketed opening close level lines).toList = opening.toList ++ body ∧
      ∀ rest, bracketed? item? closing most (body ++ rest) = some (items, rest) := by
  cases reads with
  | nil =>
    refine ⟨[closing], by rw [bracketed_nil, String.toList_append, closes], fun rest => ?_⟩
    have front : skip ([closing] ++ rest) = closing :: rest := skip_cons solid rest
    rw [bracketed?, front, if_pos (List.head?_cons ..), List.tail_cons]
  | @cons item line items lines read others =>
    refine ⟨_, toList_bracketed opening close level line lines, fun rest => ?_⟩
    have others' : List.Forall₂ (Reads item?) items (lines.map (lineText level)) :=
      List.forall₂_map_right_iff.2 (others.imp fun _ _ => reads_lineText passes level)
    have fewer : (lines.map (lineText level)).length < most := by
      rw [List.length_map]
      exact (lengths_of_bracketed enough).1
    simp only [closes, List.append_assoc, List.cons_append, List.nil_append]
    exact bracketed?_of_items? (head?_skip_lineText (opens line List.mem_cons_self) level _)
      (items?_behindCommas comma solid (isSpaces_indent level) rest
        (reads_lineText passes level read) others' fewer)

end lines

/-! ## Values -/

theorem value?_array (most : Nat) (cs : List Char) : value? (most + 1) ('[' :: cs) =
    (bracketed? (value? most) ']' most cs).map fun (items, rest) => (.array items, rest) := rfl

theorem value?_object (most : Nat) (cs : List Char) : value? (most + 1) ('\x7b' :: cs) =
    (bracketed? (member? (value? most)) '\x7d' most cs).map fun (members, rest) =>
      (.object members, rest) := rfl

theorem value?_text (most : Nat) (cs : List Char) : value? (most + 1) ('"' :: cs) =
    (string? cs).map fun (cs, rest) => (.text (String.ofList cs), rest) := rfl

theorem member?_append (value? : List Char → Option (Json × List Char)) (margin cs : List Char)
    (spaces : IsSpaces margin) : member? value? (margin ++ cs) = member? value? cs := by
  rw [member?, member?, skip_append spaces]

theorem toList_stringText (s : String) :
    (stringText s).toList = '"' :: ((s.toList.map escapedChar).flatMap String.toList ++ ['"']) := by
  simp [stringText, String.toList_join]

theorem member?_of_value? {value? : List Char → Option (Json × List Char)} {cs rest : List Char}
    {value : Json} (read : value? (' ' :: cs) = some (value, rest)) (name : String) :
    member? value? ((stringText name).toList ++ ':' :: ' ' :: cs) = some ((name, value), rest) := by
  rw [toList_stringText, List.cons_append, List.append_assoc, List.singleton_append]
  show (string? _).bind _ = _
  rw [string?_stringText]
  show (value? (' ' :: cs)).map _ = _
  rw [read]
  show some ((String.ofList name.toList, value), rest) = _
  rw [String.ofList_toList]

/-- A number is told from all other values, from white space and from brackets by its first
character. -/
theorem opens_of_startsNumber {cs : List Char} (starts : startsNumber cs = true) :
    Opens ']' cs := by
  cases cs with
  | nil => cases starts
  | cons c cs =>
    have first : (c = '-' || c.isDigit) = true := starts
    rw [Bool.or_eq_true, decide_eq_true_iff] at first
    refine ⟨c, cs, rfl, ?_, ?_⟩
    · rcases first with rfl | digit
      · rfl
      · rw [Bool.eq_false_iff, ne_eq, isSpace_iff]
        rintro (rfl | rfl | rfl | rfl) <;> cases digit
    · rintro rfl
      rcases first with eq | digit
      · cases eq
      · cases digit

theorem exists_toList_bracketed (opening closing : String) (level : Nat) (lines : List String) :
    ∃ cs, (bracketed opening closing level lines).toList = opening.toList ++ cs := by
  unfold bracketed
  split <;> simp

/-- A value is told from white space, and from the end of an array, by its first character. -/
theorem opens_prettyAt (level : Nat) (value : Json) : Opens ']' (prettyAt level value).toList := by
  cases value with
  | null => exact ⟨'n', ['u', 'l', 'l'], by rw [prettyAt]; rfl, rfl, by decide⟩
  | bool value =>
    cases value with
    | false => exact ⟨'f', ['a', 'l', 's', 'e'], by rw [prettyAt]; rfl, rfl, by decide⟩
    | true => exact ⟨'t', ['r', 'u', 'e'], by rw [prettyAt]; rfl, rfl, by decide⟩
  | number value =>
    have starts := startsNumber_decimalText value []
    rw [List.append_nil] at starts
    rw [prettyAt]
    exact opens_of_startsNumber starts
  | text value => exact ⟨'"', _, by rw [prettyAt, toList_stringText], rfl, by decide⟩
  | array items =>
    obtain ⟨cs, eq⟩ := exists_toList_bracketed "[" "]" level (prettyItems (level + 1) items)
    exact ⟨'[', cs, by rw [prettyAt, eq]; rfl, rfl, by decide⟩
  | object members =>
    obtain ⟨cs, eq⟩ := exists_toList_bracketed "\x7b" "\x7d" level
      (prettyMembers (level + 1) members)
    exact ⟨'\x7b', cs, by rw [prettyAt, eq]; rfl, rfl, by decide⟩

theorem opens_prettyItems (level : Nat) (items : List Json) :
    ∀ line ∈ prettyItems level items, Opens ']' line.toList := by
  induction items with
  | nil => exact nofun
  | cons item items ih =>
    rw [prettyItems, List.forall_mem_cons]
    exact ⟨opens_prettyAt level item, ih⟩

theorem opens_prettyMembers (level : Nat) (members : List (String × Json)) :
    ∀ line ∈ prettyMembers level members, Opens '\x7d' line.toList := by
  induction members with
  | nil => exact nofun
  | cons member members ih =>
    obtain ⟨name, value⟩ := member
    rw [prettyMembers, List.forall_mem_cons, String.append_assoc, String.toList_append,
      toList_stringText]
    exact ⟨⟨'"', _, rfl, rfl, by decide⟩, ih⟩

mutual

/-- What is printed of a value is read as this value. -/
theorem reads_prettyAt (value : Json) {level most : Nat}
    (enough : (prettyAt level value).toList.length < most) :
    Reads (value? most) value (prettyAt level value).toList := by
  intro rest stops
  obtain ⟨most, rfl⟩ := Nat.exists_eq_add_of_le' (Nat.one_le_of_lt enough)
  match value with
  | .null =>
    rw [prettyAt]
    rfl
  | .bool true =>
    rw [prettyAt]
    rfl
  | .bool false =>
    rw [prettyAt]
    rfl
  | .number d =>
    have starts := startsNumber_decimalText d rest
    rw [prettyAt, value?, (opens_of_startsNumber starts).skip_eq]
    show (if startsNumber _ = true then _ else _) = _
    rw [if_pos starts, number?_decimalText d stops]
    rfl
  | .text s =>
    rw [prettyAt, toList_stringText, List.cons_append, List.append_assoc, List.singleton_append,
      value?_text, string?_stringText]
    show some (Json.text (String.ofList s.toList), rest) = _
    rw [String.ofList_toList]
  | .array items =>
    rw [prettyAt] at enough
    obtain ⟨body, text, read⟩ := bracketed?_bracketed (value? most) ']' rfl (by decide) rfl
      (fun _ _ spaces => value?_append spaces most _) (opens_prettyItems (level + 1) items) enough
      (reads_prettyItems items (lengths_of_bracketed enough).2)
    have front : "[".toList = ['['] := rfl
    rw [prettyAt, text, front, List.append_assoc, List.singleton_append, value?_array, read]
    rfl
  | .object members =>
    rw [prettyAt] at enough
    obtain ⟨body, text, read⟩ := bracketed?_bracketed (member? (value? most)) '\x7d' rfl
      (by decide) rfl (member?_append (value? most)) (opens_prettyMembers (level + 1) members)
      enough (reads_prettyMembers members (lengths_of_bracketed enough).2)
    have front : "\x7b".toList = ['\x7b'] := rfl
    rw [prettyAt, text, front, List.append_assoc, List.singleton_append, value?_object, read]
    rfl

theorem reads_prettyItems (items : List Json) {level most : Nat}
    (enough : ∀ line ∈ prettyItems level items, line.toList.length < most) :
    List.Forall₂ (fun item line => Reads (value? most) item line.toList) items
      (prettyItems level items) :=
  match items with
  | [] => .nil
  | item :: items => by
    rw [prettyItems, List.forall_mem_cons] at enough
    rw [prettyItems]
    exact .cons (reads_prettyAt item enough.1) (reads_prettyItems items enough.2)

theorem reads_prettyMembers (members : List (String × Json)) {level most : Nat}
    (enough : ∀ line ∈ prettyMembers level members, line.toList.length < most) :
    List.Forall₂ (fun member line => Reads (member? (value? most)) member line.toList) members
      (prettyMembers level members) :=
  match members with
  | [] => .nil
  | (name, value) :: members => by
    rw [prettyMembers, List.forall_mem_cons] at enough
    rw [prettyMembers]
    refine .cons (fun rest stops => ?_) (reads_prettyMembers members enough.2)
    have shorter : (prettyAt level value).toList.length < most := by
      have length := enough.1
      rw [String.toList_append, List.length_append] at length
      omega
    have read : value? most (' ' :: ((prettyAt level value).toList ++ rest)) =
        some (value, rest) :=
      (value?_append (isSpaces_singleton rfl) most _).trans
        (reads_prettyAt value shorter rest stops)
    have text : (stringText name ++ ": " ++ prettyAt level value).toList ++ rest =
        (stringText name).toList ++ ':' :: ' ' :: ((prettyAt level value).toList ++ rest) := by
      simp
    rw [text, member?_of_value? read]

end

/-- A text that is printed of a value stands for this value. White space may follow. -/
theorem parse?_pretty (value : Json) {blanks : String} (spaces : IsSpaces blanks.toList) :
    parse? (value.pretty ++ blanks) = some value := by
  have enough : (prettyAt 0 value).toList.length < (value.pretty ++ blanks).toList.length + 1 := by
    rw [String.toList_append, List.length_append]
    exact Nat.lt_succ_of_le (Nat.le_add_right ..)
  have read := reads_prettyAt value enough blanks.toList (stops_of_isSpaces spaces)
  have nothing : skip blanks.toList = [] := by
    rw [← List.append_nil blanks.toList, skip_append spaces]
    rfl
  have text : (value.pretty ++ blanks).toList = (prettyAt 0 value).toList ++ blanks.toList :=
    String.toList_append
  rw [← text] at read
  rw [parse?, read]
  exact if_pos nothing

/-- Two values are never printed alike. -/
theorem pretty_injective : Function.Injective pretty := by
  have read (value : Json) : parse? value.pretty = some value := by
    rw [← String.append_empty (s := value.pretty)]
    exact parse?_pretty value nofun
  intro value other same
  exact Option.some.inj ((read value).symm.trans ((congrArg parse? same).trans (read other)))

end PolicyTree.Json
