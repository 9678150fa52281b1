import PolicyTree.Json.Basic
import PolicyTree.Text.Quoted
/-
  JSON text, spread over lines: two spaces for each level, one member or item a line, and
  nothing between the brackets of an empty array or object.
-/
namespace PolicyTree.Json

/-- One character as it stands in a JSON string: only what must be escaped is. -/
def escapedChar (c : Char) : String :=
  match c with
  | '"' => "\\\""
  | '\\' => "\\\\"
  | '\x08' => "\\b"
  | '\x0c' => "\\f"
  | '\n' => "\\n"
  | '\r' => "\\r"
  | '\t' => "\\t"
  | c =>
    if c.toNat < 0x20 then
      "\\u00" ++ (if c.toNat < 0x10 then "0" else "") ++ Text.hexDigits c.toNat
    else String.singleton c

/-- A JSON string. -/
def stringText (s : String) : String :=
  "\"" ++ String.join (s.toList.map escapedChar) ++ "\""

/-- The digits of a number with at least `width` places, filled with zeros. -/
def paddedDigits (width n : Nat) : String :=
  let digits := toString n
  String.ofList (List.replicate (width - digits.length) '0') ++ digits

/-- A decimal fraction with all its places. -/
def decimalText (d : Decimal) : String :=
  let size := d.mantissa.natAbs
  let sign := if d.mantissa < 0 then "-" else ""
  if d.places = 0 then sign ++ toString size
  else
    let unit := Nat.pow 10 d.places
    sign ++ toString (size / unit) ++ "." ++ paddedDigits d.places (size % unit)

/-- The white space that starts a line at the given level. -/
def indent (level : Nat) : String := String.ofList (List.replicate (2 * level) ' ')

/-- Lines between brackets, one level further in. -/
def bracketed (opening closing : String) (level : Nat) (lines : List String) : String :=
  match lines with
  | [] => opening ++ closing
  | _ =>
    opening ++ "\n" ++ ",\n".intercalate (lines.map (indent (level + 1) ++ ·)) ++ "\n" ++
      indent level ++ closing

mutual

/-- The text of a value whose first line stands at the given level. -/
def prettyAt (level : Nat) : Json → String
  | .null => "null"
  | .bool true => "true"
  | .bool false => "false"
  | .number value => decimalText value
  | .text value => stringText value
  | .array items => bracketed "[" "]" level (prettyItems (level + 1) items)
  | .object members => bracketed "\x7b" "\x7d" level (prettyMembers (level + 1) members)

/-- The texts of the items of an array. -/
def prettyItems (level : Nat) : List Json → List String
  | [] => []
  | item :: rest => prettyAt level item :: prettyItems level rest

/-- The texts of the members of an object. -/
def prettyMembers (level : Nat) : List (String × Json) → List String
  | [] => []
  | (name, value) :: rest =>
    (stringText name ++ ": " ++ prettyAt level value) :: prettyMembers level rest

end

/-- The text of a value. -/
def pretty (value : Json) : String := prettyAt 0 value

end PolicyTree.Json
