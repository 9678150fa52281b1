/-
  Colours of a terminal. Marks and labels are shown in colours where the environment forces them,
  or on a terminal where it does not forbid them.
-/
namespace PolicyTree.CommandLine

/-- The colours in use. -/
inductive Colour where
  | red
  | green
  | yellow
  | cyan
  deriving DecidableEq, Repr

namespace Colour

/-- What asks a terminal for a colour of letters. -/
def code : Colour → String
  | .red => "\x1b[31m"
  | .green => "\x1b[32m"
  | .yellow => "\x1b[33m"
  | .cyan => "\x1b[36m"

/-- What ends all colours. -/
def reset : String := "\x1b[0m"

/-- A text in a colour, or as it is where colours are not shown. -/
def paint (colours : Bool) (colour : Colour) (text : String) : String :=
  if colours then colour.code ++ text ++ reset else text

/-- Whether colours are shown. A variable of the value `0` neither forces colours nor lets a
terminal have them. -/
def areShown (environment : List (String × String)) (terminal : Bool) : Bool :=
  if (environment.lookup "CLICOLOR_FORCE").any (· ≠ "0") then true
  else if (environment.lookup "NO_COLOR").isSome then false
  else terminal && (environment.lookup "CLICOLOR").all (· ≠ "0")

end Colour

end PolicyTree.CommandLine
