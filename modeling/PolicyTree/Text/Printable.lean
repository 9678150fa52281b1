import PolicyTree.Text.Ignorable
import PolicyTree.Text.Joining
import PolicyTree.Text.Unmarked
/-
  Which characters show when they stand alone: those that leave a mark, are not to be
  ignored, and do not join the character before.
-/
namespace PolicyTree.Text

/-- Whether a character shows when it stands alone. -/
def isPrintable (c : Char) : Bool := !(isUnmarked c || isIgnorable c || isJoining c)

end PolicyTree.Text
