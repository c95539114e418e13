import OperatorPrecedence.Text.CodeRange
import OperatorPrecedence.Text.WidthRanges

/-!
How many columns a character takes on a terminal.
-/

namespace OperatorPrecedence.Text

/-- The Khmer sign that is drawn as three letters. -/
def tripleWidth : Char := '\u17D8'

/-- The columns that a character takes: none for a combining or invisible one,
two for a wide one, three for one single sign, and one for every other, control
characters included. -/
def width (c : Char) : Nat :=
  if c = tripleWidth then 3
  else if inRanges zeroWidthRanges c.toNat then 0
  else if inRanges wideRanges c.toNat then 2
  else 1

theorem width_le_three (c : Char) : width c ≤ 3 := by
  unfold width
  split
  · exact Nat.le_refl 3
  · split
    · exact Nat.zero_le 3
    · split <;> decide

end OperatorPrecedence.Text
