import OperatorPrecedence.Text.Width

/-!
Places in a text, and how a character moves the place along.
-/

namespace OperatorPrecedence

/-- A place in a text: its line, the column in it, and the bytes before it in
UTF-8.  All three count from zero.  Where line and column are counted in thirty-two
bits, the counts are the same in every text of fewer than 2 ^ 30 characters. -/
structure Location where
  line : Nat
  column : Nat
  byte : Nat
deriving Repr, DecidableEq

namespace Location

def start : Location := ⟨0, 0, 0⟩

/-- The place after one more character.  A line feed opens a line, a tab takes
four columns, and any other character takes its width. -/
def advance (location : Location) (c : Char) : Location :=
  if c = '\n' then ⟨location.line + 1, 0, location.byte + c.utf8Size⟩
  else
    ⟨location.line, location.column + (if c = '\t' then 4 else Text.width c),
      location.byte + c.utf8Size⟩

def advanceAll (location : Location) (cs : List Char) : Location :=
  cs.foldl advance location

@[simp] theorem advanceAll_nil (location : Location) :
    location.advanceAll [] = location := rfl

@[simp] theorem advanceAll_cons (location : Location) (c : Char) (cs : List Char) :
    location.advanceAll (c :: cs) = (location.advance c).advanceAll cs := rfl

theorem advanceAll_append (location : Location) (cs ds : List Char) :
    location.advanceAll (cs ++ ds) = (location.advanceAll cs).advanceAll ds :=
  List.foldl_append

theorem line_advance_le (location : Location) (c : Char) :
    (location.advance c).line ≤ location.line + 1 := by
  unfold advance
  split
  · exact Nat.le_refl _
  · exact Nat.le_succ _

theorem column_advance_le (location : Location) (c : Char) :
    (location.advance c).column ≤ location.column + 4 := by
  have hwidth := Text.width_le_three c
  unfold advance
  split
  · exact Nat.zero_le _
  · dsimp only
    split <;> omega

/-- A character moves a place down by at most one line, or on by at most four columns. -/
theorem advanceAll_le (location : Location) (cs : List Char) :
    (location.advanceAll cs).line ≤ location.line + cs.length ∧
      (location.advanceAll cs).column ≤ location.column + 4 * cs.length := by
  induction cs generalizing location with
  | nil => exact ⟨Nat.le_refl _, Nat.le_refl _⟩
  | cons c cs ih =>
      obtain ⟨hline, hcolumn⟩ := ih (location.advance c)
      have hlineStep := location.line_advance_le c
      have hcolumnStep := location.column_advance_le c
      rw [advanceAll_cons, List.length_cons]
      omega

/-- Thirty-two bits hold line and column of every place in a text that is not too
long. -/
theorem advanceAll_start_lt {cs : List Char} (hlength : 4 * cs.length < UInt32.size) :
    (start.advanceAll cs).line < UInt32.size ∧
      (start.advanceAll cs).column < UInt32.size := by
  have hle := start.advanceAll_le cs
  simp only [start] at hle ⊢
  omega

/-- A place as people count it, line and column from one. -/
def text (location : Location) : String :=
  toString (location.line + 1) ++ ":" ++ toString (location.column + 1)

end Location

end OperatorPrecedence
