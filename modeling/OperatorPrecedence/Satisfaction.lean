import OperatorPrecedence.Groups
import OperatorPrecedence.Matrix

/-!
What it means for two functions on the symbols to reproduce a table.
-/

namespace OperatorPrecedence

universe u

variable {α : Type u} [LT α] [Text.LabelAlphabet]

/-- `f` on the left and `g` on the right reproduce every relation of a matrix,
for all symbols that the two labels stand for. -/
def Matrix.SatisfiedBy (matrix : Matrix) (groups : Groups) (f g : String → α) : Prop :=
  ∀ row column : Fin matrix.size,
    ∀ left ∈ groups.symbolsOf (matrix.label row),
      ∀ right ∈ groups.symbolsOf (matrix.label column),
        (matrix.relation row column).Holds (f left) (g right)

/-- It is enough to look at the cells. -/
theorem Matrix.satisfiedBy_iff_cellList (matrix : Matrix) (groups : Groups)
    (f g : String → α) :
    matrix.SatisfiedBy groups f g ↔
      ∀ cell ∈ matrix.cellList,
        ∀ left ∈ groups.symbolsOf (matrix.label cell.row),
          ∀ right ∈ groups.symbolsOf (matrix.label cell.column),
            cell.relation.Holds (f left) (g right) := by
  constructor
  · intro hall cell hcell
    rw [(matrix.mem_cellList_iff cell).mp hcell]
    exact hall cell.row cell.column
  · intro hcells row column
    exact hcells ⟨row, column, matrix.relation row column⟩
      ((matrix.mem_cellList_iff _).mpr rfl)

end OperatorPrecedence
