import OperatorPrecedence.Matrix
import OperatorPrecedence.Text.Field

/-!
The matrix as a text: a header with the labels, then a line per row.  The widths
of the fields count the bytes of the labels.
-/

namespace OperatorPrecedence.Matrix

variable [Text.LabelAlphabet]

/-- The width of the field that holds the label of a row. -/
def labelWidth (matrix : Matrix) : Nat :=
  (matrix.labels.map String.utf8ByteSize).foldr max 0

def headerLine (matrix : Matrix) : String :=
  Text.Field.set { width := matrix.labelWidth } "" ++
    String.join (matrix.labels.map (" " ++ ·))

/-- The line of a row: its label, then each mark at the right of a field as wide
as the label of its column. -/
def rowLine (matrix : Matrix) (row : Fin matrix.size) : String :=
  Text.Field.set { width := matrix.labelWidth } (matrix.label row) ++
    String.join ((List.finRange matrix.size).map fun column =>
      " " ++ Text.Field.set
        { width := (matrix.label column).utf8ByteSize, alignment := .right }
        (matrix.relation row column).text)

def textLines (matrix : Matrix) : List String :=
  matrix.headerLine :: (List.finRange matrix.size).map matrix.rowLine

/-- The whole text; every line is closed. -/
def text (matrix : Matrix) : String :=
  String.join (matrix.textLines.map (· ++ "\n"))

end OperatorPrecedence.Matrix
