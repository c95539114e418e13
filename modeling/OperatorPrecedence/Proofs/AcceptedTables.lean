import Mathlib.Data.List.Perm.Subperm
import OperatorPrecedence.Proofs.LabelledCells

/-!
Which tables are accepted, and that no cell of them is lost or moved.  Both axes of
an accepted table name the same labels, each once; the cell between two labels is
the one that the row of the first has under the column of the second; and the list
of all cells runs through the square row by row.
-/

namespace OperatorPrecedence

universe u

/-- As many distinct entries as there are in a list, all of them from it, are those of
the list. -/
theorem mem_iff_mem_of_length_le {α : Type u} {first second : List α} (hnodup : first.Nodup)
    (hsubset : ∀ entry ∈ first, entry ∈ second) (hlength : second.length ≤ first.length)
    (entry : α) : entry ∈ second ↔ entry ∈ first :=
  ((List.subperm_of_subset hnodup hsubset).perm_of_length_le hlength).mem_iff.symm

namespace Matrix

theorem length_cellList (matrix : Matrix) :
    matrix.cellList.length = matrix.size * matrix.size := by
  rw [cellList, List.length_map, List.length_finRange]

theorem getElem?_cellList (matrix : Matrix) (i j : Fin matrix.size) :
    matrix.cellList[i.val * matrix.size + j.val]? = some ⟨i, j, matrix.relation i j⟩ := by
  have hplace : (List.finRange (matrix.size * matrix.size))[i.val * matrix.size + j.val]? =
      some (place i j) := by
    have hlt := (place i j).isLt.trans_eq List.length_finRange.symm
    exact (List.getElem?_eq_getElem hlt).trans (congrArg some (List.getElem_finRange hlt))
  rw [cellList, List.getElem?_map, hplace, Option.map_some, rowAt_place, columnAt_place, relation]

/-- A table describes a square when its axes name the same labels and its rows are as
long as the columns are many. -/
theorem describes_iff (columns : List String) (rows : List LabelledRow) (endMarker : String) :
    Describes columns rows endMarker ↔
      (∀ label ∈ columns ++ rows.map Prod.fst, Text.isLabel label = true) ∧
      columns.Nodup ∧ (rows.map Prod.fst).Nodup ∧
      (∀ label, label ∈ columns ↔ label ∈ rows.map Prod.fst) ∧
      (∀ row ∈ rows, row.2.length = columns.length) ∧ endMarker ∈ rows.map Prod.fst := by
  rw [List.forall_mem_append, List.forall_mem_map]
  constructor
  · intro hdescribes
    -- Every row label is a column; as there are as many, every column is a row label.
    have hlength : (rows.map Prod.fst).length = columns.length := by
      rw [List.length_map, hdescribes.square]
    exact ⟨⟨hdescribes.column_valid, hdescribes.row_valid⟩, hdescribes.columns_nodup,
      hdescribes.labels_nodup,
      mem_iff_mem_of_length_le hdescribes.labels_nodup
        (List.forall_mem_map.mpr hdescribes.row_column) hlength.ge,
      hdescribes.row_length, hdescribes.end_mem⟩
  · rintro ⟨⟨hcolumnValid, hrowValid⟩, hcolumns, hlabels, hsame, hlength, hend⟩
    have hperm : columns.Perm (rows.map Prod.fst) :=
      (List.perm_ext_iff_of_nodup hcolumns hlabels).mpr hsame
    exact
      { column_valid := hcolumnValid
        row_valid := hrowValid
        columns_nodup := hcolumns
        labels_nodup := hlabels
        square := by rw [hperm.length_eq, List.length_map]
        row_length := hlength
        row_column := fun row hrow => (hsame row.1).mpr (List.mem_map_of_mem hrow)
        end_mem := hend }

theorem Tabulates.exists_cell {matrix : Matrix} {columns : List String}
    {rows : List LabelledRow} {endMarker : String}
    (htabulates : matrix.Tabulates columns rows endMarker)
    (hdescribes : Describes columns rows endMarker) (i j : Fin matrix.size) :
    ∃ (row : LabelledRow) (column : Nat), rows[i.val]? = some row ∧
      columns[column]? = some (matrix.label j) ∧ row.2[column]? = some (matrix.relation i j) := by
  have hplace : (rows.map Prod.fst)[i.val]? = some (matrix.label i) := by
    rw [← htabulates.labels]
    exact List.getElem?_eq_getElem i.isLt
  rw [List.getElem?_map, Option.map_eq_some_iff] at hplace
  obtain ⟨row, hrow, hlabel⟩ := hplace
  have hmem := List.mem_of_getElem? hrow
  have hcolumn : matrix.label j ∈ columns := by
    have hlabels : matrix.label j ∈ matrix.labels := List.getElem_mem j.isLt
    rw [htabulates.labels] at hlabels
    obtain ⟨other, hother, heq⟩ := List.mem_map.mp hlabels
    exact heq ▸ hdescribes.row_column other hother
  have hcell := htabulates.relation row hmem i j hlabel.symm
  rw [lookup_zip_of_mem (hdescribes.row_length row hmem) hcolumn] at hcell
  exact ⟨row, columns.idxOf (matrix.label j), hrow, List.getElem?_idxOf hcolumn, hcell⟩

/-- Exactly the tables are accepted whose labels are identifiers, whose axes name the
same labels, each once, whose rows are as long as the columns are many, and whose end
marker is one of the labels.  The matrix then has the labels of the rows in their
order and the given end marker, it relates two labels as the row of the first does in
the column of the second, and its list of cells holds each cell once, row by row. -/
theorem ofRows_keeps_cells (columns : List String) (rows : List LabelledRow)
    (endMarker : String) :
    ((∃ matrix, ofRows columns rows endMarker = .ok matrix) ↔
      (∀ label ∈ columns ++ rows.map Prod.fst, Text.isLabel label = true) ∧
      columns.Nodup ∧ (rows.map Prod.fst).Nodup ∧
      (∀ label, label ∈ columns ↔ label ∈ rows.map Prod.fst) ∧
      (∀ row ∈ rows, row.2.length = columns.length) ∧ endMarker ∈ rows.map Prod.fst) ∧
    ∀ matrix, ofRows columns rows endMarker = .ok matrix →
      matrix.labels = rows.map Prod.fst ∧ matrix.endMarker = endMarker ∧
      (∀ i j : Fin matrix.size, ∃ (row : LabelledRow) (column : Nat),
        rows[i.val]? = some row ∧ columns[column]? = some (matrix.label j) ∧
          row.2[column]? = some (matrix.relation i j)) ∧
      matrix.cellList.length = matrix.size * matrix.size ∧
      ∀ i j : Fin matrix.size,
        matrix.cellList[i.val * matrix.size + j.val]? = some ⟨i, j, matrix.relation i j⟩ := by
  constructor
  · rw [exists_ofRows_iff, describes_iff]
  · intro matrix hmatrix
    obtain ⟨hdescribes, htabulates⟩ := tabulates_of_ofRows hmatrix
    exact ⟨htabulates.labels, htabulates.endMarker, htabulates.exists_cell hdescribes,
      matrix.length_cellList, matrix.getElem?_cellList⟩

/-- Three rows whose cells stand under the columns `b`, `c`, `a`. -/
def rotatedRows : List LabelledRow :=
  [("a", [.less, .greater, .equal]), ("b", [.greater, .unrelated, .less]),
    ("c", [.equal, .less, .unrelated])]

def rotated : Matrix where
  labels := ["a", "b", "c"]
  cells := #v[.equal, .less, .greater, .less, .greater, .unrelated, .unrelated, .equal, .less]
  endIndex := ⟨2, by decide⟩
  labels_valid := by decide
  labels_nodup := by decide

theorem rotated_keeps_cells :
    rotated.endMarker = "c" ∧
    (∃ (row : LabelledRow) (column : Nat), rotatedRows[0]? = some row ∧
      ["b", "c", "a"][column]? = some "a" ∧ row.2[column]? = some Relation.equal) ∧
    rotated.cellList[5]? = some ⟨⟨1, by decide⟩, ⟨2, by decide⟩, .unrelated⟩ := by
  have haccepted : ofRows ["b", "c", "a"] rotatedRows "c" = .ok rotated := by
    decide +kernel
  obtain ⟨-, hend, hcells, -, hlist⟩ :=
    (ofRows_keeps_cells ["b", "c", "a"] rotatedRows "c").2 rotated haccepted
  exact ⟨hend, hcells ⟨0, by decide⟩ ⟨0, by decide⟩, hlist ⟨1, by decide⟩ ⟨2, by decide⟩⟩

end Matrix

end OperatorPrecedence
