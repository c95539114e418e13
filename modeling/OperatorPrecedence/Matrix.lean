import OperatorPrecedence.Distinct
import OperatorPrecedence.TableError
import OperatorPrecedence.Text.Identifier

/-!
The precedence matrix: a square of relations whose rows and columns carry the
same labels in the same order.  `Matrix.ofRows` accepts a table whose columns
are listed in another order and brings the cells into the order of the rows.
-/

namespace OperatorPrecedence

/-- A square of relations between labels, one of which marks the end of the
input.  The order of the labels is the canonical order of the classes.  The cells
lie one behind the other, row by row. -/
structure Matrix [Text.LabelAlphabet] where
  labels : List String
  cells : Vector Relation (labels.length * labels.length)
  endIndex : Fin labels.length
  labels_valid : ∀ label ∈ labels, Text.isLabel label = true
  labels_nodup : labels.Nodup
deriving DecidableEq

namespace Matrix

/-- The place of a cell in a square of `n` rows. -/
def place {n : Nat} (row column : Fin n) : Fin (n * n) :=
  ⟨row * n + column, calc
    row * n + column < (row + 1) * n := by
      rw [Nat.succ_mul]
      exact Nat.add_lt_add_left column.isLt _
    _ ≤ n * n := Nat.mul_le_mul_right n row.isLt⟩

/-- The row of a place. -/
def rowAt {n : Nat} (place : Fin (n * n)) : Fin n :=
  ⟨place / n, Nat.div_lt_of_lt_mul place.isLt⟩

/-- The column of a place. -/
def columnAt {n : Nat} (place : Fin (n * n)) : Fin n :=
  ⟨place % n, Nat.mod_lt _ (Nat.pos_of_mul_pos_right (Nat.zero_lt_of_lt place.isLt))⟩

@[simp] theorem rowAt_place {n : Nat} (row column : Fin n) : rowAt (place row column) = row := by
  apply Fin.ext
  change (row * n + column) / n = row
  rw [Nat.mul_comm, Nat.mul_add_div (Nat.zero_lt_of_lt column.isLt),
    Nat.div_eq_of_lt column.isLt, Nat.add_zero]

@[simp] theorem columnAt_place {n : Nat} (row column : Fin n) :
    columnAt (place row column) = column := by
  apply Fin.ext
  change (row * n + column) % n = column
  rw [Nat.mul_add_mod_self_right, Nat.mod_eq_of_lt column.isLt]

@[simp] theorem place_rowAt_columnAt {n : Nat} (i : Fin (n * n)) :
    place (rowAt i) (columnAt i) = i := by
  apply Fin.ext
  change i / n * n + i % n = i
  rw [Nat.mul_comm, Nat.div_add_mod]

section

variable [Text.LabelAlphabet]

abbrev size (matrix : Matrix) : Nat :=
  matrix.labels.length

def label (matrix : Matrix) (i : Fin matrix.size) : String :=
  matrix.labels[i]

/-- The relation that the `row`-th label has to the `column`-th. -/
def relation (matrix : Matrix) (row column : Fin matrix.size) : Relation :=
  matrix.cells.get (place row column)

/-- The relation at two numbers, if both are in range. -/
def relation? (matrix : Matrix) (row column : Nat) : Option Relation :=
  if h : row < matrix.size ∧ column < matrix.size then
    some (matrix.relation ⟨row, h.1⟩ ⟨column, h.2⟩)
  else none

def indexOf? (matrix : Matrix) (label : String) : Option (Fin matrix.size) :=
  matrix.labels.finIdxOf? label

def endMarker (matrix : Matrix) : String :=
  matrix.label matrix.endIndex

end

structure Cell (size : Nat) where
  row : Fin size
  column : Fin size
  relation : Relation
deriving Repr, DecidableEq

/-- Every cell in the order in which they lie, with the row and the column of its
place. -/
def cellList [Text.LabelAlphabet] (matrix : Matrix) : List (Cell matrix.size) :=
  (List.finRange (matrix.size * matrix.size)).map fun i =>
    ⟨rowAt i, columnAt i, matrix.cells.get i⟩

theorem mem_cellList_iff [Text.LabelAlphabet] (matrix : Matrix) (cell : Cell matrix.size) :
    cell ∈ matrix.cellList ↔ cell.relation = matrix.relation cell.row cell.column := by
  obtain ⟨row, column, relation⟩ := cell
  rw [cellList, List.mem_map]
  constructor
  · rintro ⟨i, -, heq⟩
    obtain ⟨rfl, rfl, rfl⟩ := Cell.mk.inj heq
    rw [Matrix.relation, place_rowAt_columnAt]
  · intro heq
    refine ⟨place row column, List.mem_finRange _, ?_⟩
    rw [rowAt_place, columnAt_place]
    exact congrArg (Cell.mk row column) heq.symm

/-- A row as it is given: its label and its cells in the order of the columns. -/
abbrev LabelledRow := String × List Relation

/-- Rows that fit the columns: for each row the column that has its label, and a cell
for every column. -/
structure Alignment (columns : List String) (rows : List LabelledRow) where
  permutation : List (Fin columns.length)
  length_permutation : permutation.length = rows.length
  length_row : ∀ row ∈ rows, row.2.length = columns.length

namespace Alignment

variable {columns : List String} {rows : List LabelledRow}

/-- Go through the rows up to the first that does not fit: one with too few or too many
cells, or with a label that is none of a column. -/
def ofRows (columns : List String) :
    (rows : List LabelledRow) → Except TableError (Alignment columns rows)
  | [] => .ok ⟨[], rfl, fun _ hrow => absurd hrow List.not_mem_nil⟩
  | row :: rows =>
      if hlength : row.2.length = columns.length then
        match columns.finIdxOf? row.1 with
        | none => .error (.rowWithoutColumn row.1)
        | some column =>
            match ofRows columns rows with
            | .error error => .error error
            | .ok alignment =>
                .ok
                  { permutation := column :: alignment.permutation
                    length_permutation := congrArg Nat.succ alignment.length_permutation
                    length_row := List.forall_mem_cons.mpr ⟨hlength, alignment.length_row⟩ }
      else .error (.wrongRowLength row.1 columns.length row.2.length)

/-- The cells row by row, in each row those of the permuted columns. -/
def cells (alignment : Alignment columns rows) : List Relation :=
  rows.attach.flatMap fun row =>
    alignment.permutation.map fun column =>
      row.1.2.get (column.cast (alignment.length_row row.1 row.2).symm)

theorem length_cells (alignment : Alignment columns rows) :
    alignment.cells.length = rows.length * rows.length := by
  simp [cells, List.length_flatMap, alignment.length_permutation, List.map_const']

end Alignment

/-- Build a matrix from its columns, its rows and its end marker.  Labels are
checked first, then repetitions, the shape, each row in turn, and last the end
marker. -/
def ofRows [Text.LabelAlphabet] (columns : List String) (rows : List LabelledRow)
    (endMarker : String) : Except TableError Matrix :=
  let labels := rows.map Prod.fst
  match hvalid : (columns ++ labels).find? (fun label => !Text.isLabel label) with
  | some label => .error (.invalidLabel label)
  | none =>
  match firstRepeat? columns with
  | some label => .error (.repeatedLabel label .columns)
  | none =>
  match hnodup : firstRepeat? labels with
  | some label => .error (.repeatedLabel label .rows)
  | none =>
  if rows.length ≠ columns.length then .error (.notSquare rows.length columns.length)
  else
  match Alignment.ofRows columns rows with
  | .error error => .error error
  | .ok alignment =>
  match labels.finIdxOf? endMarker with
  | none => .error (.unknownEndMarker endMarker)
  | some endIndex =>
      .ok
        { labels := labels
          cells := ⟨alignment.cells.toArray, by simp [labels, alignment.length_cells]⟩
          endIndex := endIndex
          labels_valid := fun label hmem => by
            have h := List.find?_eq_none.mp hvalid label
              (List.mem_append_right columns hmem)
            simpa using h
          labels_nodup := (firstRepeat?_eq_none_iff labels).mp hnodup }

end Matrix

end OperatorPrecedence
