import OperatorPrecedence.Matrix
import OperatorPrecedence.Proofs.KeyedEntries

/-!
Which labelled rows make a matrix, and what the matrix then holds: the relation
between two labels is the one that the row of the first has in the column of the
second, in whatever order rows and columns are written.
-/

namespace OperatorPrecedence

universe u v

/-- Blocks of one length stand one behind the other. -/
theorem getElem?_flatMap_of_length {α : Type u} {β : Type v} {entries : List α}
    {block : α → List β} {width : Nat} (hwidth : ∀ entry ∈ entries, (block entry).length = width)
    {i : Nat} (hi : i < entries.length) {j : Nat} (hj : j < width) :
    (entries.flatMap block)[i * width + j]? = (block entries[i])[j]? := by
  induction entries generalizing i with
  | nil => cases hi
  | cons entry entries ih =>
      have hfirst := hwidth entry List.mem_cons_self
      rw [List.flatMap_cons]
      cases i with
      | zero =>
          rw [List.getElem?_append_left (by omega), Nat.zero_mul, Nat.zero_add]
          rfl
      | succ i =>
          have hplace : (i + 1) * width + j = (block entry).length + (i * width + j) := by
            rw [hfirst, Nat.succ_mul]
            omega
          rw [hplace, List.getElem?_append_right (Nat.le_add_right _ _), Nat.add_sub_cancel_left]
          exact ih (fun other hother => hwidth other (List.mem_cons_of_mem entry hother))
            (Nat.lt_of_succ_lt_succ hi)

namespace Matrix

/-- The fault of a row among the given columns: cells that do not match the
columns in number, or a label that names no column. -/
def rowFault? (columns : List String) (row : LabelledRow) : Option TableError :=
  if row.2.length ≠ columns.length then
    some (.wrongRowLength row.1 columns.length row.2.length)
  else if row.1 ∉ columns then some (.rowWithoutColumn row.1)
  else none

theorem rowFault?_eq_none_iff (columns : List String) (row : LabelledRow) :
    rowFault? columns row = none ↔
      row.2.length = columns.length ∧ row.1 ∈ columns := by
  unfold rowFault?
  split
  · simp_all
  · split <;> simp_all

theorem findSome?_rowFault?_eq_none_iff (columns : List String) (rows : List LabelledRow) :
    rows.findSome? (rowFault? columns) = none ↔
      (∀ row ∈ rows, row.2.length = columns.length) ∧ ∀ row ∈ rows, row.1 ∈ columns := by
  simp [List.findSome?_eq_none_iff, rowFault?_eq_none_iff, forall_and]

namespace Alignment

variable {columns : List String} {rows : List LabelledRow}

/-- Rows are aligned with the columns unless one of them has a fault; the first fault
is the error. -/
theorem ofRows_cases (columns : List String) (rows : List LabelledRow) :
    (∃ error, ofRows columns rows = .error error ∧
      rows.findSome? (rowFault? columns) = some error) ∨
    ∃ alignment, ofRows columns rows = .ok alignment ∧
      rows.findSome? (rowFault? columns) = none := by
  induction rows with
  | nil => exact Or.inr ⟨_, rfl, rfl⟩
  | cons row rows ih =>
      rw [ofRows, List.findSome?_cons, rowFault?]
      by_cases hlength : row.2.length = columns.length
      · rw [dif_pos hlength, if_neg (not_not.mpr hlength)]
        cases hcolumn : columns.finIdxOf? row.1 with
        | none =>
            rw [if_pos (List.finIdxOf?_eq_none_iff.mp hcolumn)]
            exact Or.inl ⟨_, rfl, rfl⟩
        | some column =>
            have hmem : row.1 ∈ columns :=
              (List.finIdxOf?_eq_some_iff.mp hcolumn).1 ▸ List.getElem_mem column.isLt
            rw [if_neg (not_not.mpr hmem)]
            rcases ih with ⟨error, herror, hfault⟩ | ⟨alignment, hok, hfault⟩
            · rw [herror]
              exact Or.inl ⟨error, rfl, hfault⟩
            · rw [hok]
              exact Or.inr ⟨_, rfl, hfault⟩
      · rw [dif_neg hlength, if_pos hlength]
        exact Or.inl ⟨_, rfl, rfl⟩

theorem findSome?_of_ofRows_error {error : TableError}
    (herror : ofRows columns rows = .error error) :
    rows.findSome? (rowFault? columns) = some error := by
  rcases ofRows_cases columns rows with ⟨found, hfound, hfault⟩ | ⟨alignment, hok, -⟩
  · rw [herror] at hfound
    rwa [Except.error.inj hfound]
  · rw [herror] at hok
    cases hok

theorem findSome?_of_ofRows_ok {alignment : Alignment columns rows}
    (hok : ofRows columns rows = .ok alignment) :
    rows.findSome? (rowFault? columns) = none := by
  rcases ofRows_cases columns rows with ⟨error, herror, -⟩ | ⟨other, -, hfault⟩
  · rw [hok] at herror
    cases herror
  · exact hfault

/-- The permutation leads from each row to the column with its label. -/
theorem label_permutation {alignment : Alignment columns rows}
    (hok : ofRows columns rows = .ok alignment) :
    alignment.permutation.map columns.get = rows.map Prod.fst := by
  induction rows with
  | nil =>
      cases hok
      rfl
  | cons row rows ih =>
      rw [ofRows] at hok
      split at hok
      · split at hok
        · cases hok
        · rename_i column hcolumn
          split at hok
          · cases hok
          · rename_i rest hrest
            cases hok
            rw [List.map_cons, List.map_cons, ih hrest]
            exact congrArg (· :: _) (List.finIdxOf?_eq_some_iff.mp hcolumn).1
      · cases hok

theorem exists_column {alignment : Alignment columns rows}
    (hok : ofRows columns rows = .ok alignment) {j : Nat} {label : String}
    (hlabel : (rows.map Prod.fst)[j]? = some label) :
    ∃ column, alignment.permutation[j]? = some column ∧ columns[column] = label := by
  rw [← label_permutation hok, List.getElem?_map, Option.map_eq_some_iff] at hlabel
  exact hlabel

/-- The cells of a row are those of its columns in the order of the rows. -/
theorem getElem?_cells (alignment : Alignment columns rows) {i j : Nat} (hi : i < rows.length)
    {column : Fin columns.length} (hcolumn : alignment.permutation[j]? = some column) :
    alignment.cells[i * rows.length + j]? = rows[i].2[column.val]? := by
  obtain ⟨hj, -⟩ := List.getElem?_eq_some_iff.mp hcolumn
  rw [alignment.length_permutation] at hj
  rw [cells, getElem?_flatMap_of_length (by simp [alignment.length_permutation])
    (hi.trans_eq List.length_attach.symm) hj, List.getElem?_map, hcolumn]
  simp

end Alignment

/-- The labelled rows make a square over the columns: labels are identifiers and
distinct, each row has a cell and a label for a column, and the end marker is the
label of a row. -/
structure Describes (columns : List String) (rows : List LabelledRow) (endMarker : String) :
    Prop where
  column_valid : ∀ label ∈ columns, Text.isLabel label = true
  row_valid : ∀ row ∈ rows, Text.isLabel row.1 = true
  columns_nodup : columns.Nodup
  labels_nodup : (rows.map Prod.fst).Nodup
  square : rows.length = columns.length
  row_length : ∀ row ∈ rows, row.2.length = columns.length
  row_column : ∀ row ∈ rows, row.1 ∈ columns
  end_mem : endMarker ∈ rows.map Prod.fst

theorem Describes.of_perm {columns : List String} {rows otherRows : List LabelledRow}
    {endMarker : String} (hdescribes : Describes columns rows endMarker)
    (hrows : rows.Perm otherRows) : Describes columns otherRows endMarker where
  column_valid := hdescribes.column_valid
  row_valid row hrow := hdescribes.row_valid row (hrows.mem_iff.mpr hrow)
  columns_nodup := hdescribes.columns_nodup
  labels_nodup := (hrows.map Prod.fst).nodup_iff.mp hdescribes.labels_nodup
  square := hrows.length_eq.symm.trans hdescribes.square
  row_length row hrow := hdescribes.row_length row (hrows.mem_iff.mpr hrow)
  row_column row hrow := hdescribes.row_column row (hrows.mem_iff.mpr hrow)
  end_mem := (hrows.map Prod.fst).mem_iff.mp hdescribes.end_mem

/-- The matrix holds what the labelled rows say. -/
structure Tabulates (matrix : Matrix) (columns : List String) (rows : List LabelledRow)
    (endMarker : String) : Prop where
  labels : matrix.labels = rows.map Prod.fst
  endMarker : matrix.endMarker = endMarker
  relation : ∀ row ∈ rows, ∀ i j, matrix.label i = row.1 →
    (columns.zip row.2).lookup (matrix.label j) = some (matrix.relation i j)

theorem lookup_zip_of_mem {columns : List String} {cells : List Relation} {label : String}
    (hlength : cells.length = columns.length) (hlabel : label ∈ columns) :
    (columns.zip cells).lookup label = cells[columns.idxOf label]? := by
  induction columns generalizing cells with
  | nil => cases hlabel
  | cons column columns ih =>
      cases cells with
      | nil => cases hlength
      | cons cell cells =>
          by_cases heq : label = column
          · subst heq
            simp
          · have hrest := (List.mem_cons.mp hlabel).resolve_left heq
            have hfound := ih (Nat.succ.inj hlength) hrest
            have hother : (label == column) = false := beq_eq_false_iff_ne.mpr heq
            simpa [List.lookup_cons, hother, List.idxOf_cons, Ne.symm heq] using hfound

theorem find?_invalid_eq_none_iff (columns : List String) (rows : List LabelledRow) :
    (columns ++ rows.map Prod.fst).find? (fun label => !Text.isLabel label) = none ↔
      (∀ label ∈ columns, Text.isLabel label = true) ∧
        ∀ row ∈ rows, Text.isLabel row.1 = true := by
  simp [List.find?_eq_none]

theorem getElem_eq_of_label {rows : List LabelledRow} (hnodup : (rows.map Prod.fst).Nodup)
    {row : LabelledRow} (hrow : row ∈ rows) {i : Nat} (hi : i < rows.length)
    (hlabel : (rows.map Prod.fst)[i]? = some row.1) : rows[i] = row := by
  apply List.inj_on_of_nodup_map hnodup (List.getElem_mem hi) hrow
  simpa [hi] using hlabel

/-- The cell of a row under the label of another row stands in the place of the two. -/
theorem Alignment.lookup_row {columns : List String} {rows : List LabelledRow}
    (alignment : Alignment columns rows) (hok : ofRows columns rows = .ok alignment)
    (hcolumns : columns.Nodup) {i j : Nat} (hi : i < rows.length) {label : String}
    (hlabel : (rows.map Prod.fst)[j]? = some label) :
    (columns.zip rows[i].2).lookup label = alignment.cells[i * rows.length + j]? := by
  obtain ⟨column, hplace, rfl⟩ := exists_column hok hlabel
  have hlength := alignment.length_row rows[i] (List.getElem_mem hi)
  have hmem : columns[column] ∈ columns := List.getElem_mem column.isLt
  have hidx : columns.idxOf columns[column] = column :=
    hcolumns.idxOf_getElem column column.isLt
  rw [alignment.getElem?_cells hi hplace, lookup_zip_of_mem hlength hmem, hidx]

/-- A table that is accepted describes a square, and its matrix holds it. -/
theorem tabulates_of_ofRows {columns : List String} {rows : List LabelledRow}
    {endMarker : String} {matrix : Matrix}
    (hmatrix : ofRows columns rows endMarker = .ok matrix) :
    Describes columns rows endMarker ∧ matrix.Tabulates columns rows endMarker := by
  unfold ofRows at hmatrix
  dsimp only at hmatrix
  split at hmatrix
  · cases hmatrix
  rename_i hvalid
  split at hmatrix
  · cases hmatrix
  rename_i hcolumns
  split at hmatrix
  · cases hmatrix
  rename_i hlabels
  split at hmatrix
  · cases hmatrix
  rename_i hsquare
  split at hmatrix
  · cases hmatrix
  rename_i alignment halignment
  split at hmatrix
  · cases hmatrix
  rename_i endIndex hend
  obtain rfl := Except.ok.inj hmatrix
  obtain ⟨hcolumnValid, hrowValid⟩ := (find?_invalid_eq_none_iff columns rows).mp hvalid
  obtain ⟨hlength, hcolumn⟩ := (findSome?_rowFault?_eq_none_iff columns rows).mp
    (Alignment.findSome?_of_ofRows_ok halignment)
  have hmarker := (List.finIdxOf?_eq_some_iff.mp hend).1
  have hcolumnsNodup := (firstRepeat?_eq_none_iff columns).mp hcolumns
  constructor
  · exact ⟨hcolumnValid, hrowValid, hcolumnsNodup, (firstRepeat?_eq_none_iff _).mp hlabels,
      not_not.mp hsquare, hlength, hcolumn, hmarker ▸ List.getElem_mem endIndex.isLt⟩
  · refine ⟨rfl, hmarker, ?_⟩
    intro row hrow i j hlabel
    have hi : i < rows.length := i.isLt.trans_eq (List.length_map _)
    -- Labels are distinct, so the row in the place of the label is the given one.
    have hself : rows[i.val] = row :=
      getElem_eq_of_label ((firstRepeat?_eq_none_iff _).mp hlabels) hrow hi
        (hlabel ▸ List.getElem?_eq_getElem i.isLt)
    have hcell := alignment.lookup_row halignment hcolumnsNodup hi
      (List.getElem?_eq_getElem j.isLt)
    rw [hself] at hcell
    refine hcell.trans ?_
    simp [relation, place, Vector.get]

theorem exists_ofRows_iff (columns : List String) (rows : List LabelledRow)
    (endMarker : String) :
    (∃ matrix, ofRows columns rows endMarker = .ok matrix) ↔
      Describes columns rows endMarker := by
  constructor
  · rintro ⟨matrix, hmatrix⟩
    exact (tabulates_of_ofRows hmatrix).1
  · intro hdescribes
    have hvalid := (find?_invalid_eq_none_iff columns rows).mpr
      ⟨hdescribes.column_valid, hdescribes.row_valid⟩
    have hrows := (findSome?_rowFault?_eq_none_iff columns rows).mpr
      ⟨hdescribes.row_length, hdescribes.row_column⟩
    unfold ofRows
    dsimp only
    split
    · rename_i label hfound
      rw [hvalid] at hfound
      cases hfound
    rw [(firstRepeat?_eq_none_iff columns).mpr hdescribes.columns_nodup]
    dsimp only
    split
    · rename_i label hfound
      rw [(firstRepeat?_eq_none_iff _).mpr hdescribes.labels_nodup] at hfound
      cases hfound
    rw [if_neg (not_not.mpr hdescribes.square)]
    split
    · rename_i fault hfound
      rw [Alignment.findSome?_of_ofRows_error hfound] at hrows
      cases hrows
    split
    · rename_i hnone
      exact absurd hdescribes.end_mem (List.finIdxOf?_eq_none_iff.mp hnone)
    · exact ⟨_, rfl⟩

/-- Two matrices relate the labels that they share in the same way. -/
def Agrees (matrix other : Matrix) : Prop :=
  ∀ i j k l, matrix.label i = other.label k → matrix.label j = other.label l →
    matrix.relation i j = other.relation k l

/-- Matrices agree when each row of one table is a row of the other up to the
order of its cells. -/
theorem Tabulates.agrees {matrix other : Matrix} {columns others : List String}
    {rows otherRows : List LabelledRow} {endMarker otherEnd : String}
    (hmatrix : matrix.Tabulates columns rows endMarker)
    (hother : other.Tabulates others otherRows otherEnd)
    (hrows : ∀ row ∈ rows, ∃ same ∈ otherRows, same.1 = row.1 ∧
      ∀ label, (others.zip same.2).lookup label = (columns.zip row.2).lookup label) :
    matrix.Agrees other := by
  intro i j k l hik hjl
  have hlabel : matrix.label i ∈ rows.map Prod.fst := by
    rw [← hmatrix.labels]
    exact List.getElem_mem i.isLt
  obtain ⟨row, hrow, hrowLabel⟩ := List.mem_map.mp hlabel
  obtain ⟨same, hsame, hsameLabel, hcells⟩ := hrows row hrow
  have hfirst := hmatrix.relation row hrow i j hrowLabel.symm
  have hsecond := hother.relation same hsame k l
    (hik.symm.trans (hrowLabel.symm.trans hsameLabel.symm))
  rw [← hjl, hcells] at hsecond
  exact Option.some.inj (hfirst.symm.trans hsecond)

/-- Matrices with the same labels in the same order, the same end marker and the
same relations are the same. -/
theorem Agrees.eq {matrix other : Matrix} (hagrees : matrix.Agrees other)
    (hlabels : matrix.labels = other.labels) (hend : matrix.endMarker = other.endMarker) :
    matrix = other := by
  obtain ⟨labels, cells, endIndex, hvalid, hnodup⟩ := matrix
  obtain ⟨otherLabels, otherCells, otherIndex, otherValid, otherNodup⟩ := other
  change labels = otherLabels at hlabels
  subst hlabels
  have hcells : cells = otherCells := by
    refine Vector.ext fun i hi => ?_
    have hcell := hagrees (rowAt ⟨i, hi⟩) (columnAt ⟨i, hi⟩) (rowAt ⟨i, hi⟩) (columnAt ⟨i, hi⟩)
      rfl rfl
    rwa [relation, relation, place_rowAt_columnAt] at hcell
  have hindex : endIndex = otherIndex := Fin.ext (hnodup.getElem_inj_iff.mp hend)
  subst hcells hindex
  rfl

end Matrix

end OperatorPrecedence
