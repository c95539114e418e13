import Mathlib.Algebra.Ring.Nat
import Mathlib.Data.String.Basic
import Mathlib.Data.String.Defs
import OperatorPrecedence.Matrix.Layout

/-!
Where the columns of a matrix stand in its text.  The fields are as wide as the labels
have bytes, and they are filled up by characters.  So the lines of the rows are equally
long whatever the labels are, but the header is as long, and a mark stands below the end
of its label, only as far as the labels are ASCII.
-/

namespace OperatorPrecedence

namespace Text

def IsAscii (text : String) : Prop :=
  ∀ c ∈ text.toList, c.isAscii = true

theorem isAscii_iff_utf8Size (c : Char) : c.isAscii = true ↔ c.utf8Size = 1 := by
  rw [Char.utf8Size_eq_one_iff, Char.isAscii, decide_eq_true_iff, Char.toNat,
    UInt32.le_iff_toNat_le]
  exact Nat.lt_succ_iff

/-- Characters take a byte each, or more where one of them is not ASCII. -/
theorem length_le_utf8Len (cs : List Char) :
    cs.length ≤ String.utf8Len cs ∧
      (String.utf8Len cs = cs.length ↔ ∀ c ∈ cs, c.isAscii = true) := by
  induction cs with
  | nil => simp
  | cons c cs ih =>
      have hpos := c.utf8Size_pos
      rw [String.utf8Len_cons, List.length_cons, List.forall_mem_cons, isAscii_iff_utf8Size, ← ih.2]
      omega

theorem length_le_utf8ByteSize (text : String) : text.length ≤ text.utf8ByteSize := by
  rw [← text.ofList_toList, String.utf8ByteSize_ofList, String.length_ofList]
  exact (length_le_utf8Len _).1

theorem utf8ByteSize_eq_length_iff (text : String) :
    text.utf8ByteSize = text.length ↔ IsAscii text := by
  rw [IsAscii, ← (length_le_utf8Len text.toList).2, ← String.utf8ByteSize_ofList,
    String.ofList_toList, String.length_toList]

/-- Several texts have as many bytes as characters exactly when all of them are ASCII. -/
theorem sum_length_le_sum_utf8ByteSize (texts : List String) :
    (texts.map String.length).sum ≤ (texts.map String.utf8ByteSize).sum ∧
      ((texts.map String.utf8ByteSize).sum = (texts.map String.length).sum ↔
        ∀ text ∈ texts, IsAscii text) := by
  induction texts with
  | nil => simp
  | cons text texts ih =>
      have htext := length_le_utf8ByteSize text
      rw [List.forall_mem_cons, ← ih.2, ← utf8ByteSize_eq_length_iff]
      simp only [List.map_cons, List.sum_cons]
      omega

/-- The words of a line whose first character has a given place.  Every character stands
with its place. -/
def placedWords (place : Nat) (line : List Char) : List (List (Char × Nat)) :=
  ((line.zipIdx place).splitOnP fun entry => entry.1 = ' ').filter (· ≠ [])

def lineWords (line : String) : List String :=
  (placedWords 0 line.toList).map fun word => String.ofList (word.map Prod.fst)

/-- The places in a line at which its words end. -/
def wordEnds (line : String) : List Nat :=
  (placedWords 0 line.toList).filterMap fun word => word.getLast?.map Prod.snd

theorem placedWords_nil (place : Nat) : placedWords place [] = [] := by
  rfl

theorem placedWords_append_space (place : Nat) (before after : List Char) :
    placedWords place (before ++ ' ' :: after) =
      placedWords place before ++ placedWords (place + before.length + 1) after := by
  rw [placedWords, List.zipIdx_append, List.zipIdx_cons,
    List.splitOnP_append_cons _ _ (by simp), List.filter_append]
  rfl

theorem placedWords_space (place : Nat) (line : List Char) :
    placedWords place (' ' :: line) = placedWords (place + 1) line :=
  placedWords_append_space place [] line

theorem placedWords_spaces (place count : Nat) (line : List Char) :
    placedWords place (List.replicate count ' ' ++ line) = placedWords (place + count) line := by
  induction count generalizing place with
  | zero => rfl
  | succ count ih =>
      rw [List.replicate_succ, List.cons_append, placedWords_space, ih, Nat.add_right_comm]
      rfl

theorem placedWords_append_spaces (place count : Nat) (line : List Char) :
    placedWords place (line ++ List.replicate count ' ') = placedWords place line := by
  cases count with
  | zero => rw [List.replicate_zero, List.append_nil]
  | succ count =>
      rw [List.replicate_succ, placedWords_append_space, ← List.append_nil (List.replicate _ _),
        placedWords_spaces, placedWords_nil, List.append_nil]

theorem placedWords_word (place : Nat) {word : List Char} (hne : word ≠ []) (hword : ' ' ∉ word) :
    placedWords place word = [word.zipIdx place] := by
  rw [placedWords, List.splitOnP_eq_singleton]
  · simpa using hne
  · rintro ⟨c, i⟩ hmem
    apply decide_eq_false
    rintro rfl
    exact hword (List.fst_mem_of_mem_zipIdx hmem)

/-- Nothing that begins with a space goes on with a word before it. -/
theorem placedWords_append (place : Nat) (line : List Char) {later : List Char}
    (hlater : ∀ c ∈ later.head?, c = ' ') :
    placedWords place (line ++ later) =
      placedWords place line ++ placedWords (place + line.length) later := by
  cases later with
  | nil => simp [placedWords_nil]
  | cons c later =>
      obtain rfl := hlater c rfl
      rw [placedWords_append_space, placedWords_space]

theorem Field.toList_set (field : Field) (text : String) :
    (field.set text).toList = field.setChars text.toList :=
  String.toList_ofList

theorem setChars_left (width : Nat) (cs : List Char) :
    Field.setChars { width := width } cs = cs ++ List.replicate (width - cs.length) ' ' := by
  rfl

theorem setChars_right (width : Nat) (cs : List Char) :
    Field.setChars { width := width, alignment := .right } cs =
      List.replicate (width - cs.length) ' ' ++ cs := by
  rfl

/-- Fields in a line: each stands behind a space and has its word at the right. -/
def fieldChars (fields : List (Nat × List Char)) : List Char :=
  fields.flatMap fun (width, word) =>
    ' ' :: Field.setChars { width := width, alignment := .right } word

/-- The places at which fields of given widths end, with the place of the space in front
of the first. -/
def fieldEnds (place : Nat) : List Nat → List Nat
  | [] => []
  | width :: widths => (place + width) :: fieldEnds (place + width + 1) widths

/-- A field ends behind the fields before it, its own width and a space for each. -/
theorem getElem?_fieldEnds (place : Nat) {widths : List Nat} {i : Nat} (hi : i < widths.length) :
    (fieldEnds place widths)[i]? = some (place + i + (widths.take (i + 1)).sum) := by
  induction widths generalizing place i with
  | nil => cases hi
  | cons width widths ih =>
      cases i with
      | zero => simp [fieldEnds]
      | succ i =>
          rw [fieldEnds, List.getElem?_cons_succ, ih _ (Nat.lt_of_succ_lt_succ hi),
            List.take_succ_cons, List.sum_cons]
          congr 1
          omega

/-- A word that fits its field and can be told from the spaces around it. -/
structure Fits (field : Nat × List Char) : Prop where
  ne_nil : field.2 ≠ []
  no_space : ' ' ∉ field.2
  length_le : field.2.length ≤ field.1

theorem length_fieldChars {fields : List (Nat × List Char)}
    (hfields : ∀ field ∈ fields, Fits field) :
    (fieldChars fields).length = (fields.map fun field => field.1).sum + fields.length := by
  induction fields with
  | nil => rfl
  | cons field fields ih =>
      obtain ⟨hfield, hrest⟩ := List.forall_mem_cons.mp hfields
      have hwidth := hfield.length_le
      have hlater := ih hrest
      rw [fieldChars] at hlater ⊢
      rw [List.flatMap_cons, List.length_append, hlater, List.length_cons,
        Field.length_setChars _ rfl]
      simp only [List.map_cons, List.sum_cons, List.length_cons]
      omega

theorem not_mem_fieldChars {c : Char} (hc : c ≠ ' ') {fields : List (Nat × List Char)}
    (hfields : ∀ field ∈ fields, c ∉ field.2) : c ∉ fieldChars fields := by
  intro hmem
  obtain ⟨⟨width, word⟩, hfield, hmem⟩ := List.mem_flatMap.mp hmem
  rcases List.mem_cons.mp hmem with rfl | hmem
  · exact hc rfl
  · rw [setChars_right] at hmem
    rcases List.mem_append.mp hmem with hfill | hword
    · exact hc (List.eq_of_mem_replicate hfill)
    · exact hfields _ hfield hword

theorem splitOn_join_lines {lines : List String} (hlines : ∀ line ∈ lines, '\n' ∉ line.toList) :
    (String.join (lines.map (· ++ "\n"))).toList.splitOn '\n' =
      lines.map String.toList ++ [[]] := by
  induction lines with
  | nil => rfl
  | cons line lines ih =>
      obtain ⟨hline, hrest⟩ := List.forall_mem_cons.mp hlines
      have hbreak : "\n".toList = ['\n'] := by decide
      rw [List.map_cons, String.join_cons, String.toList_append, String.toList_append, hbreak,
        List.append_assoc, List.singleton_append, List.splitOn_append_cons_self, ih hrest,
        List.splitOn_eq_singleton hline]
      rfl

theorem head?_fieldChars (fields : List (Nat × List Char)) :
    ∀ c ∈ (fieldChars fields).head?, c = ' ' := by
  intro c hc
  cases fields with
  | nil => cases hc
  | cons field fields => exact (Option.mem_some_iff.mp hc).symm

theorem placedWords_fieldChars (place : Nat) {fields : List (Nat × List Char)}
    (hfields : ∀ field ∈ fields, Fits field) :
    (placedWords place (fieldChars fields)).map (List.map Prod.fst) = fields.map Prod.snd ∧
    (placedWords place (fieldChars fields)).filterMap (fun word => word.getLast?.map Prod.snd) =
      fieldEnds place (fields.map Prod.fst) := by
  induction fields generalizing place with
  | nil => exact ⟨rfl, rfl⟩
  | cons field fields ih =>
      obtain ⟨width, word⟩ := field
      obtain ⟨hfield, hrest⟩ := List.forall_mem_cons.mp hfields
      have hne : word ≠ [] := hfield.ne_nil
      have hwidth : word.length ≤ width := hfield.length_le
      have hlength : (' ' :: (List.replicate (width - word.length) ' ' ++ word)).length =
          width + 1 := by
        simp only [List.length_cons, List.length_append, List.length_replicate]
        omega
      -- The word stands at the right of its field, so it ends where the field does.
      have hend : (word.zipIdx (place + 1 + (width - word.length))).getLast?.map Prod.snd =
          some (place + width) := by
        have hpos : 0 < word.length := List.length_pos_iff.mpr hne
        rw [List.getLast?_zipIdx, List.getLast?_eq_some_getLast hne, Option.map_some,
          Option.map_some]
        congr 1
        omega
      have hwords : placedWords place (fieldChars ((width, word) :: fields)) =
          word.zipIdx (place + 1 + (width - word.length)) ::
            placedWords (place + width + 1) (fieldChars fields) := by
        have hchars : fieldChars ((width, word) :: fields) =
            ' ' :: (List.replicate (width - word.length) ' ' ++ word) ++ fieldChars fields := by
          rw [← setChars_right]
          rfl
        rw [hchars, placedWords_append _ _ (head?_fieldChars fields), hlength, placedWords_space,
          placedWords_spaces, placedWords_word _ hne hfield.no_space]
        rfl
      obtain ⟨htexts, hends⟩ := ih (place + width + 1) hrest
      rw [hwords]
      constructor
      · rw [List.map_cons, List.map_cons, htexts, List.zipIdx_map_fst]
      · rw [List.filterMap_cons, hend, hends]
        rfl

end Text

namespace Matrix

variable (matrix : Matrix)

def headerFields : List (Nat × List Char) :=
  matrix.labels.map fun label => (label.length, label.toList)

def rowFields (row : Fin matrix.size) : List (Nat × List Char) :=
  (List.finRange matrix.size).map fun column =>
    ((matrix.label column).utf8ByteSize, [(matrix.relation row column).mark])

theorem toList_headerLine : matrix.headerLine.toList =
    List.replicate matrix.labelWidth ' ' ++ Text.fieldChars matrix.headerFields := by
  have hlabel : ∀ label : String, (" " ++ label).toList =
      ' ' :: Text.Field.setChars { width := label.length, alignment := .right } label.toList := by
    intro label
    rw [Text.setChars_right, String.length_toList, Nat.sub_self, String.toList_append]
    rfl
  rw [headerLine, String.toList_append, String.toList_join, Text.fieldChars, headerFields,
    List.flatMap_map, List.flatMap_map, Text.Field.toList_set]
  simp only [hlabel]
  rfl

theorem toList_rowLine (row : Fin matrix.size) : (matrix.rowLine row).toList =
    Text.Field.setChars { width := matrix.labelWidth } (matrix.label row).toList ++
      Text.fieldChars (matrix.rowFields row) := by
  have hmark : ∀ (width : Nat) (relation : Relation),
      (" " ++ Text.Field.set { width := width, alignment := .right } relation.text).toList =
        ' ' :: Text.Field.setChars { width := width, alignment := .right } [relation.mark] := by
    intro width relation
    rw [String.toList_append, Text.Field.toList_set, Relation.text, String.toList_singleton]
    rfl
  rw [rowLine, String.toList_append, String.toList_join, Text.fieldChars, rowFields,
    List.flatMap_map, List.flatMap_map, Text.Field.toList_set]
  simp only [hmark]

theorem rowFields_widths (row : Fin matrix.size) :
    (matrix.rowFields row).map Prod.fst = matrix.labels.map String.utf8ByteSize := by
  have hlabels : (List.finRange matrix.size).map matrix.label = matrix.labels :=
    List.map_getElem_finRange matrix.labels
  rw [rowFields, List.map_map, ← hlabels, List.map_map]
  rfl

theorem headerFields_widths :
    matrix.headerFields.map Prod.fst = matrix.labels.map String.length := by
  rw [headerFields, List.map_map]
  rfl

theorem fits_headerFields : ∀ field ∈ matrix.headerFields, Text.Fits field := by
  intro field hfield
  obtain ⟨label, hlabel, rfl⟩ := List.mem_map.mp hfield
  have hvalid := matrix.labels_valid label hlabel
  refine ⟨?_, ?_, ?_⟩
  · exact fun hnil => Text.ne_empty_of_isLabel hvalid (String.toList_eq_nil_iff.mp hnil)
  · exact Text.not_mem_of_isLabel (by decide +kernel) hvalid
  · exact String.length_toList.le

theorem fits_rowFields (row : Fin matrix.size) :
    ∀ field ∈ matrix.rowFields row, Text.Fits field := by
  intro field hfield
  obtain ⟨column, -, rfl⟩ := List.mem_map.mp hfield
  refine ⟨List.cons_ne_nil _ _, ?_, ?_⟩
  · have hmark : ∀ relation : Relation, ' ' ∉ [relation.mark] := by
      intro relation
      cases relation <;> decide
    exact hmark _
  · have hvalid := matrix.labels_valid (matrix.label column) (List.getElem_mem _)
    rw [List.length_singleton, Nat.one_le_iff_ne_zero, Ne, String.utf8ByteSize_eq_zero_iff]
    exact Text.ne_empty_of_isLabel hvalid

theorem length_le_labelWidth (row : Fin matrix.size) :
    (matrix.label row).length ≤ matrix.labelWidth := by
  have hmem : (matrix.label row).utf8ByteSize ∈ matrix.labels.map String.utf8ByteSize :=
    List.mem_map_of_mem (List.getElem_mem _)
  have hwidest : ∀ widths : List Nat, ∀ width ∈ widths, width ≤ widths.foldr max 0 := by
    intro widths
    induction widths with
    | nil => simp
    | cons first widths ih =>
        intro width hwidth
        rcases List.mem_cons.mp hwidth with rfl | hlater
        · exact le_max_left _ _
        · exact (ih width hlater).trans (le_max_right _ _)
  exact (Text.length_le_utf8ByteSize _).trans (hwidest _ _ hmem)

theorem length_labelField (row : Fin matrix.size) :
    (Text.Field.setChars { width := matrix.labelWidth } (matrix.label row).toList).length =
      matrix.labelWidth := by
  rw [Text.Field.length_setChars _ rfl, String.length_toList]
  exact max_eq_left (matrix.length_le_labelWidth row)

/-- The words of the header are the labels, each at the end of a field of its own length. -/
theorem headerLine_words :
    Text.lineWords matrix.headerLine = matrix.labels ∧
    Text.wordEnds matrix.headerLine =
      Text.fieldEnds matrix.labelWidth (matrix.labels.map String.length) := by
  have hwords : Text.placedWords 0 matrix.headerLine.toList =
      Text.placedWords matrix.labelWidth (Text.fieldChars matrix.headerFields) := by
    rw [toList_headerLine, Text.placedWords_spaces, Nat.zero_add]
  obtain ⟨htexts, hends⟩ :=
    Text.placedWords_fieldChars matrix.labelWidth matrix.fits_headerFields
  constructor
  · have hlabels := congrArg (List.map String.ofList) htexts
    rw [List.map_map, headerFields, List.map_map, List.map_map] at hlabels
    rw [Text.lineWords, hwords]
    refine hlabels.trans ?_
    simp [Function.comp_def]
  · rw [Text.wordEnds, hwords, hends, headerFields_widths]

/-- The words of a row are its label and its marks, each mark at the end of a field as long
as the label of its column has bytes. -/
theorem rowLine_words (row : Fin matrix.size) :
    Text.lineWords (matrix.rowLine row) = matrix.label row ::
      (List.finRange matrix.size).map (fun column => (matrix.relation row column).text) ∧
    Text.wordEnds (matrix.rowLine row) = ((matrix.label row).length - 1) ::
      Text.fieldEnds matrix.labelWidth (matrix.labels.map String.utf8ByteSize) := by
  have hvalid := matrix.labels_valid (matrix.label row) (List.getElem_mem _)
  have hne : (matrix.label row).toList ≠ [] := fun hnil =>
    Text.ne_empty_of_isLabel hvalid (String.toList_eq_nil_iff.mp hnil)
  have hlabel : Text.placedWords 0 (Text.Field.setChars { width := matrix.labelWidth }
      (matrix.label row).toList) = [(matrix.label row).toList.zipIdx] := by
    rw [Text.setChars_left, Text.placedWords_append_spaces,
      Text.placedWords_word 0 hne (Text.not_mem_of_isLabel (by decide +kernel) hvalid)]
  have hwords : Text.placedWords 0 (matrix.rowLine row).toList =
      (matrix.label row).toList.zipIdx ::
        Text.placedWords matrix.labelWidth (Text.fieldChars (matrix.rowFields row)) := by
    rw [toList_rowLine, Text.placedWords_append _ _ (Text.head?_fieldChars _), hlabel,
      length_labelField, Nat.zero_add]
    rfl
  obtain ⟨htexts, hends⟩ :=
    Text.placedWords_fieldChars matrix.labelWidth (matrix.fits_rowFields row)
  constructor
  · have hmarks := congrArg (List.map String.ofList) htexts
    rw [List.map_map, rowFields, List.map_map, List.map_map] at hmarks
    rw [Text.lineWords, hwords, List.map_cons, List.zipIdx_map_fst, String.ofList_toList]
    exact congrArg (matrix.label row :: ·) hmarks
  · rw [Text.wordEnds, hwords, List.filterMap_cons, List.getLast?_zipIdx,
      List.getLast?_eq_some_getLast hne, hends, rowFields_widths]
    simp only [Option.map_some, Nat.zero_add, String.length_toList]

theorem length_headerLine : matrix.headerLine.length =
    matrix.labelWidth + (matrix.labels.map String.length).sum + matrix.size := by
  rw [← String.length_toList, toList_headerLine, List.length_append, List.length_replicate,
    Text.length_fieldChars matrix.fits_headerFields, headerFields_widths, headerFields,
    List.length_map, Nat.add_assoc]

theorem length_rowLine (row : Fin matrix.size) : (matrix.rowLine row).length =
    matrix.labelWidth + (matrix.labels.map String.utf8ByteSize).sum + matrix.size := by
  rw [← String.length_toList, toList_rowLine, List.length_append, length_labelField,
    Text.length_fieldChars (matrix.fits_rowFields row), rowFields_widths, rowFields,
    List.length_map, List.length_finRange, Nat.add_assoc]

theorem lineBreak_not_mem_headerLine : '\n' ∉ matrix.headerLine.toList := by
  rw [toList_headerLine, List.mem_append, not_or]
  refine ⟨fun hfill => absurd (List.eq_of_mem_replicate hfill) (by decide), ?_⟩
  apply Text.not_mem_fieldChars (by decide)
  exact List.forall_mem_map.mpr fun label hlabel =>
    Text.not_mem_of_isLabel (by decide +kernel) (matrix.labels_valid label hlabel)

theorem lineBreak_not_mem_rowLine (row : Fin matrix.size) :
    '\n' ∉ (matrix.rowLine row).toList := by
  have hvalid := matrix.labels_valid (matrix.label row) (List.getElem_mem _)
  have hmark : ∀ relation : Relation, '\n' ∉ [relation.mark] := by
    intro relation
    cases relation <;> decide
  rw [toList_rowLine, Text.setChars_left, List.mem_append, List.mem_append, not_or, not_or]
  refine ⟨⟨Text.not_mem_of_isLabel (by decide +kernel) hvalid,
    fun hfill => absurd (List.eq_of_mem_replicate hfill) (by decide)⟩, ?_⟩
  apply Text.not_mem_fieldChars (by decide)
  exact List.forall_mem_map.mpr fun column _ => hmark _

theorem splitOn_text :
    matrix.text.toList.splitOn '\n' = matrix.textLines.map String.toList ++ [[]] :=
  Text.splitOn_join_lines <| List.forall_mem_cons.mpr ⟨matrix.lineBreak_not_mem_headerLine,
    List.forall_mem_map.mpr fun row _ => matrix.lineBreak_not_mem_rowLine row⟩

/-- A mark stands below the end of the label of its column where the labels up to there
have as many characters as bytes. -/
theorem getElem?_wordEnds_eq_iff (row column : Fin matrix.size) :
    (Text.wordEnds (matrix.rowLine row))[column.val + 1]? =
        (Text.wordEnds matrix.headerLine)[column.val]? ↔
      ∀ label ∈ matrix.labels.take (column + 1), Text.IsAscii label := by
  have hbytes : column.val < (matrix.labels.map String.utf8ByteSize).length := by simp
  have hlength : column.val < (matrix.labels.map String.length).length := by simp
  rw [(matrix.rowLine_words row).2, matrix.headerLine_words.2, List.getElem?_cons_succ,
    Text.getElem?_fieldEnds _ hbytes, Text.getElem?_fieldEnds _ hlength,
    ← (Text.sum_length_le_sum_utf8ByteSize _).2, List.map_take, List.map_take, Option.some_inj,
    Nat.add_left_cancel_iff]

/-- The text of a matrix is a header with the labels and a line for every row, which holds
the label of the row and its marks.  All rows are equally long.  The header is as long as
they are exactly when every label is ASCII, and a mark stands below the last character of
the label of its column exactly when the labels up to that column are. -/
theorem text_aligned_iff_ascii :
    matrix.text.toList.splitOn '\n' =
      (matrix.headerLine :: (List.finRange matrix.size).map matrix.rowLine).map String.toList ++
        [[]] ∧
    Text.lineWords matrix.headerLine = matrix.labels ∧
    (∀ row, Text.lineWords (matrix.rowLine row) = matrix.label row ::
      (List.finRange matrix.size).map fun column => (matrix.relation row column).text) ∧
    (∀ row other, (matrix.rowLine row).length = (matrix.rowLine other).length) ∧
    ((∀ row, (matrix.rowLine row).length = matrix.headerLine.length) ↔
      ∀ label ∈ matrix.labels, Text.IsAscii label) ∧
    ∀ row column : Fin matrix.size,
      (Text.wordEnds (matrix.rowLine row))[column.val + 1]? =
          (Text.wordEnds matrix.headerLine)[column.val]? ↔
        ∀ label ∈ matrix.labels.take (column + 1), Text.IsAscii label := by
  refine ⟨matrix.splitOn_text, matrix.headerLine_words.1, fun row => (matrix.rowLine_words row).1,
    ?_, ?_, matrix.getElem?_wordEnds_eq_iff⟩
  · intro row other
    rw [length_rowLine, length_rowLine]
  · rw [← (Text.sum_length_le_sum_utf8ByteSize _).2]
    constructor
    · intro hrows
      have hrow := hrows matrix.endIndex
      rw [length_rowLine, length_headerLine] at hrow
      omega
    · intro hsame row
      rw [length_rowLine, length_headerLine, hsame]

/-- A label of one character and two bytes: its field is one place too wide. -/
theorem accented_not_aligned :
    (ofRows ["é"] [("é", [.unrelated])] "é").map textLines = .ok ["   é", "é   ."] ∧
    "   é".length ≠ "é   .".length ∧
    (Text.wordEnds "é   .")[1]? ≠ (Text.wordEnds "   é")[0]? := by
  refine ⟨rfl, ?_, ?_⟩
  · decide
  · decide

end Matrix

end OperatorPrecedence
