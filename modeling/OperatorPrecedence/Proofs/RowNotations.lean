import OperatorPrecedence.Proofs.EarliestError
import OperatorPrecedence.Proofs.FailingSteps
import OperatorPrecedence.Proofs.SpacedTokens

/-!
The two notations of a row: marks one after the other, and the tokens of a table file,
where the letters `x` of a run make one identifier.  A run of marks spells the same
cells as the tokens that a scan finds in it.
-/

namespace OperatorPrecedence

theorem isBlank_of_isSeparator {c : Char} (hc : isSeparator c = true) :
    Text.isBlank c = true := by
  simp only [isSeparator, Bool.or_eq_true, beq_iff_eq] at hc
  rcases hc with ((rfl | rfl) | rfl) | rfl <;> decide

namespace Matrix

/-- Marks are read one by one, and blanks between them make no difference. -/
theorem readMarks_eq_ok_iff (label : String) (cs : List Char) (cells : List Relation) :
    readMarks label cs = .ok cells ↔
      (cs.filter fun c => !Text.isBlank c).map Relation.ofMark? = cells.map some := by
  induction cs generalizing cells with
  | nil =>
      rw [readMarks]
      cases cells <;> simp
  | cons c cs ih =>
      rw [readMarks]
      by_cases hblank : Text.isBlank c = true
      · simpa [hblank] using ih cells
      · cases hmark : Relation.ofMark? c with
        | none => cases cells <;> simp [hblank, hmark]
        | some relation =>
            cases cells with
            | nil => cases readMarks label cs <;> simp [hblank, hmark]
            | cons first cells =>
                have hcells := ih cells
                cases hrest : readMarks label cs <;> simp_all

theorem readMarks_append_eq_ok_iff (label : String) (first later : List Char)
    (cells : List Relation) :
    readMarks label (first ++ later) = .ok cells ↔
      ∃ head tail, cells = head ++ tail ∧ readMarks label first = .ok head ∧
        readMarks label later = .ok tail := by
  simp only [readMarks_eq_ok_iff, List.filter_append, List.map_append]
  constructor
  · intro hboth
    obtain ⟨head, tail, rfl, hhead, htail⟩ := List.append_eq_map_iff.mp hboth
    exact ⟨head, tail, rfl, hhead.symm, htail.symm⟩
  · rintro ⟨head, tail, rfl, hhead, htail⟩
    rw [hhead, htail, List.map_append]

theorem readMarks_blanks (label : String) {run : List Char}
    (hrun : ∀ c ∈ run, Text.isBlank c = true) : readMarks label run = .ok [] := by
  rw [readMarks_eq_ok_iff]
  simpa using hrun

theorem blank_or_mark_of_readMarks {label : String} {marks : List Char} {cells : List Relation}
    (hread : readMarks label marks = .ok cells) :
    ∀ c ∈ marks, Text.isBlank c = true ∨ c ∈ ['<', '>', '=', '.', 'x'] := by
  intro c hc
  by_contra hother
  rw [not_or, Bool.not_eq_true] at hother
  obtain ⟨error, herror⟩ := (exists_readMarks_error_iff label marks).mpr ⟨c, hc, hother⟩
  rw [hread] at herror
  cases herror

/-- Of the marks only the letter `x` stands in an identifier. -/
theorem eq_x_of_mark {name : List Char} (hname : Text.isIdentifierChars name = true)
    {c : Char} (hc : c ∈ name) (hmark : c ∈ ['<', '>', '=', '.', 'x']) : c = 'x' := by
  have hno : ¬(Piece.punctuation? c).isSome = true := by
    intro hpunctuation
    exact not_mem_identifier hname (by simp [hpunctuation]) hc
  simp only [List.mem_cons, List.not_mem_nil, or_false] at hmark
  rcases hmark with rfl | rfl | rfl | rfl | rfl
  · exact absurd rfl hno
  · exact absurd rfl hno
  · exact absurd rfl hno
  · exact absurd rfl hno
  · rfl

/-- An identifier without blanks can be read as marks exactly if it is made of the
letter `x` alone.  Each letter is a cell. -/
theorem readMarks_identifier {name : String} (hname : Text.isIdentifierChars name.toList = true)
    (hblank : ∀ c ∈ name.toList, Text.isBlank c = false) (label : String)
    (cells : List Relation) :
    readMarks label name.toList = .ok cells ↔
      isCrosses name = true ∧ cells = List.replicate name.toList.length .unrelated := by
  have hcells : isCrosses name = true →
      (readMarks label name.toList = .ok cells ↔
        cells = List.replicate name.toList.length .unrelated) := by
    intro hcrosses
    have hkept : name.toList.filter (fun c => !Text.isBlank c) = name.toList := by
      simpa using hblank
    have hmap : name.toList.map Relation.ofMark? =
        (List.replicate name.toList.length Relation.unrelated).map some := by
      rw [List.map_replicate, List.map_eq_replicate_iff]
      intro c hc
      rw [isCrosses, List.all_eq_true] at hcrosses
      rw [beq_iff_eq.mp (hcrosses c hc)]
      rfl
    rw [readMarks_eq_ok_iff, hkept, hmap, List.map_inj_right fun _ _ => Option.some.inj, eq_comm]
  constructor
  · intro hread
    have hcrosses : isCrosses name = true := by
      rw [isCrosses, List.all_eq_true]
      intro c hc
      rw [beq_iff_eq]
      apply eq_x_of_mark hname hc
      apply (blank_or_mark_of_readMarks hread c hc).resolve_left
      rw [hblank c hc]
      exact Bool.false_ne_true
    exact ⟨hcrosses, (hcells hcrosses).mp hread⟩
  · rintro ⟨hcrosses, hsame⟩
    exact (hcells hcrosses).mpr hsame

end Matrix

/-- The cells of a token are those that its characters spell as marks. -/
theorem cellTokens_cons_iff {token : Token} (htoken : token.isWritable = true)
    (hne : token ≠ .semicolon)
    (hblank : ∀ c ∈ token.spelling, Text.isBlank c = true → isSeparator c = true)
    (label : String) (tokens : List Token) (cells : List Relation) :
    CellTokens cells (token :: tokens) ↔
      ∃ head tail, cells = head ++ tail ∧ Matrix.readMarks label token.spelling = .ok head ∧
        CellTokens tail tokens := by
  cases token with
  | semicolon => exact absurd rfl hne
  | identifier name =>
      -- A blank would be white space between tokens, and no identifier holds that.
      have hnone : ∀ c ∈ name.toList, Text.isBlank c = false := by
        intro c hc
        rw [← Bool.not_eq_true]
        intro hblankChar
        exact not_mem_identifier htoken (Or.inl (hblank c hc hblankChar)) hc
      simp only [Token.spelling, Matrix.readMarks_identifier htoken hnone]
      constructor
      · intro hcells
        cases hcells with
        | crosses hcrosses hrest => exact ⟨_, _, rfl, ⟨hcrosses, rfl⟩, hrest⟩
      · rintro ⟨head, tail, rfl, ⟨hcrosses, rfl⟩, hrest⟩
        exact .crosses hcrosses hrest
  | less | greater | equal | dot =>
      constructor
      · intro hcells
        cases hcells
        exact ⟨[_], _, rfl, rfl, by assumption⟩
      · rintro ⟨head, tail, rfl, ⟨⟩, hrest⟩
        constructor
        exact hrest
  | colon | comma =>
      constructor
      · rintro ⟨⟩
      · rintro ⟨head, tail, rfl, ⟨⟩, hrest⟩
  | keyword word =>
      constructor
      · rintro ⟨⟩
      · rintro ⟨head, tail, rfl, hread, hrest⟩
        cases word <;> cases hread

theorem Token.semicolon_not_mem_spelling {token : Token} (htoken : token.isWritable = true)
    (hne : token ≠ .semicolon) : ';' ∉ token.spelling := by
  cases token with
  | identifier name => exact not_mem_identifier htoken (by simp [Piece.punctuation?])
  | semicolon => exact absurd rfl hne
  | keyword word => cases word <;> decide
  | colon | comma | less | greater | equal | dot => decide

theorem cellTokens_semicolon_iff (cells : List Relation) :
    CellTokens cells [.semicolon] ↔ cells = [] := by
  constructor
  · rintro ⟨⟩
    rfl
  · rintro rfl
    exact .nil

theorem exists_token_of_mark {c : Char} (hc : c ∈ ['<', '>', '=', '.', 'x']) :
    ∃ token : Token, token.isWritable = true ∧ token.spelling = [c] := by
  simp only [List.mem_cons, List.not_mem_nil, or_false] at hc
  rcases hc with rfl | rfl | rfl | rfl | rfl
  · exact ⟨.less, rfl, rfl⟩
  · exact ⟨.greater, rfl, rfl⟩
  · exact ⟨.equal, rfl, rfl⟩
  · exact ⟨.dot, rfl, rfl⟩
  · exact ⟨.identifier "x", by decide, rfl⟩

/-- A run that begins a text and holds no semicolon lies before the first semicolon. -/
theorem exists_of_append_semicolon {marks run later : List Char} (hrun : ';' ∉ run)
    (htext : marks ++ [';'] = run ++ later) :
    ∃ left, marks = run ++ left ∧ later = left ++ [';'] := by
  rcases List.append_eq_append_iff.mp htext with ⟨more, rfl, hlast⟩ | ⟨left, rfl, rfl⟩
  · cases more with
    | nil => exact ⟨[], by simp, by simpa using hlast.symm⟩
    | cons c more =>
        obtain ⟨rfl, -⟩ := List.cons.inj hlast
        simp at hrun
  · exact ⟨left, rfl, rfl⟩

/-- A text that begins with no mark before its semicolon is that semicolon. -/
theorem eq_nil_of_append_semicolon {marks later : List Char} {c : Char} (hc : c ∉ marks)
    (htext : marks ++ [';'] = c :: later) : c = ';' ∧ marks = [] ∧ later = [] := by
  cases marks with
  | nil =>
      obtain ⟨rfl, rfl⟩ := List.cons.inj htext
      exact ⟨rfl, rfl, rfl⟩
  | cons d marks =>
      obtain ⟨rfl, -⟩ := List.cons.inj htext
      exact absurd List.mem_cons_self hc

/-- Marks with nothing among them that ends the row or opens a comment, and with no
blanks but the white space of table files. -/
structure InOneRow (marks : List Char) : Prop where
  semicolon : ';' ∉ marks
  stroke : '/' ∉ marks
  blank : ∀ c ∈ marks, Text.isBlank c = true → isSeparator c = true

theorem InOneRow.of_append {run left : List Char} (hmarks : InOneRow (run ++ left)) :
    InOneRow run ∧ InOneRow left := by
  obtain ⟨hsemicolon, hstroke, hblank⟩ := hmarks
  rw [List.mem_append, not_or] at hsemicolon hstroke
  rw [List.forall_mem_append] at hblank
  exact ⟨⟨hsemicolon.1, hstroke.1, hblank.1⟩, ⟨hsemicolon.2, hstroke.2, hblank.2⟩⟩

theorem InOneRow.append_space {marks : List Char} (hmarks : InOneRow marks) :
    InOneRow (marks ++ [' ']) where
  semicolon := by simpa using hmarks.semicolon
  stroke := by simpa using hmarks.stroke
  blank := List.forall_mem_append.mpr ⟨hmarks.blank, by simp [isSeparator]⟩

/-- Marks that can be read hold neither a semicolon nor a stroke. -/
theorem Matrix.inOneRow_of_readMarks {label : String} {marks : List Char}
    {cells : List Relation} (hread : readMarks label marks = .ok cells)
    (hblank : ∀ c ∈ marks, Text.isBlank c = true → isSeparator c = true) : InOneRow marks where
  semicolon hmem := absurd (blank_or_mark_of_readMarks hread _ hmem) (by decide)
  stroke hmem := absurd (blank_or_mark_of_readMarks hread _ hmem) (by decide)
  blank := hblank

/-- A label goes up to the colon behind it. -/
theorem Piece.first?_label {label : String}
    (hlabel : Text.isIdentifierChars label.toList = true) (later : List Char) :
    first? (label.toList ++ (Token.colon.spelling ++ later)) =
      some (.token (.identifier label), label.toList.length) := by
  have hcolon : Text.isIdentifierContinue ':' = false :=
    (not_identifier (by simp [punctuation?])).2
  have hfirst := first?_identifier hlabel (':' :: later)
  rwa [List.takeWhile_cons_of_neg (by simp [hcolon]), List.append_nil, String.ofList_toList]
    at hfirst

/-- A row of a table file with these marks. -/
def Statement.ofMarks (label marks : String) : String :=
  "@row " ++ label ++ ": " ++ marks ++ " ;"

namespace Scan

/-- A piece begins where marks that can be read and a semicolon stand. -/
theorem first?_ne_none_of_readMarks {label : String} {marks : List Char} {cells : List Relation}
    (hread : Matrix.readMarks label marks = .ok cells) (hmarks : InOneRow marks) :
    Piece.first? (marks ++ [';']) ≠ none := by
  intro hstuck
  cases marks with
  | nil => cases hstuck
  | cons c marks =>
      rcases Matrix.blank_or_mark_of_readMarks hread c List.mem_cons_self with hc | hc
      · have hseparator := hmarks.blank c List.mem_cons_self hc
        rw [List.cons_append, Piece.first?_separator hseparator] at hstuck
        cases hstuck
      · obtain ⟨token, htoken, hspelling⟩ := exists_token_of_mark hc
        have hnone := (Piece.first?_eq_none_iff _).mp hstuck (.token token) [c]
          (marks ++ [';']) rfl
        rw [← hspelling] at hnone
        exact hnone (.token htoken)

/-- Marks before a semicolon are read exactly if a scan finds the tokens of cells in
them, and they are read as these cells. -/
theorem readMarks_eq_ok_iff_rest (label : String) {marks : List Char} (hmarks : InOneRow marks)
    (cells : List Relation) (location : Location) :
    Matrix.readMarks label marks = .ok cells ↔
      (rest location (marks ++ [';'])).failure? = none ∧
        CellTokens cells
          ((rest location (marks ++ [';'])).tokens.map LocatedToken.token) := by
  generalize htext : marks ++ [';'] = cs
  -- A piece is blank, the closing semicolon, or a token among the marks.
  induction cs using Piece.piecewise generalizing marks cells location with
  | stuck cs hstuck =>
      have hne : cs ≠ [] := by
        rw [← htext]
        exact List.append_ne_nil_of_right_ne_nil _ (List.cons_ne_nil _ _)
      rw [rest_of_stuck hstuck]
      constructor
      · intro hread
        rw [← htext] at hstuck
        exact absurd hstuck (first?_ne_none_of_readMarks hread hmarks)
      · rintro ⟨hend, -⟩
        simp [hne] at hend
  | piece first run later hmatches hfirst ih =>
      cases hmatches with
      | blank hne hrun =>
          have hno : ';' ∉ run := by
            intro hmem
            cases hrun _ hmem
          obtain ⟨left, rfl, rfl⟩ := exists_of_append_semicolon hno htext
          have hread := Matrix.readMarks_blanks label fun c hc =>
            isBlank_of_isSeparator (hrun c hc)
          rw [rest_of_skipped hfirst, ← ih hmarks.of_append.2 cells (location.advanceAll run) rfl,
            Matrix.readMarks_append_eq_ok_iff]
          simp [hread]
      | comment hbody =>
          obtain ⟨hstroke, -⟩ := eq_nil_of_append_semicolon hmarks.stroke htext
          cases hstroke
      | @token token htoken =>
          by_cases hsemicolon : token = .semicolon
          · subst hsemicolon
            obtain ⟨-, rfl, rfl⟩ := eq_nil_of_append_semicolon hmarks.semicolon htext
            rw [rest_of_token hfirst, rest_nil, List.map_singleton, cellTokens_semicolon_iff,
              Matrix.readMarks]
            simp [eq_comm]
          · have hno := Token.semicolon_not_mem_spelling htoken hsemicolon
            obtain ⟨left, rfl, rfl⟩ := exists_of_append_semicolon hno htext
            obtain ⟨hrun, hleft⟩ := hmarks.of_append
            rw [rest_of_token hfirst, List.map_cons,
              cellTokens_cons_iff htoken hsemicolon hrun.blank label,
              Matrix.readMarks_append_eq_ok_iff]
            simp only [ih hleft _ (location.advanceAll token.spelling) rfl]
            constructor
            · rintro ⟨head, tail, hcells, hhead, hend, htail⟩
              exact ⟨hend, head, tail, hcells, hhead, htail⟩
            · rintro ⟨hend, head, tail, hcells, hhead, htail⟩
              exact ⟨head, tail, hcells, hhead, hend, htail⟩

theorem ofText_ofMarks {label : String} (hlabel : Text.isIdentifierChars label.toList = true)
    (marks : String) :
    ∃ location, (ofText (Statement.ofMarks label marks)).tokens.map LocatedToken.token =
        .keyword .row :: .identifier label :: .colon ::
          (rest location (marks.toList ++ [' '] ++ [';'])).tokens.map LocatedToken.token ∧
      (ofText (Statement.ofMarks label marks)).failure? =
        (rest location (marks.toList ++ [' '] ++ [';'])).failure? := by
  have hchars : (Statement.ofMarks label marks).toList = (Token.keyword .row).spelling ++
      ' ' :: (label.toList ++ (Token.colon.spelling ++
        ' ' :: (marks.toList ++ [' '] ++ [';']))) := by
    simp [Statement.ofMarks, Token.spelling, Keyword.spelling, Keyword.word]
  have hkeyword := fun later => @Piece.first?_spelling (.keyword .row) (' ' :: later) rfl
    (by simp [SetApart, isSeparator])
  have hcolon := fun later => @Piece.first?_spelling .colon (' ' :: later) rfl
    (by simp [SetApart, isSeparator])
  have hspace : isSeparator ' ' = true := rfl
  rw [ofText, hchars, rest_of_token (hkeyword _), rest_separator hspace,
    rest_of_token (Piece.first?_label hlabel _), rest_of_token (hcolon _), rest_separator hspace]
  exact ⟨_, rfl, rfl⟩

end Scan

namespace Statement

/-- The tokens of a row make a file of this row only. -/
theorem fileTokens_row_iff (label other : String) (cells : List Relation)
    (tokens : List Token) :
    FileTokens [.row other cells] (.keyword .row :: .identifier label :: .colon :: tokens) ↔
      other = label ∧ CellTokens cells tokens := by
  constructor
  · generalize htokens : Token.keyword .row :: .identifier label :: .colon :: tokens = all
    intro hfile
    cases hfile with
    | cons hstatement hlater =>
        cases hlater
        cases hstatement with
        | row _ hcells =>
            rw [List.append_nil] at htokens
            cases htokens
            exact ⟨rfl, hcells⟩
  · rintro ⟨rfl, hcells⟩
    have hfile := FileTokens.cons (.row other hcells) .nil
    rwa [List.append_nil] at hfile

/-- The row of a table file with marks in it is read exactly if the marks are read, and
it has the cells that they are read as. -/
theorem parse_ofMarks_eq_ok_iff {label marks : String}
    (hlabel : Text.isIdentifierChars label.toList = true) (hmarks : InOneRow marks.toList)
    (other : String) (cells : List Relation) :
    parse (ofMarks label marks) = .ok [.row other cells] ↔
      other = label ∧ Matrix.readMarks label marks.toList = .ok cells := by
  obtain ⟨location, htokens, hfailure⟩ := Scan.ofText_ofMarks hlabel marks
  have hblank : Matrix.readMarks label [' '] = .ok [] := rfl
  have hread : Matrix.readMarks label (marks.toList ++ [' ']) = .ok cells ↔
      Matrix.readMarks label marks.toList = .ok cells := by
    rw [Matrix.readMarks_append_eq_ok_iff]
    simp [hblank]
  rw [parse_eq_ok_iff, htokens, hfailure, fileTokens_row_iff, ← hread,
    Scan.readMarks_eq_ok_iff_rest label hmarks.append_space cells location]
  exact and_left_comm

end Statement

namespace Matrix

/-- The two notations of a row agree.  If a row of marks is added to a definition, then
the row of a table file with these marks is read as one statement with the same cells.
If such a row is read as one statement, and the marks neither end the row early nor
open a comment, then the same cells are added. -/
theorem rowText_agrees_with_row (definition : Definition) {label marks : String}
    (hlabel : Text.isIdentifierChars label.toList = true)
    (hblank : ∀ c ∈ marks.toList, Text.isBlank c = true → isSeparator c = true) :
    (∀ next, definition.apply (.rowText label marks) = .ok next →
      ∃ cells, next = { definition with rows := definition.rows ++ [(label, cells)] } ∧
        Statement.parse (Statement.ofMarks label marks) = .ok [.row label cells]) ∧
    (';' ∉ marks.toList → '/' ∉ marks.toList → ∀ other cells,
      Statement.parse (Statement.ofMarks label marks) = .ok [.row other cells] →
        other = label ∧ definition.apply (.rowText label marks) =
          .ok { definition with rows := definition.rows ++ [(label, cells)] }) := by
  constructor
  · intro next hnext
    rw [Definition.apply_rowText] at hnext
    cases hread : readMarks label marks.toList with
    | error error =>
        rw [hread] at hnext
        cases hnext
    | ok cells =>
        rw [hread] at hnext
        cases hnext
        refine ⟨cells, rfl, ?_⟩
        have hmarks := inOneRow_of_readMarks hread hblank
        exact (Statement.parse_ofMarks_eq_ok_iff hlabel hmarks label cells).mpr ⟨rfl, hread⟩
  · intro hsemicolon hstroke other cells hparse
    have hmarks : InOneRow marks.toList := ⟨hsemicolon, hstroke, hblank⟩
    obtain ⟨hother, hread⟩ :=
      (Statement.parse_ofMarks_eq_ok_iff hlabel hmarks other cells).mp hparse
    refine ⟨hother, ?_⟩
    rw [Definition.apply_rowText, hread]

/-- Marks with every kind of white space between them, and the letter `x` alone and
twice in a row. -/
def spreadMarks : String :=
  " <x\t.xx\r\n=>"

def spreadCells : List Relation :=
  [.less, .unrelated, .unrelated, .unrelated, .unrelated, .equal, .greater]

theorem spreadMarks_agree_with_row :
    Definition.empty.apply (.rowText "漢" spreadMarks) =
        .ok ⟨none, [("漢", spreadCells)], none⟩ ∧
      Statement.parse (Statement.ofMarks "漢" spreadMarks) = .ok [.row "漢" spreadCells] := by
  have hlabel : Text.isIdentifierChars "漢".toList = true := by decide +kernel
  have hall : spreadMarks.toList.all (fun c => !Text.isBlank c || isSeparator c) = true := by
    decide +kernel
  have hblank : ∀ c ∈ spreadMarks.toList, Text.isBlank c = true → isSeparator c = true := by
    intro c hc hblank
    simpa [hblank] using List.all_eq_true.mp hall c hc
  have hread : Definition.empty.apply (.rowText "漢" spreadMarks) =
      .ok ⟨none, [("漢", spreadCells)], none⟩ := by
    decide +kernel
  have hagree := rowText_agrees_with_row Definition.empty hlabel hblank
  obtain ⟨cells, hcells, hparse⟩ := hagree.1 _ hread
  obtain rfl : spreadCells = cells := by
    simpa [Definition.empty] using hcells
  exact ⟨(hagree.2 (by decide +kernel) (by decide +kernel) _ _ hparse).2, hparse⟩

end Matrix

end OperatorPrecedence
