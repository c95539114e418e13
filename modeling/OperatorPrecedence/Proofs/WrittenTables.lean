import OperatorPrecedence.Statement.Spelling
import OperatorPrecedence.Proofs.GrammarReading
import OperatorPrecedence.Proofs.SpacedTokens

/-!
Tables written and read back.  Statements whose names are identifiers and whose
lists are not empty can be written, and any text that writes them is read as these
statements, whatever its white space and comments.
-/

namespace OperatorPrecedence

theorem CellTokens.of_written {cells : List Relation} {marks : List Token}
    (hmarks : List.Forall₂ Relation.IsWritten cells marks) :
    CellTokens cells (marks ++ [.semicolon]) := by
  induction hmarks with
  | nil => exact .nil
  | cons hmark _ ih =>
      cases hmark with
      | less => exact .less ih
      | greater => exact .greater ih
      | equal => exact .equal ih
      | dot => exact .dot ih
      | cross => exact @CellTokens.crosses "x" _ _ rfl ih

theorem Relation.exists_written (cells : List Relation) :
    ∃ marks, List.Forall₂ Relation.IsWritten cells marks := by
  induction cells with
  | nil => exact ⟨[], .nil⟩
  | cons cell cells ih =>
      obtain ⟨marks, hmarks⟩ := ih
      cases cell with
      | less => exact ⟨_, .cons .less hmarks⟩
      | greater => exact ⟨_, .cons .greater hmarks⟩
      | equal => exact ⟨_, .cons .equal hmarks⟩
      | unrelated => exact ⟨_, .cons .dot hmarks⟩

theorem isWritable_of_written {cells : List Relation} {marks : List Token}
    (hmarks : List.Forall₂ Relation.IsWritten cells marks) :
    ∀ mark ∈ marks, mark.isWritable = true := by
  induction hmarks with
  | nil => exact fun mark hmark => absurd hmark List.not_mem_nil
  | @cons cell mark cells marks hcell _ ih =>
      refine List.forall_mem_cons.mpr ⟨?_, ih⟩
      cases hcell with
      | less | greater | equal | dot => rfl
      | cross => decide

theorem NameTokens.isWritable {names : List String} {tokens : List Token}
    (htokens : NameTokens names tokens)
    (hnames : ∀ name ∈ names, Text.isIdentifierChars name.toList = true) :
    ∀ token ∈ tokens, token.isWritable = true := by
  induction htokens with
  | last name => simpa [Token.isWritable] using hnames name List.mem_cons_self
  | cons name _ ih =>
      obtain ⟨hname, hrest⟩ := List.forall_mem_cons.mp hnames
      exact List.forall_mem_cons.mpr ⟨hname, List.forall_mem_cons.mpr ⟨rfl, ih hrest⟩⟩

namespace Statement

theorem areNames_iff [Text.FileAlphabet] (names : List String) :
    areNames names = true ↔
      names ≠ [] ∧ ∀ name ∈ names, Text.isIdentifierChars name.toList = true := by
  simp [areNames]

theorem areNames_singleton [Text.FileAlphabet] (name : String) :
    areNames [name] = (Token.identifier name).isWritable := by
  simp [areNames, Token.isWritable]

/-- A list of names with a name in it is in the grammar. -/
theorem nameTokens_listTokens {names : List String} (hne : names ≠ []) :
    NameTokens names (listTokens names) := by
  induction names with
  | nil => exact absurd rfl hne
  | cons name rest ih =>
      cases rest with
      | nil => exact .last name
      | cons next rest => exact .cons name (ih (List.cons_ne_nil next rest))

theorem isWritable_of_mem_listTokens {names : List String} (hnames : areNames names = true) :
    ∀ token ∈ listTokens names, token.isWritable = true := by
  obtain ⟨hne, hnames⟩ := (areNames_iff names).mp hnames
  exact (nameTokens_listTokens hne).isWritable hnames

/-- What writes a statement is in the grammar, and its tokens can be written. -/
theorem IsWritten.statementTokens {statement : Statement} {tokens : List Token}
    (hwritten : statement.IsWritten tokens) (hwritable : statement.isWritable = true) :
    StatementTokens statement tokens ∧ ∀ token ∈ tokens, token.isWritable = true := by
  cases hwritten with
  | group label members =>
      obtain ⟨hgroup, hmembers⟩ := Bool.and_eq_true_iff.mp hwritable
      refine ⟨.group label (nameTokens_listTokens ((areNames_iff members).mp hmembers).1), ?_⟩
      simp only [List.forall_mem_cons]
      exact ⟨rfl, areNames_singleton label ▸ hgroup, rfl, isWritable_of_mem_listTokens hmembers⟩
  | endMarker label =>
      refine ⟨.endMarker label, ?_⟩
      simp only [List.forall_mem_cons]
      exact ⟨rfl, areNames_singleton label ▸ hwritable, rfl, List.forall_mem_nil _⟩
  | columns labels =>
      refine ⟨.columns (nameTokens_listTokens ((areNames_iff labels).mp hwritable).1), ?_⟩
      exact List.forall_mem_cons.mpr ⟨rfl, isWritable_of_mem_listTokens hwritable⟩
  | @row label cells marks hmarks =>
      refine ⟨.row label (.of_written hmarks), ?_⟩
      simp only [List.cons_append, List.forall_mem_cons, List.forall_mem_append]
      exact ⟨rfl, areNames_singleton label ▸ hwritable, rfl, isWritable_of_written hmarks, rfl,
        List.forall_mem_nil _⟩
  | order labels =>
      refine ⟨.order (nameTokens_listTokens ((areNames_iff labels).mp hwritable).1), ?_⟩
      exact List.forall_mem_cons.mpr ⟨rfl, isWritable_of_mem_listTokens hwritable⟩

/-- What writes statements is a file of the grammar, and its tokens can be
written. -/
theorem AreWritten.fileTokens {statements : List Statement} {tokens : List Token}
    (hwritten : AreWritten statements tokens)
    (hwritable : ∀ statement ∈ statements, statement.isWritable = true) :
    FileTokens statements tokens ∧ ∀ token ∈ tokens, token.isWritable = true := by
  induction hwritten with
  | nil => exact ⟨.nil, fun token htoken => absurd htoken List.not_mem_nil⟩
  | cons hstatement _ ih =>
      obtain ⟨hfirst, hrest⟩ := List.forall_mem_cons.mp hwritable
      obtain ⟨htokens, hnew⟩ := hstatement.statementTokens hfirst
      obtain ⟨hlater, hold⟩ := ih hrest
      exact ⟨.cons htokens hlater, List.forall_mem_append.mpr ⟨hnew, hold⟩⟩

theorem exists_isWritten (statement : Statement) : ∃ tokens, statement.IsWritten tokens := by
  cases statement with
  | group label members => exact ⟨_, .group label members⟩
  | endMarker label => exact ⟨_, .endMarker label⟩
  | columns labels => exact ⟨_, .columns labels⟩
  | row label cells =>
      obtain ⟨marks, hmarks⟩ := Relation.exists_written cells
      exact ⟨_, .row label hmarks⟩
  | order labels => exact ⟨_, .order labels⟩

theorem exists_areWritten (statements : List Statement) :
    ∃ tokens, AreWritten statements tokens := by
  induction statements with
  | nil => exact ⟨[], .nil⟩
  | cons statement statements ih =>
      obtain ⟨tokens, htokens⟩ := statement.exists_isWritten
      obtain ⟨later, hlater⟩ := ih
      exact ⟨_, .cons htokens hlater⟩

/-- Any tokens can be set apart by blanks. -/
theorem exists_spells (tokens : List Token) : ∃ cs, Spells tokens cs := by
  suffices hspaced : ∃ cs, Spaced tokens cs by
    obtain ⟨cs, hcs⟩ := hspaced
    exact ⟨cs, [], cs, .nil, hcs, rfl⟩
  induction tokens with
  | nil => exact ⟨[], .nil (.gap .nil)⟩
  | cons token tokens ih =>
      obtain ⟨cs, hcs⟩ := ih
      have hblank : Gap [' '] := .separator rfl .nil
      exact ⟨_, .cons token hblank (fun _ => List.cons_ne_nil ' ' []) hcs⟩

/-- Statements whose names are identifiers and whose lists are not empty can be
written, and every text that writes them, with white space and comments as they
come, is read as these statements. -/
theorem parse_of_spells {statements : List Statement}
    (hwritable : ∀ statement ∈ statements, statement.isWritable = true) :
    (∃ tokens cs, AreWritten statements tokens ∧ Spells tokens cs) ∧
      ∀ tokens cs, AreWritten statements tokens → Spells tokens cs →
        parse (String.ofList cs) = .ok statements := by
  constructor
  · obtain ⟨tokens, htokens⟩ := exists_areWritten statements
    obtain ⟨cs, hcs⟩ := exists_spells tokens
    exact ⟨tokens, cs, htokens, hcs⟩
  · intro tokens cs hwritten hspells
    obtain ⟨hfile, hidentifiers⟩ := hwritten.fileTokens hwritable
    obtain ⟨htokens, hfailure⟩ := Scan.ofText_spells hspells hidentifiers
    rw [parse, Reading.ofScan, hfailure]
    exact Reading.result_of_fileTokens (htokens.symm ▸ hfile)

def twoStatements : List Statement :=
  [.endMarker "z", .row "z" [.unrelated, .less]]

def twoStatementsText : String :=
  "//a\n@end z ;//a\n@row z :\tx < ; //a"

theorem twoStatements_parse_of_spells :
    (∀ statement ∈ twoStatements, statement.isWritable = true) ∧
      parse twoStatementsText = .ok twoStatements := by
  have hwritable : ∀ statement ∈ twoStatements, statement.isWritable = true := by decide
  have hwritten : AreWritten twoStatements
      [.keyword .endMarker, .identifier "z", .semicolon, .keyword .row, .identifier "z",
        .colon, .identifier "x", .less, .semicolon] :=
    .cons (.endMarker "z") (.cons (.row "z" (.cons .cross (.cons .less .nil))) .nil)
  have hblank : Gap [' '] := .separator rfl .nil
  have htab : Gap ['\t'] := .separator rfl .nil
  have hcomment : Gap ['/', '/', 'a', '\n'] :=
    @Gap.comment ['a'] '\n' [] (by simp [isLineBreak]) rfl .nil
  have hending : Ending [' ', '/', '/', 'a'] :=
    @Ending.comment [' '] ['a'] hblank (by simp [isLineBreak])
  have hspaced : Spaced [.keyword .endMarker, .identifier "z", .semicolon, .keyword .row,
      .identifier "z", .colon, .identifier "x", .less, .semicolon] _ :=
    .cons _ hblank (by simp) <| .cons _ hblank (by simp) <| .cons _ hcomment (by simp) <|
      .cons _ hblank (by simp) <| .cons _ hblank (by simp) <| .cons _ htab (by simp) <|
      .cons _ hblank (by simp) <| .cons _ hblank (by simp) <| .cons _ .nil (by simp) <|
      .nil hending
  have hspells : Spells _ twoStatementsText.toList := ⟨_, _, hcomment, hspaced, rfl⟩
  have hparse := (parse_of_spells hwritable).2 _ _ hwritten hspells
  rw [String.ofList_toList] at hparse
  exact ⟨hwritable, hparse⟩

end Statement

end OperatorPrecedence
