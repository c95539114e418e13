import OperatorPrecedence.Proofs.EarliestError
import OperatorPrecedence.Proofs.GroupFaults
import OperatorPrecedence.Proofs.LeastSolution
import OperatorPrecedence.Proofs.SpacedTokens
import OperatorPrecedence.Proofs.StatedTables
import OperatorPrecedence.Proofs.WrittenTables

/-!
The names in a table file.  Every name there is an identifier, since a scan takes no
other, and every identifier but `_` is a label where labels know every character that
files do.  So where a file, or the table that it describes, is refused for a name that
is no label, that name is `_`.
-/

namespace OperatorPrecedence

section Names

variable [Text.FileAlphabet]

theorem NameTokens.areNames {names : List String} {tokens : List Token}
    (htokens : NameTokens names tokens)
    (hwritable : ∀ token ∈ tokens, token.isWritable = true) :
    Statement.areNames names = true := by
  rw [Statement.areNames_iff]
  induction htokens with
  | last name =>
      have hname := hwritable _ List.mem_cons_self
      exact ⟨List.cons_ne_nil name [], List.forall_mem_singleton.mpr hname⟩
  | @cons name names tokens _ ih =>
      obtain ⟨hname, hrest⟩ := List.forall_mem_cons.mp hwritable
      have hlater := ih (List.forall_mem_cons.mp hrest).2
      exact ⟨List.cons_ne_nil name names, List.forall_mem_cons.mpr ⟨hname, hlater.2⟩⟩

theorem StatementTokens.isWritable {statement : Statement} {tokens : List Token}
    (htokens : StatementTokens statement tokens)
    (hwritable : ∀ token ∈ tokens, token.isWritable = true) :
    statement.isWritable = true := by
  cases htokens with
  | group label hmembers =>
      simp only [List.forall_mem_cons] at hwritable
      obtain ⟨-, hgroup, -, hrest⟩ := hwritable
      rw [← Statement.areNames_singleton] at hgroup
      exact Bool.and_eq_true_iff.mpr ⟨hgroup, hmembers.areNames hrest⟩
  | endMarker label =>
      simp only [List.forall_mem_cons] at hwritable
      exact (Statement.areNames_singleton label).trans hwritable.2.1
  | columns hlabels => exact hlabels.areNames (List.forall_mem_cons.mp hwritable).2
  | row label hcells =>
      simp only [List.forall_mem_cons] at hwritable
      exact (Statement.areNames_singleton label).trans hwritable.2.1
  | order hlabels => exact hlabels.areNames (List.forall_mem_cons.mp hwritable).2

theorem FileTokens.isWritable {statements : List Statement} {tokens : List Token}
    (htokens : FileTokens statements tokens)
    (hwritable : ∀ token ∈ tokens, token.isWritable = true) :
    ∀ statement ∈ statements, statement.isWritable = true := by
  induction htokens with
  | nil => exact List.forall_mem_nil _
  | cons hstatement _ ih =>
      obtain ⟨hfirst, hlater⟩ := List.forall_mem_append.mp hwritable
      exact List.forall_mem_cons.mpr ⟨hstatement.isWritable hfirst, ih hlater⟩

theorem Statement.isWritable_of_parse {text : String} {statements : List Statement}
    (hparse : parse text = .ok statements) :
    ∀ statement ∈ statements, statement.isWritable = true := by
  obtain ⟨-, hfile⟩ := (parse_eq_ok_iff text statements).mp hparse
  apply hfile.isWritable
  rw [List.forall_mem_map]
  exact Scan.isWritable_of_mem_rest

namespace Table

/-- All that a draft will be checked for is an identifier. -/
structure Draft.IsNamed (draft : Draft) : Prop where
  member : ∀ entry ∈ draft.groups.entries, ∀ member ∈ entry.2,
    Text.isIdentifierChars member.toList = true
  column : ∀ labels ∈ draft.columns?, ∀ label ∈ labels,
    Text.isIdentifierChars label.toList = true
  row : ∀ row ∈ draft.rows, Text.isIdentifierChars row.1.toList = true

/-- Statements that can be written make a draft of identifiers. -/
theorem Draft.isNamed_of_addAll {statements : List Statement} {draft : Draft}
    (hwritable : ∀ statement ∈ statements, statement.isWritable = true)
    (hdraft : Draft.empty.addAll statements = .ok draft) : draft.IsNamed := by
  have hgathers := gathers_of_addAll hdraft
  constructor
  · intro entry hentry member hmember
    rw [hgathers.groups] at hentry
    obtain ⟨statement, hstatement, hgroup⟩ := List.mem_filterMap.mp hentry
    cases statement <;> cases hgroup
    have hnames := (Bool.and_eq_true_iff.mp (hwritable _ hstatement)).2
    exact ((Statement.areNames_iff _).mp hnames).2 member hmember
  · intro labels hlabels label hlabel
    replace hlabels := Option.mem_toList.mpr hlabels
    rw [hgathers.columns] at hlabels
    obtain ⟨statement, hstatement, hcolumns⟩ := List.mem_filterMap.mp hlabels
    cases statement <;> cases hcolumns
    exact ((Statement.areNames_iff _).mp (hwritable _ hstatement)).2 label hlabel
  · intro row hrow
    rw [hgathers.rows] at hrow
    obtain ⟨statement, hstatement, hcells⟩ := List.mem_filterMap.mp hrow
    cases statement <;> cases hcells
    exact ((Statement.areNames_iff _).mp (hwritable _ hstatement)).2 _ List.mem_cons_self

end Table

end Names

/-- The label of a row is not looked at again when the row is checked. -/
theorem Matrix.rowFault_ne_invalidLabel {columns : List String} {row : LabelledRow}
    {label : String} : ¬ RowFault columns row (.invalidLabel label) := by
  intro hfault
  obtain ⟨check, hcheck, hfound⟩ := hfault.exists_check
  simp only [List.mem_cons, List.not_mem_nil, or_false] at hcheck
  rcases hcheck with rfl | rfl
  · cases hfound.2
  · cases hfound.2

section Tables

variable [Text.LabelAlphabet]

namespace Matrix

/-- The labels of columns and rows are what a table is first refused for. -/
theorem ofRows_eq_invalidLabel {columns : List String} {rows : List LabelledRow}
    {endMarker label : String}
    (herror : ofRows columns rows endMarker = .error (.invalidLabel label)) :
    label ∈ columns ++ rows.map Prod.fst ∧ Text.isLabel label = false := by
  rw [ofRows_eq_error_iff_firstFound] at herror
  obtain ⟨check, hcheck, hfound⟩ := herror.exists_check
  simp only [tableChecks, axisChecks, List.cons_append, List.nil_append, List.mem_cons,
    List.not_mem_nil, or_false] at hcheck
  rcases hcheck with rfl | rfl | rfl | rfl | rfl | rfl
  · obtain ⟨found, hfirst, heq⟩ := hfound
    obtain rfl := TableError.invalidLabel.inj heq
    exact ⟨hfirst.mem, hfirst.holds⟩
  · obtain ⟨repeated, -, heq⟩ := hfound
    cases heq
  · obtain ⟨repeated, -, heq⟩ := hfound
    cases heq
  · cases hfound.2
  · obtain ⟨row, -, hrow⟩ := hfound
    exact absurd hrow rowFault_ne_invalidLabel
  · cases hfound.2

theorem solve_eq_table_error_iff {matrix : Matrix} {groups : Groups} {error : TableError} :
    matrix.solve groups = .error (.table error) ↔
      Classes.ofMatrix matrix groups = .error error := by
  unfold solve
  split
  · rename_i found hfound
    simp [hfound]
  · rename_i classes hclasses
    -- Behind the classes no step fails with an error of the table.
    simp only [hclasses, reduceCtorEq, iff_false]
    split
    · rename_i halt _
      cases halt <;> simp [SolveError.ofHalt]
    · split <;> simp

end Matrix

namespace Classes

theorem memberFault_eq_invalidLabel {labels met : List String} {member label : String}
    (hfault : Groups.MemberFault labels met member (.invalidLabel label)) :
    label = member ∧ Text.isLabel label = false := by
  obtain ⟨check, hcheck, hfound⟩ := hfault.exists_check
  simp only [List.mem_cons, List.not_mem_nil, or_false] at hcheck
  rcases hcheck with rfl | rfl | rfl
  · obtain rfl := TableError.invalidLabel.inj hfound.2
    exact ⟨rfl, hfound.1⟩
  · cases hfound.2
  · cases hfound.2

/-- The members of groups are what classes are refused for by name. -/
theorem ofMatrix_eq_invalidLabel {matrix : Matrix} {groups : Groups} {label : String}
    (herror : ofMatrix matrix groups = .error (.invalidLabel label)) :
    (∃ entry ∈ groups.entries, label ∈ entry.2) ∧ Text.isLabel label = false := by
  rw [ofMatrix_eq_error_iff_firstFound] at herror
  obtain ⟨check, hcheck, hfound⟩ := herror.exists_check
  simp only [Groups.checks, List.mem_cons, List.not_mem_nil, or_false] at hcheck
  rcases hcheck with rfl | rfl | rfl
  · obtain ⟨entry, -, heq⟩ := hfound
    cases heq
  · cases hfound with
    | @member before after group member earlier later _ hentries _ _ hfault =>
        obtain ⟨rfl, hinvalid⟩ := memberFault_eq_invalidLabel hfault
        have hentry : (group, earlier ++ label :: later) ∈ groups.entries := by
          rw [hentries]
          exact List.mem_append_right before List.mem_cons_self
        exact ⟨⟨_, hentry, List.mem_append_right earlier List.mem_cons_self⟩, hinvalid⟩
  · cases hfound.2

end Classes

theorem Table.Draft.finish_eq_ok {draft : Draft} {table : Table}
    (htable : draft.finish = .ok table) : table.groups = draft.groups := by
  obtain ⟨endMarker, columns, -, -, -, hgroups, -⟩ := (draft.finish_eq_ok_iff table).mp htable
  exact hgroups

end Tables

section BothAlphabets

variable [files : Text.FileAlphabet] [labels : Text.LabelAlphabet]

namespace Table

/-- A draft of identifiers is refused for no label but `_`. -/
theorem Draft.IsNamed.eq_of_finish (hwithin : files.toAlphabet.Within labels.toAlphabet)
    {draft : Draft} (hnamed : draft.IsNamed) {label : String}
    (herror : draft.finish = .error (.invalidLabel label)) : label = "_" := by
  unfold finish at herror
  split at herror
  · cases herror
  split at herror
  · cases herror
  rename_i columns hcolumns
  split at herror
  · rename_i error hrows
    rw [Except.error.inj herror] at hrows
    obtain ⟨hmem, hinvalid⟩ := Matrix.ofRows_eq_invalidLabel hrows
    apply Text.eq_underscore_of_not_isLabel hwithin _ hinvalid
    rcases List.mem_append.mp hmem with hcolumn | hrow
    · exact hnamed.column columns hcolumns label hcolumn
    · obtain ⟨row, hstated, rfl⟩ := List.mem_map.mp hrow
      exact hnamed.row row hstated
  · cases herror

theorem ofText_eq (text : String) :
    ofText text =
      match Statement.parse text with
      | .error error => .error (.malformed error)
      | .ok statements => ofStatements statements :=
  rfl

/-- A text that is no malformed one has a draft, or states something twice. -/
theorem ofText_cases {text : String} {result : Except TableError Table}
    (hresult : ofText text = result) :
    (∃ error, result = .error (.malformed error)) ∨
    (∃ label, result = .error (.repeatedGroup label)) ∨
    (∃ keyword, result = .error (.repeatedStatement keyword)) ∨
    ∃ draft, Draft.IsNamed draft ∧ draft.finish = result := by
  rw [ofText_eq] at hresult
  cases hparse : Statement.parse text with
  | error error =>
      rw [hparse] at hresult
      exact Or.inl ⟨error, hresult.symm⟩
  | ok statements =>
      rw [hparse] at hresult
      change ofStatements statements = result at hresult
      rw [ofStatements] at hresult
      split at hresult
      · rename_i error herror
        obtain ⟨before, statement, after, -, -, hrepeats⟩ :=
          (Draft.addAll_eq_error_iff statements error).mp herror
        rcases hrepeats.error_eq with ⟨label, rfl⟩ | ⟨keyword, rfl⟩
        · exact Or.inr (Or.inl ⟨label, hresult.symm⟩)
        · exact Or.inr (Or.inr (Or.inl ⟨keyword, hresult.symm⟩))
      · rename_i draft hdraft
        have hnamed := Draft.isNamed_of_addAll (Statement.isWritable_of_parse hparse) hdraft
        exact Or.inr (Or.inr (Or.inr ⟨draft, hnamed, hresult⟩))

end Table

/-- In whatever two alphabets files are cut and labels checked, as long as labels know
every character that files do, the identifiers of a text are labels, but for `_`.  So a
table file is refused for no other invalid label than `_`, and so are the groups of a
table that a file describes, which then have `_` as a member. -/
theorem identifiers_are_labels (hwithin : files.toAlphabet.Within labels.toAlphabet)
    (text : String) :
    (∀ located ∈ (Scan.ofText text).tokens, ∀ name, located.token = .identifier name →
      name ≠ "_" → Text.isLabel name = true) ∧
    (∀ label, Table.ofText text = .error (.invalidLabel label) → label = "_") ∧
    ∀ table label, Table.ofText text = .ok table →
      table.matrix.solve table.groups = .error (.table (.invalidLabel label)) →
        label = "_" ∧ ∃ entry ∈ table.groups.entries, label ∈ entry.2 := by
  refine ⟨?_, ?_, ?_⟩
  · intro located hlocated name hname hne
    have hwritable := Scan.isWritable_of_mem_rest located hlocated
    rw [hname] at hwritable
    exact Text.isLabel_of_isIdentifierChars hwithin hwritable hne
  · intro label herror
    rcases Table.ofText_cases herror with
      ⟨error, hother⟩ | ⟨other, hother⟩ | ⟨keyword, hother⟩ | ⟨draft, hnamed, hfinish⟩
    · cases hother
    · cases hother
    · cases hother
    · exact hnamed.eq_of_finish hwithin hfinish
  · intro table label htable hsolve
    rcases Table.ofText_cases htable with
      ⟨error, hother⟩ | ⟨other, hother⟩ | ⟨keyword, hother⟩ | ⟨draft, hnamed, hfinish⟩
    · cases hother
    · cases hother
    · cases hother
    -- Groups come from the draft, and all that it names are identifiers.
    · obtain ⟨⟨entry, hentry, hmember⟩, hinvalid⟩ :=
        Classes.ofMatrix_eq_invalidLabel (Matrix.solve_eq_table_error_iff.mp hsolve)
      refine ⟨?_, entry, hentry, hmember⟩
      rw [Table.Draft.finish_eq_ok hfinish] at hentry
      exact Text.eq_underscore_of_not_isLabel hwithin
        (hnamed.member entry hentry label hmember) hinvalid

end BothAlphabets

/-- A table file in which `_` is a label. -/
def underscoreLabelText : String := "@end _;\n@columns _;\n@row _: .;\n"

/-- A table file in which `_` is the one symbol of a class. -/
def underscoreMemberText : String := "@group a = _;\n@end a;\n@columns a;\n@row a: .;\n"

def underscoreMemberTable : Table where
  matrix := ⟨["a"], #v[.unrelated], ⟨0, by decide⟩, by decide, by decide⟩
  groups := ⟨[("a", ["_"])], by decide⟩
  order? := none

theorem underscore_is_no_label :
    Text.isLabel "a" = true ∧
    (∃ label, Table.ofText underscoreLabelText = .error (.invalidLabel label) ∧ label = "_") ∧
    ∃ table label, Table.ofText underscoreMemberText = .ok table ∧
      table.matrix.solve table.groups = .error (.table (.invalidLabel label)) ∧
        label = "_" ∧ ∃ entry ∈ table.groups.entries, label ∈ entry.2 := by
  have hscan : (Scan.ofText underscoreMemberText).tokens[1]? =
      some ⟨⟨0, 7, 7⟩, .identifier "a", ⟨0, 8, 8⟩⟩ := by
    decide +kernel
  have hrefused : Table.ofText underscoreLabelText = .error (.invalidLabel "_") := by
    decide +kernel
  have htable : Table.ofText underscoreMemberText = .ok underscoreMemberTable := by
    decide +kernel
  have hclasses : Classes.ofMatrix underscoreMemberTable.matrix underscoreMemberTable.groups =
      .error (.invalidLabel "_") := by
    decide +kernel
  have hsolve := Matrix.solve_eq_table_error hclasses
  obtain ⟨htokens, -, hgroups⟩ := identifiers_are_labels Text.fileAlphabet_within_labelAlphabet
    underscoreMemberText
  refine ⟨htokens _ (List.mem_of_getElem? hscan) "a" rfl (by decide), ?_, ?_⟩
  · exact ⟨"_", hrefused, (identifiers_are_labels Text.fileAlphabet_within_labelAlphabet
      underscoreLabelText).2.1 "_" hrefused⟩
  · exact ⟨underscoreMemberTable, "_", htable, hsolve,
      hgroups underscoreMemberTable "_" htable hsolve⟩

end OperatorPrecedence
