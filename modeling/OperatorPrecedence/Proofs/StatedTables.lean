import OperatorPrecedence.Proofs.AcceptedTables
import OperatorPrecedence.Proofs.FirstFaults
import OperatorPrecedence.Proofs.GatheredStatements

/-!
Which lists of statements state a table.  The first statement that repeats an earlier
one is refused; what is left of each kind decides the rest, so the order of the
statements matters only among the rows and among the groups.
-/

namespace OperatorPrecedence

universe u v

section Views

variable {α : Type u} {β : Type v} {view : α → Option β} {form : β → α}

/-- Where a view reads the entries of a form, the values read are those of the form. -/
theorem mem_filterMap_view_iff (hview : ∀ entry value, view entry = some value ↔ entry = form value)
    {entries : List α} {value : β} : value ∈ entries.filterMap view ↔ form value ∈ entries := by
  simp [List.mem_filterMap, hview]

/-- Something is given when an entry of the form gives it. -/
theorem isSome_iff_of_toList_eq
    (hview : ∀ entry value, view entry = some value ↔ entry = form value) {entries : List α}
    {given? : Option β} (hgiven : given?.toList = entries.filterMap view) :
    given?.isSome = true ↔ ∃ value, form value ∈ entries := by
  simp only [← mem_filterMap_view_iff hview, ← hgiven, Option.mem_toList, Option.isSome_iff_exists]

/-- An entry of a form behind another one gives more than one value. -/
theorem one_lt_length_filterMap
    (hview : ∀ entry value, view entry = some value ↔ entry = form value) {before : List α}
    {first : β} (hfirst : form first ∈ before) (second : β) (after : List α) :
    1 < ((before ++ form second :: after).filterMap view).length := by
  have hmem := (mem_filterMap_view_iff hview).mpr hfirst
  have hpos := List.length_pos_of_mem hmem
  rw [List.filterMap_append, List.filterMap_cons_some ((hview _ second).mpr rfl),
    List.length_append, List.length_cons]
  omega

theorem ite_error_eq_error_iff (given : Prop) [Decidable given] (again found : α) (next : β) :
    (if given then Except.error again else Except.ok next) = .error found ↔
      FoundIf given again found := by
  by_cases hgiven : given <;> simp [hgiven, FoundIf, eq_comm]

theorem eq_of_toList_perm {first second : Option β} (hperm : first.toList.Perm second.toList) :
    first = second := by
  cases first with
  | none => exact (Option.toList_eq_nil_iff.mp hperm.nil_eq.symm).symm
  | some value =>
      have hsingle : [value] = second.toList := List.singleton_perm.mp hperm
      exact (Option.toList_eq_singleton_iff.mp hsingle.symm).symm

end Views

namespace Statement

/-- The labels of the groups that statements give. -/
def groupLabels (statements : List Statement) : List String :=
  (statements.filterMap group?).map Prod.fst

theorem mem_groupLabels_iff (statements : List Statement) (label : String) :
    label ∈ groupLabels statements ↔ ∃ members, .group label members ∈ statements := by
  simp only [groupLabels, List.mem_map, mem_filterMap_view_iff group?_eq_some_iff]
  constructor
  · rintro ⟨entry, hentry, rfl⟩
    exact ⟨entry.2, hentry⟩
  · rintro ⟨members, hmembers⟩
    exact ⟨(label, members), hmembers, rfl⟩

/-- A statement says again what one before it has said, and the error that reports it.
Rows may come as often as there are. -/
inductive Repeats (before : List Statement) : Statement → TableError → Prop where
  | group {label : String} {members others : List String} :
      .group label others ∈ before → Repeats before (.group label members) (.repeatedGroup label)
  | endMarker {label other : String} :
      .endMarker other ∈ before →
        Repeats before (.endMarker label) (.repeatedStatement .endMarker)
  | columns {labels others : List String} :
      .columns others ∈ before → Repeats before (.columns labels) (.repeatedStatement .columns)
  | order {labels others : List String} :
      .order others ∈ before → Repeats before (.order labels) (.repeatedStatement .order)

theorem Repeats.error_eq {before : List Statement} {statement : Statement} {error : TableError}
    (hrepeats : Repeats before statement error) :
    (∃ label, error = .repeatedGroup label) ∨ ∃ keyword, error = .repeatedStatement keyword := by
  cases hrepeats with
  | group => exact Or.inl ⟨_, rfl⟩
  | endMarker | columns | order => exact Or.inr ⟨_, rfl⟩

structure Unrepeated (statements : List Statement) : Prop where
  groups : (groupLabels statements).Nodup
  endMarker : (statements.filterMap endMarker?).length ≤ 1
  columns : (statements.filterMap columns?).length ≤ 1
  order : (statements.filterMap order?).length ≤ 1

/-- What is wrong with the first statement that repeats an earlier one. -/
def FirstRepetition (statements : List Statement) (error : TableError) : Prop :=
  ∃ before statement after, statements = before ++ statement :: after ∧ Unrepeated before ∧
    Repeats before statement error

/-- The rows do not make a matrix with the columns and the end marker. -/
def MisfitRows (statements : List Statement) (error : TableError) : Prop :=
  ∃ columns ∈ statements.filterMap columns?, ∃ endMarker ∈ statements.filterMap endMarker?,
    Matrix.ofRows columns (statements.filterMap row?) endMarker = .error error

def checks (statements : List Statement) : List (TableError → Prop) :=
  [FirstRepetition statements,
    FoundIf (statements.filterMap endMarker? = []) (.missingStatement .endMarker),
    FoundIf (statements.filterMap columns? = []) (.missingStatement .columns),
    MisfitRows statements]

/-- The statements give one end marker, one list of columns, at most one order and
groups with distinct labels, and with their rows this makes a matrix. -/
structure Determine (statements : List Statement) (endMarker : String)
    (columns : List String) (matrix : Matrix) : Prop where
  endMarker_eq : statements.filterMap endMarker? = [endMarker]
  columns_eq : statements.filterMap columns? = [columns]
  order_le : (statements.filterMap order?).length ≤ 1
  groups_nodup : (groupLabels statements).Nodup
  matrix_eq : Matrix.ofRows columns (statements.filterMap row?) endMarker = .ok matrix

theorem Unrepeated.not_repeats {before after : List Statement} {statement : Statement}
    (hunrepeated : Unrepeated (before ++ statement :: after)) (error : TableError) :
    ¬ Repeats before statement error := by
  intro hrepeats
  cases hrepeats with
  | @group label members others hbefore =>
      have hlabel := (mem_groupLabels_iff before label).mpr ⟨others, hbefore⟩
      have hnodup := hunrepeated.groups
      rw [groupLabels, List.filterMap_append, List.map_append] at hnodup
      exact (List.nodup_append.mp hnodup).2.2 label hlabel label (by simp) rfl
  | @endMarker label other hbefore =>
      have hmore := one_lt_length_filterMap endMarker?_eq_some_iff hbefore label after
      exact absurd hunrepeated.endMarker (Nat.not_le.mpr hmore)
  | @columns labels others hbefore =>
      have hmore := one_lt_length_filterMap columns?_eq_some_iff hbefore labels after
      exact absurd hunrepeated.columns (Nat.not_le.mpr hmore)
  | @order labels others hbefore =>
      have hmore := one_lt_length_filterMap order?_eq_some_iff hbefore labels after
      exact absurd hunrepeated.order (Nat.not_le.mpr hmore)

/-- Statements in another order determine the same matrix when their rows and their
groups come in the same order. -/
theorem Determine.of_perm {statements others : List Statement} {endMarker : String}
    {columns : List String} {matrix : Matrix}
    (hdetermine : Determine statements endMarker columns matrix)
    (hperm : statements.Perm others) (hrows : others.filterMap row? = statements.filterMap row?)
    (hgroups : others.filterMap group? = statements.filterMap group?) :
    Determine others endMarker columns matrix where
  endMarker_eq := by
    have hsame := hperm.filterMap endMarker?
    rw [hdetermine.endMarker_eq] at hsame
    exact (List.singleton_perm.mp hsame).symm
  columns_eq := by
    have hsame := hperm.filterMap columns?
    rw [hdetermine.columns_eq] at hsame
    exact (List.singleton_perm.mp hsame).symm
  order_le := (hperm.filterMap order?).length_eq ▸ hdetermine.order_le
  groups_nodup := by
    rw [groupLabels, hgroups]
    exact hdetermine.groups_nodup
  matrix_eq := by
    rw [hrows]
    exact hdetermine.matrix_eq

end Statement

namespace Table

open Statement

namespace Draft

theorem addAll_eq_foldlM (draft : Draft) (statements : List Statement) :
    draft.addAll statements = statements.foldlM add draft := by
  induction statements generalizing draft with
  | nil => rfl
  | cons statement statements ih =>
      rw [addAll, List.foldlM_cons]
      cases draft.add statement with
      | error error => rfl
      | ok next => exact ih next

/-- From nothing, a draft gathers what the statements give. -/
theorem holds_of_addAll {statements : List Statement} {draft : Draft}
    (hdraft : empty.addAll statements = .ok draft) :
    draft.groups.entries = statements.filterMap Statement.group? ∧
      draft.endMarker?.toList = statements.filterMap Statement.endMarker? ∧
      draft.columns?.toList = statements.filterMap Statement.columns? ∧
      draft.order?.toList = statements.filterMap Statement.order? ∧
      draft.rows = statements.filterMap Statement.row? := by
  have hgathers := gathers_of_addAll hdraft
  exact ⟨hgathers.groups, hgathers.endMarker, hgathers.columns, hgathers.order, hgathers.rows⟩

theorem add_eq_error_iff {draft : Draft} {before : List Statement}
    (hbefore : empty.addAll before = .ok draft) (statement : Statement) (error : TableError) :
    draft.add statement = .error error ↔ Repeats before statement error := by
  obtain ⟨hgroups, hend, hcolumns, horder, -⟩ := holds_of_addAll hbefore
  cases statement with
  | group label members =>
      have hlabels : draft.groups.entries.map Prod.fst = groupLabels before :=
        congrArg (List.map Prod.fst) hgroups
      have hinsert := draft.groups.insert_eq_error_iff label members error
      rw [hlabels, mem_groupLabels_iff] at hinsert
      have hadd : draft.add (.group label members) = .error error ↔
          draft.groups.insert label members = .error error := by
        rw [add]
        cases draft.groups.insert label members <;> simp
      rw [hadd, hinsert]
      constructor
      · rintro ⟨⟨others, hothers⟩, rfl⟩
        exact .group hothers
      · intro hrepeats
        cases hrepeats with
        | group hothers => exact ⟨⟨_, hothers⟩, rfl⟩
  | endMarker label =>
      rw [add, ite_error_eq_error_iff, isSome_iff_of_toList_eq endMarker?_eq_some_iff hend]
      constructor
      · rintro ⟨⟨other, hother⟩, rfl⟩
        exact .endMarker hother
      · intro hrepeats
        cases hrepeats with
        | endMarker hother => exact ⟨⟨_, hother⟩, rfl⟩
  | columns labels =>
      rw [add, ite_error_eq_error_iff, isSome_iff_of_toList_eq columns?_eq_some_iff hcolumns]
      constructor
      · rintro ⟨⟨others, hothers⟩, rfl⟩
        exact .columns hothers
      · intro hrepeats
        cases hrepeats with
        | columns hothers => exact ⟨⟨_, hothers⟩, rfl⟩
  | order labels =>
      rw [add, ite_error_eq_error_iff, isSome_iff_of_toList_eq order?_eq_some_iff horder]
      constructor
      · rintro ⟨⟨others, hothers⟩, rfl⟩
        exact .order hothers
      · intro hrepeats
        cases hrepeats with
        | order hothers => exact ⟨⟨_, hothers⟩, rfl⟩
  | row label cells =>
      constructor
      · intro herror
        cases herror
      · intro hrepeats
        cases hrepeats

theorem exists_addAll_iff (statements : List Statement) :
    (∃ draft, empty.addAll statements = .ok draft) ↔ Unrepeated statements := by
  constructor
  · rintro ⟨draft, hdraft⟩
    obtain ⟨hgroups, hend, hcolumns, horder, -⟩ := holds_of_addAll hdraft
    have hlabels : draft.groups.entries.map Prod.fst = groupLabels statements :=
      congrArg (List.map Prod.fst) hgroups
    exact
      { groups := hlabels ▸ draft.groups.labels_nodup
        endMarker := hend ▸ Option.length_toList_le
        columns := hcolumns ▸ Option.length_toList_le
        order := horder ▸ Option.length_toList_le }
  · intro hunrepeated
    cases hadded : empty.addAll statements with
    | ok draft => exact ⟨draft, rfl⟩
    | error error =>
        rw [addAll_eq_foldlM, foldlM_eq_error_iff] at hadded
        obtain ⟨before, statement, after, reached, rfl, hbefore, herror⟩ := hadded
        rw [← addAll_eq_foldlM] at hbefore
        have hrepeats := (add_eq_error_iff hbefore statement error).mp herror
        exact absurd hrepeats (hunrepeated.not_repeats error)

theorem addAll_eq_error_iff (statements : List Statement) (error : TableError) :
    empty.addAll statements = .error error ↔ FirstRepetition statements error := by
  rw [addAll_eq_foldlM, foldlM_eq_error_iff]
  constructor
  · rintro ⟨before, statement, after, reached, hstatements, hbefore, herror⟩
    rw [← addAll_eq_foldlM] at hbefore
    refine ⟨before, statement, after, hstatements, ?_, ?_⟩
    · exact (exists_addAll_iff before).mp ⟨reached, hbefore⟩
    · exact (add_eq_error_iff hbefore statement error).mp herror
  · rintro ⟨before, statement, after, hstatements, hunrepeated, hrepeats⟩
    obtain ⟨reached, hbefore⟩ := (exists_addAll_iff before).mpr hunrepeated
    have herror := (add_eq_error_iff hbefore statement error).mpr hrepeats
    rw [addAll_eq_foldlM] at hbefore
    exact ⟨before, statement, after, reached, hstatements, hbefore, herror⟩

end Draft

/-- Statements are refused for what the first of their checks finds that finds
anything. -/
theorem ofStatements_eq_error_iff_firstFound (statements : List Statement)
    (error : TableError) :
    ofStatements statements = .error error ↔ FirstFound (checks statements) error := by
  rw [ofStatements, checks]
  cases hadded : Draft.empty.addAll statements with
  | error first =>
      have hfirst : ∀ other, FirstRepetition statements other ↔ first = other := by
        intro other
        rw [← Draft.addAll_eq_error_iff, hadded, Except.error.injEq]
      rw [firstFound_cons_of_forall_iff hfirst, Except.error.injEq]
  | ok draft =>
      -- Nothing is said twice, so the checks behind the first decide, in the order of `finish`.
      have hnone : ∀ other, ¬ FirstRepetition statements other := by
        intro other
        rw [← Draft.addAll_eq_error_iff, hadded]
        exact nofun
      obtain ⟨-, hend, hcolumns, -, hrows⟩ := Draft.holds_of_addAll hadded
      rw [firstFound_cons_of_forall_not hnone, ← hend, ← hcolumns]
      change draft.finish = .error error ↔ _
      rw [Draft.finish]
      split
      · rename_i hmissing
        rw [firstFound_cons_of_some (ite_eq_some_iff_foundIf _ _) (if_pos (by simp [hmissing])),
          Except.error.injEq]
      rename_i endMarker hgiven
      rw [firstFound_cons_of_none (ite_eq_some_iff_foundIf _ _) (if_neg (by simp [hgiven]))]
      split
      · rename_i hmissing
        rw [firstFound_cons_of_some (ite_eq_some_iff_foundIf _ _) (if_pos (by simp [hmissing])),
          Except.error.injEq]
      rename_i columns hlisted
      rw [firstFound_cons_of_none (ite_eq_some_iff_foundIf _ _) (if_neg (by simp [hlisted])),
        firstFound_cons_iff]
      have hmisfit : MisfitRows statements error ↔
          Matrix.ofRows columns draft.rows endMarker = .error error := by
        simp [MisfitRows, ← hend, ← hcolumns, ← hrows, hgiven, hlisted]
      rw [hmisfit]
      split
      · rename_i found hfound
        simp [hfound, firstFound_nil]
      · rename_i matrix hmatrix
        simp [hmatrix, firstFound_nil]

/-- A table holds what its statements determine. -/
theorem determine_of_ofStatements {statements : List Statement} {table : Table}
    (htable : ofStatements statements = .ok table) :
    (∃ endMarker columns, Determine statements endMarker columns table.matrix) ∧
      table.groups.entries = statements.filterMap group? ∧
      table.order?.toList = statements.filterMap Statement.order? := by
  rw [ofStatements] at htable
  cases hadded : Draft.empty.addAll statements with
  | error error =>
      rw [hadded] at htable
      cases htable
  | ok draft =>
      rw [hadded] at htable
      obtain ⟨hgroups, hend, hcolumns, horder, hrows⟩ := Draft.holds_of_addAll hadded
      obtain ⟨endMarker, columns, hgiven, hlisted, hmatrix, hkept, hordered⟩ :=
        (draft.finish_eq_ok_iff table).mp htable
      have hunrepeated := (Draft.exists_addAll_iff statements).mp ⟨draft, hadded⟩
      rw [hgiven] at hend
      rw [hlisted] at hcolumns
      rw [hrows] at hmatrix
      refine ⟨⟨endMarker, columns, ?_⟩, ?_, ?_⟩
      · exact ⟨hend.symm, hcolumns.symm, hunrepeated.order, hunrepeated.groups, hmatrix⟩
      · rw [hkept, hgroups]
      · rw [hordered, horder]

/-- Statements that determine a matrix make a table with it. -/
theorem exists_of_determine {statements : List Statement} {endMarker : String}
    {columns : List String} {matrix : Matrix}
    (hdetermine : Determine statements endMarker columns matrix) :
    ∃ table, ofStatements statements = .ok table ∧ table.matrix = matrix := by
  have hunrepeated : Unrepeated statements :=
    { groups := hdetermine.groups_nodup
      endMarker := by rw [hdetermine.endMarker_eq, List.length_singleton]
      columns := by rw [hdetermine.columns_eq, List.length_singleton]
      order := hdetermine.order_le }
  obtain ⟨draft, hdraft⟩ := (Draft.exists_addAll_iff statements).mpr hunrepeated
  obtain ⟨-, hend, hcolumns, -, hrows⟩ := Draft.holds_of_addAll hdraft
  rw [hdetermine.endMarker_eq, Option.toList_eq_singleton_iff] at hend
  rw [hdetermine.columns_eq, Option.toList_eq_singleton_iff] at hcolumns
  refine ⟨⟨matrix, draft.groups, draft.order?⟩, ?_, rfl⟩
  rw [ofStatements, hdraft]
  apply (draft.finish_eq_ok_iff _).mpr
  refine ⟨endMarker, columns, hend, hcolumns, ?_, rfl, rfl⟩
  rw [hrows]
  exact hdetermine.matrix_eq

/-- Two tables with the same matrix, the same groups and rearranged orders are the
same. -/
theorem eq_of_parts {first second : Table} (hmatrix : first.matrix = second.matrix)
    (hgroups : first.groups.entries = second.groups.entries)
    (horder : first.order?.toList.Perm second.order?.toList) : first = second := by
  have hsame := eq_of_toList_perm horder
  obtain ⟨matrix, ⟨entries, hnodup⟩, order?⟩ := first
  obtain ⟨otherMatrix, ⟨otherEntries, hother⟩, otherOrder?⟩ := second
  simp only at hmatrix hgroups hsame
  subst hmatrix hgroups hsame
  rfl

/-- Statements make a table exactly when they give one end marker, one list of columns,
at most one order and groups with distinct labels, and the rows in their order make a
matrix with the columns and the end marker.  The table holds this matrix, the groups in
their order and the order.  Rearranged statements make the same table if the rows and
the groups stay in their order.  Any other statements are refused for the first that
repeats an earlier one, then for a missing end marker, then for missing columns, and
last for what is wrong with the matrix. -/
theorem ofStatements_table_or_first_fault (statements : List Statement) :
    ((∃ table, ofStatements statements = .ok table) ↔
      ∃ endMarker columns matrix, Determine statements endMarker columns matrix) ∧
    (∀ table, ofStatements statements = .ok table →
      (∀ endMarker columns matrix, Determine statements endMarker columns matrix →
        table.matrix = matrix) ∧
      table.groups.entries = statements.filterMap group? ∧
      table.order?.toList = statements.filterMap Statement.order? ∧
      ∀ others, statements.Perm others →
        others.filterMap row? = statements.filterMap row? →
        others.filterMap group? = statements.filterMap group? →
          ofStatements others = .ok table) ∧
    ∀ error, ofStatements statements = .error error ↔ FirstFound (checks statements) error := by
  refine ⟨⟨?_, ?_⟩, ?_, ofStatements_eq_error_iff_firstFound statements⟩
  · rintro ⟨table, htable⟩
    obtain ⟨⟨endMarker, columns, hdetermine⟩, -⟩ := determine_of_ofStatements htable
    exact ⟨endMarker, columns, table.matrix, hdetermine⟩
  · rintro ⟨endMarker, columns, matrix, hdetermine⟩
    obtain ⟨table, htable, -⟩ := exists_of_determine hdetermine
    exact ⟨table, htable⟩
  · intro table htable
    obtain ⟨⟨endMarker, columns, hdetermine⟩, hgroups, horder⟩ :=
      determine_of_ofStatements htable
    refine ⟨?_, hgroups, horder, ?_⟩
    · intro otherEnd otherColumns matrix hother
      obtain ⟨made, hmade, hmatrix⟩ := exists_of_determine hother
      rw [← hmatrix, Except.ok.inj (htable.symm.trans hmade)]
    · intro others hperm hrows hsame
      obtain ⟨made, hmade, hmatrix⟩ := exists_of_determine (hdetermine.of_perm hperm hrows hsame)
      obtain ⟨-, hmadeGroups, hmadeOrder⟩ := determine_of_ofStatements hmade
      have horders : table.order?.toList.Perm made.order?.toList := by
        rw [horder, hmadeOrder]
        exact hperm.filterMap Statement.order?
      rw [hmade]
      apply congrArg Except.ok
      exact (eq_of_parts hmatrix.symm (by rw [hgroups, hmadeGroups, hsame]) horders).symm

/-- The order of a file and its end marker. -/
def rotatedHead : List Statement :=
  [.order ["c", "plus"], .endMarker "c"]

def rotatedBody : List Statement :=
  [.columns ["b", "c", "a"], .group "b" ["plus", "minus"]] ++
    Matrix.rotatedRows.map fun row => .row row.1 row.2

theorem rotated_table_or_first_fault :
    (∃ table, ofStatements (rotatedHead ++ rotatedBody) = .ok table ∧
      table.matrix = Matrix.rotated ∧ table.groups.entries = [("b", ["plus", "minus"])] ∧
      ofStatements (rotatedBody ++ rotatedHead) = .ok table) ∧
    FirstFound (checks (rotatedBody ++ rotatedBody ++ [.group "b" []]))
      (.repeatedStatement .columns) := by
  have haccepted : Matrix.ofRows ["b", "c", "a"] Matrix.rotatedRows "c" = .ok Matrix.rotated := by
    decide +kernel
  have hdetermine : Determine (rotatedHead ++ rotatedBody) "c" ["b", "c", "a"] Matrix.rotated :=
    ⟨rfl, rfl, by decide, by decide, haccepted⟩
  obtain ⟨hmade, htable, -⟩ := ofStatements_table_or_first_fault (rotatedHead ++ rotatedBody)
  constructor
  · obtain ⟨table, hof⟩ := hmade.mpr ⟨_, _, _, hdetermine⟩
    obtain ⟨hmatrix, hgroups, -, hrearranged⟩ := htable table hof
    exact ⟨table, hof, hmatrix _ _ _ hdetermine, hgroups,
      hrearranged _ List.perm_append_comm rfl rfl⟩
  · apply ((ofStatements_table_or_first_fault _).2.2 _).mp
    decide

end Table

end OperatorPrecedence
