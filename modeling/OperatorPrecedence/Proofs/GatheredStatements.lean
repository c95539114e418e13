import OperatorPrecedence.Table

/-!
What a draft holds after a list of statements: of each kind of statement those that
the list has, in its order, behind what the draft held before.
-/

namespace OperatorPrecedence

namespace Statement

@[simp] def group? : Statement → Option (String × List String)
  | .group label members => some (label, members)
  | .endMarker _ | .columns _ | .row _ _ | .order _ => none

@[simp] def endMarker? : Statement → Option String
  | .endMarker label => some label
  | .group _ _ | .columns _ | .row _ _ | .order _ => none

@[simp] def columns? : Statement → Option (List String)
  | .columns labels => some labels
  | .group _ _ | .endMarker _ | .row _ _ | .order _ => none

@[simp] def row? : Statement → Option Matrix.LabelledRow
  | .row label cells => some (label, cells)
  | .group _ _ | .endMarker _ | .columns _ | .order _ => none

@[simp] def order? : Statement → Option (List String)
  | .order labels => some labels
  | .group _ _ | .endMarker _ | .columns _ | .row _ _ => none

theorem group?_eq_some_iff (statement : Statement) (entry : String × List String) :
    statement.group? = some entry ↔ statement = .group entry.1 entry.2 := by
  cases statement <;> simp [Prod.ext_iff]

theorem endMarker?_eq_some_iff (statement : Statement) (label : String) :
    statement.endMarker? = some label ↔ statement = .endMarker label := by
  cases statement <;> simp

theorem columns?_eq_some_iff (statement : Statement) (labels : List String) :
    statement.columns? = some labels ↔ statement = .columns labels := by
  cases statement <;> simp

theorem order?_eq_some_iff (statement : Statement) (labels : List String) :
    statement.order? = some labels ↔ statement = .order labels := by
  cases statement <;> simp

end Statement

namespace Table.Draft

/-- The later draft holds what the earlier one held and what the statements give. -/
structure Gathers (draft : Draft) (statements : List Statement) (last : Draft) : Prop where
  groups : last.groups.entries =
    draft.groups.entries ++ statements.filterMap Statement.group?
  endMarker : last.endMarker?.toList =
    draft.endMarker?.toList ++ statements.filterMap Statement.endMarker?
  columns : last.columns?.toList =
    draft.columns?.toList ++ statements.filterMap Statement.columns?
  order : last.order?.toList = draft.order?.toList ++ statements.filterMap Statement.order?
  rows : last.rows = draft.rows ++ statements.filterMap Statement.row?

theorem Gathers.nil (draft : Draft) : draft.Gathers [] draft := by
  constructor <;> simp

theorem Gathers.cons {draft next last : Draft} {statement : Statement}
    {statements : List Statement} (hnext : draft.Gathers [statement] next)
    (hlast : next.Gathers statements last) : draft.Gathers (statement :: statements) last where
  groups := by
    rw [hlast.groups, hnext.groups, List.append_assoc, ← List.filterMap_append]
    rfl
  endMarker := by
    rw [hlast.endMarker, hnext.endMarker, List.append_assoc, ← List.filterMap_append]
    rfl
  columns := by
    rw [hlast.columns, hnext.columns, List.append_assoc, ← List.filterMap_append]
    rfl
  order := by
    rw [hlast.order, hnext.order, List.append_assoc, ← List.filterMap_append]
    rfl
  rows := by
    rw [hlast.rows, hnext.rows, List.append_assoc, ← List.filterMap_append]
    rfl

/-- A statement that is taken is all that the next draft has more. -/
theorem gathers_of_add {draft next : Draft} {statement : Statement}
    (hnext : draft.add statement = .ok next) : draft.Gathers [statement] next := by
  cases statement with
  | group label members =>
      rw [add] at hnext
      split at hnext
      · cases hnext
      · rename_i groups hgroups
        obtain rfl := Except.ok.inj hnext
        constructor <;> simp [Groups.entries_of_insert hgroups]
  | endMarker label | columns labels | order labels =>
      rw [add] at hnext
      split at hnext
      · cases hnext
      · rename_i hgiven
        rw [Option.not_isSome_iff_eq_none] at hgiven
        obtain rfl := Except.ok.inj hnext
        constructor <;> simp [hgiven]
  | row label cells =>
      obtain rfl := Except.ok.inj hnext
      constructor <;> simp

theorem gathers_of_addAll {draft last : Draft} {statements : List Statement}
    (hlast : draft.addAll statements = .ok last) : draft.Gathers statements last := by
  induction statements generalizing draft with
  | nil =>
      obtain rfl := Except.ok.inj hlast
      exact .nil draft
  | cons statement statements ih =>
      rw [addAll] at hlast
      split at hlast
      · cases hlast
      · rename_i next hnext
        exact (gathers_of_add hnext).cons (ih hlast)

/-- A draft is finished when it has an end marker and columns and its rows make a matrix
with them. -/
theorem finish_eq_ok_iff [Text.LabelAlphabet] (draft : Draft) (table : Table) :
    draft.finish = .ok table ↔
      ∃ endMarker columns, draft.endMarker? = some endMarker ∧ draft.columns? = some columns ∧
        Matrix.ofRows columns draft.rows endMarker = .ok table.matrix ∧
        table.groups = draft.groups ∧ table.order? = draft.order? := by
  obtain ⟨matrix, groups, order?⟩ := table
  cases hend : draft.endMarker? with
  | none => simp [finish, hend]
  | some endMarker =>
      cases hcolumns : draft.columns? with
      | none => simp [finish, hend, hcolumns]
      | some columns =>
          cases hrows : Matrix.ofRows columns draft.rows endMarker with
          | error error => simp [finish, hend, hcolumns, hrows]
          | ok made => simp [finish, hend, hcolumns, hrows, eq_comm]

end Table.Draft

end OperatorPrecedence
