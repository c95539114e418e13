import OperatorPrecedence.Proofs.DerivedTables

/-!
Tables that state more.  What reproduces a table reproduces every table with the
same labels that states less, so a table has values wherever one that states more
has, and nowhere larger ones.  Relations that the functions of a solved table obey
already can be stated in its unrelated cells without changing the functions.
-/

namespace OperatorPrecedence

universe u

/-- The relation in which two values stand. -/
def Relation.ofValues (f g : Nat) : Relation :=
  if f < g then .less else if g < f then .greater else .equal

theorem Relation.ofValues_holds (f g : Nat) : (ofValues f g).Holds f g := by
  unfold ofValues
  split
  · assumption
  · split
    · assumption
    · exact Nat.le_antisymm (Nat.not_lt.mp ‹_›) (Nat.not_lt.mp ‹_›)

namespace Matrix

variable {matrix other : Matrix} {groups : Groups} {α : Type u} [LT α] {f g : String → α}

theorem relation?_eq_some_iff (matrix : Matrix) (row column : Nat) (stated : Relation) :
    matrix.relation? row column = some stated ↔
      ∃ i j : Fin matrix.size, row = i ∧ column = j ∧ matrix.relation i j = stated := by
  unfold relation?
  constructor
  · intro hstated
    split at hstated
    · rename_i hplace
      exact ⟨⟨row, hplace.1⟩, ⟨column, hplace.2⟩, rfl, rfl, Option.some.inj hstated⟩
    · cases hstated
  · rintro ⟨i, j, rfl, rfl, rfl⟩
    exact dif_pos ⟨i.isLt, j.isLt⟩

@[simp] theorem relation?_val (matrix : Matrix) (i j : Fin matrix.size) :
    matrix.relation? i j = some (matrix.relation i j) :=
  (matrix.relation?_eq_some_iff i j _).mpr ⟨i, j, rfl, rfl, rfl⟩

/-- What it takes to reproduce a table shows in its labels and cells alone. -/
theorem satisfiedBy_iff_relation? (matrix : Matrix) (groups : Groups) (f g : String → α) :
    matrix.SatisfiedBy groups f g ↔
      ∀ row column stated, matrix.relation? row column = some stated →
        ∀ rowLabel, matrix.labels[row]? = some rowLabel →
          ∀ columnLabel, matrix.labels[column]? = some columnLabel →
            ∀ left ∈ groups.symbolsOf rowLabel, ∀ right ∈ groups.symbolsOf columnLabel,
              stated.Holds (f left) (g right) := by
  constructor
  · intro hsatisfied row column stated hstated rowLabel hrow columnLabel hcolumn
    obtain ⟨i, j, rfl, rfl, rfl⟩ := (matrix.relation?_eq_some_iff _ _ _).mp hstated
    obtain rfl : matrix.label i = rowLabel := by simpa [label] using hrow
    obtain rfl : matrix.label j = columnLabel := by simpa [label] using hcolumn
    exact hsatisfied i j
  · intro hcells i j
    exact hcells i j _ (matrix.relation?_val i j) _ (List.getElem?_eq_getElem i.isLt) _
      (List.getElem?_eq_getElem j.isLt)

/-- The other matrix has the same labels in the same order and states at least the
relations of the matrix. -/
structure ExtendedBy (matrix other : Matrix) : Prop where
  labels : other.labels = matrix.labels
  relation? : ∀ row column : Fin matrix.size, matrix.relation row column ≠ .unrelated →
    other.relation? row column = some (matrix.relation row column)

theorem relation?_withRelation (matrix : Matrix)
    (relation : Fin matrix.size → Fin matrix.size → Relation) (row column : Fin matrix.size) :
    (matrix.withRelation relation).relation? row column = some (relation row column) := by
  rw [relation?_eq_some_iff]
  exact ⟨row, column, rfl, rfl, matrix.relation_withRelation relation row column⟩

theorem extendedBy_withRelation (matrix : Matrix)
    {relation : Fin matrix.size → Fin matrix.size → Relation}
    (hkept : ∀ row column, matrix.relation row column ≠ .unrelated →
      relation row column = matrix.relation row column) :
    matrix.ExtendedBy (matrix.withRelation relation) := by
  refine ⟨rfl, fun row column hstated => ?_⟩
  rw [relation?_withRelation, hkept row column hstated]

/-- What reproduces a table reproduces a table that states less. -/
theorem ExtendedBy.satisfiedBy (hextended : matrix.ExtendedBy other)
    (hsatisfied : other.SatisfiedBy groups f g) : matrix.SatisfiedBy groups f g := by
  rw [satisfiedBy_iff_relation?, hextended.labels] at hsatisfied
  intro i j
  by_cases hnone : matrix.relation i j = .unrelated
  · rw [hnone]
    intros
    trivial
  · exact hsatisfied i j _ (hextended.relation? i j hnone) _
      (List.getElem?_eq_getElem i.isLt) _ (List.getElem?_eq_getElem j.isLt)

/-- A table whose cells are each taken from one of two tables is reproduced by what
reproduces both. -/
theorem SatisfiedBy.of_cells {first second : Matrix} (hfirst : first.SatisfiedBy groups f g)
    (hsecond : second.SatisfiedBy groups f g) (hfirstLabels : other.labels = first.labels)
    (hsecondLabels : other.labels = second.labels)
    (hcells : ∀ row column : Fin first.size,
      other.relation? row column = first.relation? row column ∨
        other.relation? row column = second.relation? row column) :
    other.SatisfiedBy groups f g := by
  rw [satisfiedBy_iff_relation?, ← hfirstLabels] at hfirst
  rw [satisfiedBy_iff_relation?, ← hsecondLabels] at hsecond
  rw [satisfiedBy_iff_relation?]
  intro row column stated hstated
  obtain ⟨i, j, rfl, rfl, -⟩ := (other.relation?_eq_some_iff _ _ _).mp hstated
  have hsize : other.size = first.size := congrArg List.length hfirstLabels
  rcases hcells (i.cast hsize) (j.cast hsize) with hcell | hcell
  · exact hfirst i j stated (hcell ▸ hstated)
  · exact hsecond i j stated (hcell ▸ hstated)

theorem exists_classes_of_labels_eq {classes : Classes} (hlabels : other.labels = matrix.labels)
    (hclasses : Classes.ofMatrix matrix groups = .ok classes) :
    ∃ found, Classes.ofMatrix other groups = .ok found := by
  rw [Classes.exists_ofMatrix_iff, size, hlabels]
  exact (Classes.exists_ofMatrix_iff matrix groups).mp ⟨classes, hclasses⟩

theorem symbols_eq_of_labels_eq {classes found : Classes}
    (hlabels : other.labels = matrix.labels)
    (hclasses : Classes.ofMatrix matrix groups = .ok classes)
    (hfound : Classes.ofMatrix other groups = .ok found) : found.symbols = classes.symbols := by
  rw [Classes.symbols_of_ofMatrix hfound, Classes.symbols_of_ofMatrix hclasses, hlabels]

theorem ExtendedBy.exists_solve (hextended : matrix.ExtendedBy other)
    {found : Solution other.size} (hfound : other.solve groups = .ok found) :
    ∃ solution, matrix.solve groups = .ok solution := by
  have hvalid := valid_of_solve hfound
  obtain ⟨classes, hclasses⟩ := exists_classes_of_labels_eq hextended.labels.symm hvalid.classes
  exact exists_solve_of_satisfiedBy hclasses (hextended.satisfiedBy hvalid.satisfiedBy)

/-- The brackets with two relations of the end marker added: one sets `f(lp)`, and
with it all that lies above, one higher. -/
def tightened : Matrix :=
  brackets.withRelation fun row column =>
    if row.val = 0 ∧ column.val = 3 then .greater
    else if row.val = 3 ∧ column.val = 3 then .equal
    else brackets.relation row column

def tightenedValues (symbol : String) : Values :=
  if symbol = "lp" then ⟨1, 4⟩
  else if symbol = "rp" then ⟨3, 1⟩
  else if symbol = "end" then ⟨0, 0⟩
  else ⟨3, 2⟩

theorem brackets_extendedBy_tightened : brackets.ExtendedBy tightened :=
  brackets.extendedBy_withRelation (by decide)

theorem exists_solve_tightened : ∃ found, tightened.solve operators = .ok found := by
  obtain ⟨classes, hclasses⟩ := exists_classes_brackets
  obtain ⟨found, hfound⟩ :=
    exists_classes_of_labels_eq brackets_extendedBy_tightened.labels hclasses
  have hsatisfied : tightened.SatisfiedBy operators
      (fun symbol => (tightenedValues symbol).f) fun symbol => (tightenedValues symbol).g := by
    rw [tightened, withRelation_satisfiedBy_iff]
    decide
  exact exists_solve_of_satisfiedBy hfound hsatisfied

/-- A table that states less has a solution if the other has, with values that are
nowhere larger; a cycle of the one table leaves a cycle in the other. -/
theorem solve_monotone (hextended : matrix.ExtendedBy other) (groups : Groups) :
    (∀ found, other.solve groups = .ok found →
      ∃ solution, matrix.solve groups = .ok solution ∧
        ∀ symbol ∈ solution.classes.symbols, ∃ values above,
          solution.functions.get? symbol = some values ∧
            found.functions.get? symbol = some above ∧
              values.f ≤ above.f ∧ values.g ≤ above.g) ∧
    ∀ cycle, matrix.solve groups = .error (.cycle cycle) →
      ∃ otherCycle, other.solve groups = .error (.cycle otherCycle) := by
  constructor
  · intro found hfound
    obtain ⟨solution, hsolve⟩ := hextended.exists_solve hfound
    have hvalid := valid_of_solve hsolve
    have hother := valid_of_solve hfound
    refine ⟨solution, hsolve, ?_⟩
    intro symbol hsymbol
    have hsame := symbols_eq_of_labels_eq hextended.labels hvalid.classes hother.classes
    exact ⟨_, _, hvalid.get?_eq_some hsymbol, hother.get?_eq_some (hsame ▸ hsymbol),
      hvalid.le_of_satisfiedBy (hextended.satisfiedBy hother.satisfiedBy) symbol⟩
  · intro cycle hcycle
    obtain ⟨classes, hclasses⟩ :=
      ((exists_cycle_iff matrix groups).mp ⟨cycle, hcycle⟩).1
    obtain ⟨others, hothers⟩ := exists_classes_of_labels_eq hextended.labels hclasses
    rw [exists_cycle_iff_not_exists_solve hothers]
    rintro ⟨found, hfound⟩
    obtain ⟨solution, hsolve⟩ := hextended.exists_solve hfound
    simp [hsolve] at hcycle

theorem brackets_solve_monotone :
    ∃ found solution, tightened.solve operators = .ok found ∧
      brackets.solve operators = .ok solution ∧
        ∀ symbol ∈ solution.classes.symbols, ∃ values above,
          solution.functions.get? symbol = some values ∧
            found.functions.get? symbol = some above ∧
              values.f ≤ above.f ∧ values.g ≤ above.g := by
  obtain ⟨found, hfound⟩ := exists_solve_tightened
  obtain ⟨hsolved, -⟩ := solve_monotone brackets_extendedBy_tightened operators
  obtain ⟨solution, hsolve, hvalues⟩ := hsolved found hfound
  exact ⟨found, solution, hfound, hsolve, hvalues⟩

/-- The matrix with the relation between the distances in every unrelated cell. -/
def completed (matrix : Matrix) (distances : Distances matrix.size) : Matrix :=
  matrix.withRelation fun row column =>
    if matrix.relation row column = .unrelated then
      .ofValues (distances.get ⟨.f, row⟩) (distances.get ⟨.g, column⟩)
    else matrix.relation row column

theorem extendedBy_completed (matrix : Matrix) (distances : Distances matrix.size) :
    matrix.ExtendedBy (matrix.completed distances) :=
  matrix.extendedBy_withRelation fun _ _ hstated => if_neg hstated

theorem completed_satisfiedBy {solution : Solution matrix.size}
    (hvalid : solution.Valid matrix groups) :
    (matrix.completed solution.distances).SatisfiedBy groups solution.functions.f
      solution.functions.g := by
  rw [completed, withRelation_satisfiedBy_iff]
  intro row column left hleft right hright
  rw [PrecedenceFunctions.f_eq (hvalid.values row left hleft),
    PrecedenceFunctions.g_eq (hvalid.values column right hright)]
  split
  · exact Relation.ofValues_holds _ _
  · exact hvalid.rankedBy row column

/-- Relations that the functions of a solved table obey can be added to it. -/
theorem ExtendedBy.exists_solve_functions_eq (hextended : matrix.ExtendedBy other)
    {solution : Solution matrix.size} (hvalid : solution.Valid matrix groups)
    (hsatisfied : other.SatisfiedBy groups solution.functions.f solution.functions.g) :
    ∃ found, other.solve groups = .ok found ∧ found.functions = solution.functions := by
  obtain ⟨classes, hclasses⟩ := exists_classes_of_labels_eq hextended.labels hvalid.classes
  obtain ⟨found, hfound⟩ := exists_solve_of_satisfiedBy hclasses hsatisfied
  have hother := valid_of_solve hfound
  refine ⟨found, hfound, hother.functions_eq_of_satisfiedBy hvalid ?_ ?_ hsatisfied⟩
  · exact symbols_eq_of_labels_eq hextended.labels hvalid.classes hother.classes
  · exact hextended.satisfiedBy hother.satisfiedBy

/-- The brackets with two equalities added that their functions obey. -/
def settled : Matrix :=
  brackets.withRelation fun row column =>
    if (row.val = 0 ∨ row.val = 3) ∧ column.val = 3 then .equal
    else brackets.relation row column

/-- Stating in unrelated cells what the functions decide there, in some of them or
in all, changes nothing: the table is solved again, by the same functions. -/
theorem solve_completed {solution : Solution matrix.size}
    (hsolve : matrix.solve groups = .ok solution) :
    (∀ other, matrix.ExtendedBy other →
      (∀ row column : Fin matrix.size,
        other.relation? row column ≠ matrix.relation? row column →
          other.relation? row column =
            (matrix.completed solution.distances).relation? row column) →
      ∃ found, other.solve groups = .ok found ∧ found.functions = solution.functions) ∧
    ∃ found, (matrix.completed solution.distances).solve groups = .ok found ∧
      found.functions = solution.functions := by
  have hvalid := valid_of_solve hsolve
  have hcompleted := completed_satisfiedBy hvalid
  constructor
  · intro other hextended hdecided
    apply hextended.exists_solve_functions_eq hvalid
    apply hvalid.satisfiedBy.of_cells hcompleted hextended.labels hextended.labels
    exact fun row column => or_iff_not_imp_left.mpr (hdecided row column)
  · exact (matrix.extendedBy_completed _).exists_solve_functions_eq hvalid hcompleted

theorem brackets_solve_settled :
    ∃ solution found, brackets.solve operators = .ok solution ∧
      settled.solve operators = .ok found ∧ found.functions = solution.functions := by
  obtain ⟨solution, hsolve⟩ := exists_solve_brackets
  have hvalid := valid_of_solve hsolve
  have hopening : "lp" ∈ operators.symbolsOf (brackets.label ⟨0, by decide⟩) := by decide
  have hend : "end" ∈ operators.symbolsOf (brackets.label ⟨3, by decide⟩) := by decide
  have hlp := Nat.le_zero.mp (hvalid.distances_le brackets_satisfiedBy hopening).1
  have hf := Nat.le_zero.mp (hvalid.distances_le brackets_satisfiedBy hend).1
  have hg := Nat.le_zero.mp (hvalid.distances_le brackets_satisfiedBy hend).2
  have hdecided : ∀ row column : Fin brackets.size,
      settled.relation? row column ≠ brackets.relation? row column →
        settled.relation? row column =
          (brackets.completed solution.distances).relation? row column := by
    intro row column hdiffers
    rw [settled, relation?_withRelation] at hdiffers ⊢
    split at hdiffers
    · rename_i hplace
      obtain rfl : column = ⟨3, by decide⟩ := Fin.ext hplace.2
      rw [if_pos hplace, completed, relation?_withRelation, hg]
      rcases hplace.1 with hrow | hrow
      · obtain rfl : row = ⟨0, by decide⟩ := Fin.ext hrow
        rw [hlp]
        rfl
      · obtain rfl : row = ⟨3, by decide⟩ := Fin.ext hrow
        rw [hf]
        rfl
    · exact absurd (brackets.relation?_val row column).symm hdiffers
  have hextended : brackets.ExtendedBy settled := brackets.extendedBy_withRelation (by decide)
  obtain ⟨found, hfound, hsame⟩ := (solve_completed hsolve).1 settled hextended hdecided
  exact ⟨solution, found, hsolve, hfound, hsame⟩

end Matrix

end OperatorPrecedence
