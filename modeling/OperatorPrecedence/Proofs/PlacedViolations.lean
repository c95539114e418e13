import OperatorPrecedence.Proofs.QuotientGraph

/-!
Which violations the check of functions against a table lists.  There is one for every
cell, left symbol and right symbol whose values break the cell, in the order of the
cells and of the symbols, and there are no others.
-/

namespace OperatorPrecedence

universe u

theorem pairwise_zipIdx {α : Type u} (xs : List α) :
    xs.zipIdx.Pairwise fun entry later => entry.2 < later.2 := by
  apply List.pairwise_map.mp
  rw [List.zipIdx_map_snd]
  exact List.pairwise_lt_range'

/-- Where a left and a right symbol meet: at a cell, by their numbers in the class of
its row and in that of its column. -/
structure Meeting (n : Nat) where
  row : Fin n
  column : Fin n
  left : Nat
  right : Nat
deriving Repr, DecidableEq

/-- The order of meetings: row by row, cell by cell, then by the left symbol and last by
the right one. -/
def Meeting.key {n : Nat} (meeting : Meeting n) : Fin n ×ₗ Fin n ×ₗ Nat ×ₗ Nat :=
  toLex (meeting.row, toLex (meeting.column, toLex (meeting.left, meeting.right)))

theorem Meeting.key_lt_iff {n : Nat} (meeting later : Meeting n) :
    meeting.key < later.key ↔
      toLex (meeting.row, meeting.column) < toLex (later.row, later.column) ∨
        meeting.row = later.row ∧ meeting.column = later.column ∧
          (meeting.left < later.left ∨ meeting.left = later.left ∧ meeting.right < later.right) := by
  simp only [key, Prod.Lex.toLex_lt_toLex]
  grind

namespace PrecedenceFunctions

/-- The symbols of a violation meet at a cell that states something, and their values
break what it states. -/
structure Breaks (functions : PrecedenceFunctions) (matrix : Matrix) (groups : Groups)
    (meeting : Meeting matrix.size) (violation : Violation) : Prop where
  related : matrix.relation meeting.row meeting.column ≠ .unrelated
  relation : violation.relation = matrix.relation meeting.row meeting.column
  left : (groups.symbolsOf (matrix.label meeting.row))[meeting.left]? = some violation.left
  right : (groups.symbolsOf (matrix.label meeting.column))[meeting.right]? = some violation.right
  f : functions.f? violation.left = some violation.f
  g : functions.g? violation.right = some violation.g
  fails : ¬ violation.relation.Holds violation.f violation.g

theorem violation?_eq_some_iff (functions : PrecedenceFunctions) (relation : Relation)
    (left right : String) (violation : Violation) :
    functions.violation? relation left right = some violation ↔
      violation.relation = relation ∧ violation.left = left ∧ violation.right = right ∧
        functions.f? left = some violation.f ∧ functions.g? right = some violation.g ∧
          ¬ relation.Holds violation.f violation.g := by
  obtain ⟨violationLeft, violationRight, violationRelation, valueF, valueG⟩ := violation
  unfold violation?
  split
  · rename_i f g hf hg
    simp only [hf, hg, Option.some.injEq]
    split
    · rename_i hholds
      grind
    · rename_i hfails
      simp only [Option.some.injEq, Violation.mk.injEq]
      grind
  · rename_i hnone
    grind

def violationsAt (functions : PrecedenceFunctions) {matrix : Matrix} (classes : Classes)
    (cell : Matrix.Cell matrix.size) : List (Meeting matrix.size × Violation) :=
  if cell.relation = .unrelated then []
  else
    (symbolsAt classes cell.row).zipIdx.flatMap fun left =>
      (symbolsAt classes cell.column).zipIdx.filterMap fun right =>
        (functions.violation? cell.relation left.1 right.1).map
          (⟨cell.row, cell.column, left.2, right.2⟩, ·)

def placedViolations (functions : PrecedenceFunctions) (matrix : Matrix) (classes : Classes) :
    List (Meeting matrix.size × Violation) :=
  matrix.cellList.flatMap (functions.violationsAt classes)

variable {functions : PrecedenceFunctions} {matrix : Matrix} {groups : Groups}
  {classes : Classes}

theorem map_snd_placedViolations (functions : PrecedenceFunctions) (matrix : Matrix)
    (classes : Classes) :
    (functions.placedViolations matrix classes).map Prod.snd =
      functions.violations matrix classes := by
  rw [placedViolations, violations, List.map_flatMap]
  apply List.flatMap_congr
  intro cell _
  rw [violationsAt]
  split
  · rfl
  · rw [List.map_flatMap]
    conv_rhs => rw [← List.zipIdx_map_fst 0 (symbolsAt classes cell.row), List.flatMap_map]
    apply List.flatMap_congr
    intro left _
    conv_rhs => rw [← List.zipIdx_map_fst 0 (symbolsAt classes cell.column), List.filterMap_map]
    rw [List.map_filterMap]
    apply List.filterMap_congr
    intro right _
    simp [Function.comp_def]

theorem mem_violationsAt_iff {cell : Matrix.Cell matrix.size} {meeting : Meeting matrix.size}
    {violation : Violation} :
    (meeting, violation) ∈ functions.violationsAt classes cell ↔
      cell.relation ≠ .unrelated ∧ meeting.row = cell.row ∧ meeting.column = cell.column ∧
        ∃ left right, (symbolsAt classes cell.row)[meeting.left]? = some left ∧
          (symbolsAt classes cell.column)[meeting.right]? = some right ∧
            functions.violation? cell.relation left right = some violation := by
  rw [violationsAt]
  split
  · rename_i hunrelated
    simp [hunrelated]
  · rename_i hrelated
    simp only [List.mem_flatMap, List.mem_filterMap, Option.map_eq_some_iff, Prod.exists,
      List.mk_mem_zipIdx_iff_getElem?]
    constructor
    · rintro ⟨left, i, hleft, right, j, hright, found, hfound, heq⟩
      obtain ⟨rfl, rfl⟩ := Prod.mk.inj heq
      exact ⟨hrelated, rfl, rfl, left, right, hleft, hright, hfound⟩
    · obtain ⟨row, column, i, j⟩ := meeting
      rintro ⟨-, rfl, rfl, left, right, hleft, hright, hfound⟩
      exact ⟨left, i, hleft, right, j, hright, violation, hfound, rfl⟩

/-- A violation is listed exactly where the values of two symbols break a cell. -/
theorem mem_placedViolations_iff (hclasses : Classes.ofMatrix matrix groups = .ok classes)
    (meeting : Meeting matrix.size) (violation : Violation) :
    (meeting, violation) ∈ functions.placedViolations matrix classes ↔
      functions.Breaks matrix groups meeting violation := by
  simp only [placedViolations, List.mem_flatMap, mem_violationsAt_iff, violation?_eq_some_iff,
    Classes.symbolsAt_of_ofMatrix hclasses]
  constructor
  · rintro ⟨cell, hcell, hrelated, hrow, hcolumn, left, right, hleft, hright, hrelation, rfl, rfl,
      hf, hg, hfails⟩
    have hstates : cell.relation = matrix.relation meeting.row meeting.column := by
      rw [hrow, hcolumn]
      exact (matrix.mem_cellList_iff cell).mp hcell
    refine ⟨hstates ▸ hrelated, hrelation.trans hstates, hrow ▸ hleft, hcolumn ▸ hright, hf, hg,
      hrelation ▸ hfails⟩
  · intro hbreaks
    refine ⟨⟨meeting.row, meeting.column, matrix.relation meeting.row meeting.column⟩,
      (matrix.mem_cellList_iff _).mpr rfl, hbreaks.related, rfl, rfl, violation.left,
      violation.right, hbreaks.left, hbreaks.right, hbreaks.relation, rfl, rfl, hbreaks.f,
      hbreaks.g, ?_⟩
    rw [← hbreaks.relation]
    exact hbreaks.fails

/-- At a cell the violations come by the left symbol, then by the right one. -/
theorem violationsAt_pairwise (functions : PrecedenceFunctions) (classes : Classes)
    (cell : Matrix.Cell matrix.size) :
    (functions.violationsAt classes cell).Pairwise fun earlier later =>
      earlier.1.key < later.1.key := by
  rw [violationsAt]
  split
  · exact .nil
  · rw [List.pairwise_flatMap]
    constructor
    · intro left _
      rw [List.pairwise_filterMap]
      apply (pairwise_zipIdx _).imp
      intro right other hlt first hfirst second hsecond
      obtain ⟨_, _, rfl⟩ := Option.map_eq_some_iff.mp hfirst
      obtain ⟨_, _, rfl⟩ := Option.map_eq_some_iff.mp hsecond
      apply (Meeting.key_lt_iff _ _).mpr
      exact Or.inr ⟨rfl, rfl, Or.inr ⟨rfl, hlt⟩⟩
    · apply (pairwise_zipIdx _).imp
      intro left other hlt first hfirst second hsecond
      obtain ⟨_, -, hfirst⟩ := List.mem_filterMap.mp hfirst
      obtain ⟨_, -, hsecond⟩ := List.mem_filterMap.mp hsecond
      obtain ⟨_, _, rfl⟩ := Option.map_eq_some_iff.mp hfirst
      obtain ⟨_, _, rfl⟩ := Option.map_eq_some_iff.mp hsecond
      apply (Meeting.key_lt_iff _ _).mpr
      exact Or.inr ⟨rfl, rfl, Or.inl hlt⟩

/-- The violations come row by row and cell by cell, then by the left symbol and last by
the right one. -/
theorem placedViolations_pairwise (functions : PrecedenceFunctions) (matrix : Matrix)
    (classes : Classes) :
    (functions.placedViolations matrix classes).Pairwise fun earlier later =>
      earlier.1.key < later.1.key := by
  rw [placedViolations, List.pairwise_flatMap]
  constructor
  · intro cell _
    exact functions.violationsAt_pairwise classes cell
  · apply matrix.cellList_pairwise.imp
    rintro cell other hlt ⟨first, _⟩ hfirst ⟨second, _⟩ hsecond
    obtain ⟨-, hrow, hcolumn, -⟩ := mem_violationsAt_iff.mp hfirst
    obtain ⟨-, hotherRow, hotherColumn, -⟩ := mem_violationsAt_iff.mp hsecond
    apply (Meeting.key_lt_iff _ _).mpr
    rw [hrow, hcolumn, hotherRow, hotherColumn]
    exact Or.inl hlt

/-- Nothing is listed exactly if every cell holds for all symbols of its row and of its
column that have values. -/
theorem violations_eq_nil_iff (hclasses : Classes.ofMatrix matrix groups = .ok classes) :
    functions.violations matrix classes = [] ↔
      ∀ cell ∈ matrix.cellList,
        ∀ left ∈ groups.symbolsOf (matrix.label cell.row),
          ∀ right ∈ groups.symbolsOf (matrix.label cell.column),
            ∀ f g, functions.f? left = some f → functions.g? right = some g →
              cell.relation.Holds f g := by
  rw [← map_snd_placedViolations, List.map_eq_nil_iff, List.eq_nil_iff_forall_not_mem]
  constructor
  · intro hnone cell hcell left hleft right hright f g hf hg
    by_contra hfails
    obtain ⟨i, hi⟩ := List.getElem?_of_mem hleft
    obtain ⟨j, hj⟩ := List.getElem?_of_mem hright
    have hstates := (matrix.mem_cellList_iff cell).mp hcell
    have hrelated : cell.relation ≠ .unrelated := by
      intro hunrelated
      rw [hunrelated] at hfails
      exact hfails trivial
    apply hnone (⟨cell.row, cell.column, i, j⟩, ⟨left, right, cell.relation, f, g⟩)
    apply (mem_placedViolations_iff hclasses _ _).mpr
    exact ⟨hstates ▸ hrelated, hstates, hi, hj, hf, hg, hfails⟩
  · rintro hholds ⟨meeting, violation⟩ hmem
    have hbreaks := (mem_placedViolations_iff hclasses _ _).mp hmem
    apply hbreaks.fails
    rw [hbreaks.relation]
    exact hholds ⟨meeting.row, meeting.column, _⟩ ((matrix.mem_cellList_iff _).mpr rfl)
      _ (List.mem_of_getElem? hbreaks.left) _ (List.mem_of_getElem? hbreaks.right) _ _
      hbreaks.f hbreaks.g

/-- The check is exact, whatever table the functions were made for.  Each violation
listed has its own meeting of two symbols, whose values break a cell, and each meeting
that breaks a cell has its violation listed; they come row by row and cell by cell,
then by the left symbol and last by the right one.  Nothing is listed exactly if every
cell holds for all symbols with values. -/
theorem violations_exact (hclasses : Classes.ofMatrix matrix groups = .ok classes)
    (functions : PrecedenceFunctions) :
    (∃ placed : List (Meeting matrix.size × Violation),
      placed.map Prod.snd = functions.violations matrix classes ∧
      (placed.Pairwise fun earlier later => earlier.1.key < later.1.key) ∧
      ∀ meeting violation, (meeting, violation) ∈ placed ↔
        functions.Breaks matrix groups meeting violation) ∧
    (functions.violations matrix classes = [] ↔
      ∀ cell ∈ matrix.cellList,
        ∀ left ∈ groups.symbolsOf (matrix.label cell.row),
          ∀ right ∈ groups.symbolsOf (matrix.label cell.column),
            ∀ f g, functions.f? left = some f → functions.g? right = some g →
              cell.relation.Holds f g) := by
  refine ⟨⟨functions.placedViolations matrix classes, ?_, ?_, ?_⟩, ?_⟩
  · exact functions.map_snd_placedViolations matrix classes
  · exact functions.placedViolations_pairwise matrix classes
  · exact mem_placedViolations_iff hclasses
  · exact violations_eq_nil_iff hclasses

/-- Functions in which the operator `plus` has lost its value on the left, and `minus`
has no values. -/
def flawed : PrecedenceFunctions where
  entries := [("lp", ⟨0, 3⟩), ("rp", ⟨2, 0⟩), ("plus", ⟨0, 1⟩), ("end", ⟨0, 0⟩)]

theorem flawed_violations_exact :
    ∃ classes, Classes.ofMatrix Matrix.brackets Matrix.operators = .ok classes ∧
      ∃ placed : List (Meeting Matrix.brackets.size × Violation),
        placed.map Prod.snd = flawed.violations Matrix.brackets classes ∧
        (placed.Pairwise fun earlier later => earlier.1.key < later.1.key) ∧
        (⟨⟨2, by decide⟩, ⟨1, by decide⟩, 0, 0⟩, ⟨"plus", "rp", .greater, 0, 0⟩) ∈ placed ∧
        ∀ entry ∈ placed, entry.2.left ≠ "minus" := by
  obtain ⟨classes, hclasses⟩ := Matrix.exists_classes_brackets
  obtain ⟨⟨placed, hlisted, hordered, hmem⟩, -⟩ := violations_exact hclasses flawed
  refine ⟨classes, hclasses, placed, hlisted, hordered, ?_, ?_⟩
  · apply (hmem _ _).mpr
    exact ⟨by decide, rfl, rfl, rfl, rfl, rfl, by decide⟩
  · rintro ⟨meeting, violation⟩ hplaced hminus
    have hvalue := ((hmem _ _).mp hplaced).f
    rw [hminus] at hvalue
    cases hvalue

end PrecedenceFunctions

end OperatorPrecedence
