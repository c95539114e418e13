import OperatorPrecedence.Proofs.LeastSolution

/-!
Tables made from other tables.  Grouping is a shorthand: the table that lists
every symbol on its own, with the relations of the classes, is reproduced by the
same functions as the table with groups.  So the two are solved together, and by
the same functions.
-/

namespace OperatorPrecedence

universe u

theorem Groups.symbolsOf_empty (label : String) : empty.symbolsOf label = [label] :=
  rfl

namespace Matrix

/-- The matrix with given relations between the places of its labels. -/
def ofRelation (labels : List String)
    (labels_valid : ∀ label ∈ labels, Text.isLabel label = true) (labels_nodup : labels.Nodup)
    (endIndex : Fin labels.length)
    (relation : Fin labels.length → Fin labels.length → Relation) : Matrix where
  labels := labels
  cells := Vector.ofFn fun i => relation (rowAt i) (columnAt i)
  endIndex := endIndex
  labels_valid := labels_valid
  labels_nodup := labels_nodup

@[simp] theorem relation_ofRelation (labels : List String)
    (labels_valid : ∀ label ∈ labels, Text.isLabel label = true) (labels_nodup : labels.Nodup)
    (endIndex : Fin labels.length)
    (relation : Fin labels.length → Fin labels.length → Relation)
    (row column : Fin labels.length) :
    (ofRelation labels labels_valid labels_nodup endIndex relation).relation row column =
      relation row column := by
  have hcell : ∀ i, (Vector.ofFn fun i => relation (rowAt i) (columnAt i)).get i =
      relation (rowAt i) (columnAt i) := fun i => Vector.getElem_ofFn i.isLt
  refine (hcell (place row column)).trans ?_
  rw [rowAt_place, columnAt_place]

/-- The matrix with other relations under the same labels. -/
def withRelation (matrix : Matrix) (relation : Fin matrix.size → Fin matrix.size → Relation) :
    Matrix :=
  ofRelation matrix.labels matrix.labels_valid matrix.labels_nodup matrix.endIndex relation

theorem relation_withRelation (matrix : Matrix)
    (relation : Fin matrix.size → Fin matrix.size → Relation) (row column : Fin matrix.size) :
    (matrix.withRelation relation).relation row column = relation row column :=
  relation_ofRelation _ _ _ _ _ row column

theorem withRelation_satisfiedBy_iff {α : Type u} [LT α] (matrix : Matrix)
    (relation : Fin matrix.size → Fin matrix.size → Relation) (groups : Groups)
    (f g : String → α) :
    (matrix.withRelation relation).SatisfiedBy groups f g ↔
      ∀ row column : Fin matrix.size,
        ∀ left ∈ groups.symbolsOf (matrix.label row),
          ∀ right ∈ groups.symbolsOf (matrix.label column),
            (relation row column).Holds (f left) (g right) := by
  have hcell : ∀ row column : Fin matrix.size, ∀ left right,
      ((matrix.withRelation relation).relation row column).Holds (f left) (g right) ↔
        (relation row column).Holds (f left) (g right) := by
    intro row column left right
    rw [relation_withRelation]
  constructor
  · intro hsatisfied row column left hleft right hright
    exact (hcell row column left right).mp (hsatisfied row column left hleft right hright)
  · intro hholds row column left hleft right hright
    exact (hcell row column left right).mpr (hholds row column left hleft right hright)

variable {matrix : Matrix} {groups : Groups} {classes : Classes}

/-- The symbols of a table, each with its class. -/
def classedSymbols (matrix : Matrix) (groups : Groups) : List (String × Fin matrix.size) :=
  (List.finRange matrix.size).flatMap fun cls =>
    (groups.symbolsOf (matrix.label cls)).map fun symbol => (symbol, cls)

theorem mem_classedSymbols_iff (matrix : Matrix) (groups : Groups) (symbol : String)
    (cls : Fin matrix.size) :
    (symbol, cls) ∈ matrix.classedSymbols groups ↔
      symbol ∈ groups.symbolsOf (matrix.label cls) := by
  simp [classedSymbols, List.mem_finRange]

theorem map_fst_classedSymbols (hclasses : Classes.ofMatrix matrix groups = .ok classes) :
    (matrix.classedSymbols groups).map Prod.fst = classes.symbols := by
  have hlabels : (List.finRange matrix.size).map matrix.label = matrix.labels :=
    List.map_getElem_finRange matrix.labels
  rw [Classes.symbols_of_ofMatrix hclasses, ← hlabels, List.flatMap_map, classedSymbols,
    List.map_flatMap]
  simp [Function.comp_def]

theorem length_symbols (hclasses : Classes.ofMatrix matrix groups = .ok classes) :
    classes.symbols.length = (matrix.classedSymbols groups).length := by
  rw [← map_fst_classedSymbols hclasses, List.length_map]

/-- The class of the symbol at a place. -/
def classAt (hclasses : Classes.ofMatrix matrix groups = .ok classes)
    (i : Fin classes.symbols.length) : Fin matrix.size :=
  ((matrix.classedSymbols groups).get (i.cast (length_symbols hclasses))).2

theorem get_classedSymbols (hclasses : Classes.ofMatrix matrix groups = .ok classes)
    (i : Fin classes.symbols.length) :
    (matrix.classedSymbols groups).get (i.cast (length_symbols hclasses)) =
      (classes.symbols.get i, classAt hclasses i) := by
  refine Prod.ext ?_ rfl
  simp [← map_fst_classedSymbols hclasses]

theorem get_symbols_mem (hclasses : Classes.ofMatrix matrix groups = .ok classes)
    (i : Fin classes.symbols.length) :
    classes.symbols.get i ∈ groups.symbolsOf (matrix.label (classAt hclasses i)) := by
  rw [← mem_classedSymbols_iff, ← get_classedSymbols hclasses i]
  exact List.get_mem _ _

theorem exists_get_symbols (hclasses : Classes.ofMatrix matrix groups = .ok classes)
    {cls : Fin matrix.size} {symbol : String}
    (hsymbol : symbol ∈ groups.symbolsOf (matrix.label cls)) :
    ∃ i, classes.symbols.get i = symbol ∧ classAt hclasses i = cls := by
  obtain ⟨place, hplace⟩ := List.get_of_mem
    ((mem_classedSymbols_iff matrix groups symbol cls).mpr hsymbol)
  have hget := get_classedSymbols hclasses (place.cast (length_symbols hclasses).symm)
  rw [Fin.cast_cast, Fin.cast_refl, id, hplace, Prod.ext_iff] at hget
  exact ⟨_, hget.1.symm, hget.2.symm⟩

/-- The table of the symbols of a table, with the relations of their classes and
any symbol for its end marker. -/
def ungrouped (hclasses : Classes.ofMatrix matrix groups = .ok classes)
    (endIndex : Fin classes.symbols.length) : Matrix :=
  ofRelation classes.symbols
    (fun _ hsymbol => Classes.isLabel_of_mem_symbols hclasses hsymbol)
    (Classes.nodup_symbols_of_ofMatrix hclasses) endIndex
    fun row column => matrix.relation (classAt hclasses row) (classAt hclasses column)

theorem relation_ungrouped (hclasses : Classes.ofMatrix matrix groups = .ok classes)
    (endIndex row column : Fin classes.symbols.length) :
    (ungrouped hclasses endIndex).relation row column =
      matrix.relation (classAt hclasses row) (classAt hclasses column) :=
  relation_ofRelation _ _ _ _ _ row column

/-- The functions that reproduce the table of the symbols are those that
reproduce the table with groups. -/
theorem ungrouped_satisfiedBy_iff {α : Type u} [LT α]
    (hclasses : Classes.ofMatrix matrix groups = .ok classes)
    (endIndex : Fin classes.symbols.length) (f g : String → α) :
    (ungrouped hclasses endIndex).SatisfiedBy .empty f g ↔ matrix.SatisfiedBy groups f g := by
  constructor
  · intro hflat row column left hleft right hright
    obtain ⟨i, rfl, rfl⟩ := exists_get_symbols hclasses hleft
    obtain ⟨j, rfl, rfl⟩ := exists_get_symbols hclasses hright
    have hholds := hflat i j _ List.mem_cons_self _ List.mem_cons_self
    rwa [relation_ungrouped] at hholds
  · intro hsatisfied i j left hleft right hright
    rw [Groups.symbolsOf_empty, List.mem_singleton] at hleft hright
    rw [hleft, hright, relation_ungrouped hclasses endIndex i j]
    exact hsatisfied _ _ _ (get_symbols_mem hclasses i) _ (get_symbols_mem hclasses j)

/-- The symbols of a table are not regrouped. -/
theorem exists_classes_ungrouped (hclasses : Classes.ofMatrix matrix groups = .ok classes)
    (hsize : classes.symbols.length ≤ Classes.capacity)
    (endIndex : Fin classes.symbols.length) :
    ∃ flat, Classes.ofMatrix (ungrouped hclasses endIndex) .empty = .ok flat ∧
      flat.symbols = classes.symbols := by
  obtain ⟨flat, hflat⟩ := (Classes.exists_ofMatrix_iff (ungrouped hclasses endIndex) .empty).mpr
    ⟨Groups.empty_fits _, hsize⟩
  refine ⟨flat, hflat, (Classes.symbols_of_ofMatrix hflat).trans ?_⟩
  exact List.flatMap_singleton' classes.symbols

/-- The table of the symbols is solved exactly when the table with groups is, it
has a cycle exactly when that has, and its functions are the same. -/
theorem solve_ungrouped (hclasses : Classes.ofMatrix matrix groups = .ok classes)
    (hsize : classes.symbols.length ≤ Classes.capacity)
    (endIndex : Fin classes.symbols.length) :
    ((∃ solution, (ungrouped hclasses endIndex).solve .empty = .ok solution) ↔
      ∃ solution, matrix.solve groups = .ok solution) ∧
    ((∃ cycle, (ungrouped hclasses endIndex).solve .empty = .error (.cycle cycle)) ↔
      ∃ cycle, matrix.solve groups = .error (.cycle cycle)) ∧
    ∀ flatSolution solution,
      (ungrouped hclasses endIndex).solve .empty = .ok flatSolution →
        matrix.solve groups = .ok solution →
          flatSolution.functions = solution.functions := by
  obtain ⟨flat, hflat, hsymbols⟩ := exists_classes_ungrouped hclasses hsize endIndex
  have hiff := fun f g : String → Nat => ungrouped_satisfiedBy_iff hclasses endIndex f g
  have hsolved : (∃ solution, (ungrouped hclasses endIndex).solve .empty = .ok solution) ↔
      ∃ solution, matrix.solve groups = .ok solution :=
    ⟨exists_solve_of_imp hclasses fun f g => (hiff f g).mp,
      exists_solve_of_imp hflat fun f g => (hiff f g).mpr⟩
  refine ⟨hsolved, ?_, ?_⟩
  · rw [exists_cycle_iff_not_exists_solve hflat, exists_cycle_iff_not_exists_solve hclasses,
      hsolved]
  · intro flatSolution solution hflatSolve hsolve
    have hflatValid := valid_of_solve hflatSolve
    have hvalid := valid_of_solve hsolve
    refine hflatValid.functions_eq hvalid ?_ hiff
    rw [Except.ok.inj (hflatValid.classes.symm.trans hflat), hsymbols,
      Except.ok.inj (hvalid.classes.symm.trans hclasses)]

theorem brackets_solve_ungrouped :
    ∃ classes, ∃ hclasses : Classes.ofMatrix brackets operators = .ok classes,
      ∃ endIndex flatSolution solution,
        (ungrouped hclasses endIndex).solve .empty = .ok flatSolution ∧
          brackets.solve operators = .ok solution ∧
            flatSolution.functions = solution.functions := by
  obtain ⟨classes, hclasses⟩ := exists_classes_brackets
  obtain ⟨solution, hsolve⟩ := exists_solve_brackets
  have hlength : classes.symbols.length = 5 := by
    rw [Classes.symbols_of_ofMatrix hclasses]
    decide
  have hsize : classes.symbols.length ≤ Classes.capacity := by
    rw [hlength]
    decide
  have hall := solve_ungrouped hclasses hsize ⟨4, by omega⟩
  obtain ⟨flatSolution, hflatSolve⟩ := hall.1.mpr ⟨solution, hsolve⟩
  exact ⟨classes, hclasses, _, flatSolution, solution, hflatSolve, hsolve,
    hall.2.2 flatSolution solution hflatSolve hsolve⟩

end Matrix

end OperatorPrecedence
