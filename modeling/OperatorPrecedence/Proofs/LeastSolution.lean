import Mathlib.Algebra.Order.Ring.Int
import OperatorPrecedence.Satisfaction
import OperatorPrecedence.Solution
import OperatorPrecedence.Proofs.LongestWalk
import OperatorPrecedence.Proofs.SymbolValues

/-!
What solving a table gives.  The functions found reproduce every cell, they are
the least natural values that do, and a table without functions has a cycle that
rules out values in every order.  So a table has functions exactly when some
integers reproduce it.
-/

namespace OperatorPrecedence

universe u v

/-- A map that keeps `<` keeps relations. -/
theorem Relation.Holds.map {α : Type u} {β : Type v} [LT α] [LT β] {relation : Relation}
    {f g : α} (hholds : relation.Holds f g) (image : α → β)
    (hlt : ∀ first second, first < second → image first < image second) :
    relation.Holds (image f) (image g) := by
  cases relation with
  | less => exact hlt f g hholds
  | greater => exact hlt g f hholds
  | equal => exact congrArg image hholds
  | unrelated => trivial

theorem Groups.Fits.exists_pick {matrix : Matrix} {groups : Groups}
    (hfits : groups.Fits matrix.labels) :
    ∃ pick : Fin matrix.size → String, ∀ i, pick i ∈ groups.symbolsOf (matrix.label i) := by
  have hsome : ∀ i, ∃ symbol, symbol ∈ groups.symbolsOf (matrix.label i) := fun i =>
    List.exists_mem_of_ne_nil _ (hfits.symbolsOf_ne_nil (matrix.label i))
  choose pick hpick using hsome
  exact ⟨pick, hpick⟩

/-- The symbols can be picked such that a given one stands for its class. -/
theorem Groups.Fits.exists_pick_eq {matrix : Matrix} {groups : Groups}
    (hfits : groups.Fits matrix.labels) {i : Fin matrix.size} {symbol : String}
    (hsymbol : symbol ∈ groups.symbolsOf (matrix.label i)) :
    ∃ pick : Fin matrix.size → String,
      (∀ j, pick j ∈ groups.symbolsOf (matrix.label j)) ∧ pick i = symbol := by
  obtain ⟨pick, hpick⟩ := hfits.exists_pick
  refine ⟨Function.update pick i symbol, ?_, Function.update_self i symbol pick⟩
  intro j
  by_cases heq : j = i
  · subst heq
    rwa [Function.update_self]
  · rw [Function.update_of_ne heq]
    exact hpick j

namespace Matrix

variable {α : Type u} [LT α] {matrix : Matrix} {groups : Groups}

/-- The values of the vertices when one symbol is picked for every class. -/
def pickedValue (f g : String → α) (pick : Fin matrix.size → String) :
    Vertex matrix.size → α
  | ⟨.f, cls⟩ => f (pick cls)
  | ⟨.g, cls⟩ => g (pick cls)

/-- Functions on the symbols that reproduce a table give values of the vertices
that do, whatever symbol stands for each class. -/
theorem SatisfiedBy.rankedBy {f g : String → α} (hsatisfied : matrix.SatisfiedBy groups f g)
    {pick : Fin matrix.size → String}
    (hpick : ∀ i, pick i ∈ groups.symbolsOf (matrix.label i)) :
    matrix.RankedBy (pickedValue f g pick) := fun row column =>
  hsatisfied row column (pick row) (hpick row) (pick column) (hpick column)

/-- Values of the vertices that reproduce a table give functions on the symbols
that do. -/
theorem RankedBy.satisfiedBy {value : Vertex matrix.size → α}
    (hranked : matrix.RankedBy value) {f g : String → α}
    (hf : ∀ i, ∀ symbol ∈ groups.symbolsOf (matrix.label i), f symbol = value ⟨.f, i⟩)
    (hg : ∀ i, ∀ symbol ∈ groups.symbolsOf (matrix.label i), g symbol = value ⟨.g, i⟩) :
    matrix.SatisfiedBy groups f g := by
  intro row column left hleft right hright
  rw [hf row left hleft, hg column right hright]
  exact hranked row column

end Matrix

/-- What a solution of a table is: its classes, its graph, the longest walks of
the graph, and these lengths spread over the symbols of the classes. -/
structure Solution.Valid (matrix : Matrix) (groups : Groups)
    (solution : Solution matrix.size) : Prop where
  classes : Classes.ofMatrix matrix groups = .ok solution.classes
  graph : solution.graph = OrderingGraph.ofMatrix matrix
  longest : solution.distances.Longest (OrderingGraph.ofMatrix matrix)
  symbols : solution.functions.symbols = solution.classes.symbols
  values : ∀ (i : Fin matrix.size), ∀ symbol ∈ groups.symbolsOf (matrix.label i),
    solution.functions.get? symbol =
      some ⟨solution.distances.get ⟨.f, i⟩, solution.distances.get ⟨.g, i⟩⟩

namespace Matrix

variable {matrix : Matrix} {groups : Groups}

theorem solve_eq_table_error {error : TableError}
    (herror : Classes.ofMatrix matrix groups = .error error) :
    matrix.solve groups = .error (.table error) := by
  simp only [solve, herror]

/-- A table whose groups fit has a solution or a cycle. -/
theorem solve_cases {classes : Classes}
    (hclasses : Classes.ofMatrix matrix groups = .ok classes) :
    (∃ solution, matrix.solve groups = .ok solution ∧ solution.Valid matrix groups) ∨
      ∃ vertices, matrix.solve groups = .error (.cycle (vertices.map matrix.vertexName)) ∧
        (OrderingGraph.ofMatrix matrix).IsCycle vertices := by
  rcases Distances.ofGraph_cases (OrderingGraph.ofMatrix_coherent matrix) with
    ⟨distances, hdistances, hlongest⟩ | ⟨vertices, hhalt, hcycle⟩
  · obtain ⟨functions, hfunctions, hsymbols, hvalues⟩ :=
      PrecedenceFunctions.ofDistances_eq_ok hclasses distances
    refine Or.inl ⟨⟨classes, .ofMatrix matrix, distances, functions⟩, ?_,
      ⟨hclasses, rfl, hlongest, hsymbols, hvalues⟩⟩
    simp only [solve, hclasses, hdistances, hfunctions]
  · refine Or.inr ⟨vertices, ?_, hcycle⟩
    simp only [solve, hclasses, hhalt, SolveError.ofHalt]

theorem exists_classes_of_solve {solution : Solution matrix.size}
    (hsolve : matrix.solve groups = .ok solution) :
    ∃ classes, Classes.ofMatrix matrix groups = .ok classes := by
  cases hclasses : Classes.ofMatrix matrix groups with
  | error error => simp [solve_eq_table_error hclasses] at hsolve
  | ok classes => exact ⟨classes, rfl⟩

theorem valid_of_solve {solution : Solution matrix.size}
    (hsolve : matrix.solve groups = .ok solution) : solution.Valid matrix groups := by
  obtain ⟨classes, hclasses⟩ := exists_classes_of_solve hsolve
  rcases solve_cases hclasses with ⟨found, hfound, hvalid⟩ | ⟨vertices, hhalt, -⟩
  · rw [Except.ok.inj (hsolve.symm.trans hfound)]
    exact hvalid
  · simp [hhalt] at hsolve

end Matrix

namespace Solution

variable {matrix : Matrix} {groups : Groups} {solution : Solution matrix.size}

theorem Valid.rankedBy (hvalid : solution.Valid matrix groups) :
    matrix.RankedBy solution.distances.get :=
  (OrderingGraph.ofMatrix_rankedBy_iff matrix _).mp
    (hvalid.longest.rankedBy (OrderingGraph.ofMatrix_coherent matrix))

theorem Valid.nodup_symbols (hvalid : solution.Valid matrix groups) :
    solution.functions.symbols.Nodup :=
  hvalid.symbols ▸ Classes.nodup_symbols_of_ofMatrix hvalid.classes

theorem Valid.satisfiedBy (hvalid : solution.Valid matrix groups) :
    matrix.SatisfiedBy groups solution.functions.f solution.functions.g :=
  hvalid.rankedBy.satisfiedBy
    (fun i symbol hsymbol => PrecedenceFunctions.f_eq (hvalid.values i symbol hsymbol))
    (fun i symbol hsymbol => PrecedenceFunctions.g_eq (hvalid.values i symbol hsymbol))

/-- Natural functions that reproduce the table are nowhere below the distances. -/
theorem Valid.distances_le (hvalid : solution.Valid matrix groups) {f g : String → Nat}
    (hsatisfied : matrix.SatisfiedBy groups f g) {i : Fin matrix.size} {symbol : String}
    (hsymbol : symbol ∈ groups.symbolsOf (matrix.label i)) :
    solution.distances.get ⟨.f, i⟩ ≤ f symbol ∧ solution.distances.get ⟨.g, i⟩ ≤ g symbol := by
  obtain ⟨pick, hpick, hself⟩ := (Classes.fits_of_ofMatrix hvalid.classes).exists_pick_eq hsymbol
  have hranked := (OrderingGraph.ofMatrix_rankedBy_iff matrix _).mpr
    (hsatisfied.rankedBy hpick)
  have hle := hvalid.longest.le_of_rankedBy hranked
  have hf := hle ⟨.f, i⟩
  have hg := hle ⟨.g, i⟩
  simp only [Matrix.pickedValue, hself] at hf hg
  exact ⟨hf, hg⟩

/-- No natural functions that reproduce the table are smaller anywhere. -/
theorem Valid.le_of_satisfiedBy (hvalid : solution.Valid matrix groups)
    {f g : String → Nat} (hsatisfied : matrix.SatisfiedBy groups f g) (symbol : String) :
    solution.functions.f symbol ≤ f symbol ∧ solution.functions.g symbol ≤ g symbol := by
  by_cases hsymbol : symbol ∈ solution.functions.symbols
  · rw [hvalid.symbols] at hsymbol
    obtain ⟨i, hi⟩ := Classes.exists_mem_symbolsOf hvalid.classes hsymbol
    rw [PrecedenceFunctions.f_eq (hvalid.values i symbol hi),
      PrecedenceFunctions.g_eq (hvalid.values i symbol hi)]
    exact hvalid.distances_le hsatisfied hi
  · have hnone := (solution.functions.get?_eq_none_iff symbol).mpr hsymbol
    simp [PrecedenceFunctions.f, PrecedenceFunctions.f?, PrecedenceFunctions.g,
      PrecedenceFunctions.g?, hnone]

theorem Valid.get?_eq_some (hvalid : solution.Valid matrix groups) {symbol : String}
    (hsymbol : symbol ∈ solution.classes.symbols) :
    solution.functions.get? symbol =
      some ⟨solution.functions.f symbol, solution.functions.g symbol⟩ :=
  PrecedenceFunctions.get?_eq_some_values (hvalid.symbols ▸ hsymbol)

theorem Valid.values_eq {other : Matrix} {others : Groups} {found : Solution other.size}
    (hvalid : solution.Valid matrix groups) (hother : found.Valid other others)
    (hforth : other.SatisfiedBy others solution.functions.f solution.functions.g)
    (hback : matrix.SatisfiedBy groups found.functions.f found.functions.g) (symbol : String) :
    solution.functions.f symbol = found.functions.f symbol ∧
      solution.functions.g symbol = found.functions.g symbol := by
  have hle := hvalid.le_of_satisfiedBy hback symbol
  have hge := hother.le_of_satisfiedBy hforth symbol
  exact ⟨Nat.le_antisymm hle.1 hge.1, Nat.le_antisymm hle.2 hge.2⟩

/-- Solutions of the same symbols that reproduce each other's tables have the same
functions. -/
theorem Valid.functions_eq_of_satisfiedBy {other : Matrix} {others : Groups}
    {found : Solution other.size} (hvalid : solution.Valid matrix groups)
    (hother : found.Valid other others)
    (hsymbols : solution.classes.symbols = found.classes.symbols)
    (hforth : other.SatisfiedBy others solution.functions.f solution.functions.g)
    (hback : matrix.SatisfiedBy groups found.functions.f found.functions.g) :
    solution.functions = found.functions := by
  have hvalues := hvalid.values_eq hother hforth hback
  apply PrecedenceFunctions.eq_of_values hvalid.nodup_symbols
  · rw [hvalid.symbols, hother.symbols, hsymbols]
  · exact fun symbol _ => (hvalues symbol).1
  · exact fun symbol _ => (hvalues symbol).2

theorem Valid.functions_eq {other : Matrix} {others : Groups} {found : Solution other.size}
    (hvalid : solution.Valid matrix groups) (hother : found.Valid other others)
    (hsymbols : solution.classes.symbols = found.classes.symbols)
    (hiff : ∀ f g : String → Nat, matrix.SatisfiedBy groups f g ↔ other.SatisfiedBy others f g) :
    solution.functions = found.functions :=
  hvalid.functions_eq_of_satisfiedBy hother hsymbols ((hiff _ _).mp hvalid.satisfiedBy)
    ((hiff _ _).mpr hother.satisfiedBy)

/-- In whatever order the symbols come, each then has the same values. -/
theorem Valid.get?_eq {other : Matrix} {others : Groups} {found : Solution other.size}
    (hvalid : solution.Valid matrix groups) (hother : found.Valid other others)
    (hsymbols : solution.classes.symbols.Perm found.classes.symbols)
    (hiff : ∀ f g : String → Nat, matrix.SatisfiedBy groups f g ↔ other.SatisfiedBy others f g)
    (symbol : String) : solution.functions.get? symbol = found.functions.get? symbol := by
  by_cases hmem : symbol ∈ solution.classes.symbols
  · obtain ⟨hf, hg⟩ := hvalid.values_eq hother ((hiff _ _).mp hvalid.satisfiedBy)
      ((hiff _ _).mpr hother.satisfiedBy) symbol
    rw [hvalid.get?_eq_some hmem, hother.get?_eq_some (hsymbols.mem_iff.mp hmem), hf, hg]
  · have hother : symbol ∉ found.functions.symbols :=
      hother.symbols ▸ mt hsymbols.mem_iff.mpr hmem
    rw [(solution.functions.get?_eq_none_iff symbol).mpr (hvalid.symbols ▸ hmem),
      (found.functions.get?_eq_none_iff symbol).mpr hother]

end Solution

namespace Matrix

variable {matrix : Matrix} {groups : Groups}

/-- A cycle of the graph rules out functions with values in any order. -/
theorem not_satisfiedBy_of_isCycle {α : Type u} [Preorder α]
    (hfits : groups.Fits matrix.labels) {vertices : List (Vertex matrix.size)}
    (hcycle : (OrderingGraph.ofMatrix matrix).IsCycle vertices) (f g : String → α) :
    ¬ matrix.SatisfiedBy groups f g := by
  intro hsatisfied
  obtain ⟨pick, hpick⟩ := hfits.exists_pick
  exact hcycle.not_rankedBy _
    ((OrderingGraph.ofMatrix_rankedBy_iff matrix _).mpr (hsatisfied.rankedBy hpick))

/-- Functions with values in any order lead to a solution. -/
theorem exists_solve_of_satisfiedBy {α : Type u} [Preorder α] {classes : Classes}
    (hclasses : Classes.ofMatrix matrix groups = .ok classes) {f g : String → α}
    (hsatisfied : matrix.SatisfiedBy groups f g) :
    ∃ solution, matrix.solve groups = .ok solution := by
  rcases solve_cases hclasses with ⟨solution, hsolve, -⟩ | ⟨vertices, -, hcycle⟩
  · exact ⟨solution, hsolve⟩
  · have hfits := Classes.fits_of_ofMatrix hclasses
    exact absurd hsatisfied (not_satisfiedBy_of_isCycle hfits hcycle f g)

theorem exists_solve_iff_integers {classes : Classes}
    (hclasses : Classes.ofMatrix matrix groups = .ok classes) :
    (∃ solution, matrix.solve groups = .ok solution) ↔
      ∃ f g : String → Int, matrix.SatisfiedBy groups f g := by
  constructor
  · rintro ⟨solution, hsolve⟩
    have hsatisfied := (valid_of_solve hsolve).satisfiedBy
    refine ⟨fun symbol => solution.functions.f symbol,
      fun symbol => solution.functions.g symbol, ?_⟩
    intro row column left hleft right hright
    exact (hsatisfied row column left hleft right hright).map _
      fun first second => Int.ofNat_lt.mpr
  · rintro ⟨f, g, hsatisfied⟩
    exact exists_solve_of_satisfiedBy hclasses hsatisfied

/-- A table that fits its groups and has no solution is reported as cyclic. -/
theorem exists_cycle_iff_not_exists_solve {classes : Classes}
    (hclasses : Classes.ofMatrix matrix groups = .ok classes) :
    (∃ cycle, matrix.solve groups = .error (.cycle cycle)) ↔
      ¬ ∃ solution, matrix.solve groups = .ok solution := by
  rcases solve_cases hclasses with ⟨solution, hsolve, -⟩ | ⟨vertices, hsolve, -⟩ <;>
    simp [hsolve]

theorem exists_solve_iff (matrix : Matrix) (groups : Groups) :
    (∃ solution, matrix.solve groups = .ok solution) ↔
      (∃ classes, Classes.ofMatrix matrix groups = .ok classes) ∧
        ∃ f g : String → Int, matrix.SatisfiedBy groups f g := by
  constructor
  · rintro ⟨solution, hsolve⟩
    obtain ⟨classes, hclasses⟩ := exists_classes_of_solve hsolve
    exact ⟨⟨classes, hclasses⟩, (exists_solve_iff_integers hclasses).mp ⟨solution, hsolve⟩⟩
  · rintro ⟨⟨classes, hclasses⟩, hintegers⟩
    exact (exists_solve_iff_integers hclasses).mpr hintegers

theorem exists_cycle_iff (matrix : Matrix) (groups : Groups) :
    (∃ cycle, matrix.solve groups = .error (.cycle cycle)) ↔
      (∃ classes, Classes.ofMatrix matrix groups = .ok classes) ∧
        ¬ ∃ f g : String → Int, matrix.SatisfiedBy groups f g := by
  cases hclasses : Classes.ofMatrix matrix groups with
  | error error => simp [solve_eq_table_error hclasses]
  | ok classes =>
      rw [exists_cycle_iff_not_exists_solve hclasses, exists_solve_iff_integers hclasses]
      simp

theorem exists_table_error_iff (matrix : Matrix) (groups : Groups) :
    (∃ error, matrix.solve groups = .error (.table error)) ↔
      ¬ ∃ classes, Classes.ofMatrix matrix groups = .ok classes := by
  cases hclasses : Classes.ofMatrix matrix groups with
  | error error => simp [solve_eq_table_error hclasses]
  | ok classes =>
      rcases solve_cases hclasses with ⟨solution, hsolve, -⟩ | ⟨vertices, hsolve, -⟩ <;>
        simp [hsolve]

/-- A table is solved if natural functions that reproduce a solved table
reproduce it. -/
theorem exists_solve_of_imp {other : Matrix} {others : Groups} {classes : Classes}
    (hclasses : Classes.ofMatrix other others = .ok classes)
    (himp : ∀ f g : String → Nat, matrix.SatisfiedBy groups f g → other.SatisfiedBy others f g)
    (hsolve : ∃ solution, matrix.solve groups = .ok solution) :
    ∃ solution, other.solve others = .ok solution := by
  obtain ⟨solution, hsolution⟩ := hsolve
  exact exists_solve_of_satisfiedBy hclasses
    (himp _ _ (valid_of_solve hsolution).satisfiedBy)

/-- A table that is solved: brackets around one class of two operators. -/
def brackets : Matrix where
  labels := ["lp", "rp", "A", "end"]
  cells := #v[.less, .equal, .less, .unrelated, .unrelated, .greater, .greater, .greater,
    .less, .greater, .greater, .greater, .less, .unrelated, .less, .unrelated]
  endIndex := ⟨3, by decide⟩
  labels_valid := by decide
  labels_nodup := by decide

/-- A table of two labels in which equalities bring `f(b)` and `g(b)` together and
a cell sets them apart. -/
def looped : Matrix where
  labels := ["a", "b"]
  cells := #v[.equal, .equal, .equal, .less]
  endIndex := ⟨1, by decide⟩
  labels_valid := by decide
  labels_nodup := by decide

def operators : Groups where
  entries := [("A", ["plus", "minus"])]
  labels_nodup := by decide

theorem operators_fits : operators.Fits brackets.labels where
  label_mem := by decide
  members_ne_nil := by decide
  isLabel := by decide
  not_mem := by decide
  nodup := by decide

def bracketsValues (symbol : String) : Values :=
  if symbol = "lp" then ⟨0, 3⟩
  else if symbol = "rp" then ⟨2, 0⟩
  else if symbol = "end" then ⟨0, 0⟩
  else ⟨2, 1⟩

theorem brackets_satisfiedBy :
    brackets.SatisfiedBy operators (fun symbol => (bracketsValues symbol).f)
      fun symbol => (bracketsValues symbol).g := by
  unfold SatisfiedBy
  decide

theorem exists_classes_brackets : ∃ classes, Classes.ofMatrix brackets operators = .ok classes :=
  (Classes.exists_ofMatrix_iff brackets operators).mpr ⟨operators_fits, by decide⟩

theorem exists_solve_brackets : ∃ solution, brackets.solve operators = .ok solution := by
  obtain ⟨classes, hclasses⟩ := exists_classes_brackets
  exact exists_solve_of_satisfiedBy hclasses brackets_satisfiedBy

/-- The functions have values for the symbols of every cell, the values reproduce
the cell, and so no violation is found. -/
theorem solve_reproduces_cells {solution : Solution matrix.size}
    (hsolve : matrix.solve groups = .ok solution) :
    (∀ cell ∈ matrix.cellList,
      ∀ left ∈ groups.symbolsOf (matrix.label cell.row),
        ∀ right ∈ groups.symbolsOf (matrix.label cell.column),
          ∃ leftValues rightValues,
            solution.functions.get? left = some leftValues ∧
              solution.functions.get? right = some rightValues ∧
                cell.relation.Holds leftValues.f rightValues.g) ∧
      solution.functions.violations matrix solution.classes = [] := by
  have hvalid := valid_of_solve hsolve
  constructor
  · intro cell hcell left hleft right hright
    refine ⟨_, _, hvalid.values cell.row left hleft, hvalid.values cell.column right hright, ?_⟩
    rw [(matrix.mem_cellList_iff cell).mp hcell]
    exact hvalid.rankedBy cell.row cell.column
  · exact PrecedenceFunctions.violations_eq_nil hvalid.classes hvalid.satisfiedBy

theorem brackets_solve_reproduces_cells :
    ∃ solution, brackets.solve operators = .ok solution ∧
      (∃ leftValues rightValues, solution.functions.get? "minus" = some leftValues ∧
        solution.functions.get? "lp" = some rightValues ∧ leftValues.f < rightValues.g) ∧
      solution.functions.violations brackets solution.classes = [] := by
  obtain ⟨solution, hsolve⟩ := exists_solve_brackets
  obtain ⟨hcells, hviolations⟩ := solve_reproduces_cells hsolve
  refine ⟨solution, hsolve, ?_, hviolations⟩
  exact hcells ⟨⟨2, by decide⟩, ⟨0, by decide⟩, .less⟩
    ((brackets.mem_cellList_iff _).mpr (by decide)) "minus" (by decide) "lp" (by decide)

/-- A table whose groups do not fit is refused for that.  Any other table is
refused for a cycle exactly when no integer functions reproduce it, and solved
exactly when some do. -/
theorem solve_eq_cycle_iff_no_integers (matrix : Matrix) (groups : Groups) :
    (∀ error, Classes.ofMatrix matrix groups = .error error →
      matrix.solve groups = .error (.table error)) ∧
    ∀ classes, Classes.ofMatrix matrix groups = .ok classes →
      ((∃ cycle, matrix.solve groups = .error (.cycle cycle)) ↔
        ¬ ∃ f g : String → Int, matrix.SatisfiedBy groups f g) ∧
      ((∃ solution, matrix.solve groups = .ok solution) ↔
        ∃ f g : String → Int, matrix.SatisfiedBy groups f g) := by
  refine ⟨fun error => solve_eq_table_error, ?_⟩
  intro classes hclasses
  have hsolved := exists_solve_iff_integers hclasses
  exact ⟨(exists_cycle_iff_not_exists_solve hclasses).trans (not_congr hsolved), hsolved⟩

theorem looped_solve_eq_cycle :
    (∃ cycle, looped.solve .empty = .error (.cycle cycle)) ∧
      looped.solve operators = .error (.table (.groupWithoutClass "A")) := by
  obtain ⟨classes, hclasses⟩ := (Classes.exists_ofMatrix_iff looped .empty).mpr
    ⟨⟨by decide, by decide, by decide, by decide, by decide⟩, by decide⟩
  constructor
  · apply ((solve_eq_cycle_iff_no_integers looped .empty).2 classes hclasses).1.mpr
    rintro ⟨f, g, hsatisfied⟩
    have hcell := fun i j => hsatisfied i j _ List.mem_cons_self _ List.mem_cons_self
    have hfirst : f "a" = g "a" := hcell ⟨0, by decide⟩ ⟨0, by decide⟩
    have hrow : f "a" = g "b" := hcell ⟨0, by decide⟩ ⟨1, by decide⟩
    have hcolumn : f "b" = g "a" := hcell ⟨1, by decide⟩ ⟨0, by decide⟩
    have hlast : f "b" < g "b" := hcell ⟨1, by decide⟩ ⟨1, by decide⟩
    omega
  · exact (solve_eq_cycle_iff_no_integers looped operators).1 _ (by decide)

/-- Natural functions that reproduce the table are nowhere below the functions
found. -/
theorem solve_functions_least {solution : Solution matrix.size}
    (hsolve : matrix.solve groups = .ok solution) {f g : String → Nat}
    (hsatisfied : matrix.SatisfiedBy groups f g) :
    ∀ symbol ∈ solution.classes.symbols, ∃ values,
      solution.functions.get? symbol = some values ∧
        values.f ≤ f symbol ∧ values.g ≤ g symbol := by
  intro symbol hsymbol
  have hvalid := valid_of_solve hsolve
  obtain ⟨i, hi⟩ := Classes.exists_mem_symbolsOf hvalid.classes hsymbol
  exact ⟨_, hvalid.values i symbol hi, hvalid.distances_le hsatisfied hi⟩

theorem brackets_solve_functions_least :
    ∃ solution, brackets.solve operators = .ok solution ∧
      ∀ symbol ∈ solution.classes.symbols, ∃ values,
        solution.functions.get? symbol = some values ∧
          values.f ≤ (bracketsValues symbol).f ∧ values.g ≤ (bracketsValues symbol).g := by
  obtain ⟨solution, hsolve⟩ := exists_solve_brackets
  exact ⟨solution, hsolve, solve_functions_least hsolve brackets_satisfiedBy⟩

end Matrix

end OperatorPrecedence
