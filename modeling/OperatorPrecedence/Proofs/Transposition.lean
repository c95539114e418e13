import OperatorPrecedence.Proofs.DerivedTables

/-!
The mirrored table, in which rows and columns change places and every relation is
read from right to left.  What reproduces it is what reproduces the table with `f`
and `g` exchanged, and so are the least values: the two functions play the same part.
-/

namespace OperatorPrecedence

universe u

def Relation.converse : Relation → Relation
  | .less => .greater
  | .greater => .less
  | .equal => .equal
  | .unrelated => .unrelated

@[simp] theorem Relation.converse_converse (relation : Relation) :
    relation.converse.converse = relation := by
  cases relation <;> rfl

theorem Relation.Holds.converse {α : Type u} [LT α] {relation : Relation} {f g : α}
    (hholds : relation.Holds f g) : relation.converse.Holds g f := by
  cases relation with
  | less => exact hholds
  | greater => exact hholds
  | equal => exact Eq.symm hholds
  | unrelated => trivial

theorem Relation.holds_converse_iff {α : Type u} [LT α] (relation : Relation) (f g : α) :
    relation.converse.Holds f g ↔ relation.Holds g f := by
  constructor
  · intro hholds
    have hback := hholds.converse
    rwa [converse_converse] at hback
  · exact Relation.Holds.converse

def Values.swap (values : Values) : Values :=
  ⟨values.g, values.f⟩

namespace Matrix

variable {matrix : Matrix} {groups : Groups}

/-- The matrix with the converse of each relation in the mirrored place, under the
same labels and with the same end marker. -/
def transpose (matrix : Matrix) : Matrix :=
  matrix.withRelation fun row column => (matrix.relation column row).converse

theorem classes_transpose (matrix : Matrix) (groups : Groups) :
    Classes.ofMatrix matrix.transpose groups = Classes.ofMatrix matrix groups :=
  rfl

/-- The mirrored table is reproduced with the functions exchanged. -/
theorem transpose_satisfiedBy_iff {α : Type u} [LT α] (matrix : Matrix) (groups : Groups)
    (f g : String → α) :
    matrix.transpose.SatisfiedBy groups g f ↔ matrix.SatisfiedBy groups f g := by
  rw [transpose, withRelation_satisfiedBy_iff]
  constructor
  · intro hsatisfied row column left hleft right hright
    rw [← Relation.holds_converse_iff]
    exact hsatisfied column row right hright left hleft
  · intro hsatisfied column row right hright left hleft
    rw [Relation.holds_converse_iff]
    exact hsatisfied row column left hleft right hright

theorem exists_integers_transpose_iff (matrix : Matrix) (groups : Groups) :
    (∃ f g : String → Int, matrix.transpose.SatisfiedBy groups f g) ↔
      ∃ f g : String → Int, matrix.SatisfiedBy groups f g := by
  rw [exists_comm]
  exact exists_congr fun f => exists_congr fun g => matrix.transpose_satisfiedBy_iff groups f g

/-- The least values of the mirrored table are those of the table, exchanged. -/
theorem transpose_values_eq {solution : Solution matrix.size}
    {found : Solution matrix.transpose.size} (hvalid : solution.Valid matrix groups)
    (hfound : found.Valid matrix.transpose groups) (symbol : String) :
    found.functions.f symbol = solution.functions.g symbol ∧
      found.functions.g symbol = solution.functions.f symbol := by
  have hle := hfound.le_of_satisfiedBy
    ((matrix.transpose_satisfiedBy_iff groups _ _).mpr hvalid.satisfiedBy) symbol
  have hge := hvalid.le_of_satisfiedBy
    ((matrix.transpose_satisfiedBy_iff groups _ _).mp hfound.satisfiedBy) symbol
  exact ⟨Nat.le_antisymm hle.1 hge.2, Nat.le_antisymm hle.2 hge.1⟩

/-- The mirrored table is solved exactly when the table is, it has a cycle exactly
when that has, and every symbol then has its two values exchanged. -/
theorem solve_transpose (matrix : Matrix) (groups : Groups) :
    ((∃ found, matrix.transpose.solve groups = .ok found) ↔
      ∃ solution, matrix.solve groups = .ok solution) ∧
    ((∃ cycle, matrix.transpose.solve groups = .error (.cycle cycle)) ↔
      ∃ cycle, matrix.solve groups = .error (.cycle cycle)) ∧
    ∀ solution found, matrix.solve groups = .ok solution →
      matrix.transpose.solve groups = .ok found →
        ∀ symbol ∈ solution.classes.symbols, ∃ values,
          solution.functions.get? symbol = some values ∧
            found.functions.get? symbol = some values.swap := by
  refine ⟨?_, ?_, ?_⟩
  · rw [exists_solve_iff, exists_solve_iff, classes_transpose, exists_integers_transpose_iff]
  · rw [exists_cycle_iff, exists_cycle_iff, classes_transpose, exists_integers_transpose_iff]
  · intro solution found hsolve hmirrored symbol hsymbol
    have hvalid := valid_of_solve hsolve
    have hfound := valid_of_solve hmirrored
    have hclasses : found.classes = solution.classes :=
      Except.ok.inj (hfound.classes.symm.trans hvalid.classes)
    obtain ⟨hf, hg⟩ := transpose_values_eq hvalid hfound symbol
    refine ⟨_, hvalid.get?_eq_some hsymbol, ?_⟩
    rw [hfound.get?_eq_some (hclasses ▸ hsymbol), hf, hg]
    rfl

theorem brackets_solve_transpose :
    ∃ solution found values, brackets.solve operators = .ok solution ∧
      brackets.transpose.solve operators = .ok found ∧
        solution.functions.get? "lp" = some values ∧
          found.functions.get? "lp" = some values.swap ∧ values.f < values.g := by
  obtain ⟨solution, hsolve⟩ := exists_solve_brackets
  have hvalid := valid_of_solve hsolve
  have hsymbol : "lp" ∈ solution.classes.symbols := by
    rw [Classes.symbols_of_ofMatrix hvalid.classes]
    decide
  obtain ⟨hsolved, -, hvalues⟩ := solve_transpose brackets operators
  obtain ⟨found, hfound⟩ := hsolved.mpr ⟨solution, hsolve⟩
  obtain ⟨values, hget, hswapped⟩ := hvalues solution found hsolve hfound "lp" hsymbol
  have hless : solution.functions.f "lp" < solution.functions.g "lp" :=
    hvalid.satisfiedBy ⟨0, by decide⟩ ⟨0, by decide⟩ "lp" (by decide) "lp" (by decide)
  rw [PrecedenceFunctions.f_eq hget, PrecedenceFunctions.g_eq hget] at hless
  exact ⟨solution, found, values, hsolve, hfound, hget, hswapped, hless⟩

end Matrix

end OperatorPrecedence
