import OperatorPrecedence.Proofs.PlainRecursion

/-!
When the end marker comes out above zero.  A vertex has the value zero exactly if no
cell sets its merged set above anything, so what lifts the end marker can stand in a
row or a column far from its own.  A run warns of the end marker exactly where it is
lifted.
-/

namespace OperatorPrecedence

/-- Only a vertex without successors has no walk longer than none. -/
theorem Distances.Longest.get_eq_zero_iff {n : Nat} {graph : OrderingGraph n}
    {distances : Distances n} (hlongest : distances.Longest graph) (vertex : Vertex n) :
    distances.get vertex = 0 ↔ graph.successors vertex = [] := by
  constructor
  · intro hzero
    apply List.eq_nil_iff_forall_not_mem.mpr
    intro next hstep
    have hlt := hlongest.lt_of_step hstep
    omega
  · intro hnone
    cases hdistance : distances.get vertex with
    | zero => rfl
    | succ distance =>
        obtain ⟨next, hstep, -⟩ := hlongest.exists_successor hdistance
        simp [hnone] at hstep

namespace Matrix

variable {matrix : Matrix} {groups : Groups}

/-- No cell sets the merged set of a vertex above anything: there is no `>` in the row
of any `f` of the set, and no `<` in the column of any `g` of it. -/
structure Undermost (matrix : Matrix) (vertex : Vertex matrix.size) : Prop where
  row : ∀ row, matrix.Merged ⟨.f, row⟩ vertex →
    ∀ column, matrix.relation row column ≠ .greater
  column : ∀ column, matrix.Merged ⟨.g, column⟩ vertex →
    ∀ row, matrix.relation row column ≠ .less

theorem undermost_iff (matrix : Matrix) (vertex : Vertex matrix.size) :
    matrix.Undermost vertex ↔
      ∀ above below, matrix.SetsAbove above below → ¬ matrix.Merged above vertex := by
  constructor
  · intro hundermost above below habove hmerged
    cases habove with
    | less hcell => exact hundermost.column _ hmerged _ hcell
    | greater hcell => exact hundermost.row _ hmerged _ hcell
  · intro hnone
    constructor
    · intro row hmerged column hcell
      exact hnone _ _ (.greater hcell) hmerged
    · intro column hmerged row hcell
      exact hnone _ _ (.less hcell) hmerged

theorem successors_eq_nil_iff_undermost (matrix : Matrix) (vertex : Vertex matrix.size) :
    (OrderingGraph.ofMatrix matrix).successors vertex = [] ↔ matrix.Undermost vertex := by
  simp only [undermost_iff, List.eq_nil_iff_forall_not_mem, OrderingGraph.mem_successors_iff,
    OrderingGraph.mem_edges_ofMatrix_iff, ← OrderingGraph.representative_ofMatrix_eq_iff]
  constructor
  · intro hnone above below habove hmerged
    exact hnone _ ⟨above, below, habove, hmerged.symm, rfl⟩
  · rintro hnone target ⟨above, below, habove, hmerged, -⟩
    exact hnone above below habove hmerged.symm

/-- What a run warns of. -/
def warnings (matrix : Matrix) (groups : Groups) : List Event :=
  (matrix.solveEvents groups).filter fun event => event.level = .warn

/-- The warnings role by role. -/
theorem endMarkerEvents_eq (matrix : Matrix) (distances : Distances matrix.size) :
    matrix.endMarkerEvents distances = [Role.f, Role.g].flatMap fun role =>
      if distances.get ⟨role, matrix.endIndex⟩ = 0 then []
      else [.endMarkerRaised ⟨role, matrix.endMarker⟩
        (distances.get ⟨role, matrix.endIndex⟩)] := by
  rw [endMarkerEvents, List.filterMap_eq_flatMap_toList]
  change (([Role.f, Role.g].map fun role => Vertex.mk role matrix.endIndex).flatMap _) = _
  rw [List.flatMap_map]
  congr 1
  funext role
  by_cases hzero : distances.get ⟨role, matrix.endIndex⟩ = 0
  · simp [hzero]
  · simp [hzero, vertexName, endMarker]

theorem filter_warn_searchEvents (matrix : Matrix) (graph : OrderingGraph matrix.size) :
    (matrix.searchEvents graph).filter (fun event => event.level = .warn) =
      match Distances.ofGraph graph with
      | .error _ => []
      | .ok distances => matrix.endMarkerEvents distances := by
  have hvisits : ((Search.ofRoots graph graph.roots).1.history.map matrix.visitEvent).filter
      (fun event => event.level = .warn) = [] := by
    apply List.filter_eq_nil_iff.mpr
    simp
  rw [searchEvents, List.filter_append, hvisits, List.nil_append]
  cases Distances.ofGraph graph with
  | error halt => rfl
  | ok distances =>
      apply List.filter_eq_self.mpr
      intro event hevent
      exact decide_eq_true (level_of_mem_endMarkerEvents hevent)

/-- A run warns of nothing but the end marker, and only with the distances found. -/
theorem warnings_eq (matrix : Matrix) (groups : Groups) :
    matrix.warnings groups =
      match Classes.ofMatrix matrix groups with
      | .error _ => []
      | .ok _ =>
          match Distances.ofGraph (OrderingGraph.ofMatrix matrix) with
          | .error _ => []
          | .ok distances => matrix.endMarkerEvents distances := by
  have hwarn : ∀ event : Event, decide (event.level = .warn) = true → .search ∈ event.spans := by
    intro event
    cases event <;> simp [Event.level, Event.spans]
  rw [warnings, filter_solveEvents matrix groups hwarn]
  cases Classes.ofMatrix matrix groups with
  | error error => rfl
  | ok classes => exact matrix.filter_warn_searchEvents _

/-- The class of the end marker has the symbols of its label. -/
theorem symbols_endMarker_of_ofMatrix {classes : Classes}
    (hclasses : Classes.ofMatrix matrix groups = .ok classes) :
    classes.endMarker.symbols = groups.symbolsOf matrix.endMarker := by
  have hend := Classes.get?_endIndex_of_ofMatrix hclasses
  rw [Classes.get?_of_ofMatrix hclasses] at hend
  rw [← Option.some.inj hend]
  rfl

/-- A solution gives the end marker zero in a role exactly if no cell sets the merged
set of that vertex above anything.  A run that finds a solution warns of the end marker
once for each role in which it is not zero, first of `f`, then of `g`, and of nothing
else; a run that finds none warns of nothing. -/
theorem solve_raises_endMarker (matrix : Matrix) (groups : Groups) :
    (∀ solution, matrix.solve groups = .ok solution →
      (∀ symbol ∈ solution.classes.endMarker.symbols, solution.functions.get? symbol =
        some ⟨solution.distances.get ⟨.f, matrix.endIndex⟩,
          solution.distances.get ⟨.g, matrix.endIndex⟩⟩) ∧
      (∀ role, solution.distances.get ⟨role, matrix.endIndex⟩ = 0 ↔
        matrix.Undermost ⟨role, matrix.endIndex⟩) ∧
      matrix.warnings groups = [Role.f, Role.g].flatMap fun role =>
        if solution.distances.get ⟨role, matrix.endIndex⟩ = 0 then []
        else [.endMarkerRaised ⟨role, matrix.endMarker⟩
          (solution.distances.get ⟨role, matrix.endIndex⟩)]) ∧
    ∀ error, matrix.solve groups = .error error → matrix.warnings groups = [] := by
  have hgraph := OrderingGraph.ofMatrix_coherent matrix
  constructor
  · intro solution hsolve
    have hvalid := valid_of_solve hsolve
    refine ⟨?_, ?_, ?_⟩
    · rw [symbols_endMarker_of_ofMatrix hvalid.classes]
      exact hvalid.values matrix.endIndex
    · intro role
      rw [hvalid.longest.get_eq_zero_iff, successors_eq_nil_iff_undermost]
    · have hfound : Distances.ofGraph (OrderingGraph.ofMatrix matrix) = .ok solution.distances :=
        (Distances.ofRoots_eq_ok_iff hgraph.representative_idem
          hgraph.representative_mem_roots).mpr hvalid.longest
      simp only [warnings_eq, hvalid.classes, hfound, endMarkerEvents_eq]
  · intro error hsolve
    rw [warnings_eq]
    cases hclasses : Classes.ofMatrix matrix groups with
    | error cause => rfl
    | ok classes =>
        rcases Distances.ofGraph_cases hgraph with ⟨distances, hfound, -⟩ | ⟨vertices, hhalt, -⟩
        · obtain ⟨functions, hfunctions, -⟩ :=
            PrecedenceFunctions.ofDistances_eq_ok hclasses distances
          simp [solve, hclasses, hfound, hfunctions] at hsolve
        · rw [hhalt]

/-- A table in which only an `=` in the row of the end marker lifts it: `f(end)` is one
with `g(a)`, which is above `f(a)`. -/
def lifted : Matrix where
  labels := ["a", "end"]
  cells := #v[.less, .unrelated, .equal, .unrelated]
  endIndex := ⟨1, by decide⟩
  labels_valid := by decide
  labels_nodup := by decide

theorem lifted_satisfiedBy :
    lifted.SatisfiedBy .empty (fun symbol => if symbol = "end" then 1 else 0)
      fun symbol => if symbol = "a" then 1 else 0 := by
  unfold SatisfiedBy
  decide

theorem lifted_raises_endMarker :
    ∃ solution, lifted.solve .empty = .ok solution ∧
      lifted.warnings .empty = [.endMarkerRaised ⟨.f, "end"⟩ 1] := by
  obtain ⟨classes, hclasses⟩ := (Classes.exists_ofMatrix_iff lifted .empty).mpr
    ⟨Groups.empty_fits _, by decide⟩
  obtain ⟨solution, hsolve⟩ := exists_solve_of_satisfiedBy hclasses lifted_satisfiedBy
  obtain ⟨-, hzero, hwarnings⟩ := (solve_raises_endMarker lifted .empty).1 solution hsolve
  have hend : "end" ∈ Groups.empty.symbolsOf (lifted.label lifted.endIndex) := by decide
  obtain ⟨hf, hg⟩ := (valid_of_solve hsolve).distances_le lifted_satisfiedBy hend
  simp only [↓reduceIte, String.reduceEq, Nat.le_zero] at hf hg
  have hmerged : lifted.Merged ⟨.g, ⟨0, by decide⟩⟩ ⟨.f, lifted.endIndex⟩ :=
    .symm _ _ (.rel _ _ ⟨lifted.endIndex, ⟨0, by decide⟩, by decide, rfl, rfl⟩)
  have hlifted : solution.distances.get ⟨.f, lifted.endIndex⟩ ≠ 0 := by
    intro hnone
    exact ((hzero .f).mp hnone).column _ hmerged ⟨0, by decide⟩ (by decide)
  have hone : solution.distances.get ⟨.f, lifted.endIndex⟩ = 1 := by omega
  refine ⟨solution, hsolve, ?_⟩
  simp only [hwarnings, List.flatMap_cons, List.flatMap_nil, hone, hg]
  rfl

end Matrix

end OperatorPrecedence
