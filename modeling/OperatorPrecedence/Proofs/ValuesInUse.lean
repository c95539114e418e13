import Mathlib.Data.Finset.Max
import Mathlib.Data.List.Nodup
import OperatorPrecedence.Proofs.LeastSolution

/-!
Which values are in use.  Below the length of a longest walk every smaller length
belongs to a vertex further down, so the values leave no gap, and no value reaches
the number of representatives.  The same holds for the lengths that a search has
noted at any time, also on the way to a cycle, so one more than any of them fits
thirty-two bits.
-/

namespace OperatorPrecedence

/-- A list that holds every number up to some greatest one is longer than that. -/
theorem lt_length_of_forall_le_mem {values : List Nat} {greatest : Nat}
    (hall : ∀ value ≤ greatest, value ∈ values) : greatest < values.length := by
  have hsubset : List.range (greatest + 1) ⊆ values := fun value hvalue =>
    hall value (Nat.lt_succ_iff.mp (List.mem_range.mp hvalue))
  have hle := (List.nodup_range.subperm hsubset).length_le
  rwa [List.length_range] at hle

namespace OrderingGraph

variable {n : Nat}

theorem length_roots_le (graph : OrderingGraph n) : graph.roots.length ≤ 2 * n := by
  have hsubset : graph.roots ⊆ Vertex.all n := fun vertex _ => Vertex.mem_all vertex
  have hle := (graph.nodup_roots.subperm hsubset).length_le
  rwa [Vertex.all, List.length_append, List.length_map, List.length_map,
    List.length_finRange, ← Nat.two_mul] at hle

end OrderingGraph

namespace Search

variable {n : Nat} {graph : OrderingGraph n} {search : Search n}

theorem Valid.mem_successors (hvalid : search.Valid graph none) {frame : Frame n}
    {below : List (Frame n)} (hstack : search.stack = frame :: below) {vertex : Vertex n}
    (hpending : vertex ∈ frame.pending) : vertex ∈ graph.successors frame.vertex := by
  have hstackValid := hvalid.stack
  rw [hstack] at hstackValid
  obtain ⟨⟨tried, hsuccessors, -, -⟩, -⟩ := hstackValid
  rw [hsuccessors]
  exact List.mem_append_right tried hpending

theorem Reached.isRepresentative (hgraph : graph.Coherent)
    (hreached : Reached graph graph.roots search) {vertex : Vertex n}
    (hseen : search.marks.get vertex ≠ .unseen) : graph.isRepresentative vertex = true := by
  induction hreached with
  | start => simp [Search.start] at hseen
  | @root search root _ _ hroot _ ih =>
      by_cases heq : vertex = root
      · rw [heq]
        exact (graph.mem_roots_iff root).mp hroot
      · simp only [enter, VertexTable.get_set, heq, ↓reduceIte] at hseen
        exact ih hseen
  | @advance search next frame below hsearch hstack hnext ih =>
      rcases advance_eq_ok hnext with
        ⟨other, pending, hpending, -, rfl⟩ | ⟨other, pending, distance, -, -, rfl⟩ |
        ⟨distance, -, -, rfl⟩
      · by_cases heq : vertex = other
        · rw [heq]
          apply hgraph.isRepresentative_of_mem_successors
          apply hsearch.valid.mem_successors hstack
          simp [hpending]
        · simp only [enter, VertexTable.get_set, heq, ↓reduceIte] at hseen
          exact ih hseen
      · exact ih hseen
      · apply ih
        by_cases heq : vertex = frame.vertex
        · rw [heq, hsearch.valid.opened_of_stack hstack]
          simp
        · simpa only [VertexTable.get_set, heq, ↓reduceIte] using hseen

/-- Below a closed vertex every smaller length is that of a closed vertex. -/
theorem Valid.exists_closed {above? : Option (Vertex n)} (hvalid : search.Valid graph above?)
    {vertex : Vertex n} {distance value : Nat}
    (hclosed : search.marks.get vertex = .closed distance) (hle : value ≤ distance) :
    ∃ other, search.marks.get other = .closed value := by
  induction distance generalizing vertex with
  | zero => exact ⟨vertex, Nat.le_zero.mp hle ▸ hclosed⟩
  | succ distance ih =>
      rcases Nat.le_succ_iff.mp hle with hless | rfl
      · rcases distanceOver_eq_zero_or (hvalid.closed vertex _ hclosed) with
          hzero | ⟨next, -, found, hfound, heq⟩
        · omega
        · rw [← Nat.succ.inj heq] at hfound
          exact ih hfound hless
      · exact ⟨vertex, hclosed⟩

/-- No length that a search notes reaches the number of representatives. -/
theorem Reached.distance_lt (hgraph : graph.Coherent)
    (hreached : Reached graph graph.roots search) {vertex : Vertex n} {distance : Nat}
    (hclosed : search.marks.get vertex = .closed distance) :
    distance < graph.roots.length := by
  have hnoted : ∀ value ≤ distance,
      value ∈ graph.roots.filterMap fun root => (search.marks.get root).distance? := by
    intro value hle
    obtain ⟨other, hother⟩ := hreached.valid.exists_closed hclosed hle
    refine List.mem_filterMap.mpr ⟨other, (graph.mem_roots_iff other).mpr ?_, ?_⟩
    · exact hreached.isRepresentative hgraph (by simp [hother])
    · simp [hother, Mark.distance?]
  exact (lt_length_of_forall_le_mem hnoted).trans_le (List.length_filterMap_le _ _)

end Search

namespace Distances

variable {n : Nat} {graph : OrderingGraph n} {distances : Distances n}

/-- A vertex of positive distance has a successor that is exactly one below it. -/
theorem Longest.exists_successor (hlongest : distances.Longest graph) {vertex : Vertex n}
    {distance : Nat} (hdistance : distances.get vertex = distance + 1) :
    ∃ next ∈ graph.successors vertex, distances.get next = distance := by
  obtain ⟨last, hwalk⟩ := hlongest.exists_walk vertex
  rw [hdistance] at hwalk
  cases hwalk with
  | @cons _ next _ _ hstep hrest =>
      have hge := hlongest.walk_le _ _ _ hrest
      obtain ⟨far, hfar⟩ := hlongest.exists_walk next
      have hle := hlongest.walk_le _ _ _ (.cons hstep hfar)
      exact ⟨next, hstep, by omega⟩

/-- Every number below a distance is a distance. -/
theorem Longest.exists_get_eq (hlongest : distances.Longest graph) {vertex : Vertex n}
    {value : Nat} (hle : value ≤ distances.get vertex) :
    ∃ other, distances.get other = value := by
  induction hdistance : distances.get vertex generalizing vertex with
  | zero => exact ⟨vertex, by omega⟩
  | succ distance ih =>
      by_cases heq : value = distance + 1
      · exact ⟨vertex, hdistance.trans heq.symm⟩
      · obtain ⟨next, -, hnext⟩ := hlongest.exists_successor hdistance
        exact ih (by omega) hnext

theorem Longest.get_lt (hgraph : graph.Coherent) (hlongest : distances.Longest graph)
    (vertex : Vertex n) : distances.get vertex < graph.roots.length := by
  have hrooted : ∀ value ≤ distances.get vertex, value ∈ graph.roots.map distances.get := by
    intro value hle
    obtain ⟨other, rfl⟩ := hlongest.exists_get_eq hle
    exact List.mem_map.mpr ⟨graph.representative other, hgraph.representative_mem_roots other,
      (hlongest.rankedBy hgraph).representative other⟩
  simpa using lt_length_of_forall_le_mem hrooted

theorem exists_greatest (distances : Distances n) (vertex : Vertex n) :
    ∃ top, ∀ other, distances.get other ≤ distances.get top := by
  obtain ⟨top, -, htop⟩ := (Vertex.all n).toFinset.exists_max_image distances.get
    ⟨vertex, List.mem_toFinset.mpr (Vertex.mem_all vertex)⟩
  exact ⟨top, fun other => htop other (List.mem_toFinset.mpr (Vertex.mem_all other))⟩

end Distances

/-- The values in use are the distances of the vertices. -/
theorem Solution.Valid.uses_iff {matrix : Matrix} {groups : Groups}
    {solution : Solution matrix.size} (hvalid : solution.Valid matrix groups) (value : Nat) :
    (∃ symbol ∈ solution.classes.symbols, solution.functions.f? symbol = some value ∨
        solution.functions.g? symbol = some value) ↔
      ∃ vertex, solution.distances.get vertex = value := by
  constructor
  · rintro ⟨symbol, hsymbol, hvalue⟩
    obtain ⟨i, hi⟩ := Classes.exists_mem_symbolsOf hvalid.classes hsymbol
    simp only [PrecedenceFunctions.f?, PrecedenceFunctions.g?, hvalid.values i symbol hi,
      Option.map_some, Option.some.injEq] at hvalue
    rcases hvalue with hf | hg
    · exact ⟨⟨.f, i⟩, hf⟩
    · exact ⟨⟨.g, i⟩, hg⟩
  · rintro ⟨⟨role, i⟩, hvalue⟩
    obtain ⟨symbol, hi⟩ := List.exists_mem_of_ne_nil _
      ((Classes.fits_of_ofMatrix hvalid.classes).symbolsOf_ne_nil (matrix.label i))
    refine ⟨symbol, ?_, ?_⟩
    · rw [Classes.symbols_of_ofMatrix hvalid.classes]
      exact List.mem_flatMap.mpr ⟨matrix.label i, List.getElem_mem i.isLt, hi⟩
    · rw [PrecedenceFunctions.f?, PrecedenceFunctions.g?, hvalid.values i symbol hi]
      cases role with
      | f => exact Or.inl (congrArg some hvalue)
      | g => exact Or.inr (congrArg some hvalue)

namespace Matrix

variable {matrix : Matrix} {groups : Groups}

/-- In a solution the values in use are the numbers up to a greatest one, which is
below the number of representatives.  No length that the search notes reaches that
number either, whether the table has a solution or a cycle, so adding one to a
length never leaves thirty-two bits. -/
theorem solve_values_gapless {classes : Classes}
    (hclasses : Classes.ofMatrix matrix groups = .ok classes) :
    (OrderingGraph.ofMatrix matrix).roots.length ≤ 2 * matrix.size ∧
    2 * matrix.size ≤ 131072 ∧
    (∀ search,
      Search.Reached (OrderingGraph.ofMatrix matrix) (OrderingGraph.ofMatrix matrix).roots search →
        ∀ vertex distance, search.marks.get vertex = .closed distance →
          distance < (OrderingGraph.ofMatrix matrix).roots.length ∧
            distance + 1 < UInt32.size) ∧
    ∀ solution, matrix.solve groups = .ok solution →
      ∃ greatest < solution.graph.roots.length, ∀ value,
        (∃ symbol ∈ solution.classes.symbols, solution.functions.f? symbol = some value ∨
            solution.functions.g? symbol = some value) ↔ value ≤ greatest := by
  have hgraph := OrderingGraph.ofMatrix_coherent matrix
  have hroots := (OrderingGraph.ofMatrix matrix).length_roots_le
  have hsize : matrix.size ≤ Classes.capacity :=
    ((Classes.exists_ofMatrix_iff matrix groups).mp ⟨classes, hclasses⟩).2
  rw [Classes.capacity] at hsize
  refine ⟨hroots, by omega, ?_, ?_⟩
  · intro search hreached vertex distance hclosed
    have hlt := hreached.distance_lt hgraph hclosed
    refine ⟨hlt, ?_⟩
    rw [UInt32.size]
    omega
  · intro solution hsolve
    have hvalid := valid_of_solve hsolve
    obtain ⟨top, htop⟩ := solution.distances.exists_greatest ⟨.f, matrix.endIndex⟩
    refine ⟨solution.distances.get top, ?_, ?_⟩
    · rw [hvalid.graph]
      exact hvalid.longest.get_lt hgraph top
    · intro value
      rw [hvalid.uses_iff]
      constructor
      · rintro ⟨vertex, rfl⟩
        exact htop vertex
      · exact hvalid.longest.exists_get_eq

theorem bracketsValues_le (symbol : String) :
    (bracketsValues symbol).f ≤ 3 ∧ (bracketsValues symbol).g ≤ 3 := by
  unfold bracketsValues
  split_ifs <;> decide

theorem brackets_values_gapless :
    ∃ solution, brackets.solve operators = .ok solution ∧
      ∃ greatest ≤ 3, greatest < solution.graph.roots.length ∧ ∀ value,
        (∃ symbol ∈ solution.classes.symbols, solution.functions.f? symbol = some value ∨
            solution.functions.g? symbol = some value) ↔ value ≤ greatest := by
  obtain ⟨classes, hclasses⟩ := exists_classes_brackets
  obtain ⟨solution, hsolve⟩ := exists_solve_brackets
  obtain ⟨-, -, -, hsolved⟩ := solve_values_gapless hclasses
  obtain ⟨greatest, hlt, hused⟩ := hsolved solution hsolve
  refine ⟨solution, hsolve, greatest, ?_, hlt, hused⟩
  obtain ⟨symbol, -, hvalue⟩ := (hused greatest).mpr (Nat.le_refl greatest)
  have hleast := (valid_of_solve hsolve).le_of_satisfiedBy brackets_satisfiedBy symbol
  have hsmall := bracketsValues_le symbol
  rcases hvalue with hf | hg
  · rw [PrecedenceFunctions.f, hf, Option.getD_some] at hleast
    omega
  · rw [PrecedenceFunctions.g, hg, Option.getD_some] at hleast
    omega

end Matrix

end OperatorPrecedence
