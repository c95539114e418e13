import OperatorPrecedence.Proofs.LeastSolution

/-!
A run on a table finds all that it looks up.  Classes, cells, vertices and their
entries are looked up by number, and every number that comes up is in range; the
search never asks for a length that is not there; and a solution has the names for
all the vertices of its graph.
-/

namespace OperatorPrecedence

theorem Vertex.getElem?_all_index {n : Nat} (vertex : Vertex n) :
    (all n)[vertex.index.val]? = some vertex := by
  obtain ⟨role, cls⟩ := vertex
  cases role with
  | f =>
      rw [all, List.getElem?_append_left (by simp [index])]
      simp [index]
  | g =>
      rw [all, List.getElem?_append_right (by simp [index])]
      simp [index]

namespace OrderingGraph

variable {n : Nat}

/-- A search of the graph finds every length that it asks for. -/
structure Searchable (graph : OrderingGraph n) : Prop where
  successor_isRepresentative : ∀ vertex, ∀ successor ∈ graph.successors vertex,
    graph.isRepresentative successor = true
  /-- A vertex is closed only after all its successors. -/
  step_finished : ∀ search, Search.Reached graph graph.roots search →
    ∀ frame below, search.stack = frame :: below →
      ∀ vertex, search.advance graph frame below ≠ .error (.unfinished vertex)
  /-- A search without a cycle closes every vertex that stands for a set. -/
  representative_finished : ∀ last, Search.ofRoots graph graph.roots = (last, none) →
    ∀ vertex, ∃ distance, last.marks.get (graph.representative vertex) = .closed distance

theorem Coherent.searchable {graph : OrderingGraph n} (hgraph : graph.Coherent) :
    graph.Searchable where
  successor_isRepresentative _ _ := hgraph.isRepresentative_of_mem_successors
  step_finished search hreached frame below hstack vertex hhalt := by
    obtain ⟨_, -, -, hcycle⟩ := hreached.valid.halt hstack hhalt
    cases hcycle
  representative_finished _ hlast vertex :=
    Search.ofRoots_closed hlast (hgraph.representative_mem_roots vertex)

end OrderingGraph

/-- A distance is the length with which the search has closed the representative. -/
theorem Distances.closed_of_ofGraph {n : Nat} {graph : OrderingGraph n}
    {distances : Distances n} (hgraph : graph.Coherent)
    (hdistances : ofGraph graph = .ok distances) (vertex : Vertex n) :
    (Search.ofRoots graph graph.roots).1.marks.get (graph.representative vertex) =
      .closed (distances.get vertex) := by
  unfold ofGraph ofRoots at hdistances
  split at hdistances
  · cases hdistances
  · rename_i last hlast
    obtain ⟨found, hfound, hclosed⟩ := ofSearch_eq_ok graph fun vertex =>
      Search.ofRoots_closed hlast (hgraph.representative_mem_roots vertex)
    cases hfound.symm.trans hdistances
    rw [hlast]
    exact hclosed vertex

namespace Classes

variable {n : Nat}

theorem naming_eq_ok {classes : Classes} {name : Vertex n → VertexName}
    (hname : ∀ vertex, classes.vertexName? vertex = some (name vertex)) :
    classes.naming n = .ok fun vertex => (name vertex).text := by
  unfold naming
  split
  · rename_i vertex hvertex
    have hnone := List.find?_some hvertex
    simp [hname] at hnone
  · simp [hname]

variable {matrix : Matrix} {groups : Groups} {classes : Classes}

theorem vertexName?_of_ofMatrix (hclasses : ofMatrix matrix groups = .ok classes)
    (vertex : Vertex matrix.size) :
    classes.vertexName? vertex = some (matrix.vertexName vertex) := by
  rw [vertexName?, get?_of_ofMatrix hclasses]
  rfl

theorem naming_of_ofMatrix (hclasses : ofMatrix matrix groups = .ok classes) :
    classes.naming matrix.size = .ok fun vertex => (matrix.vertexName vertex).text :=
  naming_eq_ok (vertexName?_of_ofMatrix hclasses)

end Classes

namespace Matrix

/-- All that a run on a table with these classes looks up by number is there. -/
structure LookUps (matrix : Matrix) (classes : Classes) : Prop where
  /-- The numbers of the classes fit sixteen bits. -/
  class_number : ∀ cls ∈ classes.list, cls.index < Classes.capacity
  /-- The class of every vertex, under the label that the matrix has for it. -/
  class_found : ∀ vertex : Vertex matrix.size, ∃ cls, classes.get? vertex.cls = some cls ∧
    cls.index = vertex.cls ∧ classes.vertexName? vertex = some (matrix.vertexName vertex)
  end_found : classes.get? matrix.endIndex = some classes.endMarker ∧
    classes.endMarker.label = matrix.endMarker
  /-- The mark of a class for each role, at any time of the search: it tells whether the
  vertex is open. -/
  mark_found : ∀ search,
    Search.Reached (OrderingGraph.ofMatrix matrix) (OrderingGraph.ofMatrix matrix).roots search →
      ∀ cls ∈ classes.list, ∀ role, ∃ mark, search.marks.get? role cls.index = some mark ∧
        (mark = .opened ↔ (role, cls.index) ∈
          search.stack.map fun frame => (frame.vertex.role, frame.vertex.cls.val))
  /-- The vertex that stands for a class and a role, which stands for itself. -/
  representative_found : ∀ cls ∈ classes.list, ∀ role, ∃ vertex,
    (OrderingGraph.ofMatrix matrix).representatives.get? role cls.index = some vertex ∧
      (OrderingGraph.ofMatrix matrix).isRepresentative vertex = true
  /-- The distance of a class and a role, with which the search has closed the vertex that
  stands for them. -/
  distance_found : ∀ distances,
    Distances.ofGraph (OrderingGraph.ofMatrix matrix) = .ok distances →
      ∀ cls ∈ classes.list, ∀ role, ∃ vertex distance,
        (OrderingGraph.ofMatrix matrix).representatives.get? role cls.index = some vertex ∧
        (Search.ofRoots (OrderingGraph.ofMatrix matrix)
          (OrderingGraph.ofMatrix matrix).roots).1.marks.get vertex = .closed distance ∧
        distances.get? role cls.index = some distance
  /-- The relation of a cell, among the cells that lie one behind the other. -/
  cell_found : ∀ cell ∈ matrix.cellList,
    matrix.cells.toList[cell.row.val * matrix.size + cell.column.val]? = some cell.relation ∧
      matrix.relation? cell.row cell.column = some cell.relation
  /-- The two vertices of a cell, at the number of the row and past the classes at
  that of the column. -/
  vertex_found : ∀ cell ∈ matrix.cellList,
    (Vertex.all matrix.size)[cell.row.val]? = some ⟨.f, cell.row⟩ ∧
      (Vertex.all matrix.size)[classes.size + cell.column.val]? = some ⟨.g, cell.column⟩
  /-- The vertex at the root of a merged set is the one that stands for the set. -/
  root_found : ∀ vertex : Vertex matrix.size,
    (Vertex.all matrix.size)[((OrderingGraph.merge
      (matrix.cellList.filterMap Cell.link?)).root vertex.index).val]? =
        some ((OrderingGraph.ofMatrix matrix).representative vertex)

variable {matrix : Matrix} {groups : Groups} {classes : Classes}

theorem lookUps_of_ofMatrix (hclasses : Classes.ofMatrix matrix groups = .ok classes) :
    matrix.LookUps classes where
  class_number cls hcls := by
    have hsmall := ((Classes.exists_ofMatrix_iff matrix groups).mp ⟨classes, hclasses⟩).2
    exact lt_of_lt_of_le (Classes.index_lt_of_ofMatrix hclasses hcls) hsmall
  class_found vertex :=
    ⟨_, Classes.get?_of_ofMatrix hclasses vertex.cls, rfl,
      Classes.vertexName?_of_ofMatrix hclasses vertex⟩
  end_found := by
    have hend := Classes.get?_endIndex_of_ofMatrix hclasses
    have hlabel := hend.symm.trans (Classes.get?_of_ofMatrix hclasses matrix.endIndex)
    exact ⟨hend, congrArg Class.label (Option.some.inj hlabel)⟩
  mark_found search hreached cls hcls role := by
    have hlt := Classes.index_lt_of_ofMatrix hclasses hcls
    let vertex : Vertex matrix.size := ⟨role, cls.index, hlt⟩
    refine ⟨search.marks.get vertex, search.marks.get?_cls role ⟨cls.index, hlt⟩, ?_⟩
    rw [hreached.valid.opened_iff]
    simp only [List.mem_map]
    refine exists_congr fun frame => and_congr_right fun _ => ?_
    obtain ⟨⟨frameRole, frameClass⟩, pending⟩ := frame
    simp [vertex, Fin.ext_iff]
  representative_found cls hcls role := by
    have hlt := Classes.index_lt_of_ofMatrix hclasses hcls
    have hcoherent := OrderingGraph.ofMatrix_coherent matrix
    refine ⟨_, VertexTable.get?_cls _ role ⟨cls.index, hlt⟩, ?_⟩
    exact (OrderingGraph.isRepresentative_iff _ _).mpr (hcoherent.representative_idem _)
  distance_found distances hdistances cls hcls role := by
    have hlt := Classes.index_lt_of_ofMatrix hclasses hcls
    have hclosed := Distances.closed_of_ofGraph (OrderingGraph.ofMatrix_coherent matrix)
      hdistances ⟨role, cls.index, hlt⟩
    exact ⟨_, _, VertexTable.get?_cls _ role ⟨cls.index, hlt⟩, hclosed,
      VertexTable.get?_cls _ role ⟨cls.index, hlt⟩⟩
  cell_found cell hcell := by
    rw [(matrix.mem_cellList_iff cell).mp hcell]
    refine ⟨List.getElem?_eq_some_iff.mpr ⟨?_, ?_⟩, by simp [relation?]⟩
    · rw [Vector.length_toList]
      exact (place cell.row cell.column).isLt
    · simp [relation, Vector.get, place]
  vertex_found cell _ := by
    rw [Classes.size_of_ofMatrix hclasses]
    exact ⟨Vertex.getElem?_all_index ⟨.f, cell.row⟩, Vertex.getElem?_all_index ⟨.g, cell.column⟩⟩
  root_found vertex := by
    rw [OrderingGraph.ofMatrix, OrderingGraph.representative_ofLinks,
      ← Vertex.getElem?_all_index, Vertex.index_ofIndex]

/-- A run on a table ends in a solution, in an error of its groups or in a cycle,
and never in a fault.  A solution writes its graph and its distances in the labels
of the matrix.  The search finds every length it asks for, and the run all that it
looks up. -/
theorem solve_without_fault (matrix : Matrix) (groups : Groups) :
    ((∃ error, matrix.solve groups = .error (.table error)) ∨
      (∃ cycle, matrix.solve groups = .error (.cycle cycle)) ∨
      ∃ solution, matrix.solve groups = .ok solution ∧
        solution.graphText =
          .ok (solution.graph.text fun vertex => (matrix.vertexName vertex).text) ∧
        solution.distancesText =
          .ok (solution.distances.text fun vertex => (matrix.vertexName vertex).text)) ∧
    (OrderingGraph.ofMatrix matrix).Searchable ∧
    ∀ classes, Classes.ofMatrix matrix groups = .ok classes → matrix.LookUps classes := by
  refine ⟨?_, (OrderingGraph.ofMatrix_coherent matrix).searchable,
    fun classes => lookUps_of_ofMatrix⟩
  cases hclasses : Classes.ofMatrix matrix groups with
  | error error => exact Or.inl ⟨error, solve_eq_table_error hclasses⟩
  | ok classes =>
      rcases solve_cases hclasses with ⟨solution, hsolve, hvalid⟩ | ⟨vertices, hhalt, -⟩
      · have hnaming := Classes.naming_of_ofMatrix hvalid.classes
        refine Or.inr (Or.inr ⟨solution, hsolve, ?_, ?_⟩)
        · rw [Solution.graphText, hnaming]
          rfl
        · rw [Solution.distancesText, hnaming]
          rfl
      · exact Or.inr (Or.inl ⟨_, hhalt⟩)

end Matrix

end OperatorPrecedence
