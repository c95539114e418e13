import Mathlib.Data.Prod.Lex
import Mathlib.Data.Set.Card
import OperatorPrecedence.Proofs.LeastSolution

/-!
What the graph of a table looks like.  It has two vertices for every class; its edges
are exactly those that cells call for between merged sets, each once, and the
successors of a vertex stand in the order of the cells that call for them first.
-/

namespace OperatorPrecedence

/-- The vertices are the two functions of every class, all of `f` before all of `g`. -/
theorem Classes.vertices_of_ofMatrix {matrix : Matrix} {groups : Groups} {classes : Classes}
    (hclasses : ofMatrix matrix groups = .ok classes) :
    ((Vertex.all matrix.size).map fun vertex => (vertex.role, classes.get? vertex.cls)) =
      (classes.list.map fun cls => (Role.f, some cls)) ++
        classes.list.map fun cls => (Role.g, some cls) := by
  have hlist : ((List.finRange matrix.size).map fun i : Fin matrix.size => classes.get? i) =
      classes.list.map some := by
    refine List.ext_getElem (by simp [← size_of_ofMatrix hclasses]) fun i _ _ => ?_
    simp [get?]
  have hrole : ∀ role : Role,
      ((List.finRange matrix.size).map (Vertex.mk role)).map
          (fun vertex => (vertex.role, classes.get? vertex.cls)) =
        classes.list.map fun cls => (role, some cls) := by
    intro role
    have hpairs := congrArg (List.map fun cls? => (role, cls?)) hlist
    rw [List.map_map, List.map_map] at hpairs
    rw [List.map_map]
    exact hpairs
  rw [Vertex.all, List.map_append, hrole .f, hrole .g]

namespace Matrix

variable {matrix : Matrix}

/-- A cell calls for an edge down from one merged set to another: from its column to
its row for `<`, from its row to its column for `>`. -/
def CallsFor (matrix : Matrix) (upper lower : Vertex matrix.size)
    (row column : Fin matrix.size) : Prop :=
  matrix.relation row column = .less ∧
      (OrderingGraph.ofMatrix matrix).representative ⟨.g, column⟩ = upper ∧
      (OrderingGraph.ofMatrix matrix).representative ⟨.f, row⟩ = lower ∨
    matrix.relation row column = .greater ∧
      (OrderingGraph.ofMatrix matrix).representative ⟨.f, row⟩ = upper ∧
      (OrderingGraph.ofMatrix matrix).representative ⟨.g, column⟩ = lower

/-- The edge that a cell calls for, between the representatives. -/
def movedEdge? (matrix : Matrix) (cell : Cell matrix.size) : Option (Edge matrix.size) :=
  cell.edge?.map fun edge =>
    ⟨(OrderingGraph.ofMatrix matrix).representative edge.source,
      (OrderingGraph.ofMatrix matrix).representative edge.target⟩

theorem movedEdge?_eq_some_iff {cell : Cell matrix.size} (hcell : cell ∈ matrix.cellList)
    (upper lower : Vertex matrix.size) :
    matrix.movedEdge? cell = some ⟨upper, lower⟩ ↔
      matrix.CallsFor upper lower cell.row cell.column := by
  rw [CallsFor, ← (matrix.mem_cellList_iff cell).mp hcell, movedEdge?, Cell.edge?]
  cases cell.relation <;> simp

theorem cellList_pairwise (matrix : Matrix) :
    matrix.cellList.Pairwise fun cell other =>
      toLex (cell.row, cell.column) < toLex (other.row, other.column) := by
  rw [cellList, List.pairwise_map]
  refine (List.pairwise_lt_finRange _).imp fun {i j} hlt => ?_
  refine Prod.Lex.toLex_lt_toLex.mpr ?_
  obtain hrow | hrow := lt_or_eq_of_le (Nat.div_le_div_right (le_of_lt hlt) :
      i.val / matrix.size ≤ j.val / matrix.size)
  · exact Or.inl hrow
  · refine Or.inr ⟨Fin.ext hrow, ?_⟩
    -- Two places of one row are as far apart as their columns.
    have hplaces : matrix.size * (i.val / matrix.size) + i.val % matrix.size <
        matrix.size * (j.val / matrix.size) + j.val % matrix.size := by
      rwa [Nat.div_add_mod, Nat.div_add_mod]
    rw [hrow] at hplaces
    exact Nat.add_lt_add_iff_left.mp hplaces

end Matrix

namespace OrderingGraph

variable {matrix : Matrix}

theorem edges_ofMatrix (matrix : Matrix) :
    (ofMatrix matrix).edges = firstOccurrences (matrix.cellList.filterMap matrix.movedEdge?) := by
  rw [← distinctEdges_eq]
  exact congrArg distinctEdges (List.map_filterMap ..)

theorem edges_ofMatrix_nodup (matrix : Matrix) : (ofMatrix matrix).edges.Nodup := by
  rw [edges_ofMatrix]
  exact firstOccurrences_nodup _

theorem mem_edges_iff_callsFor (upper lower : Vertex matrix.size) :
    ⟨upper, lower⟩ ∈ (ofMatrix matrix).edges ↔
      ∃ row column, matrix.CallsFor upper lower row column := by
  rw [edges_ofMatrix, mem_firstOccurrences, List.mem_filterMap]
  constructor
  · rintro ⟨cell, hcell, hedge⟩
    exact ⟨cell.row, cell.column, (Matrix.movedEdge?_eq_some_iff hcell upper lower).mp hedge⟩
  · rintro ⟨row, column, hcalls⟩
    have hcell := (matrix.mem_cellList_iff ⟨row, column, matrix.relation row column⟩).mpr rfl
    exact ⟨_, hcell, (Matrix.movedEdge?_eq_some_iff hcell upper lower).mpr hcalls⟩

/-- The edges stand in the order of the cells that call for them first. -/
theorem edges_ofMatrix_pairwise (matrix : Matrix) :
    (ofMatrix matrix).edges.Pairwise fun earlier later =>
      ∃ row column, matrix.CallsFor earlier.source earlier.target row column ∧
        ∀ otherRow otherColumn,
          matrix.CallsFor later.source later.target otherRow otherColumn →
            toLex (row, column) < toLex (otherRow, otherColumn) := by
  rw [edges_ofMatrix]
  refine (firstOccurrences_filterMap_pairwise matrix.cellList_pairwise _).imp ?_
  rintro earlier later ⟨cell, hcell, hedge, hbefore⟩
  refine ⟨cell.row, cell.column, (Matrix.movedEdge?_eq_some_iff hcell _ _).mp hedge, ?_⟩
  intro row column hcalls
  have hother := (matrix.mem_cellList_iff ⟨row, column, matrix.relation row column⟩).mpr rfl
  exact hbefore _ hother ((Matrix.movedEdge?_eq_some_iff hother _ _).mpr hcalls)

/-- A representative stands for the vertices that are merged with it. -/
theorem representative_ofMatrix_eq_iff_merged {upper : Vertex matrix.size}
    (hupper : (ofMatrix matrix).isRepresentative upper = true) (vertex : Vertex matrix.size) :
    (ofMatrix matrix).representative vertex = upper ↔ matrix.Merged vertex upper := by
  rw [← representative_ofMatrix_eq_iff, (isRepresentative_iff _ _).mp hupper]

theorem mem_successors_iff_callsFor {upper : Vertex matrix.size}
    (hupper : (ofMatrix matrix).isRepresentative upper = true) (lower : Vertex matrix.size) :
    lower ∈ (ofMatrix matrix).successors upper ↔
      ∃ row column, matrix.CallsFor upper lower row column := by
  rw [mem_successors_iff, (isRepresentative_iff _ _).mp hupper, mem_edges_iff_callsFor]

theorem successors_ofMatrix_pairwise {upper : Vertex matrix.size}
    (hupper : (ofMatrix matrix).isRepresentative upper = true) :
    ((ofMatrix matrix).successors upper).Pairwise fun earlier later =>
      ∃ row column, matrix.CallsFor upper earlier row column ∧
        ∀ otherRow otherColumn, matrix.CallsFor upper later otherRow otherColumn →
          toLex (row, column) < toLex (otherRow, otherColumn) := by
  rw [successors, (isRepresentative_iff _ _).mp hupper, List.pairwise_map]
  refine ((edges_ofMatrix_pairwise matrix).filter _).imp_of_mem ?_
  intro earlier later hearlier hlater hordered
  rwa [of_decide_eq_true (List.mem_filter.mp hearlier).2,
    of_decide_eq_true (List.mem_filter.mp hlater).2] at hordered

theorem successors_ofMatrix_nodup {upper : Vertex matrix.size}
    (hupper : (ofMatrix matrix).isRepresentative upper = true) :
    ((ofMatrix matrix).successors upper).Nodup := by
  -- The order is strict, so no successor stands before itself.
  refine (successors_ofMatrix_pairwise hupper).imp ?_
  rintro earlier later ⟨row, column, hcalls, hbefore⟩ rfl
  exact lt_irrefl _ (hbefore row column hcalls)

/-- A merged set is above itself exactly where a `<` or `>` cell joins two of its
vertices. -/
theorem mem_successors_self_iff {vertex : Vertex matrix.size}
    (hvertex : (ofMatrix matrix).isRepresentative vertex = true) :
    vertex ∈ (ofMatrix matrix).successors vertex ↔
      ∃ row column, (matrix.relation row column = .less ∨ matrix.relation row column = .greater) ∧
        matrix.Merged ⟨.f, row⟩ vertex ∧ matrix.Merged ⟨.g, column⟩ vertex := by
  rw [mem_successors_iff_callsFor hvertex]
  refine exists_congr fun row => exists_congr fun column => ?_
  rw [Matrix.CallsFor, representative_ofMatrix_eq_iff_merged hvertex,
    representative_ofMatrix_eq_iff_merged hvertex, or_and_right]
  exact or_congr_left (and_congr_right fun _ => and_comm)

theorem Coherent.not_edge {n : Nat} {graph : OrderingGraph n} (hgraph : graph.Coherent)
    {vertex : Vertex n} (hvertex : graph.isRepresentative vertex = false) :
    ∀ edge ∈ graph.edges, edge.source ≠ vertex ∧ edge.target ≠ vertex := by
  have hmoved : graph.representative vertex ≠ vertex := by
    rw [Ne, ← isRepresentative_iff, hvertex]
    exact Bool.false_ne_true
  intro edge hedge
  constructor
  · rintro rfl
    exact hmoved (hgraph.source edge hedge)
  · rintro rfl
    exact hmoved (hgraph.target edge hedge)

/-- The edges are as many as the pairs of vertices for which cells call. -/
theorem edgeCount_ofMatrix (matrix : Matrix) :
    (ofMatrix matrix).edgeCount =
      {pair : Vertex matrix.size × Vertex matrix.size |
        ∃ row column, matrix.CallsFor pair.1 pair.2 row column}.ncard := by
  have hpairs : {pair : Vertex matrix.size × Vertex matrix.size |
      ∃ row column, matrix.CallsFor pair.1 pair.2 row column} =
        ((ofMatrix matrix).edges.map fun edge => (edge.source, edge.target)).toFinset := by
    ext ⟨upper, lower⟩
    rw [Set.mem_ofPred_eq, ← mem_edges_iff_callsFor, Finset.mem_coe, List.mem_toFinset,
      List.mem_map]
    constructor
    · exact fun hedge => ⟨_, hedge, rfl⟩
    · rintro ⟨edge, hedge, heq⟩
      obtain ⟨rfl, rfl⟩ := Prod.mk.inj heq
      exact hedge
  have hinjective : Function.Injective fun edge : Edge matrix.size =>
      (edge.source, edge.target) := by
    intro edge other heq
    obtain ⟨hsource, htarget⟩ := Prod.mk.inj heq
    exact congrArg₂ Edge.mk hsource htarget
  rw [hpairs, Set.ncard_coe_finset,
    List.toFinset_card_of_nodup ((edges_ofMatrix_nodup matrix).map hinjective), List.length_map,
    edgeCount]

/-- The graph of a table is the quotient of the table.  Its vertices are the two
functions of every class; those joined by `=` share a representative; the edges are
those for which `<` and `>` cells call between representatives, each counted once and
listed in the order of the cells that call first; and other vertices have no edges of
their own. -/
theorem ofMatrix_quotient {groups : Groups} {classes : Classes}
    (hclasses : Classes.ofMatrix matrix groups = .ok classes) :
    let graph := ofMatrix matrix
    (graph.vertices.map (fun vertex => (vertex.role, classes.get? vertex.cls)) =
        (classes.list.map fun cls => (Role.f, some cls)) ++
          classes.list.map fun cls => (Role.g, some cls)) ∧
    graph.vertexCount = 2 * classes.size ∧
    (∀ first second, graph.representative first = graph.representative second ↔
      matrix.Merged first second) ∧
    (∀ upper, graph.isRepresentative upper = true →
      (∀ lower, lower ∈ graph.successors upper ↔ graph.isRepresentative lower = true ∧
        ∃ row column, matrix.CallsFor upper lower row column) ∧
      (graph.successors upper).Nodup ∧
      (graph.successors upper).Pairwise (fun earlier later =>
        ∃ row column, matrix.CallsFor upper earlier row column ∧
          ∀ otherRow otherColumn, matrix.CallsFor upper later otherRow otherColumn →
            toLex (row, column) < toLex (otherRow, otherColumn)) ∧
      (upper ∈ graph.successors upper ↔ ∃ row column,
        (matrix.relation row column = .less ∨ matrix.relation row column = .greater) ∧
          matrix.Merged ⟨.f, row⟩ upper ∧ matrix.Merged ⟨.g, column⟩ upper)) ∧
    (∀ vertex, graph.isRepresentative vertex = false →
      (∀ edge ∈ graph.edges, edge.source ≠ vertex ∧ edge.target ≠ vertex) ∧
        graph.successors vertex = graph.successors (graph.representative vertex)) ∧
    graph.edgeCount = {pair : Vertex matrix.size × Vertex matrix.size |
      ∃ row column, matrix.CallsFor pair.1 pair.2 row column}.ncard := by
  intro graph
  have hgraph := ofMatrix_coherent matrix
  have hvertices : graph.vertices.map (fun vertex => (vertex.role, classes.get? vertex.cls)) =
      (classes.list.map fun cls => (Role.f, some cls)) ++
        classes.list.map fun cls => (Role.g, some cls) :=
    Classes.vertices_of_ofMatrix hclasses
  refine ⟨hvertices, ?_, representative_ofMatrix_eq_iff matrix, ?_, ?_,
    edgeCount_ofMatrix matrix⟩
  · have hlength := congrArg List.length hvertices
    rw [List.length_map, List.length_append, List.length_map, List.length_map] at hlength
    rw [vertexCount, hlength, Nat.two_mul]
  · intro upper hupper
    refine ⟨fun lower => ?_, successors_ofMatrix_nodup hupper,
      successors_ofMatrix_pairwise hupper, mem_successors_self_iff hupper⟩
    rw [← mem_successors_iff_callsFor hupper, and_iff_right_of_imp]
    exact hgraph.isRepresentative_of_mem_successors
  · intro vertex hvertex
    exact ⟨hgraph.not_edge hvertex,
      (successors_representative hgraph.representative_idem vertex).symm⟩

/-- Among the brackets `f(lp)` stands for `g(rp)` too, and the operators lead down to it. -/
theorem brackets_quotient :
    let graph := ofMatrix Matrix.brackets
    let fLp : Vertex Matrix.brackets.size := ⟨.f, ⟨0, by decide⟩⟩
    let gRp : Vertex Matrix.brackets.size := ⟨.g, ⟨1, by decide⟩⟩
    let fA : Vertex Matrix.brackets.size := ⟨.f, ⟨2, by decide⟩⟩
    graph.vertexCount = 8 ∧ graph.representative gRp = fLp ∧
      graph.successors gRp = graph.successors fLp ∧ fLp ∈ graph.successors fA ∧
        (graph.successors fA).Nodup := by
  intro graph fLp gRp fA
  obtain ⟨classes, hclasses⟩ := Matrix.exists_classes_brackets
  obtain ⟨-, hcount, hmerged, hsuccessors, hother, -⟩ := ofMatrix_quotient hclasses
  have hself : graph.isRepresentative fLp = true := by decide +kernel
  have hrepresentative : graph.representative gRp = fLp := by
    have hequal : Matrix.brackets.Merged fLp gRp := .rel _ _ ⟨_, _, by decide, rfl, rfl⟩
    exact ((hmerged fLp gRp).mpr hequal).symm.trans ((isRepresentative_iff _ _).mp hself)
  have hmoved : graph.isRepresentative gRp = false := by decide +kernel
  obtain ⟨hlower, hnodup, -, -⟩ := hsuccessors fA (by decide +kernel)
  refine ⟨?_, hrepresentative, ?_, ?_, hnodup⟩
  · rw [hcount, Classes.size_of_ofMatrix hclasses]
    rfl
  · rw [(hother gRp hmoved).2, hrepresentative]
  · refine (hlower fLp).mpr ⟨hself, ⟨2, by decide⟩, ⟨1, by decide⟩, Or.inr ⟨by decide, ?_, ?_⟩⟩
    · decide +kernel
    · exact hrepresentative

end OrderingGraph

end OperatorPrecedence
