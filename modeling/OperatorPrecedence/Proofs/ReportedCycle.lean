import Mathlib
import OperatorPrecedence.Proofs.LeastSolution

/-!
The cycle that a refused table reports.  Its names are those of distinct
representatives, the first repeated at the end, and every two neighbours are
joined by an edge that some cell calls for.
-/

namespace OperatorPrecedence

theorem VertexName.text_injective : Function.Injective VertexName.text := by
  intro first second htext
  obtain ⟨role, label⟩ := first
  obtain ⟨otherRole, otherLabel⟩ := second
  have hchars := congrArg String.toList htext
  simp only [text, String.toList_append, List.append_assoc] at hchars
  cases role <;> cases otherRole <;> simp [Role.text] at hchars
  · rw [String.toList_injective hchars]
  · rw [String.toList_injective hchars]

namespace Matrix

variable {matrix : Matrix} {groups : Groups}

theorem label_injective (matrix : Matrix) : Function.Injective matrix.label := by
  intro i j hlabel
  exact Fin.ext ((matrix.labels_nodup.getElem_inj_iff).mp hlabel)

theorem vertexName_injective (matrix : Matrix) : Function.Injective matrix.vertexName := by
  intro first second hname
  obtain ⟨hrole, hlabel⟩ := VertexName.mk.inj hname
  obtain ⟨role, cls⟩ := first
  obtain ⟨otherRole, otherCls⟩ := second
  exact congrArg₂ Vertex.mk hrole (matrix.label_injective hlabel)

end Matrix

namespace OrderingGraph

variable {n : Nat} {graph : OrderingGraph n} {vertices : List (Vertex n)}

theorem IsCycle.exists_predecessor (hcycle : graph.IsCycle vertices) {vertex : Vertex n}
    (hvertex : vertex ∈ vertices) : ∃ upper, vertex ∈ graph.successors upper := by
  obtain ⟨first, rest, rfl, -, hchain⟩ := hcycle
  have hlater : vertex ∈ rest ++ [first] := by
    rcases List.mem_cons.mp hvertex with rfl | hlater
    · exact List.mem_append_right rest (List.mem_singleton.mpr rfl)
    · exact hlater
  obtain ⟨before, after, hsplit⟩ := List.append_of_mem hlater
  rw [List.cons_append, hsplit] at hchain
  rcases before.eq_nil_or_concat with rfl | ⟨earlier, upper, rfl⟩
  · exact ⟨first, hchain.rel⟩
  · have hpair : [upper, vertex].IsChain fun upper next => next ∈ graph.successors upper := by
      refine hchain.infix ⟨first :: earlier, after, ?_⟩
      simp
    exact ⟨upper, hpair.rel⟩

theorem IsCycle.isRepresentative (hgraph : graph.Coherent) (hcycle : graph.IsCycle vertices)
    {vertex : Vertex n} (hvertex : vertex ∈ vertices) : graph.isRepresentative vertex = true := by
  obtain ⟨upper, hstep⟩ := hcycle.exists_predecessor hvertex
  exact hgraph.isRepresentative_of_mem_successors hstep

/-- Neighbours on a cycle are the two ends of an edge. -/
theorem IsCycle.isChain_edges (hgraph : graph.Coherent) (hcycle : graph.IsCycle vertices) :
    vertices.IsChain fun upper lower => ⟨upper, lower⟩ ∈ graph.edges := by
  have hrepresentative : ∀ vertex ∈ vertices, graph.isRepresentative vertex = true :=
    fun _ => hcycle.isRepresentative hgraph
  obtain ⟨first, rest, rfl, -, hchain⟩ := hcycle
  refine List.IsChain.imp_of_mem_imp ?_ hchain
  intro upper lower hupper _ hstep
  have hedge := (graph.mem_successors_iff upper lower).mp hstep
  have hself := (graph.isRepresentative_iff upper).mp (hrepresentative upper hupper)
  rwa [hself] at hedge

end OrderingGraph

namespace Distances

variable {n : Nat}

/-- Only a search that halts at a cycle makes the distances fail with a cycle. -/
theorem exists_search_of_ofRoots {graph : OrderingGraph n} {roots vertices : List (Vertex n)}
    (hhalt : ofRoots graph roots = .error (.cycle vertices)) :
    ∃ last, Search.ofRoots graph roots = (last, some (.cycle vertices)) := by
  unfold ofRoots at hhalt
  split at hhalt
  · rename_i last halt hlast
    exact ⟨last, Except.error.inj hhalt ▸ hlast⟩
  · unfold ofSearch at hhalt
    dsimp only at hhalt
    split at hhalt
    · cases hhalt
    · cases hhalt

end Distances

namespace Matrix

variable {matrix : Matrix} {groups : Groups}

/-- A reported cycle consists of the names of the cycle at which the search has
halted. -/
theorem exists_search_of_solve {names : List VertexName}
    (hsolve : matrix.solve groups = .error (.cycle names)) :
    ∃ last vertices,
      Search.ofRoots (OrderingGraph.ofMatrix matrix) (OrderingGraph.ofMatrix matrix).roots =
        (last, some (.cycle vertices)) ∧ names = vertices.map matrix.vertexName := by
  unfold solve at hsolve
  split at hsolve
  · cases hsolve
  · dsimp only at hsolve
    split at hsolve
    · rename_i halt hhalt
      cases halt with
      | cycle vertices =>
          obtain ⟨last, hlast⟩ := Distances.exists_search_of_ofRoots hhalt
          exact ⟨last, vertices, hlast, (SolveError.cycle.inj (Except.error.inj hsolve)).symm⟩
      | unfinished vertex => cases hsolve
    · split at hsolve
      · cases hsolve
      · cases hsolve

/-- A reported cycle goes once round: the texts of its vertices begin and end with
the same one and do not repeat before the end.  The vertices are representatives,
neighbours are joined by an edge that a cell calls for, and the cycle is the part
of the way of the search that begins where its first vertex stands. -/
theorem solve_cycle_simple {names : List VertexName}
    (hsolve : matrix.solve groups = .error (.cycle names)) :
    2 ≤ names.length ∧ (names.map VertexName.text).head? = (names.map VertexName.text).getLast? ∧
    (names.map VertexName.text).dropLast.Nodup ∧
    ∃ vertices : List (Vertex matrix.size), names = vertices.map matrix.vertexName ∧
      (∀ vertex ∈ vertices, (OrderingGraph.ofMatrix matrix).isRepresentative vertex = true) ∧
      (vertices.IsChain fun upper lower =>
        ⟨upper, lower⟩ ∈ (OrderingGraph.ofMatrix matrix).edges ∧
          ∃ above below, matrix.Merged above upper ∧ matrix.Merged below lower ∧
            matrix.SetsAbove above below) ∧
      ∃ last first place,
        Search.ofRoots (OrderingGraph.ofMatrix matrix) (OrderingGraph.ofMatrix matrix).roots =
          (last, some (.cycle vertices)) ∧
        last.way.idxOf? first = some place ∧ vertices = last.way.drop place ++ [first] := by
  obtain ⟨last, vertices, hlast, rfl⟩ := exists_search_of_solve hsolve
  obtain ⟨first, hway, hhalt, hcycle⟩ := Search.ofRoots_halt hlast
  obtain rfl : vertices = last.cycleAt first := Halt.cycle.inj hhalt
  have hgraph := OrderingGraph.ofMatrix_coherent matrix
  have hinjective := VertexName.text_injective.comp matrix.vertexName_injective
  refine ⟨?_, ?_, ?_, last.cycleAt first, rfl, fun _ => hcycle.isRepresentative hgraph, ?_,
    last, first, ?_⟩
  · obtain ⟨start, rest, heq, -, -⟩ := hcycle
    rw [heq, List.length_map, List.length_append, List.length_cons, List.length_singleton]
    omega
  · obtain ⟨start, rest, heq, -, -⟩ := hcycle
    rw [heq, List.map_map, List.map_append, List.map_singleton, List.getLast?_concat]
    rfl
  · obtain ⟨start, rest, heq, hnodup, -⟩ := hcycle
    rw [heq, List.map_map, List.map_append, List.map_singleton, List.dropLast_concat]
    exact hnodup.map hinjective
  · refine (hcycle.isChain_edges hgraph).imp ?_
    intro upper lower hedge
    -- An edge is called for by a cell of two vertices that its ends stand for.
    refine ⟨hedge, ?_⟩
    obtain ⟨above, below, hsets, hupper, hlower⟩ :=
      (OrderingGraph.mem_edges_ofMatrix_iff matrix upper lower).mp hedge
    refine ⟨above, below, ?_, ?_, hsets⟩
    · rw [← OrderingGraph.representative_ofMatrix_eq_iff, hupper, hgraph.representative_idem]
    · rw [← OrderingGraph.representative_ofMatrix_eq_iff, hlower, hgraph.representative_idem]
  · obtain ⟨place, hplace⟩ := Option.isSome_iff_exists.mp (List.isSome_idxOf?.mpr hway)
    refine ⟨place, hlast, hplace, ?_⟩
    rw [Search.cycleAt, hplace, Option.getD_some]

/-- A table whose search goes down from `f(a)` and `g(b)` into a cycle of the
other four vertices. -/
def chase : Matrix where
  labels := ["a", "b", "end"]
  cells := #v[.unrelated, .greater, .unrelated, .greater, .less, .less, .less, .unrelated,
    .greater]
  endIndex := ⟨2, by decide⟩
  labels_valid := by decide
  labels_nodup := by decide

theorem chase_solve : chase.solve .empty =
    .error (.cycle [⟨.f, "b"⟩, ⟨.g, "a"⟩, ⟨.f, "end"⟩, ⟨.g, "end"⟩, ⟨.f, "b"⟩]) := by
  cbv

theorem chase_solve_cycle_simple :
    chase.solve .empty =
        .error (.cycle [⟨.f, "b"⟩, ⟨.g, "a"⟩, ⟨.f, "end"⟩, ⟨.g, "end"⟩, ⟨.f, "b"⟩]) ∧
      ∃ vertices : List (Vertex chase.size),
        (∀ vertex ∈ vertices, (OrderingGraph.ofMatrix chase).isRepresentative vertex = true) ∧
        vertices.map chase.vertexName =
          [⟨.f, "b"⟩, ⟨.g, "a"⟩, ⟨.f, "end"⟩, ⟨.g, "end"⟩, ⟨.f, "b"⟩] := by
  obtain ⟨-, -, -, vertices, hnames, hrepresentative, -⟩ := solve_cycle_simple chase_solve
  exact ⟨chase_solve, vertices, hrepresentative, hnames.symm⟩

end Matrix

end OperatorPrecedence
