import OperatorPrecedence.Distances
import OperatorPrecedence.Walk
import OperatorPrecedence.Proofs.MergedGraph
import OperatorPrecedence.Proofs.SearchRun

/-!
What the search of a graph finds: a cycle, or for every vertex the length of the
longest walk from it.  The lengths fall along every edge, no other values in the
natural numbers that do so are smaller anywhere, and round a cycle no values do.
-/

namespace OperatorPrecedence

universe u

variable {n : Nat}

namespace Search

theorem lt_of_distanceOver {marks : VertexTable n Mark} {vertices : List (Vertex n)}
    {longest : Nat} (hlongest : distanceOver marks vertices = .ok longest)
    {vertex : Vertex n} (hvertex : vertex ∈ vertices) :
    ∃ distance, marks.get vertex = .closed distance ∧ distance < longest := by
  induction vertices generalizing longest with
  | nil => cases hvertex
  | cons head tail ih =>
      obtain ⟨distance, rest, hmark, hrest, rfl⟩ := distanceOver_cons_ok hlongest
      rcases List.mem_cons.mp hvertex with rfl | htail
      · exact ⟨distance, hmark, by omega⟩
      · obtain ⟨found, hfound, hlt⟩ := ih hrest htail
        exact ⟨found, hfound, by omega⟩

theorem distanceOver_eq_zero_or {marks : VertexTable n Mark}
    {vertices : List (Vertex n)} {longest : Nat}
    (hlongest : distanceOver marks vertices = .ok longest) :
    longest = 0 ∨ ∃ vertex ∈ vertices, ∃ distance,
      marks.get vertex = .closed distance ∧ longest = distance + 1 := by
  induction vertices generalizing longest with
  | nil => exact Or.inl (Except.ok.inj hlongest).symm
  | cons head tail ih =>
      obtain ⟨distance, rest, hmark, hrest, rfl⟩ := distanceOver_cons_ok hlongest
      right
      rcases Nat.le_total rest (distance + 1) with hle | hle
      · exact ⟨head, List.mem_cons_self, distance, hmark, Nat.max_eq_left hle⟩
      · rw [Nat.max_eq_right hle]
        rcases ih hrest with hzero | ⟨vertex, hvertex, found, hfound, heq⟩
        · omega
        · exact ⟨vertex, List.mem_cons_of_mem head hvertex, found, hfound, heq⟩

/-- No walk from a closed vertex is longer than its length. -/
theorem Valid.walk_le {graph : OrderingGraph n} {search : Search n}
    {above? : Option (Vertex n)} (hvalid : search.Valid graph above?)
    {first last : Vertex n} {length distance : Nat}
    (hwalk : graph.Walk first last length)
    (hclosed : search.marks.get first = .closed distance) : length ≤ distance := by
  induction hwalk generalizing distance with
  | nil vertex => exact Nat.zero_le distance
  | cons hstep _ ih =>
      obtain ⟨rest, hrest, hlt⟩ :=
        lt_of_distanceOver (hvalid.closed _ distance hclosed) hstep
      exact Nat.lt_of_le_of_lt (ih hrest) hlt

theorem Valid.exists_walk {graph : OrderingGraph n} {search : Search n}
    {above? : Option (Vertex n)} (hvalid : search.Valid graph above?)
    {first : Vertex n} {distance : Nat}
    (hclosed : search.marks.get first = .closed distance) :
    ∃ last, graph.Walk first last distance := by
  induction distance generalizing first with
  | zero => exact ⟨first, .nil first⟩
  | succ distance ih =>
      rcases distanceOver_eq_zero_or (hvalid.closed first _ hclosed) with
        hzero | ⟨next, hstep, found, hfound, heq⟩
      · omega
      · rw [← Nat.succ.inj heq] at hfound
        obtain ⟨last, hwalk⟩ := ih hfound
        exact ⟨last, .cons hstep hwalk⟩

end Search

namespace OrderingGraph

variable {graph : OrderingGraph n}

/-- Walks from a representative start as well from the vertices it stands for. -/
theorem walk_representative_iff
    (hidem : ∀ vertex,
      graph.representative (graph.representative vertex) = graph.representative vertex)
    (vertex : Vertex n) (length : Nat) :
    (∃ last, graph.Walk (graph.representative vertex) last length) ↔
      ∃ last, graph.Walk vertex last length := by
  constructor
  · rintro ⟨last, hwalk⟩
    cases hwalk with
    | nil => exact ⟨vertex, .nil vertex⟩
    | cons hstep hrest =>
        rw [successors_representative hidem] at hstep
        exact ⟨last, .cons hstep hrest⟩
  · rintro ⟨last, hwalk⟩
    cases hwalk with
    | nil => exact ⟨graph.representative vertex, .nil _⟩
    | cons hstep hrest =>
        rw [← successors_representative hidem] at hstep
        exact ⟨last, .cons hstep hrest⟩

theorem RankedBy.add_le_of_walk {value : Vertex n → Nat} (hranked : graph.RankedBy value)
    {first last : Vertex n} {length : Nat} (hwalk : graph.Walk first last length) :
    value last + length ≤ value first := by
  induction hwalk with
  | nil vertex => exact Nat.le_refl _
  | cons hstep _ ih =>
      have hlt := hranked.lt_of_mem_successors hstep
      omega

theorem lt_of_transGen {α : Type u} [Preorder α] {value : Vertex n → α}
    (hfalls : ∀ vertex next, graph.Step vertex next → value next < value vertex)
    {first last : Vertex n} (hchain : Relation.TransGen graph.Step first last) :
    value last < value first := by
  induction hchain with
  | single hstep => exact hfalls _ _ hstep
  | tail _ hstep ih => exact (hfalls _ _ hstep).trans ih

/-- The steps of a cycle lead back to where they start. -/
theorem IsCycle.exists_transGen {vertices : List (Vertex n)} (hcycle : graph.IsCycle vertices) :
    ∃ vertex ∈ vertices, Relation.TransGen graph.Step vertex vertex := by
  obtain ⟨first, rest, rfl, -, hchain⟩ := hcycle
  have hreaches : (first :: rest ++ [first]).Pairwise (Relation.TransGen graph.Step) := by
    rw [← List.isChain_iff_pairwise]
    exact hchain.imp fun _ _ hstep => .single hstep
  have hround := (List.pairwise_append.mp hreaches).2.2 first List.mem_cons_self first
    (List.mem_singleton.mpr rfl)
  exact ⟨first, List.mem_cons_self, hround⟩

theorem IsCycle.not_rankedBy {α : Type u} [Preorder α] {vertices : List (Vertex n)}
    (hcycle : graph.IsCycle vertices) (value : Vertex n → α) : ¬ graph.RankedBy value := by
  intro hranked
  obtain ⟨vertex, -, hround⟩ := hcycle.exists_transGen
  exact lt_irrefl _ (lt_of_transGen (fun _ _ => hranked.lt_of_mem_successors) hround)

end OrderingGraph

namespace Distances

variable {graph : OrderingGraph n} {distances : Distances n}

/-- The distance of every vertex is the length of the longest walk from it. -/
structure Longest (graph : OrderingGraph n) (distances : Distances n) : Prop where
  exists_walk : ∀ vertex, ∃ last, graph.Walk vertex last (distances.get vertex)
  walk_le : ∀ first last length, graph.Walk first last length →
    length ≤ distances.get first

/-- When every representative is closed, every vertex has the length of its
representative. -/
theorem ofSearch_eq_ok (graph : OrderingGraph n) {search : Search n}
    (hclosed : ∀ vertex, ∃ distance,
      search.marks.get (graph.representative vertex) = .closed distance) :
    ∃ distances, ofSearch graph search = .ok distances ∧ ∀ vertex,
      search.marks.get (graph.representative vertex) =
        .closed (distances.get vertex) := by
  unfold ofSearch
  dsimp only
  split
  · rename_i vertex hfound
    obtain ⟨distance, hmark⟩ := hclosed vertex
    have hnone := List.find?_some hfound
    simp [hmark, Mark.distance?] at hnone
  · refine ⟨_, rfl, ?_⟩
    intro vertex
    obtain ⟨distance, hmark⟩ := hclosed vertex
    simp only [get, VertexTable.get_ofFn, hmark, Mark.distance?, Option.get_some]

section

variable (hidem : ∀ vertex,
  graph.representative (graph.representative vertex) = graph.representative vertex)

include hidem

theorem longest_of_search {search : Search n} {above? : Option (Vertex n)}
    (hvalid : search.Valid graph above?)
    (hclosed : ∀ vertex, search.marks.get (graph.representative vertex) =
      .closed (distances.get vertex)) : distances.Longest graph where
  exists_walk vertex :=
    (OrderingGraph.walk_representative_iff hidem vertex _).mp
      (hvalid.exists_walk (hclosed vertex))
  walk_le first last length hwalk := by
    obtain ⟨last, hwalk⟩ :=
      (OrderingGraph.walk_representative_iff hidem first length).mpr ⟨last, hwalk⟩
    exact hvalid.walk_le hwalk (hclosed first)

/-- A search from all representatives, in whatever order, finds the longest
walks or a cycle. -/
theorem ofRoots_cases {roots : List (Vertex n)}
    (hroots : ∀ vertex, graph.representative vertex ∈ roots) :
    (∃ distances, ofRoots graph roots = .ok distances ∧ distances.Longest graph) ∨
      ∃ vertices, ofRoots graph roots = .error (.cycle vertices) ∧
        graph.IsCycle vertices := by
  unfold ofRoots
  split
  · rename_i last halt hlast
    obtain ⟨vertex, -, rfl, hcycle⟩ := Search.ofRoots_halt hlast
    exact Or.inr ⟨_, rfl, hcycle⟩
  · rename_i last hlast
    have hvalid := (Search.ofRoots_reached graph roots).valid
    rw [hlast] at hvalid
    obtain ⟨distances, hok, hget⟩ := ofSearch_eq_ok graph fun vertex =>
      Search.ofRoots_closed hlast (hroots vertex)
    exact Or.inl ⟨distances, hok, longest_of_search hidem hvalid hget⟩

end

theorem ofGraph_cases (hgraph : graph.Coherent) :
    (∃ distances, ofGraph graph = .ok distances ∧ distances.Longest graph) ∨
      ∃ vertices, ofGraph graph = .error (.cycle vertices) ∧ graph.IsCycle vertices :=
  ofRoots_cases hgraph.representative_idem hgraph.representative_mem_roots

/-- A step takes at least one off the longest walk. -/
theorem Longest.lt_of_step (hlongest : distances.Longest graph) {vertex next : Vertex n}
    (hstep : graph.Step vertex next) : distances.get next < distances.get vertex := by
  obtain ⟨last, hwalk⟩ := hlongest.exists_walk next
  exact hlongest.walk_le _ _ _ (.cons hstep hwalk)

theorem Longest.rankedBy (hgraph : graph.Coherent) (hlongest : distances.Longest graph) :
    graph.RankedBy distances.get where
  representative vertex := by
    have hwalks := OrderingGraph.walk_representative_iff hgraph.representative_idem vertex
    obtain ⟨last, hwalk⟩ :=
      (hwalks _).mp (hlongest.exists_walk (graph.representative vertex))
    obtain ⟨other, hback⟩ := (hwalks _).mpr (hlongest.exists_walk vertex)
    exact Nat.le_antisymm (hlongest.walk_le _ _ _ hwalk) (hlongest.walk_le _ _ _ hback)
  edge edge hedge := by
    apply hlongest.lt_of_step
    rw [OrderingGraph.Step, graph.mem_successors_iff, hgraph.source edge hedge]
    exact hedge

theorem Longest.le_of_rankedBy (hlongest : distances.Longest graph)
    {value : Vertex n → Nat} (hranked : graph.RankedBy value) (vertex : Vertex n) :
    distances.get vertex ≤ value vertex := by
  obtain ⟨last, hwalk⟩ := hlongest.exists_walk vertex
  have hle := hranked.add_le_of_walk hwalk
  omega

end Distances

end OperatorPrecedence
