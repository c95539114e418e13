import OperatorPrecedence.OrderingGraph
import OperatorPrecedence.Proofs.MergedSets

/-!
The ordering graph as the quotient of a table.  Two vertices have the same
representative exactly when `=` cells link them, and the edges are those of the
`<` and `>` cells between representatives.  Hence a function on the vertices
falls along the edges and agrees on merged vertices exactly when it reproduces
every cell.
-/

namespace OperatorPrecedence

universe u

namespace OrderingGraph

variable {n : Nat}

/-- Two vertices are linked when a chain of links, taken either way, leads from
one to the other. -/
def Linked (links : List (Vertex n × Vertex n)) : Vertex n → Vertex n → Prop :=
  Relation.EqvGen fun first second => (first, second) ∈ links

theorem linked_index_iff (links : List (Vertex n × Vertex n)) (first second : Vertex n) :
    DisjointSets.Linked (links.map fun link => (link.1.index, link.2.index))
        first.index second.index ↔
      Linked links first second := by
  constructor
  · intro hlinked
    have hvertices : ∀ i j, DisjointSets.Linked
        (links.map fun link => (link.1.index, link.2.index)) i j →
        Linked links (Vertex.ofIndex i) (Vertex.ofIndex j) := by
      intro i j hij
      induction hij with
      | rel i j hmem =>
          obtain ⟨link, hlink, heq⟩ := List.mem_map.mp hmem
          rw [Prod.mk.injEq] at heq
          rw [← heq.1, ← heq.2, Vertex.ofIndex_index, Vertex.ofIndex_index]
          exact .rel _ _ hlink
      | refl i => exact .refl _
      | symm i j _ ih => exact .symm _ _ ih
      | trans i j k _ _ ihFirst ihSecond => exact .trans _ _ _ ihFirst ihSecond
    simpa using hvertices _ _ hlinked
  · intro hlinked
    induction hlinked with
    | rel first second hmem => exact .rel _ _ (List.mem_map.mpr ⟨_, hmem, rfl⟩)
    | refl vertex => exact .refl _
    | symm first second _ ih => exact .symm _ _ ih
    | trans first second third _ _ ihFirst ihSecond =>
        exact .trans _ _ _ ihFirst ihSecond

theorem representative_ofLinks (links : List (Vertex n × Vertex n))
    (edges : List (Edge n)) (vertex : Vertex n) :
    (ofLinks links edges).representative vertex =
      Vertex.ofIndex ((merge links).root vertex.index) := by
  simp only [representative, ofLinks, VertexTable.get_ofFn]

/-- Exactly the linked vertices share their representative. -/
theorem representative_ofLinks_eq_iff (links : List (Vertex n × Vertex n))
    (edges : List (Edge n)) (first second : Vertex n) :
    (ofLinks links edges).representative first =
        (ofLinks links edges).representative second ↔
      Linked links first second := by
  rw [representative_ofLinks, representative_ofLinks, ← linked_index_iff,
    ← DisjointSets.root_unionAll_discrete_eq_iff]
  constructor
  · intro heq
    have hroot := congrArg Vertex.index heq
    rwa [Vertex.index_ofIndex, Vertex.index_ofIndex] at hroot
  · exact fun hroot => congrArg Vertex.ofIndex hroot

theorem mem_edges_ofLinks_iff (links : List (Vertex n × Vertex n))
    (edges : List (Edge n)) (edge : Edge n) :
    edge ∈ (ofLinks links edges).edges ↔
      ∃ given ∈ edges, edge =
        ⟨(ofLinks links edges).representative given.source,
          (ofLinks links edges).representative given.target⟩ := by
  simp only [ofLinks, distinctEdges_eq, mem_firstOccurrences, List.mem_map, representative,
    eq_comm]

/-- What every graph of links and edges keeps: representatives stand for
themselves, and edges join representatives. -/
structure Coherent (graph : OrderingGraph n) : Prop where
  representative_idem : ∀ vertex,
    graph.representative (graph.representative vertex) = graph.representative vertex
  source : ∀ edge ∈ graph.edges, graph.representative edge.source = edge.source
  target : ∀ edge ∈ graph.edges, graph.representative edge.target = edge.target

theorem ofLinks_coherent (links : List (Vertex n × Vertex n)) (edges : List (Edge n)) :
    (ofLinks links edges).Coherent := by
  have hidem : ∀ vertex, (ofLinks links edges).representative
      ((ofLinks links edges).representative vertex) =
        (ofLinks links edges).representative vertex := by
    intro vertex
    simp only [representative_ofLinks, Vertex.index_ofIndex, DisjointSets.root_root]
  refine ⟨hidem, ?_, ?_⟩
  · intro edge hedge
    obtain ⟨given, -, rfl⟩ := (mem_edges_ofLinks_iff links edges edge).mp hedge
    exact hidem given.source
  · intro edge hedge
    obtain ⟨given, -, rfl⟩ := (mem_edges_ofLinks_iff links edges edge).mp hedge
    exact hidem given.target

theorem successors_representative {graph : OrderingGraph n}
    (hidem : ∀ vertex,
      graph.representative (graph.representative vertex) = graph.representative vertex)
    (vertex : Vertex n) :
    graph.successors (graph.representative vertex) = graph.successors vertex := by
  rw [successors, successors, hidem]

theorem Coherent.isRepresentative_of_mem_successors {graph : OrderingGraph n}
    (hgraph : graph.Coherent) {vertex successor : Vertex n}
    (hsuccessor : successor ∈ graph.successors vertex) :
    graph.isRepresentative successor = true := by
  have hedge := (graph.mem_successors_iff vertex successor).mp hsuccessor
  exact (graph.isRepresentative_iff successor).mpr (hgraph.target _ hedge)

theorem Coherent.representative_mem_roots {graph : OrderingGraph n}
    (hgraph : graph.Coherent) (vertex : Vertex n) :
    graph.representative vertex ∈ graph.roots := by
  rw [mem_roots_iff, isRepresentative_iff]
  exact hgraph.representative_idem vertex

/-- The values agree on merged vertices and fall along every edge. -/
structure RankedBy {α : Type u} [LT α] (graph : OrderingGraph n)
    (value : Vertex n → α) : Prop where
  representative : ∀ vertex, value (graph.representative vertex) = value vertex
  edge : ∀ edge ∈ graph.edges, value edge.target < value edge.source

theorem RankedBy.lt_of_mem_successors {α : Type u} [LT α] {graph : OrderingGraph n}
    {value : Vertex n → α} (hranked : graph.RankedBy value) {vertex target : Vertex n}
    (htarget : target ∈ graph.successors vertex) : value target < value vertex := by
  have hlt := hranked.edge _ ((graph.mem_successors_iff vertex target).mp htarget)
  rwa [hranked.representative] at hlt

end OrderingGraph

namespace Matrix

/-- The values of the vertices reproduce every cell. -/
def RankedBy {α : Type u} [LT α] (matrix : Matrix) (value : Vertex matrix.size → α) :
    Prop :=
  ∀ row column : Fin matrix.size,
    (matrix.relation row column).Holds (value ⟨.f, row⟩) (value ⟨.g, column⟩)

theorem mem_links_iff (matrix : Matrix) (first second : Vertex matrix.size) :
    (first, second) ∈ matrix.cellList.filterMap Cell.link? ↔
      ∃ row column, matrix.relation row column = .equal ∧
        first = ⟨.f, row⟩ ∧ second = ⟨.g, column⟩ := by
  simp only [List.mem_filterMap, mem_cellList_iff]
  constructor
  · rintro ⟨⟨row, column, relation⟩, hcell, hlink⟩
    cases relation <;> simp only [Cell.link?, Option.some.injEq, Prod.mk.injEq,
      reduceCtorEq] at hlink
    exact ⟨row, column, hcell.symm, hlink.1.symm, hlink.2.symm⟩
  · rintro ⟨row, column, hcell, rfl, rfl⟩
    exact ⟨⟨row, column, .equal⟩, hcell.symm, rfl⟩

theorem mem_edges_iff (matrix : Matrix) (edge : Edge matrix.size) :
    edge ∈ matrix.cellList.filterMap Cell.edge? ↔
      ∃ row column,
        matrix.relation row column = .less ∧ edge = ⟨⟨.g, column⟩, ⟨.f, row⟩⟩ ∨
        matrix.relation row column = .greater ∧ edge = ⟨⟨.f, row⟩, ⟨.g, column⟩⟩ := by
  simp only [List.mem_filterMap, mem_cellList_iff]
  constructor
  · rintro ⟨⟨row, column, relation⟩, hcell, hedge⟩
    cases relation <;> simp only [Cell.edge?, Option.some.injEq, reduceCtorEq] at hedge
    · exact ⟨row, column, Or.inl ⟨hcell.symm, hedge.symm⟩⟩
    · exact ⟨row, column, Or.inr ⟨hcell.symm, hedge.symm⟩⟩
  · rintro ⟨row, column, ⟨hcell, rfl⟩ | ⟨hcell, rfl⟩⟩
    · exact ⟨⟨row, column, .less⟩, hcell.symm, rfl⟩
    · exact ⟨⟨row, column, .greater⟩, hcell.symm, rfl⟩

/-- A chain of `=` cells, taken either way, leads from one vertex to the other. -/
def Merged (matrix : Matrix) : Vertex matrix.size → Vertex matrix.size → Prop :=
  Relation.EqvGen fun first second =>
    ∃ row column, matrix.relation row column = .equal ∧
      first = ⟨.f, row⟩ ∧ second = ⟨.g, column⟩

/-- A `<` or `>` cell sets the first vertex above the second. -/
inductive SetsAbove (matrix : Matrix) : Vertex matrix.size → Vertex matrix.size → Prop where
  | less {row column : Fin matrix.size} :
      matrix.relation row column = .less → SetsAbove matrix ⟨.g, column⟩ ⟨.f, row⟩
  | greater {row column : Fin matrix.size} :
      matrix.relation row column = .greater → SetsAbove matrix ⟨.f, row⟩ ⟨.g, column⟩

theorem setsAbove_iff (matrix : Matrix) (upper lower : Vertex matrix.size) :
    matrix.SetsAbove upper lower ↔
      ⟨upper, lower⟩ ∈ matrix.cellList.filterMap Cell.edge? := by
  rw [mem_edges_iff]
  constructor
  · rintro (@⟨row, column, hcell⟩ | @⟨row, column, hcell⟩)
    · exact ⟨row, column, Or.inl ⟨hcell, rfl⟩⟩
    · exact ⟨row, column, Or.inr ⟨hcell, rfl⟩⟩
  · rintro ⟨row, column, ⟨hcell, heq⟩ | ⟨hcell, heq⟩⟩
    · obtain ⟨rfl, rfl⟩ := Edge.mk.inj heq
      exact .less hcell
    · obtain ⟨rfl, rfl⟩ := Edge.mk.inj heq
      exact .greater hcell

theorem RankedBy.lt_of_setsAbove {α : Type u} [LT α] {matrix : Matrix}
    {value : Vertex matrix.size → α} (hranked : matrix.RankedBy value)
    {upper lower : Vertex matrix.size} (habove : matrix.SetsAbove upper lower) :
    value lower < value upper := by
  cases habove with
  | @less row column hcell =>
      have hholds := hranked row column
      rwa [hcell] at hholds
  | @greater row column hcell =>
      have hholds := hranked row column
      rwa [hcell] at hholds

theorem RankedBy.eq_of_merged {α : Type u} [LT α] {matrix : Matrix}
    {value : Vertex matrix.size → α} (hranked : matrix.RankedBy value)
    {first second : Vertex matrix.size} (hmerged : matrix.Merged first second) :
    value first = value second := by
  induction hmerged with
  | rel first second hequal =>
      obtain ⟨row, column, hcell, rfl, rfl⟩ := hequal
      have hholds := hranked row column
      rwa [hcell] at hholds
  | refl vertex => rfl
  | symm first second _ ih => exact ih.symm
  | trans first second third _ _ hfirst hsecond => exact hfirst.trans hsecond

end Matrix

namespace OrderingGraph

theorem ofMatrix_coherent (matrix : Matrix) : (ofMatrix matrix).Coherent :=
  ofLinks_coherent _ _

theorem representative_ofMatrix_eq_iff (matrix : Matrix) (first second : Vertex matrix.size) :
    (ofMatrix matrix).representative first = (ofMatrix matrix).representative second ↔
      matrix.Merged first second := by
  have hlinks : (fun first second => (first, second) ∈
      matrix.cellList.filterMap Matrix.Cell.link?) = fun first second =>
        ∃ row column, matrix.relation row column = .equal ∧
          first = ⟨.f, row⟩ ∧ second = ⟨.g, column⟩ := by
    funext first second
    exact propext (matrix.mem_links_iff first second)
  rw [ofMatrix, representative_ofLinks_eq_iff, Linked, hlinks]
  rfl

/-- The edges are those that cells call for, between the representatives. -/
theorem mem_edges_ofMatrix_iff (matrix : Matrix) (upper lower : Vertex matrix.size) :
    ⟨upper, lower⟩ ∈ (ofMatrix matrix).edges ↔
      ∃ above below, matrix.SetsAbove above below ∧
        upper = (ofMatrix matrix).representative above ∧
        lower = (ofMatrix matrix).representative below := by
  rw [ofMatrix, mem_edges_ofLinks_iff]
  constructor
  · rintro ⟨⟨above, below⟩, hgiven, heq⟩
    obtain ⟨hupper, hlower⟩ := Edge.mk.inj heq
    exact ⟨above, below, (matrix.setsAbove_iff above below).mpr hgiven, hupper, hlower⟩
  · rintro ⟨above, below, habove, rfl, rfl⟩
    exact ⟨⟨above, below⟩, (matrix.setsAbove_iff above below).mp habove, rfl⟩

/-- Values fall along the graph of a matrix exactly when they reproduce its
cells. -/
theorem ofMatrix_rankedBy_iff {α : Type u} [LT α] (matrix : Matrix)
    (value : Vertex matrix.size → α) :
    (ofMatrix matrix).RankedBy value ↔ matrix.RankedBy value := by
  constructor
  · intro hranked row column
    -- A cell sets two vertices apart or together; the graph has it between representatives.
    have hlt : ∀ upper lower, matrix.SetsAbove upper lower → value lower < value upper := by
      intro upper lower habove
      have hedge := hranked.edge _
        ((mem_edges_ofMatrix_iff matrix _ _).mpr ⟨upper, lower, habove, rfl, rfl⟩)
      rwa [hranked.representative, hranked.representative] at hedge
    cases hcell : matrix.relation row column with
    | less => exact hlt _ _ (.less hcell)
    | greater => exact hlt _ _ (.greater hcell)
    | equal =>
        have hsame := (representative_ofMatrix_eq_iff matrix ⟨.f, row⟩ ⟨.g, column⟩).mpr
          (.rel _ _ ⟨row, column, hcell, rfl, rfl⟩)
        have hvalue := congrArg value hsame
        rwa [hranked.representative, hranked.representative] at hvalue
    | unrelated => trivial
  · intro hranked
    have hrepresentative : ∀ vertex,
        value ((ofMatrix matrix).representative vertex) = value vertex := fun vertex =>
      hranked.eq_of_merged ((representative_ofMatrix_eq_iff matrix _ _).mp
        ((ofMatrix_coherent matrix).representative_idem vertex))
    refine ⟨hrepresentative, ?_⟩
    rintro ⟨upper, lower⟩ hedge
    obtain ⟨above, below, habove, rfl, rfl⟩ := (mem_edges_ofMatrix_iff matrix _ _).mp hedge
    dsimp only
    rw [hrepresentative, hrepresentative]
    exact hranked.lt_of_setsAbove habove

end OrderingGraph

end OperatorPrecedence
