import OperatorPrecedence.DisjointSets
import OperatorPrecedence.Vertex

/-!
The ordering graph of a matrix.  Vertices that an `=` cell joins are merged, and
an edge leads from a vertex whose value must be larger to one whose value must
be smaller.
-/

namespace OperatorPrecedence

/-- An edge from a larger value to a smaller one. -/
structure Edge (n : Nat) where
  source : Vertex n
  target : Vertex n
deriving Repr, DecidableEq

/-- A graph over the vertices of `n` classes, which it lists in an order of its own.
Every merged set is known by its representative, and edges join representatives. -/
structure OrderingGraph (n : Nat) where
  vertices : List (Vertex n)
  representatives : VertexTable n (Vertex n)
  edges : List (Edge n)
  mem_vertices : ∀ vertex, vertex ∈ vertices
  vertices_nodup : vertices.Nodup
deriving Repr, DecidableEq

/-- The edge that a cell calls for: down from the column for `<`, down from the
row for `>`. -/
def Matrix.Cell.edge? {n : Nat} (cell : Matrix.Cell n) : Option (Edge n) :=
  match cell.relation with
  | .less => some ⟨⟨.g, cell.column⟩, ⟨.f, cell.row⟩⟩
  | .greater => some ⟨⟨.f, cell.row⟩, ⟨.g, cell.column⟩⟩
  | .equal | .unrelated => none

/-- The vertices that a cell makes equal. -/
def Matrix.Cell.link? {n : Nat} (cell : Matrix.Cell n) : Option (Vertex n × Vertex n) :=
  match cell.relation with
  | .equal => some (⟨.f, cell.row⟩, ⟨.g, cell.column⟩)
  | .less | .greater | .unrelated => none

namespace OrderingGraph

variable {n : Nat}

/-- The vertex that stands for the merged set of a vertex. -/
def representative (graph : OrderingGraph n) (vertex : Vertex n) : Vertex n :=
  graph.representatives.get vertex

def isRepresentative (graph : OrderingGraph n) (vertex : Vertex n) : Bool :=
  graph.representative vertex = vertex

theorem isRepresentative_iff (graph : OrderingGraph n) (vertex : Vertex n) :
    graph.isRepresentative vertex = true ↔ graph.representative vertex = vertex :=
  decide_eq_true_iff

def successors (graph : OrderingGraph n) (vertex : Vertex n) : List (Vertex n) :=
  (graph.edges.filter (fun edge => edge.source = graph.representative vertex)).map
    Edge.target

theorem mem_successors_iff (graph : OrderingGraph n) (vertex target : Vertex n) :
    target ∈ graph.successors vertex ↔
      ⟨graph.representative vertex, target⟩ ∈ graph.edges := by
  simp only [successors, List.mem_map, List.mem_filter, decide_eq_true_eq]
  constructor
  · rintro ⟨edge, ⟨hedge, hsource⟩, htarget⟩
    rw [← hsource, ← htarget]
    exact hedge
  · exact fun hedge => ⟨_, ⟨hedge, rfl⟩, rfl⟩

/-- The vertices that stand for the merged sets, in the order of the vertices. -/
def roots (graph : OrderingGraph n) : List (Vertex n) :=
  graph.vertices.filter graph.isRepresentative

theorem mem_roots_iff (graph : OrderingGraph n) (vertex : Vertex n) :
    vertex ∈ graph.roots ↔ graph.isRepresentative vertex = true := by
  rw [roots, List.mem_filter, and_iff_right (graph.mem_vertices vertex)]

theorem nodup_roots (graph : OrderingGraph n) : graph.roots.Nodup :=
  List.Pairwise.filter _ graph.vertices_nodup

/-- The first occurrence of every edge whose target is not yet among the targets
seen from its source. -/
def freshEdges (seen : VertexTable n (List (Vertex n))) : List (Edge n) → List (Edge n)
  | [] => []
  | edge :: edges =>
      let targets := seen.get edge.source
      if edge.target ∈ targets then freshEdges seen edges
      else edge :: freshEdges (seen.set edge.source (edge.target :: targets)) edges

def distinctEdges (edges : List (Edge n)) : List (Edge n) :=
  freshEdges (VertexTable.ofFn fun _ => []) edges

theorem freshEdges_eq (seen : VertexTable n (List (Vertex n))) (earlier : List (Edge n))
    (hseen : ∀ edge : Edge n, edge.target ∈ seen.get edge.source ↔ edge ∈ earlier)
    (edges : List (Edge n)) : freshEdges seen edges = freshEntries earlier edges := by
  induction edges generalizing seen earlier with
  | nil => rfl
  | cons edge edges ih =>
      by_cases hmem : edge ∈ earlier
      · simp only [freshEdges, freshEntries, (hseen edge).mpr hmem, hmem, ↓reduceIte]
        exact ih seen earlier hseen
      · have hfresh : edge.target ∉ seen.get edge.source := mt (hseen edge).mp hmem
        simp only [freshEdges, freshEntries, hfresh, hmem, ↓reduceIte]
        rw [ih _ (edge :: earlier)]
        intro other
        obtain ⟨source, target⟩ := edge
        obtain ⟨otherSource, otherTarget⟩ := other
        simp only [VertexTable.get_set, List.mem_cons, Edge.mk.injEq]
        by_cases hsource : otherSource = source
        · subst hsource
          simp only [↓reduceIte, List.mem_cons, true_and]
          exact or_congr Iff.rfl (hseen ⟨otherSource, otherTarget⟩)
        · simp only [hsource, ↓reduceIte, false_and, false_or]
          exact hseen ⟨otherSource, otherTarget⟩

/-- Looking at the targets of one source is enough to find a repeated edge. -/
theorem distinctEdges_eq (edges : List (Edge n)) :
    distinctEdges edges = firstOccurrences edges :=
  freshEdges_eq _ [] (by simp) edges

/-- The sets of vertices that links merge. -/
def merge (links : List (Vertex n × Vertex n)) : DisjointSets (n + n) :=
  (DisjointSets.discrete (n + n)).unionAll
    (links.map fun link => (link.1.index, link.2.index))

/-- The graph with these links and edges.  Edges move to the representatives,
and of equal edges only the first is kept. -/
def ofLinks (links : List (Vertex n × Vertex n)) (edges : List (Edge n)) :
    OrderingGraph n :=
  let sets := merge links
  let representatives := VertexTable.ofFn fun vertex =>
    Vertex.ofIndex (sets.root vertex.index)
  { vertices := Vertex.all n
    representatives := representatives
    edges := distinctEdges (edges.map fun edge =>
      ⟨representatives.get edge.source, representatives.get edge.target⟩)
    mem_vertices := Vertex.mem_all
    vertices_nodup := Vertex.nodup_all n }

/-- The graph of a matrix; its edges follow the cells row by row. -/
def ofMatrix [Text.LabelAlphabet] (matrix : Matrix) : OrderingGraph matrix.size :=
  ofLinks (matrix.cellList.filterMap Matrix.Cell.link?)
    (matrix.cellList.filterMap Matrix.Cell.edge?)

def vertexCount (graph : OrderingGraph n) : Nat :=
  graph.vertices.length

def edgeCount (graph : OrderingGraph n) : Nat :=
  graph.edges.length

/-- The line of a vertex: its successors, or the vertex that stands for it. -/
def vertexLine (graph : OrderingGraph n) (name : Vertex n → String)
    (vertex : Vertex n) : String :=
  if graph.isRepresentative vertex then
    "    " ++ name vertex ++ ": [" ++
      ", ".intercalate ((graph.successors vertex).map name) ++ "]\n"
  else
    "    " ++ name vertex ++ " = " ++ name (graph.representative vertex) ++ "\n"

def text (graph : OrderingGraph n) (name : Vertex n → String) : String :=
  "graph = \x7b\n" ++ String.join (graph.vertices.map (graph.vertexLine name)) ++
    "\x7d\n"

end OrderingGraph

end OperatorPrecedence
