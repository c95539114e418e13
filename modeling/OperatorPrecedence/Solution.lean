import OperatorPrecedence.Journal
import OperatorPrecedence.Listing
import OperatorPrecedence.Table

/-!
From a matrix and its groups to the precedence functions.
-/

namespace OperatorPrecedence

/-- Why a table has no precedence functions. -/
inductive SolveError where
  /-- The groups do not fit the matrix. -/
  | table (cause : TableError)
  /-- A cycle of the ordering graph; its first vertex stands again at its end. -/
  | cycle (vertices : List VertexName)
  | fault (cause : Fault)
deriving Repr, DecidableEq

def cycleMessage (vertices : List VertexName) : String :=
  "precedence matrix is not analyzable: cycle " ++
    " -> ".intercalate (vertices.map VertexName.text)

namespace SolveError

def message : SolveError → String
  | .table _ => "malformed precedence table"
  | .cycle _ => "no precedence functions exist for the table"
  | .fault cause => cause.message

def causeMessage? : SolveError → Option String
  | .table cause => some cause.message
  | .cycle vertices => some (cycleMessage vertices)
  | .fault _ => none

/-- The error of a search that halts, in the names of a matrix. -/
def ofHalt [Text.LabelAlphabet] (matrix : Matrix) : Halt matrix.size → SolveError
  | .cycle vertices => .cycle (vertices.map matrix.vertexName)
  | .unfinished vertex => .fault (.unfinished (matrix.vertexName vertex))

end SolveError

namespace Classes

variable {n : Nat}

def vertexName? (classes : Classes) (vertex : Vertex n) : Option VertexName :=
  (classes.get? vertex.cls).map fun cls => ⟨vertex.role, cls.label⟩

/-- The names of all vertices of `n` classes as texts. -/
def naming (classes : Classes) (n : Nat) : Except Fault (Vertex n → String) :=
  match h : (Vertex.all n).find? fun vertex => (classes.vertexName? vertex).isNone with
  | some vertex => .error (.missingClass vertex.cls)
  | none =>
      .ok fun vertex =>
        ((classes.vertexName? vertex).get <| Option.isSome_iff_ne_none.mpr fun hnone =>
          List.find?_eq_none.mp h vertex (Vertex.mem_all vertex) (by simp [hnone])).text

end Classes

/-- All that follows from a matrix of `n` labels and its groups. -/
structure Solution (n : Nat) where
  classes : Classes
  graph : OrderingGraph n
  distances : Distances n
  functions : PrecedenceFunctions
deriving DecidableEq

def Solution.listing {n : Nat} (solution : Solution n) (order? : Option (List String)) :
    Except TableError Listing :=
  Listing.ofFunctions solution.functions solution.classes order?

def Solution.graphText {n : Nat} (solution : Solution n) : Except Fault String :=
  (solution.classes.naming n).map solution.graph.text

def Solution.distancesText {n : Nat} (solution : Solution n) : Except Fault String :=
  (solution.classes.naming n).map solution.distances.text

namespace Matrix

variable [Text.LabelAlphabet]

def solve (matrix : Matrix) (groups : Groups) :
    Except SolveError (Solution matrix.size) :=
  match Classes.ofMatrix matrix groups with
  | .error error => .error (.table error)
  | .ok classes =>
  let graph := OrderingGraph.ofMatrix matrix
  match Distances.ofGraph graph with
  | .error halt => .error (.ofHalt matrix halt)
  | .ok distances =>
  match PrecedenceFunctions.ofDistances distances classes with
  | .error fault => .error (.fault fault)
  | .ok functions => .ok ⟨classes, graph, distances, functions⟩

/-- The event of something that the search does. -/
def visitEvent (matrix : Matrix) : Visit matrix.size → Event
  | .opened depth vertex => .vertexOpened depth (matrix.vertexName vertex)
  | .closed vertex distance => .vertexClosed (matrix.vertexName vertex) distance

@[simp] theorem level_visitEvent (matrix : Matrix) (visit : Visit matrix.size) :
    (matrix.visitEvent visit).level = .trace := by
  cases visit <;> rfl

@[simp] theorem spans_visitEvent (matrix : Matrix) (visit : Visit matrix.size) :
    (matrix.visitEvent visit).spans = [.solve, .search] := by
  cases visit <;> rfl

/-- A warning for each vertex of the end marker that lies above another. -/
def endMarkerEvents (matrix : Matrix) (distances : Distances matrix.size) : List Event :=
  [Vertex.mk .f matrix.endIndex, Vertex.mk .g matrix.endIndex].filterMap fun vertex =>
    let distance := distances.get vertex
    if distance = 0 then none
    else some (.endMarkerRaised (matrix.vertexName vertex) distance)

theorem level_of_mem_endMarkerEvents {matrix : Matrix} {distances : Distances matrix.size}
    {event : Event} (hevent : event ∈ matrix.endMarkerEvents distances) :
    event.level = .warn := by
  obtain ⟨vertex, -, hwarned⟩ := List.mem_filterMap.mp hevent
  obtain ⟨-, hraised⟩ := Option.ite_none_left_eq_some.mp hwarned
  rw [← Option.some.inj hraised]
  rfl

def graphEvents (matrix : Matrix) (graph : OrderingGraph matrix.size) : List Event :=
  (graph.edges.map fun edge =>
    .edgeAdded edge.source.role edge.source.cls edge.target.role edge.target.cls) ++
    [.graphBuilt graph.vertexCount graph.edgeCount]

def searchEvents (matrix : Matrix) (graph : OrderingGraph matrix.size) : List Event :=
  (Search.ofRoots graph graph.roots).1.history.map matrix.visitEvent ++
    match Distances.ofGraph graph with
    | .error _ => []
    | .ok distances => matrix.endMarkerEvents distances

/-- What happens while a matrix and its groups are solved. -/
def solveEvents (matrix : Matrix) (groups : Groups) : List Event :=
  .matrixTaken matrix ::
    match Classes.ofMatrix matrix groups with
    | .error _ => []
    | .ok classes =>
      let graph := OrderingGraph.ofMatrix matrix
      .classesFormed classes.size groups.size classes.endMarker.label ::
        matrix.graphEvents graph ++ matrix.searchEvents graph ++
          match Distances.ofGraph graph with
          | .error _ => []
          | .ok distances =>
            .pathsComputed distances.toList.length ::
              match PrecedenceFunctions.ofDistances distances classes with
              | .error _ => []
              | .ok functions => [.symbolsExpanded functions.size]

theorem search_not_mem_spans_of_graphEvents {matrix : Matrix} {graph : OrderingGraph matrix.size}
    {event : Event} (hevent : event ∈ matrix.graphEvents graph) : .search ∉ event.spans := by
  simp only [graphEvents, List.mem_append, List.mem_map, List.mem_singleton] at hevent
  rcases hevent with ⟨edge, -, rfl⟩ | rfl
  · simp [Event.spans]
  · simp [Event.spans]

/-- What a run tells from within the search is told by the search. -/
theorem filter_solveEvents (matrix : Matrix) (groups : Groups) {keep : Event → Bool}
    (hkeep : ∀ event, keep event = true → .search ∈ event.spans) :
    (matrix.solveEvents groups).filter keep =
      match Classes.ofMatrix matrix groups with
      | .error _ => []
      | .ok _ => (matrix.searchEvents (OrderingGraph.ofMatrix matrix)).filter keep := by
  -- What is told before and after the search is outside of it.
  have hdrop : ∀ events : List Event, (∀ event ∈ events, .search ∉ event.spans) →
      events.filter keep = [] := by
    intro events hevents
    apply List.filter_eq_nil_iff.mpr
    intro event hevent hkept
    exact hevents event hevent (hkeep event hkept)
  unfold solveEvents
  cases Classes.ofMatrix matrix groups with
  | error error =>
      apply hdrop
      simp [Event.spans]
  | ok classes =>
      have hbefore := hdrop (.matrixTaken matrix ::
        .classesFormed classes.size groups.size classes.endMarker.label ::
          matrix.graphEvents (OrderingGraph.ofMatrix matrix)) (by
        simp only [List.forall_mem_cons]
        exact ⟨by simp [Event.spans], by simp [Event.spans],
          fun event => search_not_mem_spans_of_graphEvents⟩)
      dsimp only
      rw [List.append_assoc, ← List.cons_append, List.filter_append, hbefore, List.nil_append,
        List.filter_append]
      apply List.append_right_eq_self.mpr
      apply hdrop
      cases Distances.ofGraph (OrderingGraph.ofMatrix matrix) with
      | error halt => simp
      | ok distances =>
          dsimp only
          cases PrecedenceFunctions.ofDistances distances classes <;> simp [Event.spans]

end Matrix

/-- What happens while a text is read.  Nothing is told of a text that has a
place where no token begins. -/
def Reading.events [Text.LabelAlphabet] (scan : Scan) : List Event :=
  match scan.failure? with
  | some _ => []
  | none =>
      .tokensRead scan.tokens.length ::
        (Reading.ofTokens scan.tokens).statements.map .statementRead

end OperatorPrecedence
