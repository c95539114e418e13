import OperatorPrecedence.OrderingGraph

/-!
Depth-first search for the longest walk from every representative.  The search
keeps its own stack, closes a vertex when all its successors are closed, and
halts when it meets a vertex that is still open.
-/

namespace OperatorPrecedence

/-- What the search knows of a vertex. -/
inductive Mark where
  | unseen
  | opened
  /-- Closed, with the length of the longest walk from it. -/
  | closed (distance : Nat)
deriving Repr, DecidableEq

/-- The length that a closed vertex has. -/
def Mark.distance? : Mark → Option Nat
  | .closed distance => some distance
  | .unseen | .opened => none

/-- An open vertex and the successors not yet tried. -/
structure Frame (n : Nat) where
  vertex : Vertex n
  pending : List (Vertex n)
deriving Repr, DecidableEq

inductive Visit (n : Nat) where
  /-- The vertex is opened while `depth` others are open. -/
  | opened (depth : Nat) (vertex : Vertex n)
  | closed (vertex : Vertex n) (distance : Nat)
deriving Repr, DecidableEq

/-- Why the search halts early. -/
inductive Halt (n : Nat) where
  /-- A cycle; its first vertex stands again at its end. -/
  | cycle (vertices : List (Vertex n))
  /-- A length is asked for at a vertex that is not closed. -/
  | unfinished (vertex : Vertex n)
deriving Repr, DecidableEq

/-- The state of the search. -/
structure Search (n : Nat) where
  marks : VertexTable n Mark
  /-- The open vertices, the innermost first. -/
  stack : List (Frame n)
  /-- What has been done, the latest first. -/
  visits : List (Visit n)
deriving Repr, DecidableEq

namespace Search

variable {n : Nat}

def start (n : Nat) : Search n :=
  ⟨VertexTable.ofFn fun _ => .unseen, [], []⟩

def enter (graph : OrderingGraph n) (search : Search n) (vertex : Vertex n) : Search n where
  marks := search.marks.set vertex .opened
  stack := ⟨vertex, graph.successors vertex⟩ :: search.stack
  visits := .opened search.stack.length vertex :: search.visits

/-- The open vertices, the outermost first. -/
def way (search : Search n) : List (Vertex n) :=
  (search.stack.map Frame.vertex).reverse

/-- The part of the way to the innermost open vertex that starts at `vertex`,
closed by `vertex` itself.  For a vertex off the way it is the whole way. -/
def cycleAt (search : Search n) (vertex : Vertex n) : List (Vertex n) :=
  search.way.drop ((search.way.idxOf? vertex).getD 0) ++ [vertex]

/-- The length of the longest walk that starts with a step to one of some closed
vertices. -/
def distanceOver (marks : VertexTable n Mark) : List (Vertex n) → Except (Halt n) Nat
  | [] => .ok 0
  | vertex :: vertices =>
      match (marks.get vertex).distance? with
      | none => .error (.unfinished vertex)
      | some distance =>
          match distanceOver marks vertices with
          | .error halt => .error halt
          | .ok longest => .ok (max (distance + 1) longest)

/-- One step, with `frame` the innermost open vertex: try its next successor, or
close it. -/
def advance (graph : OrderingGraph n) (search : Search n) (frame : Frame n)
    (below : List (Frame n)) : Except (Halt n) (Search n) :=
  match frame.pending with
  | next :: pending =>
      let resumed := { search with stack := ⟨frame.vertex, pending⟩ :: below }
      match search.marks.get next with
      | .unseen => .ok (resumed.enter graph next)
      | .opened => .error (.cycle (resumed.cycleAt next))
      | .closed _ => .ok resumed
  | [] =>
      match distanceOver search.marks (graph.successors frame.vertex) with
      | .error halt => .error halt
      | .ok distance =>
          .ok
            { marks := search.marks.set frame.vertex (.closed distance)
              stack := below
              visits := .closed frame.vertex distance :: search.visits }

def unseenCount (search : Search n) : Nat :=
  (Vertex.all n).countP fun vertex => search.marks.get vertex = .unseen

/-- How many successors are yet to be tried and vertices yet to be closed. -/
def openWork (search : Search n) : Nat :=
  search.stack.foldr (fun frame work => frame.pending.length + 1 + work) 0

theorem countP_set_le (marks : VertexTable n Mark) (vertex : Vertex n) (mark : Mark)
    (hmark : mark ≠ .unseen) (vertices : List (Vertex n)) :
    vertices.countP (fun v => (marks.set vertex mark).get v = .unseen) ≤
      vertices.countP (fun v => marks.get v = .unseen) := by
  refine List.countP_mono_left fun v _ hv => ?_
  simp only [VertexTable.get_set, decide_eq_true_eq] at hv ⊢
  split at hv
  · exact absurd hv hmark
  · exact hv

theorem countP_set_lt (marks : VertexTable n Mark) (vertex : Vertex n) (mark : Mark)
    (hmark : mark ≠ .unseen) (hvertex : marks.get vertex = .unseen)
    {vertices : List (Vertex n)} (hmem : vertex ∈ vertices) :
    vertices.countP (fun v => (marks.set vertex mark).get v = .unseen) <
      vertices.countP (fun v => marks.get v = .unseen) := by
  induction vertices with
  | nil => simp at hmem
  | cons v rest ih =>
      have hle := countP_set_le marks vertex mark hmark rest
      by_cases heq : v = vertex
      · subst heq
        simp only [List.countP_cons, VertexTable.get_set_self, hmark, hvertex,
          decide_false, decide_true, Bool.false_eq_true, ↓reduceIte]
        omega
      · have hrest := ih ((List.mem_cons.mp hmem).resolve_left (Ne.symm heq))
        simp only [List.countP_cons, VertexTable.get_set, heq, ↓reduceIte] at hrest ⊢
        omega

/-- A step visits a vertex for the first time or leaves less to do. -/
theorem advance_decreases {graph : OrderingGraph n} {search next : Search n}
    {frame : Frame n} {below : List (Frame n)}
    (hstack : search.stack = frame :: below)
    (hnext : search.advance graph frame below = .ok next) :
    next.unseenCount < search.unseenCount ∨
      next.unseenCount = search.unseenCount ∧ next.openWork < search.openWork := by
  have hwork : search.openWork =
      frame.pending.length + 1 +
        below.foldr (fun frame work => frame.pending.length + 1 + work) 0 := by
    simp [openWork, hstack]
  -- Opening makes one vertex fewer unseen; trying and closing leave less work on the stack.
  unfold advance at hnext
  split at hnext
  · rename_i vertex pending hpending
    simp only at hnext
    split at hnext
    · rename_i hvertex
      left
      injection hnext with hnext
      subst hnext
      exact countP_set_lt search.marks vertex .opened (by simp) hvertex
        (Vertex.mem_all vertex)
    · simp at hnext
    · right
      injection hnext with hnext
      subst hnext
      refine ⟨rfl, ?_⟩
      rw [hwork, hpending]
      simp only [openWork, List.foldr_cons, List.length_cons]
      omega
  · rename_i hpending
    split at hnext
    · simp at hnext
    · rename_i distance _
      injection hnext with hnext
      subst hnext
      have hle := countP_set_le search.marks frame.vertex (.closed distance) (by simp)
        (Vertex.all n)
      rcases Nat.lt_or_eq_of_le hle with hlt | heq
      · exact Or.inl hlt
      · refine Or.inr ⟨heq, ?_⟩
        rw [hwork]
        simp only [openWork]
        omega

/-- Step on until no vertex is open or the search halts.  The answer holds the
last state and the reason of an early halt. -/
def traverse (graph : OrderingGraph n) (search : Search n) : Search n × Option (Halt n) :=
  match hstack : search.stack with
  | [] => (search, none)
  | frame :: below =>
      match hnext : search.advance graph frame below with
      | .error halt => (search, some halt)
      | .ok next =>
          have := advance_decreases hstack hnext
          traverse graph next
termination_by (search.unseenCount, search.openWork)
decreasing_by
  rcases this with hlt | ⟨heq, hlt⟩
  · exact Prod.Lex.left _ _ hlt
  · exact heq ▸ Prod.Lex.right _ hlt

/-- Traverse the graph from each root that an earlier one has not reached. -/
def visitRoots (graph : OrderingGraph n) (search : Search n) :
    List (Vertex n) → Search n × Option (Halt n)
  | [] => (search, none)
  | root :: roots =>
      match search.marks.get root with
      | .unseen =>
          match traverse graph (search.enter graph root) with
          | (last, some halt) => (last, some halt)
          | (last, none) => visitRoots graph last roots
      | .opened | .closed _ => visitRoots graph search roots

def ofRoots (graph : OrderingGraph n) (roots : List (Vertex n)) :
    Search n × Option (Halt n) :=
  visitRoots graph (start n) roots

def history (search : Search n) : List (Visit n) :=
  search.visits.reverse

end Search

end OperatorPrecedence
