import OperatorPrecedence.Search

/-!
The distance of a vertex is the length of the longest walk from the vertex that
stands for it.
-/

namespace OperatorPrecedence

structure Distances (n : Nat) where
  table : VertexTable n Nat
deriving Repr, DecidableEq

namespace Distances

variable {n : Nat}

def get (distances : Distances n) (vertex : Vertex n) : Nat :=
  distances.table.get vertex

def get? (distances : Distances n) (role : Role) (index : Nat) : Option Nat :=
  distances.table.get? role index

def toList (distances : Distances n) : List (Vertex n × Nat) :=
  (Vertex.all n).map fun vertex => (vertex, distances.get vertex)

def text (distances : Distances n) (name : Vertex n → String) : String :=
  "Longest paths:\n" ++
    String.join (distances.toList.map fun (vertex, distance) =>
      name vertex ++ " = " ++ toString distance ++ "\n")

def ofSearch (graph : OrderingGraph n) (search : Search n) :
    Except (Halt n) (Distances n) :=
  let found (vertex : Vertex n) : Option Nat :=
    (search.marks.get (graph.representative vertex)).distance?
  match h : graph.vertices.find? (fun vertex => (found vertex).isNone) with
  | some vertex => .error (.unfinished (graph.representative vertex))
  | none =>
      .ok ⟨VertexTable.ofFn fun vertex =>
        (found vertex).get <| Option.isSome_iff_ne_none.mpr fun hnone =>
          List.find?_eq_none.mp h vertex (graph.mem_vertices vertex) (by simp [hnone])⟩

/-- The distances of a graph whose search takes the roots in a given order. -/
def ofRoots (graph : OrderingGraph n) (roots : List (Vertex n)) :
    Except (Halt n) (Distances n) :=
  match Search.ofRoots graph roots with
  | (_, some halt) => .error halt
  | (search, none) => ofSearch graph search

/-- The distances of a graph, or the cycle because of which there are none. -/
def ofGraph (graph : OrderingGraph n) : Except (Halt n) (Distances n) :=
  ofRoots graph graph.roots

end Distances

end OperatorPrecedence
