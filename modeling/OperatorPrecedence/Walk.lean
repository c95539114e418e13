import OperatorPrecedence.OrderingGraph

/-!
Walks along the edges of an ordering graph.
-/

namespace OperatorPrecedence

variable {n : Nat}

/-- A step leads from a vertex to a successor of its merged set. -/
def OrderingGraph.Step (graph : OrderingGraph n) (vertex next : Vertex n) : Prop :=
  next ∈ graph.successors vertex

/-- A walk from one vertex to another with a number of steps.  A step leads to a
successor of the merged set in which the walk stands. -/
inductive OrderingGraph.Walk (graph : OrderingGraph n) :
    Vertex n → Vertex n → Nat → Prop where
  | nil (vertex : Vertex n) : Walk graph vertex vertex 0
  | cons {first second last : Vertex n} {length : Nat} :
      second ∈ graph.successors first → Walk graph second last length →
        Walk graph first last (length + 1)

namespace OrderingGraph.Walk

variable {graph : OrderingGraph n}

theorem append {first middle last : Vertex n} {k l : Nat}
    (hfirst : graph.Walk first middle k) (hlast : graph.Walk middle last l) :
    graph.Walk first last (k + l) := by
  induction hfirst with
  | nil => simpa using hlast
  | @cons _ _ _ length hstep _ ih =>
      have hjoined := Walk.cons hstep (ih hlast)
      rwa [Nat.add_right_comm] at hjoined

end OrderingGraph.Walk

end OperatorPrecedence
