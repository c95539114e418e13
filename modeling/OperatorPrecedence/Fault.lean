import OperatorPrecedence.Vertex

/-!
What would have gone wrong inside a run.  No table leads to a fault; the type
names what a run relies on.
-/

namespace OperatorPrecedence

/-- What a run relies on and did not find. -/
inductive Fault where
  /-- The search asked for the distance of a vertex that is not closed. -/
  | unfinished (vertex : VertexName)
  /-- A class has no distance. -/
  | missingDistance (label : String)
  /-- A vertex is to be named whose class is missing. -/
  | missingClass (index : Nat)
deriving Repr, DecidableEq

def Fault.message : Fault → String
  | .unfinished vertex => "the vertex " ++ vertex.text ++ " is not finished"
  | .missingDistance label => "missing distance for class `" ++ label ++ "'"
  | .missingClass index => "no class has the number " ++ toString index

end OperatorPrecedence
