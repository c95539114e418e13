import OperatorPrecedence.Matrix.Layout
import OperatorPrecedence.Statement
import OperatorPrecedence.Vertex

/-!
The journal of a run: what happened, how much it matters, and in which part of
the run it happened.
-/

namespace OperatorPrecedence

/-- How much an event matters, from the most to the least. -/
inductive Level where
  | error
  | warn
  | info
  | debug
  | trace
deriving Repr, DecidableEq

namespace Level

def rank : Level → Nat
  | .error => 0
  | .warn => 1
  | .info => 2
  | .debug => 3
  | .trace => 4

def name : Level → String
  | .error => "ERROR"
  | .warn => "WARN"
  | .info => "INFO"
  | .debug => "DEBUG"
  | .trace => "TRACE"

/-- Whether a level matters at least as much as a threshold. -/
def passes (level threshold : Level) : Bool :=
  level.rank ≤ threshold.rank

end Level

/-- A part of a run. -/
inductive Span where
  | parse
  | solve
  | graph
  | search
deriving Repr, DecidableEq

namespace Span

def name : Span → String
  | .parse => "parse"
  | .solve => "compile"
  | .graph => "build_graph"
  | .search => "longest_paths"

/-- The level from which on a part is shown. -/
def level : Span → Level
  | .parse => .trace
  | .solve | .graph | .search => .debug

end Span

inductive Event [Text.LabelAlphabet] where
  | tokensRead (count : Nat)
  | statementRead (statement : Statement)
  | matrixTaken (matrix : Matrix)
  | classesFormed (classes groups : Nat) (endMarker : String)
  | edgeAdded (sourceRole : Role) (source : Nat) (targetRole : Role) (target : Nat)
  | graphBuilt (vertices edges : Nat)
  | vertexOpened (depth : Nat) (vertex : VertexName)
  | vertexClosed (vertex : VertexName) (distance : Nat)
  | endMarkerRaised (vertex : VertexName) (distance : Nat)
  | pathsComputed (count : Nat)
  | symbolsExpanded (count : Nat)
deriving DecidableEq

namespace Event

variable [Text.LabelAlphabet]

/-- How much an event matters. -/
def level : Event → Level
  | .tokensRead _ | .statementRead _ | .matrixTaken _ | .edgeAdded _ _ _ _
  | .vertexOpened _ _ | .vertexClosed _ _ => .trace
  | .classesFormed _ _ _ | .graphBuilt _ _ | .pathsComputed _ | .symbolsExpanded _ => .debug
  | .endMarkerRaised _ _ => .warn

/-- The parts of the run around an event, the outermost first. -/
def spans : Event → List Span
  | .tokensRead _ | .statementRead _ => [.parse]
  | .matrixTaken _ | .classesFormed _ _ _ | .pathsComputed _ | .symbolsExpanded _ =>
      [.solve]
  | .edgeAdded _ _ _ _ | .graphBuilt _ _ => [.solve, .graph]
  | .vertexOpened _ _ | .vertexClosed _ _ | .endMarkerRaised _ _ =>
      [.solve, .search]

def vertexText (role : Role) (index : Nat) : String :=
  "Vertex \x7b role: " ++ role.name ++ ", class: ClassID \x7b raw: " ++ toString index ++
    " \x7d \x7d"

def message : Event → String
  | .tokensRead count => toString count ++ " tokens"
  | .statementRead statement => "parsed " ++ statement.description
  | .matrixTaken matrix => "matrix:\n" ++ matrix.text
  | .classesFormed classes groups endMarker =>
      toString classes ++ " classes, " ++ toString groups ++ " groups, end marker = " ++
        endMarker
  | .edgeAdded sourceRole source targetRole target =>
      "edge " ++ vertexText sourceRole source ++ " -> " ++ vertexText targetRole target
  | .graphBuilt vertices edges =>
      "ordering graph: " ++ toString vertices ++ " vertices, " ++ toString edges ++ " edges"
  | .vertexOpened depth vertex =>
      String.join (List.replicate depth "  ") ++ vertex.text
  | .vertexClosed vertex distance => vertex.text ++ " = " ++ toString distance
  | .endMarkerRaised vertex distance =>
      "the end marker vertex " ++ vertex.text ++ " has outgoing edges (distance = " ++
        toString distance ++ ")"
  | .pathsComputed count => "computed " ++ toString count ++ " longest paths"
  | .symbolsExpanded count => "expanded to " ++ toString count ++ " symbols"

end Event

/-- A line of the journal. -/
structure JournalLine where
  level : Level
  spans : List Span
  message : String
deriving Repr, DecidableEq

/-- The lines of the events that pass a threshold.  Only the parts of the run
that pass it are shown. -/
def journalLines [Text.LabelAlphabet] (threshold : Level) (events : List Event) : List JournalLine :=
  (events.filter fun event => event.level.passes threshold).map fun event =>
    { level := event.level
      spans := event.spans.filter fun span => span.level.passes threshold
      message := event.message }

end OperatorPrecedence
