import OperatorPrecedence.Invocation
import OperatorPrecedence.Solution
import OperatorPrecedence.Text.Field

/-!
The work of a run on the text of a table file: what it tells the log, what it has to
say, and the text of the functions or the reason why there is none.
-/

namespace OperatorPrecedence

/-- Why a run has failed, from the outermost cause to the innermost. -/
structure Failure where
  causes : List String
deriving Repr, DecidableEq

namespace Failure

/-- A cause behind its lead; the later lines of the cause are indented. -/
def causeText (lead indent cause : String) : String :=
  lead ++ String.join (cause.toList.map fun c =>
    if c = '\n' then "\n" ++ indent else String.singleton c) ++ "\n"

/-- The causes line by line, numbered if there are several. -/
def causesText : List String → String
  | [cause] => causeText "    " "    " cause
  | causes =>
      String.join (causes.zipIdx.map fun (cause, number) =>
        causeText (Text.Field.set ⟨5, .right, ' ', none⟩ (toString number) ++ ": ")
          "       " cause)

def text (failure : Failure) (input : String) : String :=
  "Error: errored during processing " ++ input ++ "\n\nCaused by:\n" ++
    causesText failure.causes

def ofWrite (path : String) (error : FileError) : Failure :=
  ⟨["failed to write the functions to " ++ path, error.message]⟩

end Failure

/-- What a run has to say before it delivers the functions, and their text. -/
structure Report where
  diagnostics : String
  result : Except Failure String

/-- What an invocation asks to see of a solution: its graph, its distances. -/
def Invocation.dumps {n : Nat} (invocation : Invocation) (solution : Solution n) :
    Except Fault String := do
  let graph ← if invocation.dumpGraph then solution.graphText.map (· ++ "\n") else .ok ""
  let distances ←
    if invocation.dumpDistances then solution.distancesText.map (· ++ "\n") else .ok ""
  return graph ++ distances

/-- Work on the text of the table file, if it could be read. -/
def Invocation.process (invocation : Invocation) (content : Except FileError String) :
    Report :=
  match Table.ofContent content with
  | .error error =>
      ⟨"", .error ⟨["failed to load the precedence table", error.message]⟩⟩
  | .ok table =>
  match table.matrix.solve table.groups with
  | .error error => ⟨"", .error ⟨error.message :: error.causeMessage?.toList⟩⟩
  | .ok solution =>
  match invocation.dumps solution with
  | .error fault => ⟨"", .error ⟨[fault.message]⟩⟩
  | .ok dumps =>
  let violations :=
    if invocation.verify then
      solution.functions.violations table.matrix solution.classes
    else []
  let diagnostics := dumps ++
    String.join (violations.map fun violation => "[error] " ++ violation.text ++ "\n")
  if violations ≠ [] then
    ⟨diagnostics,
      .error ⟨[toString violations.length ++ " relations are not reproduced"]⟩⟩
  else
    match solution.listing table.order? with
    | .error error => ⟨diagnostics, .error ⟨[error.message]⟩⟩
    | .ok listing =>
        match listing.render invocation.format invocation.name? with
        | .error error => ⟨diagnostics, .error ⟨[error.message]⟩⟩
        | .ok text => ⟨diagnostics, .ok text⟩

/-- Something that a run tells the log. -/
inductive RunEvent where
  | argumentsParsed (invocation : Invocation)
  | within (event : Event)
  | tableLoaded
  | tableSolved
deriving DecidableEq

def RunEvent.level : RunEvent → Level
  | .argumentsParsed _ => .debug
  | .within event => event.level
  | .tableLoaded | .tableSolved => .info

/-- What is told of the work on a text, in this order. -/
def workEvents (content : Except FileError String) : List RunEvent :=
  match content with
  | .error _ => []
  | .ok text =>
      (Reading.events (Scan.ofText text)).map .within ++
        match Table.ofText text with
        | .error _ => []
        | .ok table =>
            .tableLoaded :: (table.matrix.solveEvents table.groups).map .within ++
              match table.matrix.solve table.groups with
              | .error _ => []
              | .ok _ => [.tableSolved]

/-- What a run tells, from its arguments on. -/
def Invocation.events (invocation : Invocation) (content : Except FileError String) :
    List RunEvent :=
  .argumentsParsed invocation :: workEvents content

end OperatorPrecedence
