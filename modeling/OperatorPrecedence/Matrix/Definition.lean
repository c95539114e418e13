import OperatorPrecedence.Attempts
import OperatorPrecedence.Matrix
import OperatorPrecedence.Text.Blank

/-!
Defining a matrix step by step.
-/

namespace OperatorPrecedence.Matrix

/-- What has been specified of a matrix so far. -/
structure Definition where
  columns? : Option (List String)
  rows : List LabelledRow
  endMarker? : Option String
deriving Repr, DecidableEq

/-- The relations of a row in the compact notation. -/
def readMarks (label : String) : List Char → Except TableError (List Relation)
  | [] => .ok []
  | c :: rest =>
      if Text.isBlank c then readMarks label rest
      else
        match Relation.ofMark? c with
        | none => .error (.unknownMark c label)
        | some relation =>
            match readMarks label rest with
            | .error error => .error error
            | .ok relations => .ok (relation :: relations)

/-- An action that specifies more of a matrix. -/
abbrev Defining :=
  EStateM TableError Definition

namespace Defining

def columns (labels : List String) : Defining Unit := do
  if (← get).columns?.isSome then throw .repeatedColumns
  modify fun definition => { definition with columns? := some labels }

def row (label : String) (cells : List Relation) : Defining Unit :=
  modify fun definition => { definition with rows := definition.rows ++ [(label, cells)] }

/-- Append a row in the compact notation, one mark per cell and blanks anywhere. -/
def rowText (label : String) (marks : String) : Defining Unit := do
  let cells ← MonadExcept.ofExcept (readMarks label marks.toList)
  row label cells

def endMarker (label : String) : Defining Unit := do
  if (← get).endMarker?.isSome then throw .repeatedEndMarker
  modify fun definition => { definition with endMarker? := some label }

end Defining

inductive Step where
  | columns (labels : List String)
  | row (label : String) (cells : List Relation)
  | rowText (label : String) (marks : String)
  | endMarker (label : String)
deriving Repr, DecidableEq

def Step.take : Step → Defining Unit
  | .columns labels => .columns labels
  | .row label cells => .row label cells
  | .rowText label marks => .rowText label marks
  | .endMarker label => .endMarker label

namespace Step

variable (definition : Definition)

theorem run_take_columns (labels : List String) :
    (take (.columns labels)).run definition =
      if definition.columns?.isSome then .error .repeatedColumns definition
      else .ok () { definition with columns? := some labels } := by
  rw [take, Defining.columns]
  split <;> simp_all

theorem run_take_row (label : String) (cells : List Relation) :
    (take (.row label cells)).run definition =
      .ok () { definition with rows := definition.rows ++ [(label, cells)] } :=
  rfl

/-- No cell is taken over from marks that cannot all be read. -/
theorem run_take_rowText (label marks : String) :
    (take (.rowText label marks)).run definition =
      match readMarks label marks.toList with
      | .error error => .error error definition
      | .ok cells => .ok () { definition with rows := definition.rows ++ [(label, cells)] } := by
  rw [take, Defining.rowText, EStateM.run_bind]
  cases readMarks label marks.toList <;> rfl

theorem run_take_endMarker (label : String) :
    (take (.endMarker label)).run definition =
      if definition.endMarker?.isSome then .error .repeatedEndMarker definition
      else .ok () { definition with endMarker? := some label } := by
  rw [take, Defining.endMarker]
  split <;> simp_all

end Step

namespace Definition

def empty : Definition := ⟨none, [], none⟩

/-- What a step makes of a definition, if it does not fail. -/
def apply (definition : Definition) (step : Step) : Except TableError Definition :=
  stateAfter step.take definition

theorem apply_rowText (definition : Definition) (label marks : String) :
    definition.apply (.rowText label marks) =
      match readMarks label marks.toList with
      | .error error => .error error
      | .ok cells => .ok { definition with rows := definition.rows ++ [(label, cells)] } := by
  rw [apply, stateAfter, Step.run_take_rowText]
  cases readMarks label marks.toList <;> rfl

/-- Take every step, also after one that fails. -/
def attemptAll (definition : Definition) (steps : List Step) :
    Definition × List (Option TableError) :=
  attemptEach Step.take definition steps

/-- The matrix of a finished definition.  Without columns of its own it takes
the labels of its rows. -/
def matrix [Text.LabelAlphabet] (definition : Definition) : Except TableError Matrix :=
  match definition.endMarker? with
  | none => .error .unspecifiedEndMarker
  | some endMarker =>
      ofRows (definition.columns?.getD (definition.rows.map Prod.fst))
        definition.rows endMarker

end Definition

section

variable [Text.LabelAlphabet]

/-- The matrix that an action defines; an error of the action ends the definition. -/
def defineBy (action : Defining Unit) : Except TableError Matrix :=
  match action.run Definition.empty with
  | .error error _ => .error error
  | .ok () definition => definition.matrix

/-- Define a matrix by its steps; the first that fails ends the definition. -/
def define (steps : List Step) : Except TableError Matrix :=
  defineBy (forM steps Step.take)

end

end OperatorPrecedence.Matrix
