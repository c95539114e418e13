import OperatorPrecedence.Groups
import OperatorPrecedence.Matrix

/-!
What a table file describes: a matrix, groups, and an order for the values.
-/

namespace OperatorPrecedence

structure Table [Text.LabelAlphabet] where
  matrix : Matrix
  groups : Groups
  order? : Option (List String)
deriving DecidableEq

namespace Table

/-- What the statements read so far have given. -/
structure Draft where
  groups : Groups
  endMarker? : Option String
  columns? : Option (List String)
  order? : Option (List String)
  rows : List Matrix.LabelledRow
deriving DecidableEq

namespace Draft

def empty : Draft := ⟨.empty, none, none, none, []⟩

/-- Take one statement.  The end marker, the columns and the order are given at
most once, and so is each group. -/
def add (draft : Draft) : Statement → Except TableError Draft
  | .group label members =>
      match draft.groups.insert label members with
      | .error error => .error error
      | .ok groups => .ok { draft with groups := groups }
  | .endMarker label =>
      if draft.endMarker?.isSome then .error (.repeatedStatement .endMarker)
      else .ok { draft with endMarker? := some label }
  | .columns labels =>
      if draft.columns?.isSome then .error (.repeatedStatement .columns)
      else .ok { draft with columns? := some labels }
  | .order labels =>
      if draft.order?.isSome then .error (.repeatedStatement .order)
      else .ok { draft with order? := some labels }
  | .row label cells => .ok { draft with rows := draft.rows ++ [(label, cells)] }

def addAll (draft : Draft) : List Statement → Except TableError Draft
  | [] => .ok draft
  | statement :: statements =>
      match draft.add statement with
      | .error error => .error error
      | .ok next => next.addAll statements

/-- The file that a finished draft describes. -/
def finish [Text.LabelAlphabet] (draft : Draft) : Except TableError Table :=
  match draft.endMarker? with
  | none => .error (.missingStatement .endMarker)
  | some endMarker =>
  match draft.columns? with
  | none => .error (.missingStatement .columns)
  | some columns =>
  match Matrix.ofRows columns draft.rows endMarker with
  | .error error => .error error
  | .ok matrix => .ok ⟨matrix, draft.groups, draft.order?⟩

end Draft

variable [Text.FileAlphabet] [Text.LabelAlphabet]

def ofStatements (statements : List Statement) : Except TableError Table :=
  match Draft.empty.addAll statements with
  | .error error => .error error
  | .ok draft => draft.finish

def ofReading (reading : Reading) : Except TableError Table :=
  match reading.result with
  | .error error => .error (.malformed error)
  | .ok statements => ofStatements statements

def ofText (text : String) : Except TableError Table :=
  ofReading (Reading.ofScan (Scan.ofText text))

def textOfBytes (bytes : ByteArray) : Except FileError String :=
  match String.fromUTF8? bytes with
  | some text => .ok text
  | none => .error .invalidText

/-- The file whose text could be read, or could not. -/
def ofContent : Except FileError String → Except TableError Table
  | .error error => .error (.unreadable error)
  | .ok text => ofText text

end Table

end OperatorPrecedence
