import OperatorPrecedence.FileError
import OperatorPrecedence.Statement.Reading

/-!
What can be wrong with a table and its groups.
-/

namespace OperatorPrecedence

/-- The two lists of labels that a table is given with. -/
inductive Axis where
  | columns
  | rows
deriving Repr, DecidableEq

def Axis.name : Axis → String
  | .columns => "columns"
  | .rows => "rows"

/-- A fault of a table, of its groups, or of the file that describes them. -/
inductive TableError where
  | unreadable (cause : FileError)
  | malformed (cause : SyntaxError)
  /-- The label is no identifier. -/
  | invalidLabel (label : String)
  | repeatedLabel (label : String) (axis : Axis)
  | notSquare (rows columns : Nat)
  | wrongRowLength (label : String) (expected found : Nat)
  /-- The label of a row names no column. -/
  | rowWithoutColumn (label : String)
  /-- The end marker is no label of the table. -/
  | unknownEndMarker (label : String)
  /-- The label of a group is no label of the table. -/
  | groupWithoutClass (label : String)
  | repeatedGroup (label : String)
  | emptyGroup (label : String)
  /-- The symbol is a member twice. -/
  | repeatedMember (symbol : String)
  /-- The member of a group is a label of the table. -/
  | memberIsLabel (symbol : String)
  /-- An order names a symbol without values. -/
  | unknownSymbol (label : String)
  /-- The columns are specified a second time. -/
  | repeatedColumns
  /-- The end marker is specified a second time. -/
  | repeatedEndMarker
  | unspecifiedEndMarker
  /-- A character of a row is no mark. -/
  | unknownMark (mark : Char) (label : String)
  | repeatedStatement (keyword : Keyword)
  | missingStatement (keyword : Keyword)
  | tooManyClasses
deriving Repr, DecidableEq

def TableError.message : TableError → String
  | .unreadable cause => "IO error: " ++ cause.message
  | .malformed cause => "Syntax error: " ++ cause.message
  | .invalidLabel label => "invalid label: `" ++ label ++ "'"
  | .repeatedLabel label axis => "duplicate label `" ++ label ++ "' in the " ++ axis.name
  | .notSquare rows columns =>
      "the matrix is not square (" ++ toString rows ++ " rows, " ++ toString columns ++
        " columns)"
  | .wrongRowLength label expected found =>
      "the row `" ++ label ++ "' has " ++ toString found ++ " cells, expected " ++
        toString expected
  | .rowWithoutColumn label => "the row `" ++ label ++ "' has no matching column"
  | .unknownEndMarker label =>
      "the end marker `" ++ label ++ "' is not a label of the matrix"
  | .groupWithoutClass label => "the group `" ++ label ++ "' is not a label of the matrix"
  | .repeatedGroup label => "the group `" ++ label ++ "' has already been defined"
  | .emptyGroup label => "the group `" ++ label ++ "' has no members"
  | .repeatedMember symbol =>
      "the symbol `" ++ symbol ++ "' belongs to more than one group"
  | .memberIsLabel symbol =>
      "the group member `" ++ symbol ++ "' is also a label of the matrix"
  | .unknownSymbol label => "unknown symbol `" ++ label ++ "'"
  | .repeatedColumns => "Other error: the column header has already been specified"
  | .repeatedEndMarker => "Other error: the end marker has already been specified"
  | .unspecifiedEndMarker => "Other error: the end marker is not specified"
  | .unknownMark mark label =>
      "Other error: unknown relation `" ++ String.singleton mark ++ "' in row `" ++
        label ++ "'"
  | .repeatedStatement keyword => "Other error: duplicate @" ++ keyword.word ++ " statement"
  | .missingStatement keyword => "Other error: missing @" ++ keyword.word ++ " statement"
  | .tooManyClasses => "Other error: too many classes"

end OperatorPrecedence
