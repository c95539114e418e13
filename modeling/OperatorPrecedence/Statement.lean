import OperatorPrecedence.Relation
import OperatorPrecedence.Text.Identifier

/-!
The statements of a table file.
-/

namespace OperatorPrecedence

inductive Statement where
  /-- The class `label` stands for all of `members`. -/
  | group (label : String) (members : List String)
  /-- The class that marks the end of the input. -/
  | endMarker (label : String)
  /-- The labels of the columns, in the order in which the rows list their cells. -/
  | columns (labels : List String)
  /-- A row of the table. -/
  | row (label : String) (cells : List Relation)
  /-- The order in which the values are laid out. -/
  | order (labels : List String)
deriving Repr, DecidableEq

namespace Statement

/-- A list in square brackets. -/
def bracketed (items : List String) : String :=
  "[" ++ ", ".intercalate items ++ "]"

/-- The fields of a record, set in braces after its name. -/
def record (name fields : String) : String :=
  name ++ "(" ++ name ++ " \x7b " ++ fields ++ " \x7d)"

def description : Statement → String
  | .group label members =>
      record "GroupDesc"
        ("label: " ++ Text.quoted label ++ ", members: " ++ bracketed (members.map Text.quoted))
  | .endMarker label => record "EndDesc" ("label: " ++ Text.quoted label)
  | .columns labels => record "ColumnsDesc" ("labels: " ++ bracketed (labels.map Text.quoted))
  | .row label cells =>
      record "RowDesc"
        ("label: " ++ Text.quoted label ++ ", cells: " ++ bracketed (cells.map Relation.name))
  | .order labels => record "OrderDesc" ("labels: " ++ bracketed (labels.map Text.quoted))

end Statement

end OperatorPrecedence
