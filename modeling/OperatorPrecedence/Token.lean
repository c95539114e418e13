import OperatorPrecedence.Location
import OperatorPrecedence.Text.Identifier

/-!
The tokens of a table file.
-/

namespace OperatorPrecedence

inductive Keyword where
  | group
  | endMarker
  | columns
  | row
  | order
deriving Repr, DecidableEq

inductive Token where
  | colon
  | comma
  | semicolon
  | less
  | greater
  | equal
  | dot
  | keyword (word : Keyword)
  | identifier (name : String)
deriving Repr, DecidableEq

/-- A token with the places where it starts and where it stops. -/
structure LocatedToken where
  start : Location
  token : Token
  stop : Location
deriving Repr, DecidableEq

namespace Keyword

/-- The word after the at sign. -/
def word : Keyword → String
  | .group => "group"
  | .endMarker => "end"
  | .columns => "columns"
  | .row => "row"
  | .order => "order"

def spelling (keyword : Keyword) : List Char :=
  '@' :: keyword.word.toList

def name : Keyword → String
  | .group => "Group"
  | .endMarker => "End"
  | .columns => "Columns"
  | .row => "Row"
  | .order => "Order"

def all : List Keyword := [.group, .endMarker, .columns, .row, .order]

theorem mem_all (keyword : Keyword) : keyword ∈ all := by
  cases keyword <;> decide

end Keyword

namespace Token

def spelling : Token → List Char
  | .colon => [':']
  | .comma => [',']
  | .semicolon => [';']
  | .less => ['<']
  | .greater => ['>']
  | .equal => ['=']
  | .dot => ['.']
  | .keyword word => word.spelling
  | .identifier name => name.toList

def description : Token → String
  | .colon => "Colon"
  | .comma => "Comma"
  | .semicolon => "Semicolon"
  | .less => "Lt"
  | .greater => "Gt"
  | .equal => "Eq"
  | .dot => "Dot"
  | .keyword word => "Kw(" ++ word.name ++ ")"
  | .identifier name => "Ident(" ++ Text.quoted name ++ ")"

end Token

end OperatorPrecedence
