import Mathlib.Data.List.Forall2
import OperatorPrecedence.Statement
import OperatorPrecedence.Token.Spacing

/-!
Writing statements token by token.
-/

namespace OperatorPrecedence

/-- The tokens that write a relation.  An unrelated cell is a dot or the letter
`x`. -/
inductive Relation.IsWritten : Relation → Token → Prop where
  | less : IsWritten .less .less
  | greater : IsWritten .greater .greater
  | equal : IsWritten .equal .equal
  | dot : IsWritten .unrelated .dot
  | cross : IsWritten .unrelated (.identifier "x")

namespace Statement

/-- The tokens of a list of names, commas between them and a semicolon at the
end. -/
def listTokens (names : List String) : List Token :=
  (names.map Token.identifier).intersperse .comma ++ [.semicolon]

/-- The tokens that write a statement. -/
inductive IsWritten : Statement → List Token → Prop where
  | group (label : String) (members : List String) :
      IsWritten (.group label members)
        (.keyword .group :: .identifier label :: .equal :: listTokens members)
  | endMarker (label : String) :
      IsWritten (.endMarker label) [.keyword .endMarker, .identifier label, .semicolon]
  | columns (labels : List String) :
      IsWritten (.columns labels) (.keyword .columns :: listTokens labels)
  | row (label : String) {cells : List Relation} {marks : List Token} :
      List.Forall₂ Relation.IsWritten cells marks →
        IsWritten (.row label cells)
          (.keyword .row :: .identifier label :: .colon :: marks ++ [.semicolon])
  | order (labels : List String) :
      IsWritten (.order labels) (.keyword .order :: listTokens labels)

inductive AreWritten : List Statement → List Token → Prop where
  | nil : AreWritten [] []
  | cons {statement : Statement} {statements : List Statement} {tokens later : List Token} :
      statement.IsWritten tokens → AreWritten statements later →
        AreWritten (statement :: statements) (tokens ++ later)

def areNames [Text.FileAlphabet] (names : List String) : Bool :=
  !names.isEmpty && names.all fun name => Text.isIdentifierChars name.toList

def isWritable [Text.FileAlphabet] : Statement → Bool
  | .group label members => areNames [label] && areNames members
  | .endMarker label => areNames [label]
  | .columns labels => areNames labels
  | .row label _ => areNames [label]
  | .order labels => areNames labels

end Statement

end OperatorPrecedence
