import OperatorPrecedence.Statement
import OperatorPrecedence.Token

/-!
The grammar of table files, as a relation between statements and tokens.
-/

namespace OperatorPrecedence

/-- An identifier made of the letter `x` alone, which spells one unrelated cell
per letter. -/
def isCrosses (name : String) : Bool :=
  name.toList.all (· == 'x')

/-- Identifiers between commas, closed by a semicolon. -/
inductive NameTokens : List String → List Token → Prop where
  | last (name : String) : NameTokens [name] [.identifier name, .semicolon]
  | cons (name : String) {names : List String} {tokens : List Token} :
      NameTokens names tokens →
        NameTokens (name :: names) (.identifier name :: .comma :: tokens)

/-- The cells of a row, closed by a semicolon. -/
inductive CellTokens : List Relation → List Token → Prop where
  | nil : CellTokens [] [.semicolon]
  | less {cells : List Relation} {tokens : List Token} :
      CellTokens cells tokens → CellTokens (.less :: cells) (.less :: tokens)
  | greater {cells : List Relation} {tokens : List Token} :
      CellTokens cells tokens → CellTokens (.greater :: cells) (.greater :: tokens)
  | equal {cells : List Relation} {tokens : List Token} :
      CellTokens cells tokens → CellTokens (.equal :: cells) (.equal :: tokens)
  | dot {cells : List Relation} {tokens : List Token} :
      CellTokens cells tokens → CellTokens (.unrelated :: cells) (.dot :: tokens)
  | crosses {name : String} {cells : List Relation} {tokens : List Token} :
      isCrosses name = true → CellTokens cells tokens →
        CellTokens (List.replicate name.toList.length .unrelated ++ cells)
          (.identifier name :: tokens)

/-- The tokens of one statement. -/
inductive StatementTokens : Statement → List Token → Prop where
  | group (label : String) {members : List String} {tokens : List Token} :
      NameTokens members tokens →
        StatementTokens (.group label members)
          (.keyword .group :: .identifier label :: .equal :: tokens)
  | endMarker (label : String) :
      StatementTokens (.endMarker label)
        [.keyword .endMarker, .identifier label, .semicolon]
  | columns {labels : List String} {tokens : List Token} :
      NameTokens labels tokens →
        StatementTokens (.columns labels) (.keyword .columns :: tokens)
  | row (label : String) {cells : List Relation} {tokens : List Token} :
      CellTokens cells tokens →
        StatementTokens (.row label cells)
          (.keyword .row :: .identifier label :: .colon :: tokens)
  | order {labels : List String} {tokens : List Token} :
      NameTokens labels tokens →
        StatementTokens (.order labels) (.keyword .order :: tokens)

/-- The tokens of a whole file. -/
inductive FileTokens : List Statement → List Token → Prop where
  | nil : FileTokens [] []
  | cons {statement : Statement} {statements : List Statement}
      {tokens later : List Token} :
      StatementTokens statement tokens → FileTokens statements later →
        FileTokens (statement :: statements) (tokens ++ later)

/-- Tokens with which a file of the grammar can begin. -/
def BeginFile (tokens : List Token) : Prop :=
  ∃ later statements, FileTokens statements (tokens ++ later)

end OperatorPrecedence
