import OperatorPrecedence.Token.Scan

/-!
Tokens set apart: how the tokens of a table file are written down with white space
and comments between them.
-/

namespace OperatorPrecedence

/-- White space and comments that end with their line. -/
inductive Gap : List Char → Prop where
  | nil : Gap []
  | separator {c : Char} {cs : List Char} :
      isSeparator c = true → Gap cs → Gap (c :: cs)
  | comment {body : List Char} {lineBreak : Char} {cs : List Char} :
      (∀ c ∈ body, isLineBreak c = false) → isLineBreak lineBreak = true → Gap cs →
        Gap ('/' :: '/' :: body ++ lineBreak :: cs)

/-- What may stand at the end of a text.  Its last comment may be left open. -/
inductive Ending : List Char → Prop where
  | gap {cs : List Char} : Gap cs → Ending cs
  | comment {cs body : List Char} :
      Gap cs → (∀ c ∈ body, isLineBreak c = false) → Ending (cs ++ '/' :: '/' :: body)

/-- Tokens one after the other, with a gap after each that another follows. -/
inductive Spaced : List Token → List Char → Prop where
  | nil {ending : List Char} : Ending ending → Spaced [] ending
  | cons (token : Token) {tokens : List Token} {gap cs : List Char} :
      Gap gap → (tokens ≠ [] → gap ≠ []) → Spaced tokens cs →
        Spaced (token :: tokens) (token.spelling ++ gap ++ cs)

/-- A text that spells tokens.  It may begin with a gap as well. -/
def Spells (tokens : List Token) (cs : List Char) : Prop :=
  ∃ gap rest, Gap gap ∧ Spaced tokens rest ∧ cs = gap ++ rest

/-- Whether a token can be written: an identifier has to be one. -/
def Token.isWritable [Text.FileAlphabet] : Token → Bool
  | .identifier name => Text.isIdentifierChars name.toList
  | .colon | .comma | .semicolon | .less | .greater | .equal | .dot | .keyword _ => true

end OperatorPrecedence
