import OperatorPrecedence.Text.Identifier
import OperatorPrecedence.Token

/-!
Cutting a text into tokens.  At every place the longest piece that is blank, a
comment or a token is taken; the first place with no such piece ends the scan.
-/

namespace OperatorPrecedence

def isSeparator (c : Char) : Bool :=
  c == ' ' || c == '\t' || c == '\n' || c == '\r'

/-- The characters that end a comment. -/
def isLineBreak (c : Char) : Bool :=
  c == '\n' || c == '\r'

theorem isSeparator_of_isLineBreak {c : Char} (hbreak : isLineBreak c = true) :
    isSeparator c = true := by
  rcases Bool.or_eq_true_iff.mp hbreak with hc | hc <;> simp [isSeparator, hc]

/-- What one piece of a text is. -/
inductive Piece where
  /-- White space or a comment. -/
  | skipped
  | token (token : Token)
deriving Repr, DecidableEq

namespace Piece

def punctuation? : Char → Option Token
  | ':' => some .colon
  | ',' => some .comma
  | ';' => some .semicolon
  | '<' => some .less
  | '>' => some .greater
  | '=' => some .equal
  | '.' => some .dot
  | _ => none

/-- The keyword that opens a text, if one does.  No keyword begins another. -/
def keyword? (cs : List Char) : Option Keyword :=
  Keyword.all.find? (fun keyword => keyword.spelling.isPrefixOf cs)

variable [Text.FileAlphabet]

/-- The longest piece at the head of a text and the number of its characters. -/
def first? : List Char → Option (Piece × Nat)
  | [] => none
  | c :: rest =>
      if isSeparator c then
        some (.skipped, 1 + (rest.takeWhile isSeparator).length)
      else if c = '/' then
        match rest with
        | '/' :: comment =>
            some (.skipped, 2 + (comment.takeWhile (fun d => !isLineBreak d)).length)
        | _ => none
      else if c = '@' then
        (keyword? (c :: rest)).map
          (fun keyword => (.token (.keyword keyword), keyword.spelling.length))
      else if Text.isIdentifierStart c then
        let name := c :: rest.takeWhile Text.isIdentifierContinue
        some (.token (.identifier (String.ofList name)), name.length)
      else
        (punctuation? c).map (fun token => (.token token, 1))

theorem first?_pos {cs : List Char} {piece : Piece} {size : Nat}
    (hfirst : first? cs = some (piece, size)) : 0 < size := by
  unfold first? at hfirst
  split at hfirst
  · simp at hfirst
  · split at hfirst
    · simp only [Option.some.injEq, Prod.mk.injEq] at hfirst
      omega
    · split at hfirst
      · split at hfirst
        · simp only [Option.some.injEq, Prod.mk.injEq] at hfirst
          omega
        · simp at hfirst
      · split at hfirst
        · obtain ⟨keyword, _, heq⟩ := Option.map_eq_some_iff.mp hfirst
          simp only [Prod.mk.injEq] at heq
          have hlength : 0 < keyword.spelling.length := by simp [Keyword.spelling]
          omega
        · split at hfirst
          · simp only [Option.some.injEq, Prod.mk.injEq, List.length_cons] at hfirst
            omega
          · obtain ⟨token, _, heq⟩ := Option.map_eq_some_iff.mp hfirst
            simp only [Prod.mk.injEq] at heq
            omega

theorem length_drop_lt {cs : List Char} {piece : Piece} {size : Nat}
    (hfirst : first? cs = some (piece, size)) :
    (cs.drop size).length < cs.length := by
  have hpos := first?_pos hfirst
  cases cs with
  | nil => simp [first?] at hfirst
  | cons c rest =>
      simp only [List.length_drop, List.length_cons]
      omega

end Piece

/-- The tokens of a text up to its end or up to the first place where no piece
begins. -/
structure Scan where
  tokens : List LocatedToken
  /-- Where the scan stopped short of the end. -/
  failure? : Option Location
deriving Repr, DecidableEq

namespace Scan

variable [Text.FileAlphabet]

/-- Scan the rest of a text from the place where it begins. -/
def rest (location : Location) (cs : List Char) : Scan :=
  match hfirst : Piece.first? cs with
  | none => ⟨[], if cs.isEmpty then none else some location⟩
  | some (piece, size) =>
      have := Piece.length_drop_lt hfirst
      let stop := location.advanceAll (cs.take size)
      let later := rest stop (cs.drop size)
      match piece with
      | .skipped => later
      | .token token => { later with tokens := ⟨location, token, stop⟩ :: later.tokens }
termination_by cs.length
decreasing_by assumption

def ofText (text : String) : Scan :=
  rest Location.start text.toList

end Scan

end OperatorPrecedence
