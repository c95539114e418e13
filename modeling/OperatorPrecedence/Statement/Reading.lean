import OperatorPrecedence.Statement.Grammar
import OperatorPrecedence.Token.Scan

/-!
Reading statements.  The reader is a machine that takes one token at a time; it
refuses the first token that no file can have in that place.
-/

namespace OperatorPrecedence

inductive ListHead where
  | group (label : String)
  | columns
  | order
deriving Repr, DecidableEq

def ListHead.statement : ListHead → List String → Statement
  | .group label, names => .group label names
  | .columns, names => .columns names
  | .order, names => .order names

/-- Where the reader stands. -/
inductive Reader where
  /-- Between two statements. -/
  | between
  | groupLabel
  | groupEqual (label : String)
  | endLabel
  | endSemicolon (label : String)
  | rowLabel
  | rowColon (label : String)
  | rowCells (label : String) (cells : Array Relation)
  /-- Before a name of a list. -/
  | name (head : ListHead) (names : Array String)
  /-- After a name of a list. -/
  | afterName (head : ListHead) (names : Array String)
deriving Repr, DecidableEq

/-- What a place of a file calls for. -/
inductive Expectation where
  | statement
  | identifier
  | equal
  | semicolon
  | colon
  | commaOrSemicolon
  | relation
deriving Repr, DecidableEq

/-- The words for what is called for when another token stands there. -/
def Expectation.text : Expectation → String
  | .statement => "a statement"
  | .identifier => "an identifier"
  | .equal => "`='"
  | .semicolon => "`;'"
  | .colon => "`:'"
  | .commaOrSemicolon => "`,' or `;'"
  | .relation => "a relation"

/-- The words for what is called for when the input ends there. -/
def Expectation.textAtEnd : Expectation → String
  | .relation => "a relation or `;'"
  | expectation => expectation.text

/-- Why a text is no table file. -/
inductive SyntaxError where
  /-- No token begins at this place. -/
  | invalidToken (location : Location)
  /-- Another token stands where `expected` is called for. -/
  | unexpected (location : Location) (expected : Expectation) (found : Token)
  /-- The input ends where `expected` is called for; the place is that of the last
  token read. -/
  | unfinished (location? : Option Location) (expected : Expectation)
deriving Repr, DecidableEq

def SyntaxError.message : SyntaxError → String
  | .invalidToken location =>
      "invalid token: LexerError \x7b location: Loc \x7b line: " ++ toString location.line ++
        ", col: " ++ toString location.column ++ ", byte_idx: " ++ toString location.byte ++
        " \x7d, kind: InvalidToken \x7d"
  | .unexpected location expected found =>
      location.text ++ ": expected " ++ expected.text ++ ", found " ++ found.description
  | .unfinished (some location) expected =>
      location.text ++ ": expected " ++ expected.textAtEnd ++ ", found end of input"
  | .unfinished none expected => "expected " ++ expected.textAtEnd ++ ", found end of input"

namespace Reader

def expectation : Reader → Expectation
  | .between => .statement
  | .groupLabel | .endLabel | .rowLabel | .name _ _ => .identifier
  | .groupEqual _ => .equal
  | .endSemicolon _ => .semicolon
  | .rowColon _ => .colon
  | .rowCells _ _ => .relation
  | .afterName _ _ => .commaOrSemicolon

/-- Take one token.  The answer holds the next stand of the reader and the
statement that the token closes. -/
def step : Reader → Token → Option (Reader × Option Statement)
  | .between, .keyword .group => some (.groupLabel, none)
  | .between, .keyword .endMarker => some (.endLabel, none)
  | .between, .keyword .columns => some (.name .columns #[], none)
  | .between, .keyword .order => some (.name .order #[], none)
  | .between, .keyword .row => some (.rowLabel, none)
  | .groupLabel, .identifier label => some (.groupEqual label, none)
  | .groupEqual label, .equal => some (.name (.group label) #[], none)
  | .endLabel, .identifier label => some (.endSemicolon label, none)
  | .endSemicolon label, .semicolon => some (.between, some (.endMarker label))
  | .rowLabel, .identifier label => some (.rowColon label, none)
  | .rowColon label, .colon => some (.rowCells label #[], none)
  | .rowCells label cells, .semicolon => some (.between, some (.row label cells.toList))
  | .rowCells label cells, .less => some (.rowCells label (cells.push .less), none)
  | .rowCells label cells, .greater => some (.rowCells label (cells.push .greater), none)
  | .rowCells label cells, .equal => some (.rowCells label (cells.push .equal), none)
  | .rowCells label cells, .dot => some (.rowCells label (cells.push .unrelated), none)
  | .rowCells label cells, .identifier crosses =>
      if isCrosses crosses then
        some (.rowCells label
          (cells ++ List.replicate crosses.toList.length Relation.unrelated), none)
      else none
  | .name head names, .identifier next => some (.afterName head (names.push next), none)
  | .afterName head names, .comma => some (.name head names, none)
  | .afterName head names, .semicolon =>
      some (.between, some (head.statement names.toList))
  | _, _ => none

end Reader

/-- The statements read from a text, up to its end or up to the first error. -/
structure Reading where
  statements : List Statement
  error? : Option SyntaxError
deriving Repr, DecidableEq

namespace Reading

/-- Go on reading after a token that stopped at `last?`, if one has been read. -/
def run (reader : Reader) (last? : Option Location) : List LocatedToken → Reading
  | [] =>
      if reader = .between then ⟨[], none⟩
      else ⟨[], some (.unfinished last? reader.expectation)⟩
  | located :: later =>
      match reader.step located.token with
      | none =>
          ⟨[], some (.unexpected located.start reader.expectation located.token)⟩
      | some (next, closed?) =>
          let reading := run next (some located.stop) later
          { reading with statements := closed?.toList ++ reading.statements }

def ofTokens (tokens : List LocatedToken) : Reading :=
  run .between none tokens

/-- Read a whole text.  Nothing is read from a text that has a place where no
token begins. -/
def ofScan (scan : Scan) : Reading :=
  match scan.failure? with
  | some location => ⟨[], some (.invalidToken location)⟩
  | none => ofTokens scan.tokens

/-- The statements of a reading without an error. -/
def result (reading : Reading) : Except SyntaxError (List Statement) :=
  match reading.error? with
  | some error => .error error
  | none => .ok reading.statements

end Reading

def Statement.parse [Text.FileAlphabet] (text : String) : Except SyntaxError (List Statement) :=
  (Reading.ofScan (Scan.ofText text)).result

end OperatorPrecedence
