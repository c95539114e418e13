import Mathlib.Data.List.Induction
import OperatorPrecedence.Proofs.GrammarReading

/-!
The reader accepts exactly the grammar and refuses a token as early as it can.  The
tokens that it has taken are those of closed statements and of one that is begun,
and from wherever it stands the file can be finished.  So it takes tokens exactly as
long as a file can begin with them, and the error that it reports names the first
token with which none can, or the end of the last token where the file is cut short.
-/

namespace OperatorPrecedence

namespace Reader

/-- The tokens of an open statement that lead the reader to where it stands.  Within
a list or a row, whatever finishes that finishes the statement. -/
def Begun : Reader → List Token → Prop
  | .between, tokens => tokens = []
  | .groupLabel, tokens => tokens = [.keyword .group]
  | .groupEqual label, tokens => tokens = [.keyword .group, .identifier label]
  | .endLabel, tokens => tokens = [.keyword .endMarker]
  | .endSemicolon label, tokens => tokens = [.keyword .endMarker, .identifier label]
  | .rowLabel, tokens => tokens = [.keyword .row]
  | .rowColon label, tokens => tokens = [.keyword .row, .identifier label]
  | .rowCells label cells, tokens => ∀ later rest, CellTokens later rest →
      StatementTokens (.row label (cells.toList ++ later)) (tokens ++ rest)
  | .name head names, tokens => ∀ later rest, NameTokens later rest →
      StatementTokens (head.statement (names.toList ++ later)) (tokens ++ rest)
  | .afterName head names, tokens =>
      StatementTokens (head.statement names.toList) (tokens ++ [.semicolon]) ∧
        ∀ later rest, NameTokens later rest →
          StatementTokens (head.statement (names.toList ++ later)) (tokens ++ .comma :: rest)

theorem Begun.next_cells {label : String} {cells more : Array Relation}
    {tokens : List Token} (hbegun : (rowCells label cells).Begun tokens)
    {spelled : List Relation} (hmore : more.toList = cells.toList ++ spelled) {token : Token}
    (htoken : ∀ later rest, CellTokens later rest →
      CellTokens (spelled ++ later) (token :: rest)) :
    (rowCells label more).Begun (tokens ++ [token]) := by
  intro later rest hrest
  rw [hmore, List.append_assoc, List.append_assoc]
  exact hbegun _ _ (htoken later rest hrest)

theorem Begun.of_keyword {keyword : Keyword} {next : Reader} {closed? : Option Statement}
    (hstep : between.step (.keyword keyword) = some (next, closed?)) :
    closed? = none ∧ next.Begun [.keyword keyword] := by
  cases keyword <;> cases hstep <;> refine ⟨rfl, ?_⟩
  case group => rfl
  case endMarker => rfl
  case columns => exact fun later rest hrest => .columns hrest
  case order => exact fun later rest hrest => .order hrest
  case row => rfl

/-- A token that is taken among the cells of a row spells cells or closes the row. -/
theorem Begun.step_rowCells {label : String} {cells : Array Relation} {next : Reader}
    {tokens : List Token} {token : Token} {closed? : Option Statement}
    (hbegun : (rowCells label cells).Begun tokens)
    (hstep : (rowCells label cells).step token = some (next, closed?)) :
    (closed? = none ∧ next.Begun (tokens ++ [token])) ∨
      ∃ statement, closed? = some statement ∧ next = .between ∧
        StatementTokens statement (tokens ++ [token]) := by
  cases token with
  | colon | comma | keyword => cases hstep
  | semicolon =>
      cases hstep
      have hstatement := hbegun [] [.semicolon] .nil
      rw [List.append_nil] at hstatement
      exact Or.inr ⟨_, rfl, rfl, hstatement⟩
  | less =>
      cases hstep
      exact Or.inl ⟨rfl, hbegun.next_cells (Array.toList_push ..) fun _ _ => .less⟩
  | greater =>
      cases hstep
      exact Or.inl ⟨rfl, hbegun.next_cells (Array.toList_push ..) fun _ _ => .greater⟩
  | equal =>
      cases hstep
      exact Or.inl ⟨rfl, hbegun.next_cells (Array.toList_push ..) fun _ _ => .equal⟩
  | dot =>
      cases hstep
      exact Or.inl ⟨rfl, hbegun.next_cells (Array.toList_push ..) fun _ _ => .dot⟩
  | identifier name =>
      by_cases hcrosses : isCrosses name = true
      · rw [step_crosses hcrosses] at hstep
        cases hstep
        exact Or.inl ⟨rfl, hbegun.next_cells (Array.toList_appendList ..) fun _ _ =>
          .crosses hcrosses⟩
      · simp [Reader.step, hcrosses] at hstep

theorem Begun.next_name {head : ListHead} {names : Array String} {tokens : List Token}
    (hbegun : (name head names).Begun tokens) (next : String) :
    (afterName head (names.push next)).Begun (tokens ++ [.identifier next]) := by
  constructor
  · have hlast := hbegun _ _ (.last next)
    simpa using hlast
  · intro later rest hrest
    have hmore := hbegun _ _ (.cons next hrest)
    simpa using hmore

theorem Begun.next_comma {head : ListHead} {names : Array String} {tokens : List Token}
    (hbegun : (afterName head names).Begun tokens) :
    (name head names).Begun (tokens ++ [.comma]) := by
  intro later rest hrest
  rw [List.append_assoc]
  exact hbegun.2 later rest hrest

/-- A token that is taken goes on with the open statement or closes it. -/
theorem Begun.step {reader next : Reader} {tokens : List Token} {token : Token}
    {closed? : Option Statement} (hbegun : reader.Begun tokens)
    (hstep : reader.step token = some (next, closed?)) :
    (closed? = none ∧ next.Begun (tokens ++ [token])) ∨
      ∃ statement, closed? = some statement ∧ next = .between ∧
        StatementTokens statement (tokens ++ [token]) := by
  cases reader with
  | between =>
      obtain rfl : tokens = [] := hbegun
      cases token with
      | keyword word => exact Or.inl (Begun.of_keyword hstep)
      | colon | comma | semicolon | less | greater | equal | dot | identifier => cases hstep
  -- At each place of the head of a statement one kind of token is taken.
  | groupLabel | endLabel | rowLabel =>
      obtain rfl : tokens = _ := hbegun
      cases token <;> cases hstep
      exact Or.inl ⟨rfl, rfl⟩
  | groupEqual label =>
      obtain rfl : tokens = _ := hbegun
      cases token <;> cases hstep
      exact Or.inl ⟨rfl, fun later rest hrest => .group label hrest⟩
  | endSemicolon label =>
      obtain rfl : tokens = _ := hbegun
      cases token <;> cases hstep
      exact Or.inr ⟨_, rfl, rfl, .endMarker label⟩
  | rowColon label =>
      obtain rfl : tokens = _ := hbegun
      cases token <;> cases hstep
      exact Or.inl ⟨rfl, fun later rest hrest => .row label hrest⟩
  | rowCells label cells => exact hbegun.step_rowCells hstep
  | name head names =>
      cases token <;> cases hstep
      exact Or.inl ⟨rfl, hbegun.next_name _⟩
  | afterName head names =>
      cases token <;> cases hstep
      · exact Or.inl ⟨rfl, hbegun.next_comma⟩
      · exact Or.inr ⟨_, rfl, rfl, hbegun.1⟩

/-- The tokens that a reader takes are those of the statements that it closes and of
one that is begun. -/
theorem Begun.feed {reader last : Reader} {opened tokens : List Token}
    {statements : List Statement} (hbegun : reader.Begun opened)
    (hfeed : reader.feed tokens = some (last, statements)) :
    ∃ closed rest, opened ++ tokens = closed ++ rest ∧ FileTokens statements closed ∧
      last.Begun rest := by
  induction tokens generalizing reader opened statements with
  | nil =>
      cases hfeed
      exact ⟨[], opened, List.append_nil opened, .nil, hbegun⟩
  | cons token tokens ih =>
      rw [Reader.feed] at hfeed
      split at hfeed
      · cases hfeed
      · rename_i next closed? hstep
        obtain ⟨⟨stand, more⟩, hmore, heq⟩ := Option.map_eq_some_iff.mp hfeed
        cases heq
        rcases hbegun.step hstep with ⟨rfl, hnext⟩ | ⟨statement, rfl, rfl, hstatement⟩
        · obtain ⟨closed, rest, hsplit, hclosed, hlast⟩ := ih hnext hmore
          refine ⟨closed, rest, ?_, hclosed, hlast⟩
          rw [← hsplit, List.append_assoc, List.singleton_append]
        · have hbetween : between.Begun [] := rfl
          obtain ⟨closed, rest, hsplit, hclosed, hlast⟩ := ih hbetween hmore
          refine ⟨opened ++ [token] ++ closed, rest, ?_, .cons hstatement hclosed, hlast⟩
          rw [List.append_assoc, ← hsplit]
          simp

/-- The reader takes a whole file exactly when it is in the grammar, and closes the
statements that the grammar derives. -/
theorem feed_between_iff (tokens : List Token) (statements : List Statement) :
    between.feed tokens = some (between, statements) ↔ FileTokens statements tokens := by
  constructor
  · intro hfeed
    have hbegun : between.Begun [] := rfl
    obtain ⟨closed, rest, hsplit, hclosed, hrest⟩ := hbegun.feed hfeed
    obtain rfl : rest = [] := hrest
    rw [List.nil_append, List.append_nil] at hsplit
    exact hsplit ▸ hclosed
  · exact FileTokens.feed

/-- From wherever the reader stands a file can be finished. -/
theorem exists_feed (reader : Reader) :
    ∃ rest statements, reader.feed rest = some (between, statements) := by
  cases reader with
  | between => exact ⟨[], _, rfl⟩
  | groupLabel => exact ⟨[.identifier "a", .equal, .identifier "a", .semicolon], _, rfl⟩
  | groupEqual label => exact ⟨[.equal, .identifier "a", .semicolon], _, rfl⟩
  | endLabel => exact ⟨[.identifier "a", .semicolon], _, rfl⟩
  | endSemicolon label => exact ⟨[.semicolon], _, rfl⟩
  | rowLabel => exact ⟨[.identifier "a", .colon, .semicolon], _, rfl⟩
  | rowColon label => exact ⟨[.colon, .semicolon], _, rfl⟩
  | rowCells label cells => exact ⟨[.semicolon], _, rfl⟩
  | name head names => exact ⟨[.identifier "a", .semicolon], _, rfl⟩
  | afterName head names => exact ⟨[.semicolon], _, rfl⟩

theorem exists_feed_of_append {reader last : Reader} {tokens later : List Token}
    {statements : List Statement}
    (hfeed : reader.feed (tokens ++ later) = some (last, statements)) :
    ∃ middle early, reader.feed tokens = some (middle, early) := by
  induction tokens generalizing reader last statements with
  | nil => exact ⟨reader, [], rfl⟩
  | cons token tokens ih =>
      rw [List.cons_append, Reader.feed] at hfeed
      split at hfeed
      · cases hfeed
      · rename_i next closed? hstep
        obtain ⟨⟨stand, more⟩, hmore, -⟩ := Option.map_eq_some_iff.mp hfeed
        obtain ⟨middle, early, hearly⟩ := ih hmore
        exact ⟨middle, _, by rw [feed_cons hstep, hearly, Option.map_some]⟩

/-- The reader takes tokens exactly when a file can begin with them. -/
theorem beginFile_iff (tokens : List Token) :
    BeginFile tokens ↔ ∃ reader statements, between.feed tokens = some (reader, statements) := by
  constructor
  · rintro ⟨later, statements, hfile⟩
    exact exists_feed_of_append hfile.feed
  · rintro ⟨reader, statements, hfeed⟩
    obtain ⟨rest, more, hrest⟩ := reader.exists_feed
    refine ⟨rest, statements ++ more, (feed_between_iff _ _).mp ?_⟩
    rw [feed_append hfeed, hrest, Option.map_some]

end Reader

/-- Tokens are a file, or begin one without being one, or have a first token with
which no file can begin. -/
theorem beginFile_cases (tokens : List LocatedToken) :
    (∃ statements, FileTokens statements (tokens.map LocatedToken.token)) ∨
    (BeginFile (tokens.map LocatedToken.token) ∧
      ¬ ∃ statements, FileTokens statements (tokens.map LocatedToken.token)) ∨
    ∃ before located later, tokens = before ++ located :: later ∧
      BeginFile (before.map LocatedToken.token) ∧
      ¬ BeginFile ((before ++ [located]).map LocatedToken.token) := by
  by_cases hfile : ∃ statements, FileTokens statements (tokens.map LocatedToken.token)
  · exact Or.inl hfile
  · by_cases hbegin : BeginFile (tokens.map LocatedToken.token)
    · exact Or.inr (Or.inl ⟨hbegin, hfile⟩)
    · clear hfile
      refine Or.inr (Or.inr ?_)
      induction tokens using List.reverseRecOn with
      | nil => exact absurd ⟨[], [], .nil⟩ hbegin
      | append_singleton earlier located ih =>
          by_cases hearlier : BeginFile (earlier.map LocatedToken.token)
          · exact ⟨earlier, located, [], rfl, hearlier, hbegin⟩
          · obtain ⟨before, first, later, rfl, hbefore, hfirst⟩ := ih hearlier
            exact ⟨before, first, later ++ [located], by simp, hbefore, hfirst⟩

namespace Reading

theorem error?_of_refused {before later : List LocatedToken} {located : LocatedToken}
    {middle : Reader} {statements : List Statement}
    (hbefore : Reader.between.feed (before.map LocatedToken.token) = some (middle, statements))
    (hrefused : middle.step located.token = none) :
    (ofTokens (before ++ located :: later)).error? =
      some (.unexpected located.start middle.expectation located.token) := by
  rw [ofTokens, run_append hbefore]
  simp only [run, hrefused]

theorem error?_of_unfinished {tokens : List LocatedToken} {middle : Reader}
    {statements : List Statement}
    (htokens : Reader.between.feed (tokens.map LocatedToken.token) = some (middle, statements))
    (hmiddle : middle ≠ .between) :
    (ofTokens tokens).error? =
      some (.unfinished (tokens.getLast?.map LocatedToken.stop) middle.expectation) := by
  have hrun := run_append htokens none []
  rw [List.append_nil, Option.or_none] at hrun
  rw [ofTokens, hrun]
  simp only [run, if_neg hmiddle]

theorem result_of_error? {reading : Reading} {error : SyntaxError}
    (herror : reading.error? = some error) : reading.result = .error error := by
  rw [result, herror]

/-- The first token with which no file can begin is the one that is found wrong. -/
theorem result_of_not_beginFile {before : List LocatedToken} {located : LocatedToken}
    (hbefore : BeginFile (before.map LocatedToken.token))
    (hlocated : ¬ BeginFile ((before ++ [located]).map LocatedToken.token))
    (later : List LocatedToken) :
    ∃ expected, (ofTokens (before ++ located :: later)).result =
      .error (.unexpected located.start expected located.token) := by
  obtain ⟨middle, statements, hfeed⟩ := (Reader.beginFile_iff _).mp hbefore
  have hrefused : middle.step located.token = none := by
    cases hstep : middle.step located.token with
    | none => rfl
    | some pair =>
        obtain ⟨next, closed?⟩ := pair
        have hall := Reader.feed_append hfeed [located.token]
        rw [Reader.feed_cons hstep, Reader.feed, Option.map_some, Option.map_some] at hall
        rw [List.map_append, List.map_singleton] at hlocated
        exact absurd ((Reader.beginFile_iff _).mpr ⟨_, _, hall⟩) hlocated
  exact ⟨_, result_of_error? (error?_of_refused hfeed hrefused)⟩

/-- Where tokens begin a file and are none, the end of the last one is found too
early. -/
theorem result_of_beginFile {tokens : List LocatedToken}
    (htokens : BeginFile (tokens.map LocatedToken.token))
    (hfile : ¬ ∃ statements, FileTokens statements (tokens.map LocatedToken.token)) :
    ∃ last expected, tokens.getLast? = some last ∧
      (ofTokens tokens).result = .error (.unfinished (some last.stop) expected) := by
  obtain ⟨middle, statements, hfeed⟩ := (Reader.beginFile_iff _).mp htokens
  have hmiddle : middle ≠ .between := by
    rintro rfl
    exact hfile ⟨statements, (Reader.feed_between_iff _ _).mp hfeed⟩
  have herror := result_of_error? (error?_of_unfinished hfeed hmiddle)
  cases hlast : tokens.getLast? with
  | none =>
      -- Without a token the reader still stands between two statements.
      rw [List.getLast?_eq_none_iff] at hlast
      subst hlast
      cases hfeed
      exact absurd rfl hmiddle
  | some last =>
      rw [hlast, Option.map_some] at herror
      exact ⟨last, _, rfl, herror⟩

/-- A reading ends without an error exactly for the files of the grammar. -/
theorem result_eq_ok_iff (tokens : List LocatedToken) (statements : List Statement) :
    (ofTokens tokens).result = .ok statements ↔
      FileTokens statements (tokens.map LocatedToken.token) := by
  constructor
  · intro hresult
    rcases beginFile_cases tokens with
      ⟨derived, hfile⟩ | ⟨hbegin, hfile⟩ | ⟨before, located, later, rfl, hbefore, hlocated⟩
    · rw [result_of_fileTokens hfile] at hresult
      exact Except.ok.inj hresult ▸ hfile
    · obtain ⟨last, expected, -, herror⟩ := result_of_beginFile hbegin hfile
      rw [herror] at hresult
      cases hresult
    · obtain ⟨expected, herror⟩ := result_of_not_beginFile hbefore hlocated later
      rw [herror] at hresult
      cases hresult
  · exact result_of_fileTokens

/-- A reading gives statements, or an error with a place. -/
theorem result_cases (tokens : List LocatedToken) :
    (∃ statements, (ofTokens tokens).result = .ok statements) ∨
    (∃ location expected, (ofTokens tokens).result =
      .error (.unfinished (some location) expected)) ∨
    ∃ location expected found, (ofTokens tokens).result =
      .error (.unexpected location expected found) := by
  rcases beginFile_cases tokens with
    ⟨statements, hfile⟩ | ⟨hbegin, hfile⟩ | ⟨before, located, later, rfl, hbefore, hlocated⟩
  · exact Or.inl ⟨statements, result_of_fileTokens hfile⟩
  · obtain ⟨last, expected, -, herror⟩ := result_of_beginFile hbegin hfile
    exact Or.inr (Or.inl ⟨_, expected, herror⟩)
  · obtain ⟨expected, herror⟩ := result_of_not_beginFile hbefore hlocated later
    exact Or.inr (Or.inr ⟨_, expected, _, herror⟩)

theorem result_ne_unfinished_none (tokens : List LocatedToken) (expected : Expectation) :
    (ofTokens tokens).result ≠ .error (.unfinished none expected) := by
  intro hresult
  rcases result_cases tokens with
    ⟨statements, hok⟩ | ⟨location, other, herror⟩ | ⟨location, other, found, herror⟩
  · rw [hok] at hresult
    cases hresult
  · rw [herror] at hresult
    cases hresult
  · rw [herror] at hresult
    cases hresult

end Reading

/-- The message of an error begins with a place, its line and its column counted
from one. -/
def SyntaxError.Cites (error : SyntaxError) (location : Location) : Prop :=
  ∃ account, error.message =
    toString (location.line + 1) ++ ":" ++ toString (location.column + 1) ++ ": " ++ account

namespace SyntaxError

/-- The message of an error tells of a place what is wrong there. -/
def Tells (error : SyntaxError) (location : Location) (account : String) : Prop :=
  error.message =
    toString (location.line + 1) ++ ":" ++ toString (location.column + 1) ++ ": " ++ account

theorem Tells.cites {error : SyntaxError} {location : Location} {account : String}
    (htells : error.Tells location account) : error.Cites location :=
  ⟨account, htells⟩

theorem tells_of_message {error : SyntaxError} {location : Location} {account : String}
    (hmessage : error.message = location.text ++ ": expected " ++ account) :
    error.Tells location ("expected " ++ account) := by
  have hlead : (": expected " : String) = ": " ++ "expected " := by decide
  rw [Tells, hmessage, hlead, Location.text]
  simp only [String.append_assoc]

theorem unexpected_tells (location : Location) (expected : Expectation) (found : Token) :
    (unexpected location expected found).Tells location
      ("expected " ++ (expected.text ++ (", found " ++ found.description))) := by
  have hmessage : (unexpected location expected found).message =
      location.text ++ ": expected " ++ expected.text ++ ", found " ++ found.description := rfl
  rw [String.append_assoc, String.append_assoc] at hmessage
  exact tells_of_message hmessage

theorem unfinished_tells (location : Location) (expected : Expectation) :
    (unfinished (some location) expected).Tells location
      ("expected " ++ (expected.textAtEnd ++ ", found end of input")) := by
  have hmessage : (unfinished (some location) expected).message =
      location.text ++ ": expected " ++ expected.textAtEnd ++ ", found end of input" := rfl
  rw [String.append_assoc] at hmessage
  exact tells_of_message hmessage

theorem unexpected_cites (location : Location) (expected : Expectation) (found : Token) :
    (unexpected location expected found).Cites location :=
  (unexpected_tells location expected found).cites

theorem unfinished_cites (location : Location) (expected : Expectation) :
    (unfinished (some location) expected).Cites location :=
  (unfinished_tells location expected).cites

end SyntaxError

namespace Statement

theorem parse_of_scan [Text.FileAlphabet] {text : String}
    (hscan : (Scan.ofText text).failure? = none) :
    parse text = (Reading.ofTokens (Scan.ofText text).tokens).result := by
  rw [parse, Reading.ofScan, hscan]

theorem scan_of_parse [Text.FileAlphabet] {text : String} {statements : List Statement}
    (hparse : parse text = .ok statements) :
    (Scan.ofText text).failure? = none ∧
      (Reading.ofTokens (Scan.ofText text).tokens).result = .ok statements := by
  cases hscan : (Scan.ofText text).failure? with
  | none => exact ⟨rfl, parse_of_scan hscan ▸ hparse⟩
  | some location => simp [parse, Reading.ofScan, hscan, Reading.result] at hparse

theorem parse_eq_ok_iff [Text.FileAlphabet] (text : String) (statements : List Statement) :
    parse text = .ok statements ↔ (Scan.ofText text).failure? = none ∧
      FileTokens statements ((Scan.ofText text).tokens.map LocatedToken.token) := by
  rw [← Reading.result_eq_ok_iff]
  constructor
  · exact scan_of_parse
  · rintro ⟨hscan, hresult⟩
    rw [parse_of_scan hscan, hresult]

/-- A text of tokens is read exactly if they are a file of the grammar, as the
statements that the grammar derives.  Otherwise the error cites the start of the
first token with which no file can begin, or the end of the last token if there is
no such token; it never lacks a place. -/
theorem parse_exact_or_earliest_error {text : String}
    (hscan : (Scan.ofText text).failure? = none) :
    (∀ statements, parse text = .ok statements ↔
      FileTokens statements ((Scan.ofText text).tokens.map LocatedToken.token)) ∧
    (∀ before located later, (Scan.ofText text).tokens = before ++ located :: later →
      BeginFile (before.map LocatedToken.token) →
      ¬ BeginFile ((before ++ [located]).map LocatedToken.token) →
        ∃ error, parse text = .error error ∧ error.Cites located.start) ∧
    (BeginFile ((Scan.ofText text).tokens.map LocatedToken.token) →
      (¬ ∃ statements, FileTokens statements ((Scan.ofText text).tokens.map LocatedToken.token)) →
        ∃ last error, (Scan.ofText text).tokens.getLast? = some last ∧
          parse text = .error error ∧ error.Cites last.stop) ∧
    ∀ expected, parse text ≠ .error (.unfinished none expected) := by
  rw [parse_of_scan hscan]
  refine ⟨Reading.result_eq_ok_iff _, ?_, ?_, Reading.result_ne_unfinished_none _⟩
  · intro before located later htokens hbefore hlocated
    obtain ⟨expected, hresult⟩ :=
      Reading.result_of_not_beginFile hbefore hlocated later
    rw [htokens]
    exact ⟨_, hresult, SyntaxError.unexpected_cites _ _ _⟩
  · intro htokens hfile
    obtain ⟨last, expected, hlast, hresult⟩ := Reading.result_of_beginFile htokens hfile
    exact ⟨last, _, hlast, hresult, SyntaxError.unfinished_cites _ _⟩

/-- A row without its colon. -/
def bareRowText : String := "@end z;\n@row z <;"

def bareRowStart : List LocatedToken :=
  [⟨⟨0, 0, 0⟩, .keyword .endMarker, ⟨0, 4, 4⟩⟩, ⟨⟨0, 5, 5⟩, .identifier "z", ⟨0, 6, 6⟩⟩,
    ⟨⟨0, 6, 6⟩, .semicolon, ⟨0, 7, 7⟩⟩, ⟨⟨1, 0, 8⟩, .keyword .row, ⟨1, 4, 12⟩⟩,
    ⟨⟨1, 5, 13⟩, .identifier "z", ⟨1, 6, 14⟩⟩]

theorem bareRow_earliest_error :
    ∃ error, parse bareRowText = .error error ∧ error.Cites ⟨1, 7, 15⟩ := by
  have hscan : Scan.ofText bareRowText = ⟨bareRowStart ++ ⟨⟨1, 7, 15⟩, .less, ⟨1, 8, 16⟩⟩ ::
      [⟨⟨1, 8, 16⟩, .semicolon, ⟨1, 9, 17⟩⟩], none⟩ := by
    decide +kernel
  have hfailure : (Scan.ofText bareRowText).failure? = none := by rw [hscan]
  apply (parse_exact_or_earliest_error hfailure).2.1 bareRowStart
    ⟨⟨1, 7, 15⟩, .less, ⟨1, 8, 16⟩⟩ _ (congrArg Scan.tokens hscan)
  · exact (Reader.beginFile_iff _).mpr ⟨_, _, rfl⟩
  · rw [Reader.beginFile_iff]
    rintro ⟨reader, statements, hfeed⟩
    cases hfeed

end Statement

end OperatorPrecedence
