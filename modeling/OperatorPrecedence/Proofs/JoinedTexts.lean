import OperatorPrecedence.Proofs.EarliestError
import OperatorPrecedence.Proofs.SpacedTokens

/-!
One text below another.  White space apart, no piece holds a line feed.  So a scan of
two texts with a line feed between them finds the tokens of the first, and then those
of the second, moved down by the lines above them.  A file leaves its reader between
two statements, hence the second text is read there as it is by itself.
-/

namespace OperatorPrecedence

namespace Location

/-- Where a place of a text stands if the text itself begins at `origin`, the head of
a line. -/
def below (location origin : Location) : Location :=
  ⟨location.line + origin.line, location.column, location.byte + origin.byte⟩

/-- The head of the line that follows a text. -/
def lineAfter (text : String) : Location :=
  start.advanceAll (text.toList ++ ['\n'])

theorem advance_below (location origin : Location) (c : Char) :
    (location.below origin).advance c = (location.advance c).below origin := by
  by_cases hc : c = '\n'
  · simp only [advance, below, hc, ↓reduceIte, Nat.add_right_comm]
  · simp only [advance, below, hc, ↓reduceIte, Nat.add_right_comm]

theorem advanceAll_below (location origin : Location) (cs : List Char) :
    (location.below origin).advanceAll cs = (location.advanceAll cs).below origin := by
  induction cs generalizing location with
  | nil => rfl
  | cons c cs ih => rw [advanceAll_cons, advanceAll_cons, advance_below, ih]

/-- Every line feed opens a line. -/
theorem line_advanceAll (location : Location) (cs : List Char) :
    (location.advanceAll cs).line = location.line + cs.count '\n' := by
  induction cs generalizing location with
  | nil => rfl
  | cons c cs ih =>
      rw [advanceAll_cons, ih, List.count_cons]
      by_cases hc : c = '\n'
      · simp only [advance, hc, ↓reduceIte, beq_self_eq_true]
        omega
      · simp [advance, hc]

theorem line_lineAfter (text : String) :
    (lineAfter text).line = text.toList.count '\n' + 1 := by
  rw [lineAfter, line_advanceAll, List.count_append]
  simp [start]

/-- The line that follows a text begins where the text goes on below it. -/
theorem start_below_lineAfter (text : String) :
    start.below (lineAfter text) = lineAfter text := by
  simp [lineAfter, advanceAll_append, advance, below, start]

end Location

def LocatedToken.below (located : LocatedToken) (origin : Location) : LocatedToken :=
  ⟨located.start.below origin, located.token, located.stop.below origin⟩

@[simp] theorem LocatedToken.token_below (located : LocatedToken) (origin : Location) :
    (located.below origin).token = located.token := rfl

@[simp] theorem LocatedToken.stop_below (located : LocatedToken) (origin : Location) :
    (located.below origin).stop = located.stop.below origin := rfl

namespace Piece

/-- A piece is white space, or it begins with none and holds no line feed. -/
theorem Matches.separators_or {piece : Piece} {run : List Char} (hmatches : piece.Matches run) :
    piece = .skipped ∧ (∀ c ∈ run, isSeparator c = true) ∨
      (∀ c ∈ run.head?, isSeparator c = false) ∧ '\n' ∉ run := by
  cases hmatches with
  | blank hne hrun => exact Or.inl ⟨rfl, hrun⟩
  | comment hbody =>
      refine Or.inr ⟨by simp [isSeparator], fun hmem => ?_⟩
      have hbreak : isLineBreak '\n' = false := hbody _ (by simpa using hmem)
      cases hbreak
  | @token token htoken =>
      right
      cases token with
      | identifier name =>
          refine ⟨fun c hc => ?_, not_mem_identifier htoken (Or.inl rfl)⟩
          rw [← Bool.not_eq_true]
          intro hseparator
          exact not_mem_identifier htoken (Or.inl hseparator) (List.mem_of_mem_head? hc)
      | keyword word => cases word <;> exact ⟨by rintro c ⟨⟩; rfl, by decide⟩
      | colon | comma | semicolon | less | greater | equal | dot =>
          exact ⟨by rintro c ⟨⟩; rfl, by decide⟩

/-- So where a text does not begin with white space, its first piece is the same
whatever stands on the lines below. -/
theorem first?_append_lineFeed {c : Char} (hc : isSeparator c = false)
    (cs ds : List Char) : first? (c :: cs ++ '\n' :: ds) = first? (c :: cs) := by
  -- No piece reaches over the line feed: white space would have to begin before it.
  have hinside : ∀ {piece run later}, Matches piece run →
      c :: cs ++ '\n' :: ds = run ++ later → ∃ more, c :: cs = run ++ more := by
    intro piece run later hmatches hsplit
    rcases List.append_eq_append_iff.mp hsplit with ⟨extra, rfl, hextra⟩ | ⟨more, hmore, -⟩
    · cases extra with
      | nil => exact ⟨[], by simp⟩
      | cons d extra =>
          obtain rfl := (List.cons.inj hextra).1
          rcases hmatches.separators_or with ⟨-, hrun⟩ | ⟨-, hno⟩
          · rw [hrun c List.mem_cons_self] at hc
            cases hc
          · exact absurd (List.mem_append_right (c :: cs) List.mem_cons_self) hno
    · exact ⟨more, hmore⟩
  cases hfirst : first? (c :: cs) with
  | none =>
      rw [first?_eq_none_iff] at hfirst ⊢
      intro piece run later hsplit hmatches
      obtain ⟨more, hmore⟩ := hinside hmatches hsplit
      exact hfirst piece run more hmore hmatches
  | some found =>
      obtain ⟨piece, size⟩ := found
      rw [first?_eq_some_iff] at hfirst ⊢
      obtain ⟨⟨run, later, hsplit, hsize, hmatches⟩, hlongest⟩ := hfirst
      refine ⟨⟨run, later ++ '\n' :: ds, by simp [hsplit], hsize, hmatches⟩, ?_⟩
      intro other run later hsplit hmatches
      obtain ⟨more, hmore⟩ := hinside hmatches hsplit
      exact hlongest other run more hmore hmatches

end Piece

namespace Scan

/-- The scan of a text that begins at `origin`. -/
def below (scan : Scan) (origin : Location) : Scan :=
  ⟨scan.tokens.map (·.below origin), scan.failure?.map (·.below origin)⟩

/-- Moving the head of a text moves every place of its scan. -/
theorem rest_below (location origin : Location) (cs : List Char) :
    rest (location.below origin) cs = (rest location cs).below origin := by
  induction cs using Piece.piecewise generalizing location with
  | stuck cs hstuck =>
      rw [rest_of_stuck hstuck, rest_of_stuck hstuck]
      cases cs <;> rfl
  | piece first run later _ hfirst ih =>
      cases first with
      | skipped =>
          rw [rest_of_skipped hfirst, rest_of_skipped hfirst, Location.advanceAll_below, ih]
      | token token =>
          rw [rest_of_token hfirst, rest_of_token hfirst, Location.advanceAll_below, ih]
          rfl

theorem rest_separators {run : List Char} (hrun : ∀ c ∈ run, isSeparator c = true)
    (location : Location) (cs : List Char) :
    rest location (run ++ cs) = rest (location.advanceAll run) cs := by
  induction run generalizing location with
  | nil => rfl
  | cons c run ih =>
      obtain ⟨hc, hrest⟩ := List.forall_mem_cons.mp hrun
      rw [List.cons_append, rest_separator hc, ih hrest, Location.advanceAll_cons]

theorem rest_append_lineFeed {cs : List Char} {location : Location}
    (hend : (rest location cs).failure? = none) (ds : List Char) :
    rest location (cs ++ '\n' :: ds) =
      ⟨(rest location cs).tokens ++ (rest (location.advanceAll (cs ++ ['\n'])) ds).tokens,
        (rest (location.advanceAll (cs ++ ['\n'])) ds).failure?⟩ := by
  induction cs using Piece.piecewise generalizing location with
  | stuck cs hstuck =>
      rw [rest_of_stuck hstuck] at hend
      cases cs with
      | nil => rw [List.nil_append, rest_separator rfl, rest_nil]; rfl
      | cons c cs => cases hend
  | piece first run later hmatches hfirst ih =>
      have hplace : location.advanceAll (run ++ later ++ ['\n']) =
          (location.advanceAll run).advanceAll (later ++ ['\n']) := by
        rw [List.append_assoc, Location.advanceAll_append]
      rw [hplace]
      rcases hmatches.separators_or with ⟨rfl, hrun⟩ | ⟨hhead, -⟩
      · rw [rest_of_skipped hfirst] at hend ⊢
        rw [List.append_assoc, rest_separators hrun, ih hend]
      · obtain ⟨c, cs, rfl⟩ := List.exists_cons_of_length_pos (Piece.first?_pos hfirst)
        have hbelow := Piece.first?_append_lineFeed (hhead c rfl) (cs ++ later) ds
        rw [← List.cons_append, hfirst, List.append_assoc] at hbelow
        rw [List.append_assoc]
        cases first with
        | skipped =>
            rw [rest_of_skipped hfirst] at hend ⊢
            rw [rest_of_skipped hbelow, ih hend]
        | token token =>
            rw [rest_of_token hfirst] at hend ⊢
            rw [rest_of_token hbelow, ih hend]
            rfl

theorem ofText_append_lineFeed {first : String} (hend : (ofText first).failure? = none)
    (second : String) :
    ofText (first ++ "\n" ++ second) =
      ⟨(ofText first).tokens ++ ((ofText second).below (Location.lineAfter first)).tokens,
        ((ofText second).below (Location.lineAfter first)).failure?⟩ := by
  have hchars : (first ++ "\n" ++ second).toList =
      first.toList ++ '\n' :: second.toList := by simp
  have hsecond := rest_below Location.start (Location.lineAfter first) second.toList
  rw [Location.start_below_lineAfter] at hsecond
  rw [ofText, hchars, rest_append_lineFeed hend]
  change (⟨_ ++ (rest (Location.lineAfter first) second.toList).tokens,
    (rest (Location.lineAfter first) second.toList).failure?⟩ : Scan) = _
  rw [hsecond]
  rfl

end Scan

def SyntaxError.below (origin : Location) : SyntaxError → SyntaxError
  | .invalidToken location => .invalidToken (location.below origin)
  | .unexpected location expected found => .unexpected (location.below origin) expected found
  | .unfinished location? expected => .unfinished (location?.map (·.below origin)) expected

namespace Reading

/-- The reading of a text that begins at `origin`. -/
def below (reading : Reading) (origin : Location) : Reading :=
  ⟨reading.statements, reading.error?.map (·.below origin)⟩

theorem run_below (reader : Reader) (last? : Option Location) (tokens : List LocatedToken)
    (origin : Location) :
    run reader (last?.map (·.below origin)) (tokens.map (·.below origin)) =
      (run reader last? tokens).below origin := by
  induction tokens generalizing reader last? with
  | nil =>
      by_cases hreader : reader = .between
      · simp [run, hreader, below]
      · simp [run, hreader, below, SyntaxError.below]
  | cons located later ih =>
      cases hstep : reader.step located.token with
      | none => simp [run, LocatedToken.below, hstep, below, SyntaxError.below]
      | some pair =>
          obtain ⟨next, closed?⟩ := pair
          have hlater := ih next (some located.stop)
          rw [Option.map_some] at hlater
          simp only [List.map_cons, run, LocatedToken.token_below, hstep,
            LocatedToken.stop_below, hlater]
          rfl

theorem ofTokens_below (tokens : List LocatedToken) (origin : Location) :
    ofTokens (tokens.map (·.below origin)) = (ofTokens tokens).below origin :=
  run_below .between none tokens origin

/-- Between two statements it does not matter which token came last. -/
theorem run_between (last? : Option Location) (tokens : List LocatedToken) :
    run .between last? tokens = ofTokens tokens := by
  cases tokens with
  | nil => rfl
  | cons located later => rfl

/-- After the tokens of a file the rest is read as a file of its own. -/
theorem ofTokens_append {before : List LocatedToken} {statements : List Statement}
    (hbefore : (ofTokens before).result = .ok statements) (later : List LocatedToken) :
    ofTokens (before ++ later) =
      ⟨statements ++ (ofTokens later).statements, (ofTokens later).error?⟩ := by
  rw [ofTokens, run_append ((result_eq_ok_iff before statements).mp hbefore).feed,
    run_between]

end Reading

namespace Statement

theorem parse_append_lineFeed {first : String} {statements : List Statement}
    (hfirst : parse first = .ok statements) (second : String) :
    parse (first ++ "\n" ++ second) =
      match parse second with
      | .ok more => .ok (statements ++ more)
      | .error error => .error (error.below (Location.lineAfter first)) := by
  obtain ⟨hend, htokens⟩ := scan_of_parse hfirst
  simp only [parse, Scan.ofText_append_lineFeed hend, Reading.ofScan, Scan.below]
  cases (Scan.ofText second).failure? with
  | some location => rfl
  | none =>
      simp only [Option.map_none, Reading.ofTokens_append htokens, Reading.ofTokens_below,
        Reading.result, Reading.below]
      cases (Reading.ofTokens (Scan.ofText second).tokens).error? <;> rfl

/-- An error of a text that comes apart into tokens has a place, and of the place
below it says the same. -/
theorem exists_tells_of_parse {text : String} {error : SyntaxError}
    (hscan : (Scan.ofText text).failure? = none) (hparse : parse text = .error error) :
    ∃ location account, error.Tells location account ∧
      ∀ origin, (error.below origin).Tells (location.below origin) account := by
  rw [parse_of_scan hscan] at hparse
  rcases Reading.result_cases (Scan.ofText text).tokens with
    ⟨statements, hok⟩ | ⟨location, expected, herror⟩ | ⟨location, expected, found, herror⟩
  · rw [hok] at hparse
    cases hparse
  · obtain rfl := Except.error.inj (herror.symm.trans hparse)
    exact ⟨location, _, SyntaxError.unfinished_tells _ _,
      fun origin => SyntaxError.unfinished_tells _ _⟩
  · obtain rfl := Except.error.inj (herror.symm.trans hparse)
    exact ⟨location, _, SyntaxError.unexpected_tells _ _ _,
      fun origin => SyntaxError.unexpected_tells _ _ _⟩

/-- Two files with a line feed between them are a file, and it has the statements of
both.  If the second text comes apart into tokens and is no file, the two together
fail with the same message, but for the line, which counts the line feeds of the first
text and the one between them as well. -/
theorem parse_joined_texts {first : String} {statements : List Statement}
    (hfirst : parse first = .ok statements) (second : String) :
    (∀ more, parse second = .ok more →
      parse (first ++ "\n" ++ second) = .ok (statements ++ more)) ∧
    ∀ error, (Scan.ofText second).failure? = none → parse second = .error error →
      ∃ (location : Location) (account : String) (later : SyntaxError),
        parse (first ++ "\n" ++ second) = .error later ∧
        error.message = toString (location.line + 1) ++ ":" ++ toString (location.column + 1) ++
          ": " ++ account ∧
        later.message =
          toString (location.line + (first.toList.count '\n' + 1) + 1) ++ ":" ++
            toString (location.column + 1) ++ ": " ++ account := by
  have hjoined := parse_append_lineFeed hfirst second
  constructor
  · intro more hmore
    rw [hjoined, hmore]
  · intro error hscan herror
    obtain ⟨location, account, htells, hbelow⟩ := exists_tells_of_parse hscan herror
    refine ⟨location, account, _, by rw [hjoined, herror], htells, ?_⟩
    rw [← Location.line_lineAfter]
    exact hbelow (Location.lineAfter first)

/-- A file whose last line is a comment. -/
def endMarkerText : String :=
  "@end\nz;\n//b"

theorem endMarker_parse_joined_texts :
    parse endMarkerText = .ok [.endMarker "z"] ∧
      parse (endMarkerText ++ "\n" ++ endMarkerText) = .ok [.endMarker "z", .endMarker "z"] ∧
      ∃ (location : Location) (account : String) (later : SyntaxError),
        parse (endMarkerText ++ "\n" ++ bareRowText) = .error later ∧
        "2:8: expected `:', found Lt" = toString (location.line + 1) ++ ":" ++
          toString (location.column + 1) ++ ": " ++ account ∧
        later.message = toString (location.line + 3 + 1) ++ ":" ++
          toString (location.column + 1) ++ ": " ++ account := by
  have hparse : parse endMarkerText = .ok [.endMarker "z"] := by decide +kernel
  have hrow : parse bareRowText = .error (.unexpected ⟨1, 7, 15⟩ .colon .less) := by
    decide +kernel
  have hscan : (Scan.ofText bareRowText).failure? = none := by decide +kernel
  have hlines : endMarkerText.toList.count '\n' = 2 := by decide
  obtain ⟨location, account, later, hlater, hmessage, hbelow⟩ :=
    (parse_joined_texts hparse bareRowText).2 _ hscan hrow
  rw [hlines] at hbelow
  exact ⟨hparse, (parse_joined_texts hparse endMarkerText).1 _ hparse,
    location, account, later, hlater, hmessage, hbelow⟩

end Statement

end OperatorPrecedence
