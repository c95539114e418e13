import OperatorPrecedence.Token.Spacing

/-!
The first piece of a text is the longest run at its head that one of the rules
takes: the rule of white space, the rule of comments, or the rule of a token.
-/

namespace OperatorPrecedence

/-- The longest run of a kind of characters ends where a character of another kind
follows. -/
theorem takeWhile_append_eq {p : Char → Bool} {run later : List Char}
    (hrun : ∀ c ∈ run, p c = true) (hlater : ∀ c ∈ later.head?, p c = false) :
    (run ++ later).takeWhile p = run := by
  rw [List.takeWhile_append_of_pos hrun]
  cases later with
  | nil => simp
  | cons c rest =>
      have hc : p c = false := hlater c rfl
      simp [hc]

namespace Piece

theorem exists_of_keyword? {cs : List Char} {keyword : Keyword}
    (hkeyword : keyword? cs = some keyword) : ∃ later, cs = keyword.spelling ++ later := by
  have hprefix := List.find?_some hkeyword
  obtain ⟨later, hlater⟩ := List.isPrefixOf_iff_prefix.mp hprefix
  exact ⟨later, hlater.symm⟩

section AnyAlphabet

variable [Text.FileAlphabet]

/-- The rules: what a run of characters is when it is taken whole. -/
inductive Matches : Piece → List Char → Prop where
  | blank {run : List Char} :
      run ≠ [] → (∀ c ∈ run, isSeparator c = true) → Matches .skipped run
  | comment {body : List Char} :
      (∀ c ∈ body, isLineBreak c = false) → Matches .skipped ('/' :: '/' :: body)
  | token {token : Token} :
      token.isWritable = true → Matches (.token token) token.spelling

theorem first?_separator {c : Char} (hc : isSeparator c = true) (rest : List Char) :
    first? (c :: rest) = some (.skipped, ((c :: rest).takeWhile isSeparator).length) := by
  simp [first?, hc, Nat.add_comm]

theorem first?_comment (comment : List Char) :
    first? ('/' :: '/' :: comment) =
      some (.skipped, ('/' :: '/' :: comment.takeWhile (fun c => !isLineBreak c)).length) := by
  have hslash : isSeparator '/' = false := rfl
  simp only [first?, hslash, Bool.false_eq_true, ↓reduceIte, List.length_cons]
  rw [Nat.add_comm]

theorem matches_of_punctuation? {c : Char} {token : Token}
    (htoken : punctuation? c = some token) : Matches (.token token) [c] := by
  have hwritable : token.isWritable = true ∧ token.spelling = [c] := by
    unfold punctuation? at htoken
    split at htoken <;> cases htoken <;> exact ⟨rfl, rfl⟩
  exact hwritable.2 ▸ .token hwritable.1

theorem exists_blank {c : Char} (hc : isSeparator c = true) (rest : List Char) :
    ∃ run later, c :: rest = run ++ later ∧ first? (c :: rest) = some (.skipped, run.length) ∧
      Matches .skipped run := by
  have hne : (c :: rest).takeWhile isSeparator ≠ [] := by simp [hc]
  exact ⟨_, _, List.takeWhile_append_dropWhile.symm, first?_separator hc rest,
    .blank hne (List.all_eq_true.mp List.all_takeWhile)⟩

theorem exists_comment (comment : List Char) :
    ∃ run later, '/' :: '/' :: comment = run ++ later ∧
      first? ('/' :: '/' :: comment) = some (.skipped, run.length) ∧ Matches .skipped run := by
  have hbody := List.all_eq_true.mp
    (@List.all_takeWhile _ (fun c => !isLineBreak c) comment)
  refine ⟨_, comment.dropWhile (fun c => !isLineBreak c), ?_, first?_comment comment,
    .comment (by simpa using hbody)⟩
  simp [List.takeWhile_append_dropWhile]

theorem first?_letter {c : Char} (hseparator : isSeparator c = false) (hslash : c ≠ '/')
    (hat : c ≠ '@') (hc : Text.isIdentifierStart c = true) (rest : List Char) :
    first? (c :: rest) =
      some (.token (.identifier (String.ofList (c :: rest.takeWhile Text.isIdentifierContinue))),
        (c :: rest.takeWhile Text.isIdentifierContinue).length) := by
  simp only [first?, hseparator, hslash, hat, hc, Bool.false_eq_true, ↓reduceIte]

theorem exists_identifier {c : Char} (hseparator : isSeparator c = false) (hslash : c ≠ '/')
    (hat : c ≠ '@') (hc : Text.isIdentifierStart c = true) (rest : List Char) :
    ∃ run later, c :: rest = run ++ later ∧
      first? (c :: rest) = some (.token (.identifier (String.ofList run)), run.length) ∧
        Matches (.token (.identifier (String.ofList run))) run := by
  refine ⟨c :: rest.takeWhile Text.isIdentifierContinue,
    rest.dropWhile Text.isIdentifierContinue, ?_, first?_letter hseparator hslash hat hc rest, ?_⟩
  · rw [List.cons_append, List.takeWhile_append_dropWhile]
  · have htoken : (Token.identifier (String.ofList
        (c :: rest.takeWhile Text.isIdentifierContinue))).isWritable = true := by
      simp [Token.isWritable, Text.isIdentifierChars, hc]
    simpa [Token.spelling] using Matches.token htoken

theorem matches_of_first? {cs : List Char} {piece : Piece} {size : Nat}
    (hfirst : first? cs = some (piece, size)) :
    ∃ run later, cs = run ++ later ∧ run.length = size ∧ piece.Matches run := by
  cases cs with
  | nil => cases hfirst
  | cons c rest =>
      by_cases hseparator : isSeparator c = true
      · obtain ⟨run, later, hsplit, hrun, hmatches⟩ := exists_blank hseparator rest
        rw [hrun] at hfirst
        cases hfirst
        exact ⟨run, later, hsplit, rfl, hmatches⟩
      rw [Bool.not_eq_true] at hseparator
      by_cases hcomment : ∃ comment, c :: rest = '/' :: '/' :: comment
      · obtain ⟨comment, heq⟩ := hcomment
        obtain ⟨run, later, hsplit, hrun, hmatches⟩ := exists_comment comment
        rw [heq, hrun] at hfirst
        cases hfirst
        exact ⟨run, later, heq.trans hsplit, rfl, hmatches⟩
      -- A stroke that opens no comment opens nothing.
      have hslash : c ≠ '/' := by
        rintro rfl
        cases rest with
        | nil => simp [first?, hseparator] at hfirst
        | cons d comment =>
            have hstroke : d ≠ '/' := fun heq => hcomment ⟨comment, heq ▸ rfl⟩
            simp [first?, hseparator, hstroke] at hfirst
      by_cases hat : c = '@'
      · subst hat
        obtain ⟨keyword, hkeyword, heq⟩ := Option.map_eq_some_iff.mp hfirst
        cases heq
        obtain ⟨later, hsplit⟩ := exists_of_keyword? hkeyword
        exact ⟨keyword.spelling, later, hsplit, rfl, @Matches.token _ (.keyword keyword) rfl⟩
      by_cases hstart : Text.isIdentifierStart c = true
      · obtain ⟨run, later, hsplit, hrun, hmatches⟩ :=
          exists_identifier hseparator hslash hat hstart rest
        rw [hrun] at hfirst
        cases hfirst
        exact ⟨run, later, hsplit, rfl, hmatches⟩
      simp only [first?, hseparator, hslash, hat, hstart, Bool.false_eq_true, ↓reduceIte]
        at hfirst
      obtain ⟨token, htoken, heq⟩ := Option.map_eq_some_iff.mp hfirst
      cases heq
      exact ⟨[c], rest, rfl, rfl, matches_of_punctuation? htoken⟩

/-- Texts by their pieces: what holds where no piece begins, and goes over from what
follows a piece to the text that the piece opens, holds of every text. -/
@[elab_as_elim]
theorem piecewise {motive : List Char → Prop} (cs : List Char)
    (stuck : ∀ cs, first? cs = none → motive cs)
    (piece : ∀ first run later, Matches first run →
      first? (run ++ later) = some (first, run.length) → motive later → motive (run ++ later)) :
    motive cs := by
  induction hlength : cs.length using Nat.strongRecOn generalizing cs with
  | ind length ih =>
      cases hfirst : first? cs with
      | none => exact stuck cs hfirst
      | some found =>
          obtain ⟨run, later, rfl, hsize, hmatches⟩ := matches_of_first? hfirst
          have hpos := first?_pos hfirst
          rw [List.length_append] at hlength
          refine piece found.1 run later hmatches ?_ (ih later.length (by omega) later rfl)
          rw [hsize]
          exact hfirst

end AnyAlphabet

end Piece

/-- The characters that open a gap or another token stand in no identifier. -/
theorem not_identifier {c : Char}
    (hc : isSeparator c = true ∨ c = '/' ∨ c = '@' ∨ (Piece.punctuation? c).isSome = true) :
    Text.isIdentifierStart c = false ∧ Text.isIdentifierContinue c = false := by
  simp only [isSeparator, Bool.or_eq_true, beq_iff_eq] at hc
  rcases hc with (((rfl | rfl) | rfl) | rfl) | rfl | rfl | hc
  · decide
  · decide
  · decide
  · decide
  · decide
  · decide
  · unfold Piece.punctuation? at hc
    split at hc <;> first | decide | cases hc

theorem not_mem_identifier {name : List Char} (hname : Text.isIdentifierChars name = true)
    {c : Char}
    (hc : isSeparator c = true ∨ c = '/' ∨ c = '@' ∨ (Piece.punctuation? c).isSome = true) :
    c ∉ name := by
  obtain ⟨hstart, hcontinue⟩ := not_identifier hc
  cases name with
  | nil => exact List.not_mem_nil
  | cons first rest =>
      obtain ⟨hfirst, hrest⟩ := Bool.and_eq_true_iff.mp hname
      intro hmem
      rcases List.mem_cons.mp hmem with rfl | hmem
      · rw [hstart] at hfirst
        cases hfirst
      · rw [List.all_eq_true.mp hrest c hmem] at hcontinue
        cases hcontinue

namespace Piece

theorem first?_identifier {name : List Char} (hname : Text.isIdentifierChars name = true)
    (later : List Char) :
    first? (name ++ later) =
      some (.token (.identifier (String.ofList
          (name ++ later.takeWhile Text.isIdentifierContinue))),
        (name ++ later.takeWhile Text.isIdentifierContinue).length) := by
  cases name with
  | nil => cases hname
  | cons c rest =>
      obtain ⟨hstart, hrest⟩ := Bool.and_eq_true_iff.mp hname
      have hrun : (rest ++ later).takeWhile Text.isIdentifierContinue =
          rest ++ later.takeWhile Text.isIdentifierContinue :=
        List.takeWhile_append_of_pos (List.all_eq_true.mp hrest)
      have hopening : ¬(isSeparator c = true ∨ c = '/' ∨ c = '@' ∨
          (punctuation? c).isSome = true) := by
        intro hc
        simp [(not_identifier hc).1] at hstart
      obtain ⟨hseparator, hslash, hat, -⟩ : ¬isSeparator c = true ∧ c ≠ '/' ∧ c ≠ '@' ∧
          ¬(punctuation? c).isSome = true := by
        simpa only [not_or] using hopening
      have hfirst := first?_letter (eq_false_of_ne_true hseparator) hslash hat hstart
        (rest ++ later)
      rwa [hrun] at hfirst

/-- Where a rule takes a run there is a first piece.  It is at least as long, and the
same if it is not longer. -/
theorem Matches.exists_first? {piece : Piece} {run : List Char} (hmatches : piece.Matches run)
    (later : List Char) :
    ∃ first size, first? (run ++ later) = some (first, size) ∧ run.length ≤ size ∧
      (run.length = size → first = piece) := by
  cases hmatches with
  | blank hne hrun =>
      obtain ⟨c, rest, rfl⟩ := List.exists_cons_of_ne_nil hne
      refine ⟨_, _, first?_separator (hrun c List.mem_cons_self) (rest ++ later), ?_,
        fun _ => rfl⟩
      rw [← List.cons_append, List.takeWhile_append_of_pos hrun, List.length_append]
      exact Nat.le_add_right _ _
  | @comment body hbody =>
      refine ⟨_, _, first?_comment (body ++ later), ?_, fun _ => rfl⟩
      rw [List.takeWhile_append_of_pos (by simpa using hbody)]
      simp only [List.length_cons, List.length_append]
      omega
  | @token token htoken =>
      cases token with
      | identifier name =>
          refine ⟨_, _, first?_identifier htoken later, ?_, ?_⟩
          · rw [Token.spelling, List.length_append]
            exact Nat.le_add_right _ _
          · intro hlength
            rw [Token.spelling, List.length_append] at hlength
            have hnil : later.takeWhile Text.isIdentifierContinue = [] :=
              List.eq_nil_of_length_eq_zero (by omega)
            rw [hnil, List.append_nil, String.ofList_toList]
      | keyword word =>
          refine ⟨.token (.keyword word), word.spelling.length, ?_, Nat.le_refl _, fun _ => rfl⟩
          cases word <;> rfl
      | colon | comma | semicolon | less | greater | equal | dot =>
          exact ⟨_, _, rfl, Nat.le_refl _, fun _ => rfl⟩

/-- The first piece of a text is the longest that a rule takes at its head. -/
theorem first?_eq_some_iff (cs : List Char) (piece : Piece) (size : Nat) :
    first? cs = some (piece, size) ↔
      (∃ run later, cs = run ++ later ∧ run.length = size ∧ piece.Matches run) ∧
        ∀ other run later, cs = run ++ later → Matches other run → run.length ≤ size := by
  constructor
  · intro hfirst
    refine ⟨matches_of_first? hfirst, ?_⟩
    rintro other run later rfl hother
    obtain ⟨first, longest, hlongest, hle, -⟩ := hother.exists_first? later
    rw [hlongest] at hfirst
    cases hfirst
    exact hle
  · rintro ⟨⟨run, later, rfl, rfl, hmatches⟩, hlongest⟩
    obtain ⟨first, size, hfirst, hle, hsame⟩ := hmatches.exists_first? later
    obtain ⟨other, rest, hsplit, rfl, hother⟩ := matches_of_first? hfirst
    have heq := Nat.le_antisymm hle (hlongest first other rest hsplit hother)
    rw [hfirst, hsame heq, heq]

/-- A text has no first piece exactly when no rule takes a run at its head. -/
theorem first?_eq_none_iff (cs : List Char) :
    first? cs = none ↔ ∀ piece run later, cs = run ++ later → ¬Matches piece run := by
  constructor
  · rintro hnone piece run later rfl hmatches
    obtain ⟨first, size, hfirst, -⟩ := hmatches.exists_first? later
    rw [hnone] at hfirst
    cases hfirst
  · intro hno
    cases hfirst : first? cs with
    | none => rfl
    | some found =>
        obtain ⟨run, later, hsplit, -, hmatches⟩ := matches_of_first? hfirst
        exact absurd hmatches (hno found.1 run later hsplit)

end Piece

end OperatorPrecedence
