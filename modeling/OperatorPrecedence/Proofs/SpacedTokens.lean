import OperatorPrecedence.Proofs.LongestPiece

/-!
A scan finds the tokens that a text spells, whatever gaps set them apart.
-/

namespace OperatorPrecedence

namespace Scan

section AnyAlphabet

variable [Text.FileAlphabet]

theorem rest_nil (location : Location) : rest location [] = ⟨[], none⟩ := by
  rw [rest]
  rfl

theorem rest_of_stuck {cs : List Char} (hstuck : Piece.first? cs = none)
    (location : Location) :
    rest location cs = ⟨[], if cs.isEmpty then none else some location⟩ := by
  rw [rest]
  split
  · rfl
  · rename_i hsome
    rw [hsome] at hstuck
    cases hstuck

theorem rest_of_skipped {skipped later : List Char}
    (hfirst : Piece.first? (skipped ++ later) = some (.skipped, skipped.length))
    (location : Location) :
    rest location (skipped ++ later) = rest (location.advanceAll skipped) later := by
  rw [rest]
  split
  · rename_i hnone
    rw [hnone] at hfirst
    cases hfirst
  · rename_i hsome
    rw [hsome] at hfirst
    cases hfirst
    simp only [List.take_left, List.drop_left]

theorem rest_of_token {chars later : List Char} {token : Token}
    (hfirst : Piece.first? (chars ++ later) = some (.token token, chars.length))
    (location : Location) :
    rest location (chars ++ later) =
      ⟨⟨location, token, location.advanceAll chars⟩ ::
          (rest (location.advanceAll chars) later).tokens,
        (rest (location.advanceAll chars) later).failure?⟩ := by
  rw [rest]
  split
  · rename_i hnone
    rw [hnone] at hfirst
    cases hfirst
  · rename_i hsome
    rw [hsome] at hfirst
    cases hfirst
    simp only [List.take_left, List.drop_left]

/-- What a scan finds can be written. -/
theorem isWritable_of_mem_rest {location : Location} {cs : List Char} :
    ∀ located ∈ (rest location cs).tokens, located.token.isWritable = true := by
  induction cs using Piece.piecewise generalizing location with
  | stuck cs hstuck =>
      rw [rest_of_stuck hstuck]
      exact List.forall_mem_nil _
  | piece first run later hmatches hfirst ih =>
      cases hmatches with
      | blank | comment =>
          rw [rest_of_skipped hfirst]
          exact ih
      | token htoken =>
          rw [rest_of_token hfirst]
          exact List.forall_mem_cons.mpr ⟨htoken, ih⟩

end AnyAlphabet

/-- Separators at the head of a text are skipped, all of them at once. -/
theorem rest_dropWhile (location : Location) (cs : List Char) :
    rest location cs =
      rest (location.advanceAll (cs.takeWhile isSeparator)) (cs.dropWhile isSeparator) := by
  cases cs with
  | nil => rfl
  | cons c cs =>
      by_cases hc : isSeparator c = true
      · have hsplit := @List.takeWhile_append_dropWhile Char isSeparator (c :: cs)
        have hfirst := Piece.first?_separator hc cs
        rw [← rest_of_skipped (by rw [hsplit, hfirst]), hsplit]
      · simp [hc]

/-- So each of them can be skipped by itself. -/
theorem rest_separator {c : Char} (hc : isSeparator c = true) (location : Location)
    (cs : List Char) : rest location (c :: cs) = rest (location.advance c) cs := by
  rw [rest_dropWhile location (c :: cs), rest_dropWhile (location.advance c) cs]
  simp [hc]

theorem rest_comment {body later : List Char} (hbody : ∀ c ∈ body, isLineBreak c = false)
    (hlater : ∀ c ∈ later.head?, isLineBreak c = true) (location : Location) :
    rest location ('/' :: '/' :: body ++ later) =
      rest (location.advanceAll ('/' :: '/' :: body)) later := by
  have hrun : (body ++ later).takeWhile (fun c => !isLineBreak c) = body :=
    takeWhile_append_eq (by simpa using hbody) (by simpa using hlater)
  have hfirst := Piece.first?_comment (body ++ later)
  rw [hrun] at hfirst
  exact rest_of_skipped hfirst location

theorem rest_gap {gap : List Char} (hgap : Gap gap) (location : Location) (cs : List Char) :
    rest location (gap ++ cs) = rest (location.advanceAll gap) cs := by
  induction hgap generalizing location with
  | nil => rfl
  | separator hc _ ih => rw [List.cons_append, rest_separator hc, ih, Location.advanceAll_cons]
  | @comment body lineBreak gap hbody hbreak _ ih =>
      have hc := isSeparator_of_isLineBreak hbreak
      have hcomment := @rest_comment body (lineBreak :: (gap ++ cs)) hbody
        (by simpa using hbreak) location
      rw [rest_separator hc, ih] at hcomment
      rw [Location.advanceAll_append, Location.advanceAll_cons, ← hcomment]
      simp

theorem rest_ending {ending : List Char} (hending : Ending ending) (location : Location) :
    rest location ending = ⟨[], none⟩ := by
  cases hending with
  | gap hgap =>
      have hrest := rest_gap hgap location []
      rwa [List.append_nil, rest_nil] at hrest
  | @comment gap body hgap hbody =>
      have hrest := @rest_comment body [] hbody (by simp) (location.advanceAll gap)
      rw [List.append_nil, rest_nil] at hrest
      rw [rest_gap hgap, hrest]

end Scan

/-- No token runs on into this text: it is empty or begins with a separator or a
comment. -/
def SetApart (cs : List Char) : Prop :=
  ∀ c ∈ cs.head?, isSeparator c = true ∨ c = '/'

theorem Gap.setApart {gap : List Char} (hgap : Gap gap) (hne : gap ≠ []) (cs : List Char) :
    SetApart (gap ++ cs) := by
  cases hgap with
  | nil => exact absurd rfl hne
  | separator hc _ => simp [SetApart, hc]
  | comment _ _ _ => simp [SetApart]

theorem Ending.setApart {ending : List Char} (hending : Ending ending) : SetApart ending := by
  have hgap : ∀ {gap : List Char}, Gap gap → ∀ {later}, SetApart later →
      SetApart (gap ++ later) := by
    intro gap hgap later hlater
    by_cases hnil : gap = []
    · rwa [hnil]
    · exact hgap.setApart hnil later
  cases hending with
  | @gap gap hending => simpa using hgap hending (show SetApart [] by simp [SetApart])
  | comment hending _ => exact hgap hending (by simp [SetApart])

namespace Piece

theorem first?_spelling {token : Token} {later : List Char}
    (htoken : token.isWritable = true) (hlater : SetApart later) :
    first? (token.spelling ++ later) = some (.token token, token.spelling.length) := by
  cases token with
  | identifier name =>
      have hnil : later.takeWhile Text.isIdentifierContinue = [] :=
        @takeWhile_append_eq _ [] later (by simp)
          fun c hc => (not_identifier ((hlater c hc).imp_right Or.inl)).2
      have hfirst := first?_identifier htoken later
      rwa [hnil, List.append_nil, String.ofList_toList] at hfirst
  | keyword word => cases word <;> rfl
  | colon | comma | semicolon | less | greater | equal | dot => rfl

end Piece

namespace Scan

theorem rest_spaced {tokens : List Token} {cs : List Char} (hspaced : Spaced tokens cs)
    (hwritable : ∀ token ∈ tokens, token.isWritable = true) (location : Location) :
    (rest location cs).tokens.map LocatedToken.token = tokens ∧
      (rest location cs).failure? = none := by
  induction hspaced generalizing location with
  | nil hending =>
      rw [rest_ending hending]
      exact ⟨rfl, rfl⟩
  | @cons token tokens gap cs hgap hne hspaced ih =>
      have hlater : SetApart (gap ++ cs) := by
        by_cases hnil : gap = []
        · have hlast : tokens = [] := Classical.not_not.mp fun hmore => hne hmore hnil
          subst hlast
          cases hspaced with
          | nil hending => exact hnil ▸ hending.setApart
        · exact hgap.setApart hnil cs
      have hfirst := Piece.first?_spelling (hwritable token List.mem_cons_self) hlater
      obtain ⟨htokens, hfailure⟩ := ih
        (fun other hother => hwritable other (List.mem_cons_of_mem token hother))
        ((location.advanceAll token.spelling).advanceAll gap)
      rw [List.append_assoc, rest_of_token hfirst, rest_gap hgap]
      exact ⟨congrArg (token :: ·) htokens, hfailure⟩

theorem ofText_spells {tokens : List Token} {cs : List Char} (hspells : Spells tokens cs)
    (hwritable : ∀ token ∈ tokens, token.isWritable = true) :
    (ofText (String.ofList cs)).tokens.map LocatedToken.token = tokens ∧
      (ofText (String.ofList cs)).failure? = none := by
  obtain ⟨gap, spaced, hgap, hspaced, rfl⟩ := hspells
  rw [ofText, String.toList_ofList, rest_gap hgap]
  exact rest_spaced hspaced hwritable _

end Scan

end OperatorPrecedence
