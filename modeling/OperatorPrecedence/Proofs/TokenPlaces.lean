import OperatorPrecedence.Proofs.SpacedTokens

/-!
Where the tokens of a text stand.  A scan cuts a text into gaps and tokens and loses
nothing: every place that it reports is the place after all the characters before it,
and between two places stands a token or a gap.
-/

namespace OperatorPrecedence

namespace Location

theorem byte_advanceAll (location : Location) (cs : List Char) :
    (location.advanceAll cs).byte = location.byte + cs.utf8Encode.size := by
  induction cs generalizing location with
  | nil => rfl
  | cons c cs ih =>
      have hc : (location.advance c).byte = location.byte + c.utf8Size := by
        by_cases hbreak : c = '\n' <;> simp [advance, hbreak]
      rw [advanceAll_cons, ih, hc, List.utf8Encode_cons, ByteArray.size_append]
      simp [List.utf8Encode_singleton, Nat.add_assoc]

end Location

/-- A run of characters stands between two places of a text that begins at `origin`. -/
def StandsAt (origin : Location) (text : List Char) (start stop : Location)
    (run : List Char) : Prop :=
  ∃ before after, text = before ++ run ++ after ∧ start = origin.advanceAll before ∧
    stop = origin.advanceAll (before ++ run)

namespace StandsAt

variable {origin start stop : Location} {text run : List Char}

theorem head (origin : Location) (run after : List Char) :
    StandsAt origin (run ++ after) origin (origin.advanceAll run) run :=
  ⟨[], after, rfl, rfl, rfl⟩

theorem behind {lead : List Char} (hrun : StandsAt (origin.advanceAll lead) text start stop run) :
    StandsAt origin (lead ++ text) start stop run := by
  obtain ⟨before, after, rfl, rfl, rfl⟩ := hrun
  refine ⟨lead ++ before, after, ?_, ?_, ?_⟩
  · simp only [List.append_assoc]
  · rw [Location.advanceAll_append]
  · rw [List.append_assoc, Location.advanceAll_append _ lead]

theorem byte_stop (hrun : StandsAt origin text start stop run) :
    stop.byte = start.byte + run.utf8Encode.size := by
  obtain ⟨before, after, -, rfl, rfl⟩ := hrun
  rw [Location.advanceAll_append, Location.byte_advanceAll]

theorem byte_lt (hrun : StandsAt origin text start stop run) (hne : run ≠ []) :
    start.byte < stop.byte := by
  obtain ⟨c, cs, rfl⟩ := List.exists_cons_of_ne_nil hne
  rw [hrun.byte_stop, List.utf8Encode_cons, ByteArray.size_append, List.utf8Encode_singleton]
  have hpos := c.utf8Size_pos
  simp only [List.size_toByteArray, String.length_utf8EncodeChar]
  omega

theorem byte_origin_le (hrun : StandsAt origin text start stop run) :
    origin.byte ≤ start.byte := by
  obtain ⟨before, after, -, rfl, -⟩ := hrun
  rw [Location.byte_advanceAll]
  exact Nat.le_add_right _ _

/-- The bytes between two places of a text are those of the run that stands there. -/
theorem extract_bytes {text : String} {start stop : Location} {run : List Char}
    (hrun : StandsAt Location.start text.toList start stop run) :
    text.toUTF8.extract start.byte stop.byte = (String.ofList run).toUTF8 := by
  have hstop := hrun.byte_stop
  obtain ⟨before, after, hsplit, rfl, -⟩ := hrun
  have hbytes : text.toByteArray = before.utf8Encode ++ (run.utf8Encode ++ after.utf8Encode) := by
    rw [← String.ofList_toList (s := text), hsplit, String.toByteArray_ofList, List.append_assoc,
      List.utf8Encode_append, List.utf8Encode_append]
  have hstart : (Location.start.advanceAll before).byte = before.utf8Encode.size + 0 := by
    rw [Location.byte_advanceAll]
    exact Nat.add_comm _ _
  rw [hstop, hstart, Nat.add_assoc, String.toUTF8_eq_toByteArray, String.toUTF8_eq_toByteArray,
    hbytes, String.toByteArray_ofList, ByteArray.extract_append_size_add]
  exact ByteArray.extract_append_eq_left (by simp)

end StandsAt

/-- A gap that begins with a line break goes on with a gap. -/
theorem Gap.tail_of_lineBreak {c : Char} {cs : List Char} (hgap : Gap (c :: cs))
    (hbreak : isLineBreak c = true) : Gap cs := by
  cases hgap with
  | separator _ hrest => exact hrest
  | comment _ _ _ => cases hbreak

theorem Gap.separators_append {run gap : List Char} (hrun : ∀ c ∈ run, isSeparator c = true)
    (hgap : Gap gap) : Gap (run ++ gap) := by
  induction run with
  | nil => exact hgap
  | cons c run ih =>
      obtain ⟨hc, hrun⟩ := List.forall_mem_cons.mp hrun
      exact .separator hc (ih hrun)

theorem Ending.separators_append {run ending : List Char}
    (hrun : ∀ c ∈ run, isSeparator c = true) (hending : Ending ending) :
    Ending (run ++ ending) := by
  cases hending with
  | gap hgap => exact .gap (hgap.separators_append hrun)
  | comment hgap hlast =>
      rw [← List.append_assoc]
      exact .comment (hgap.separators_append hrun) hlast

section Comments

variable {body : List Char} (hbody : ∀ c ∈ body, isLineBreak c = false)

include hbody

/-- A comment goes before a gap that begins with a line break, and before the end of a
text if that is empty or begins with a line break. -/
theorem Gap.comment_append {c : Char} {cs : List Char} (hgap : Gap (c :: cs))
    (hbreak : isLineBreak c = true) : Gap ('/' :: '/' :: body ++ c :: cs) :=
  .comment hbody hbreak (hgap.tail_of_lineBreak hbreak)

theorem Ending.comment_append {ending : List Char} (hending : Ending ending)
    (hhead : ∀ c ∈ ending.head?, isLineBreak c = true) :
    Ending ('/' :: '/' :: body ++ ending) := by
  cases hending with
  | gap hgap =>
      cases ending with
      | nil =>
          rw [List.append_nil]
          exact @Ending.comment [] body .nil hbody
      | cons c cs => exact .gap (hgap.comment_append hbody (hhead c rfl))
  | @comment gap last hgap hlast =>
      cases gap with
      | nil =>
          have hslash : isLineBreak '/' = true := hhead '/' rfl
          cases hslash
      | cons c cs =>
          rw [← List.append_assoc]
          exact .comment (hgap.comment_append hbody (hhead c rfl)) hlast

end Comments

namespace Piece

theorem ne_nil_of_first? {cs : List Char} {found : Piece × Nat}
    (hfirst : first? cs = some found) : cs ≠ [] := by
  rintro rfl
  cases hfirst

/-- A comment that is taken goes on to the end of its line. -/
theorem isLineBreak_of_first?_comment {body later : List Char}
    (hbody : ∀ c ∈ body, isLineBreak c = false)
    (hfirst : first? ('/' :: '/' :: body ++ later) =
      some (.skipped, ('/' :: '/' :: body).length)) :
    ∀ c ∈ later.head?, isLineBreak c = true := by
  cases later with
  | nil => exact nofun
  | cons d later =>
      rintro c ⟨⟩
      rw [← Bool.not_eq_false]
      intro hbreak
      have hsame := hfirst.symm.trans (first?_comment (body ++ d :: later))
      rw [List.takeWhile_append_of_pos (by simpa using hbody)] at hsame
      simp [hbreak] at hsame

/-- What is skipped before a gap makes a longer gap, if the gap ends where something
else than white space or a comment stands. -/
theorem Matches.gap_append {run gap later : List Char} (hmatches : Matches .skipped run)
    (hfirst : first? (run ++ (gap ++ later)) = some (.skipped, run.length)) (hgap : Gap gap)
    (hne : later ≠ []) (hlater : ∀ size, first? later ≠ some (.skipped, size)) :
    Gap (run ++ gap) := by
  cases hmatches with
  | blank _ hrun => exact hgap.separators_append hrun
  | comment hbody =>
      have hhead := isLineBreak_of_first?_comment hbody hfirst
      cases gap with
      | nil =>
          obtain ⟨c, cs, rfl⟩ := List.exists_cons_of_ne_nil hne
          have hc := isSeparator_of_isLineBreak (hhead c rfl)
          exact absurd (first?_separator hc cs) (hlater _)
      | cons c cs => exact hgap.comment_append hbody (hhead c rfl)

theorem Matches.ending_append {run ending : List Char} (hmatches : Matches .skipped run)
    (hfirst : first? (run ++ ending) = some (.skipped, run.length)) (hending : Ending ending) :
    Ending (run ++ ending) := by
  cases hmatches with
  | blank _ hrun => exact hending.separators_append hrun
  | comment hbody =>
      exact hending.comment_append hbody (isLineBreak_of_first?_comment hbody hfirst)

end Piece

namespace Scan

def finish (scan : Scan) (origin : Location) (cs : List Char) : Location :=
  scan.failure?.getD (origin.advanceAll cs)

/-- The places between which no token stands: from the beginning to the first token,
from each token to the next, and from the last one to where the scan comes to. -/
def outside (origin finish : Location) : List LocatedToken → List (Location × Location)
  | [] => [(origin, finish)]
  | located :: later => (origin, located.start) :: outside located.stop finish later

/-- How a text is made of the tokens that a scan finds in it: a gap stands before each
token, and the last token is followed by the end of the text or by a gap and a place
where no piece begins. -/
inductive Covers : Location → List Char → Scan → Prop where
  | ended {location : Location} {ending : List Char} :
      Ending ending → Covers location ending ⟨[], none⟩
  | stuck {location : Location} {gap later : List Char} :
      Gap gap → later ≠ [] → Piece.first? later = none →
        Covers location (gap ++ later) ⟨[], some (location.advanceAll gap)⟩
  | token {location : Location} {gap later : List Char} {token : Token} {scan : Scan} :
      Gap gap → token.isWritable = true →
        Piece.first? (token.spelling ++ later) = some (.token token, token.spelling.length) →
        Covers ((location.advanceAll gap).advanceAll token.spelling) later scan →
          Covers location (gap ++ (token.spelling ++ later))
            ⟨⟨location.advanceAll gap, token,
                (location.advanceAll gap).advanceAll token.spelling⟩ :: scan.tokens,
              scan.failure?⟩

/-- What is skipped joins the first gap. -/
theorem Covers.skipped_append {location : Location} {run later : List Char} {scan : Scan}
    (hmatches : Piece.Matches .skipped run)
    (hfirst : Piece.first? (run ++ later) = some (.skipped, run.length))
    (hcovers : Covers (location.advanceAll run) later scan) :
    Covers location (run ++ later) scan := by
  cases hcovers with
  | ended hending => exact .ended (hmatches.ending_append hfirst hending)
  | stuck hgap hne hnone =>
      have hlonger := hmatches.gap_append hfirst hgap hne (by simp [hnone])
      rw [← List.append_assoc, ← Location.advanceAll_append]
      exact .stuck hlonger hne hnone
  | @token _ gap later token scan hgap htoken hsome hcovers =>
      have hlonger := hmatches.gap_append hfirst hgap (Piece.ne_nil_of_first? hsome)
        (by simp [hsome])
      rw [← Location.advanceAll_append location] at hcovers ⊢
      rw [← List.append_assoc]
      exact .token hlonger htoken hsome hcovers

theorem covers_rest (location : Location) (cs : List Char) :
    Covers location cs (rest location cs) := by
  induction cs using Piece.piecewise generalizing location with
  | stuck cs hnone =>
      rw [rest_of_stuck hnone]
      cases cs with
      | nil => exact .ended (.gap .nil)
      | cons c cs => exact .stuck .nil (List.cons_ne_nil c cs) hnone
  | piece first run later hmatches hfirst ih =>
      cases first with
      | skipped =>
          rw [rest_of_skipped hfirst]
          exact (ih _).skipped_append hmatches hfirst
      | token token =>
          rw [rest_of_token hfirst]
          cases hmatches with
          | token htoken => exact .token .nil htoken hfirst (ih _)

namespace Covers

variable {location : Location} {cs : List Char} {scan : Scan}

theorem standsAt (hcovers : Covers location cs scan) :
    ∀ located ∈ scan.tokens,
      StandsAt location cs located.start located.stop located.token.spelling := by
  induction hcovers with
  | ended | stuck => exact List.forall_mem_nil _
  | @token location gap later token scan hgap htoken hfirst hcovers ih =>
      intro located hmem
      rcases List.mem_cons.mp hmem with rfl | hmem
      · exact (StandsAt.head _ token.spelling later).behind
      · exact (ih located hmem).behind.behind

theorem pairwise (hcovers : Covers location cs scan) :
    scan.tokens.Pairwise fun earlier later => earlier.stop.byte ≤ later.start.byte := by
  induction hcovers with
  | ended | stuck => exact List.Pairwise.nil
  | token hgap htoken hfirst hcovers ih =>
      apply List.Pairwise.cons _ ih
      intro located hmem
      exact (hcovers.standsAt located hmem).byte_origin_le

/-- Where a scan stops short of the end, no rule takes a run. -/
theorem failure (hcovers : Covers location cs scan) :
    ∀ place ∈ scan.failure?, ∃ before after, cs = before ++ after ∧
      place = location.advanceAll before ∧ after ≠ [] ∧
        ∀ piece run later, after = run ++ later → ¬Piece.Matches piece run := by
  induction hcovers with
  | ended => exact nofun
  | @stuck location gap later hgap hne hnone =>
      rintro place ⟨⟩
      exact ⟨gap, later, rfl, rfl, hne, (Piece.first?_eq_none_iff later).mp hnone⟩
  | @token location gap later token scan hgap htoken hfirst hcovers ih =>
      intro place hplace
      obtain ⟨before, after, rfl, rfl, hafter⟩ := ih place hplace
      refine ⟨gap ++ (token.spelling ++ before), after, ?_, ?_, hafter⟩
      · simp only [List.append_assoc]
      · rw [Location.advanceAll_append, Location.advanceAll_append]

/-- What stands outside of the tokens is skipped. -/
theorem gaps (hcovers : Covers location cs scan) :
    ∀ places ∈ outside location (scan.finish location cs) scan.tokens, ∃ run,
      StandsAt location cs places.1 places.2 run ∧
        (Gap run ∨ Ending run ∧ places.2 = location.advanceAll cs) := by
  induction hcovers with
  | @ended location ending hending =>
      intro places hmem
      rcases List.mem_singleton.mp hmem with rfl
      refine ⟨ending, ?_, Or.inr ⟨hending, rfl⟩⟩
      simpa [finish] using StandsAt.head location ending []
  | @stuck location gap later hgap hne hnone =>
      intro places hmem
      rcases List.mem_singleton.mp hmem with rfl
      exact ⟨gap, StandsAt.head location gap later, Or.inl hgap⟩
  | @token location gap later token scan hgap htoken hfirst hcovers ih =>
      intro places hmem
      rcases List.mem_cons.mp hmem with rfl | hmem
      · exact ⟨gap, StandsAt.head location gap _, Or.inl hgap⟩
      -- The later places are those of a text that begins behind the token.
      · have hend : location.advanceAll (gap ++ (token.spelling ++ later)) =
            ((location.advanceAll gap).advanceAll token.spelling).advanceAll later := by
          rw [Location.advanceAll_append, Location.advanceAll_append]
        rw [hend]
        rw [finish, hend] at hmem
        obtain ⟨run, hrun, hkind⟩ := ih places hmem
        exact ⟨run, hrun.behind.behind, hkind⟩

end Covers

/-- A token by itself is not empty, and a scan finds it and nothing else. -/
theorem ofText_spelling {token : Token} (htoken : token.isWritable = true) :
    token.spelling ≠ [] ∧ ofText (String.ofList token.spelling) =
      ⟨[⟨Location.start, token, Location.start.advanceAll token.spelling⟩], none⟩ := by
  have hfirst := @Piece.first?_spelling token [] htoken (by simp [SetApart])
  have hrest := rest_of_token hfirst Location.start
  rw [List.append_nil] at hfirst hrest
  constructor
  · exact Piece.ne_nil_of_first? hfirst
  · rw [ofText, String.toList_ofList, hrest, rest_nil]

/-- A scan loses nothing and its places are exact.  Each token is what stands in the
text between its places, it is not empty, and a scan of it alone finds it and nothing
else.  The tokens stand one behind the other.  Outside of them stand white space and
comments, up to the end of the text or to the place where the scan stops.  There no
rule takes a run.  Every place is the place after all the characters before it. -/
theorem ofText_exact (text : String) :
    (∀ located ∈ (ofText text).tokens,
      StandsAt Location.start text.toList located.start located.stop located.token.spelling ∧
      located.start.byte < located.stop.byte ∧
      text.toUTF8.extract located.start.byte located.stop.byte =
        (String.ofList located.token.spelling).toUTF8 ∧
      ofText (String.ofList located.token.spelling) =
        ⟨[⟨Location.start, located.token,
            Location.start.advanceAll located.token.spelling⟩], none⟩) ∧
    (ofText text).tokens.Pairwise (fun earlier later =>
      earlier.stop.byte ≤ later.start.byte) ∧
    (∀ places ∈ outside Location.start ((ofText text).finish Location.start text.toList)
        (ofText text).tokens,
      ∃ run, StandsAt Location.start text.toList places.1 places.2 run ∧
        (Gap run ∨ Ending run ∧ places.2 = Location.start.advanceAll text.toList)) ∧
    ∀ place ∈ (ofText text).failure?, ∃ before after, text.toList = before ++ after ∧
      place = Location.start.advanceAll before ∧ after ≠ [] ∧
        ∀ piece run later, after = run ++ later → ¬Piece.Matches piece run := by
  have hcovers := covers_rest Location.start text.toList
  refine ⟨?_, hcovers.pairwise, hcovers.gaps, hcovers.failure⟩
  intro located hmem
  have hstands := hcovers.standsAt located hmem
  obtain ⟨hne, halone⟩ := ofText_spelling (isWritable_of_mem_rest located hmem)
  exact ⟨hstands, hstands.byte_lt hne, hstands.extract_bytes, halone⟩

/-- A wide letter, a tab, a letter of two bytes in a comment, both ends of a line, and a
keyword that is not finished. -/
def unfinishedText : String :=
  "漢\t: // é\r\n@ro"

/-- The scan stops where the keyword begins, not where it breaks off. -/
theorem unfinished_ofText_exact :
    ofText unfinishedText =
      ⟨[⟨⟨0, 0, 0⟩, .identifier "漢", ⟨0, 2, 3⟩⟩, ⟨⟨0, 6, 4⟩, .colon, ⟨0, 7, 5⟩⟩],
        some ⟨1, 0, 13⟩⟩ ∧
    unfinishedText.toUTF8.extract 4 5 = ":".toUTF8 ∧
    (∃ run, StandsAt Location.start unfinishedText.toList ⟨0, 7, 5⟩ ⟨1, 0, 13⟩ run ∧ Gap run) ∧
    ∃ before after, unfinishedText.toList = before ++ after ∧
      ⟨1, 0, 13⟩ = Location.start.advanceAll before ∧ after ≠ [] ∧
        ∀ piece run later, after = run ++ later → ¬Piece.Matches piece run := by
  have hscan : ofText unfinishedText =
      ⟨[⟨⟨0, 0, 0⟩, .identifier "漢", ⟨0, 2, 3⟩⟩, ⟨⟨0, 6, 4⟩, .colon, ⟨0, 7, 5⟩⟩],
        some ⟨1, 0, 13⟩⟩ := by
    decide +kernel
  have hend : (⟨1, 0, 13⟩ : Location) ≠ Location.start.advanceAll unfinishedText.toList := by
    decide +kernel
  obtain ⟨htokens, -, hgaps, hfailure⟩ := ofText_exact unfinishedText
  rw [hscan] at htokens hgaps hfailure
  refine ⟨hscan, ?_, ?_, hfailure _ rfl⟩
  · exact (htokens ⟨⟨0, 6, 4⟩, .colon, ⟨0, 7, 5⟩⟩ (by simp)).2.2.1
  · obtain ⟨run, hrun, hkind⟩ := hgaps (⟨0, 7, 5⟩, ⟨1, 0, 13⟩) (by simp [outside, finish])
    exact ⟨run, hrun, hkind.resolve_right fun hending => hend hending.2⟩

end Scan

end OperatorPrecedence
