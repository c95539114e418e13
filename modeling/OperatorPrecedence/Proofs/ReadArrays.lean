import OperatorPrecedence.Proofs.CasedNames
import OperatorPrecedence.Proofs.LaidOutValues
import OperatorPrecedence.Proofs.SeparatedTexts

/-!
Reading arrays back.  From the text of a listing, in whatever format, its two lists can
be read off again, and where the format has room for them also the symbols and the name
in the case of the language.  So texts that are equal come from equal lists.
-/

namespace OperatorPrecedence

open Text

/-- An array as a text declares it. -/
structure ArrayText where
  name : String
  length : Nat
  elements : List Nat
deriving Repr, DecidableEq

/-- Two arrays under a comment with the symbols of their places. -/
structure ArraysText where
  symbols : List String
  f : ArrayText
  g : ArrayText
deriving Repr, DecidableEq

/-- How a language writes two arrays under a comment. -/
structure ArrayLayout where
  /-- The case in which names are written. -/
  spell : String → String
  letter : Role → String
  commentOpening : String
  /-- What stands between the symbols and the end of the comment. -/
  padding : String
  commentClosing : String
  /-- What stands between the comment and the first array. -/
  afterComment : String
  opening : String
  lengthOpening : String
  lengthClosing : String
  closing : String

namespace ArrayLayout

def rust : ArrayLayout where
  spell := upper
  letter := Role.name
  commentOpening := "//"
  padding := ""
  commentClosing := "\n"
  afterComment := ""
  opening := "pub static "
  lengthOpening := ": [u32; "
  lengthClosing := "] = ["
  closing := "];\n"

def c : ArrayLayout where
  spell := lower
  letter := Role.text
  commentOpening := "/*"
  padding := " "
  commentClosing := "*/"
  afterComment := "\n"
  opening := "static const int "
  lengthOpening := "["
  lengthClosing := "] = \x7b"
  closing := "\x7d;\n"

variable (layout : ArrayLayout)

def comment (symbols : List String) : String :=
  " " ++ ", ".intercalate symbols ++ layout.padding

def write (array : ArrayText) : String :=
  layout.opening ++ array.name ++ layout.lengthOpening ++ toString array.length ++
    layout.lengthClosing ++ ", ".intercalate (array.elements.map toString) ++ layout.closing

def writeAll (arrays : ArraysText) : String :=
  layout.commentOpening ++ layout.comment arrays.symbols ++ layout.commentClosing ++
    layout.afterComment ++ layout.write arrays.f ++ layout.write arrays.g

def read? (text : List Char) : Option (ArrayText × List Char) := do
  let text ← text.dropPrefix? layout.opening.toList
  let (name, text) ← text.dropInfix? layout.lengthOpening.toList
  let (length, text) ← text.dropInfix? layout.lengthClosing.toList
  let (elements, text) ← text.dropInfix? layout.closing.toList
  return (⟨String.ofList name, number length, (words elements).map number⟩, text)

def readAll? (text : String) : Option ArraysText := do
  let text ← text.toList.dropPrefix? layout.commentOpening.toList
  let (comment, text) ← text.dropInfix? layout.commentClosing.toList
  let text ← text.dropPrefix? layout.afterComment.toList
  let (f, text) ← layout.read? text
  let (g, text) ← layout.read? text
  if text = [] then return ⟨(words comment).map String.ofList, f, g⟩ else none

/-- A mark begins with a character that a text does not have. -/
def Ends (mark : String) (text : List Char) : Prop :=
  ∃ first rest, mark.toList = first :: rest ∧ first ∉ text

variable {layout}

theorem Ends.dropInfix? {mark : String} {text : List Char} (hends : Ends mark text)
    (rest : List Char) :
    (text ++ (mark.toList ++ rest)).dropInfix? mark.toList = some (text, rest) := by
  obtain ⟨first, later, hmark, hfresh⟩ := hends
  rw [hmark, ← List.append_assoc]
  exact dropInfix?_of_not_mem hfresh

/-- The first place where a mark stands is behind a text that it ends. -/
theorem Ends.length_le {mark text : String} (hends : Ends mark text.toList)
    {rest before after : String} (hsplit : text ++ mark ++ rest = before ++ mark ++ after) :
    text.length ≤ before.length := by
  obtain ⟨first, later, hmark, hfresh⟩ := hends
  have hchars := congrArg String.toList hsplit
  simp only [String.toList_append, hmark] at hchars
  rw [← String.length_toList, ← String.length_toList]
  exact length_le_of_not_mem hfresh hchars

/-- Each part of an array ends where the mark behind it stands. -/
structure Tells (layout : ArrayLayout) (array : ArrayText) : Prop where
  name : Ends layout.lengthOpening array.name.toList
  length : Ends layout.lengthClosing (toString array.length).toList
  elements : Ends layout.closing (", ".intercalate (array.elements.map toString)).toList

theorem words_numbers (values : List Nat) :
    (words (", ".intercalate (values.map toString)).toList).map number = values := by
  have hwords : ∀ text ∈ values.map toString, IsWord text.toList :=
    List.forall_mem_map.mpr fun value _ => isWord_toString value
  have hread := words_intercalate hwords (List.forall_mem_nil _) (List.forall_mem_nil _)
  rw [List.nil_append, List.append_nil] at hread
  rw [hread, List.map_map, List.map_map]
  exact List.map_id'' number_toString values

theorem read?_write {array : ArrayText} (htells : layout.Tells array) (rest : List Char) :
    layout.read? ((layout.write array).toList ++ rest) = some (array, rest) := by
  have hname := htells.name.dropInfix?
  have hlength := htells.length.dropInfix?
  have helements := htells.elements.dropInfix?
  simp only [write, String.toList_append, List.append_assoc]
  simp only [read?, dropPrefix?_append, hname, hlength, helements, Option.bind_eq_bind,
    Option.bind_some, String.ofList_toList, number_toString, words_numbers]
  rfl

theorem words_comment {symbols : List String}
    (hsymbols : ∀ symbol ∈ symbols, isLabel symbol = true)
    (hpadding : ∀ c ∈ layout.padding.toList, c = ' ') :
    (words (layout.comment symbols).toList).map String.ofList = symbols := by
  have hwords : ∀ symbol ∈ symbols, IsWord symbol.toList :=
    fun symbol hsymbol => isWord_of_isLabel (hsymbols symbol hsymbol)
  have hspace : ∀ c ∈ " ".toList, c = ' ' := fun c hc => List.mem_singleton.mp hc
  rw [comment, String.toList_append, String.toList_append,
    words_intercalate hwords hspace hpadding, List.map_map]
  exact List.map_id'' (fun symbol => String.ofList_toList) symbols

theorem readAll?_writeAll {arrays : ArraysText}
    (hsymbols : ∀ symbol ∈ arrays.symbols, isLabel symbol = true)
    (hpadding : ∀ c ∈ layout.padding.toList, c = ' ')
    (hcomment : Ends layout.commentClosing (layout.comment arrays.symbols).toList)
    (hf : layout.Tells arrays.f) (hg : layout.Tells arrays.g) :
    layout.readAll? (layout.writeAll arrays) = some arrays := by
  have hrest := read?_write hg []
  rw [List.append_nil] at hrest
  simp only [writeAll, readAll?, String.toList_append, List.append_assoc, dropPrefix?_append,
    hcomment.dropInfix?, read?_write hf, hrest, words_comment hsymbols hpadding,
    Option.bind_eq_bind, Option.bind_some, ↓reduceIte]
  rfl

example : ArrayLayout.c.readAll?
    "/* id, end */\nstatic const int f[2] = \x7b2, 0\x7d;\nstatic const int g[2] = \x7b3, 0\x7d;\n" =
      some ⟨["id", "end"], ⟨"f", 2, [2, 0]⟩, ⟨"g", 2, [3, 0]⟩⟩ := by
  cbv

/-- A mark ends every text that its first character does not come up in. -/
theorem ends_of_head? {mark : String} {isOutside : Char → Bool}
    (hmark : mark.toList.head?.any isOutside = true) {text : List Char}
    (htext : ∀ c, isOutside c = true → c ∉ text) : Ends mark text := by
  cases hchars : mark.toList with
  | nil => simp [hchars] at hmark
  | cons first rest =>
      rw [hchars] at hmark
      exact ⟨first, rest, hchars, htext first hmark⟩

theorem ends_toString {mark : String} (hmark : mark.toList.head?.any isOutsideNumbers = true)
    (value : Nat) : Ends mark (toString value).toList := by
  apply ends_of_head? hmark
  intro c hc
  have hvalue := not_mem_numbers hc [value]
  rwa [List.map_singleton, String.intercalate_singleton] at hvalue

theorem ends_numbers {mark : String} (hmark : mark.toList.head?.any isOutsideNumbers = true)
    (values : List Nat) : Ends mark (", ".intercalate (values.map toString)).toList :=
  ends_of_head? hmark fun _ hc => not_mem_numbers hc values

theorem ends_comment (hmark : layout.commentClosing.toList.head?.any isOutsideLabels = true)
    (hpadding : ∀ c ∈ layout.padding.toList, c = ' ') {symbols : List String}
    (hsymbols : ∀ symbol ∈ symbols, isLabel symbol = true) :
    Ends layout.commentClosing (layout.comment symbols).toList := by
  apply ends_of_head? hmark
  intro c hc
  have hspace : c ≠ ' ' := by
    rintro rfl
    simp [isOutsideLabels] at hc
  rw [comment, String.toList_append, String.toList_append]
  simp only [List.mem_append, not_or]
  refine ⟨⟨?_, not_mem_labels hc hsymbols⟩, fun hmem => hspace (hpadding c hmem)⟩
  exact fun hmem => hspace (List.mem_singleton.mp hmem)

end ArrayLayout

/-- The layout of a format, if it is that of a language. -/
def ArrayFormat.layout? : ArrayFormat → Option ArrayLayout
  | .plain => none
  | .rust => some .rust
  | .c => some .c

namespace Listing

/-- What the text of a listing says in the layout of a language. -/
def arrays (listing : Listing) (layout : ArrayLayout) (name? : Option String) : ArraysText where
  symbols := listing.symbols
  f := ⟨arrayName (name?.map layout.spell) (layout.letter .f), listing.size, listing.f⟩
  g := ⟨arrayName (name?.map layout.spell) (layout.letter .g), listing.size, listing.g⟩

theorem rustText_eq (listing : Listing) (name? : Option String) :
    listing.rustText name? = ArrayLayout.rust.writeAll (listing.arrays .rust name?) := by
  apply String.toList_inj.mp
  simp [rustText, ArrayLayout.writeAll, ArrayLayout.write, ArrayLayout.comment, ArrayLayout.rust,
    arrays, listText, Role.name]

theorem cText_eq (listing : Listing) (name? : Option String) :
    listing.cText name? = ArrayLayout.c.writeAll (listing.arrays .c name?) := by
  apply String.toList_inj.mp
  simp [cText, ArrayLayout.writeAll, ArrayLayout.write, ArrayLayout.comment, ArrayLayout.c,
    arrays, listText, Role.text]

theorem render_eq_ok_iff (listing : Listing) (format : ArrayFormat) (name? : Option String)
    (text : String) :
    listing.render format name? = .ok text ↔
      (∀ name ∈ name?, isLabel name = true) ∧
        text = format.layout?.elim listing.text fun layout =>
          layout.writeAll (listing.arrays layout name?) := by
  have hrefused : name?.filter (fun name => !isLabel name) = none ↔
      ∀ name ∈ name?, isLabel name = true := by
    simp [Option.filter_eq_none_iff]
  unfold render
  rw [← hrefused]
  cases name?.filter fun name => !isLabel name with
  | some name => simp
  | none =>
      cases format <;>
        simp [ArrayFormat.layout?, rustText_eq, cText_eq, eq_comm]

theorem not_mem_arrayName {c : Char} {name? : Option String} {letter : String}
    (hname : ∀ name ∈ name?, c ∉ name.toList) (hunderscore : c ≠ '_')
    (hletter : c ∉ letter.toList) : c ∉ (arrayName name? letter).toList := by
  cases name? with
  | none => exact hletter
  | some name =>
      simp only [arrayName, String.toList_append, List.mem_append, not_or]
      refine ⟨⟨hname name rfl, ?_⟩, hletter⟩
      exact fun hmem => hunderscore (List.mem_singleton.mp hmem)

theorem length_toList_arrayName (name letter : String) :
    letter.toList.length < (arrayName (some name) letter).toList.length := by
  have hunderscore : "_".toList.length = 1 := by decide
  simp only [arrayName, String.toList_append, List.length_append, hunderscore]
  omega

theorem arrayName_injective (letter : String) :
    Function.Injective fun name? => arrayName name? letter := by
  intro name? other? heq
  have hchars := congrArg String.toList heq
  cases name? with
  | none =>
      cases other? with
      | none => rfl
      | some other =>
          have hlonger := length_toList_arrayName other letter
          rw [← hchars] at hlonger
          exact absurd hlonger (Nat.lt_irrefl _)
  | some name =>
      cases other? with
      | none =>
          have hlonger := length_toList_arrayName name letter
          rw [hchars] at hlonger
          exact absurd hlonger (Nat.lt_irrefl _)
      | some other =>
          simp only [arrayName, String.toList_append, List.append_assoc] at hchars
          rw [String.toList_inj.mp (List.append_cancel_right hchars)]

theorem forall_mem_map_spell {c : Char} {spell : String → String} {name? : Option String}
    (hspell : ∀ name, isLabel name = true → c ∉ (spell name).toList)
    (hname : ∀ name ∈ name?, isLabel name = true) :
    ∀ spelled ∈ name?.map spell, c ∉ spelled.toList := by
  intro spelled hspelled
  obtain ⟨name, hmem, rfl⟩ := Option.map_eq_some_iff.mp hspelled
  exact hspell name (hname name hmem)

/-- The parts of an array can be told apart, whatever label it is named after. -/
theorem tells_array {format : ArrayFormat} {layout : ArrayLayout}
    (hlayout : format.layout? = some layout) {name? : Option String}
    (hname : ∀ name ∈ name?, isLabel name = true) (role : Role) (length : Nat)
    (elements : List Nat) :
    layout.Tells ⟨arrayName (name?.map layout.spell) (layout.letter role), length, elements⟩ := by
  cases format with
  | plain => cases hlayout
  | rust =>
      cases hlayout
      -- The length begins with a colon, and no letter is one in upper case.
      have hspell : ∀ name, isLabel name = true → ':' ∉ (upper name).toList := by
        intro name hlabel
        apply not_mem_upper (by decide) (by decide)
        exact not_mem_of_isLabel (by decide +kernel) hlabel
      refine ⟨⟨':', " [u32; ".toList, by decide, ?_⟩, ArrayLayout.ends_toString (by decide) length,
        ArrayLayout.ends_numbers (by decide) elements⟩
      apply not_mem_arrayName (forall_mem_map_spell hspell hname) (by decide)
      cases role <;> decide
  | c =>
      cases hlayout
      have hspell : ∀ name, isLabel name = true → '[' ∉ (lower name).toList := by
        intro name hlabel
        apply not_mem_lower (by decide) (by decide)
        exact not_mem_of_isLabel (by decide +kernel) hlabel
      refine ⟨⟨'[', [], by decide, ?_⟩, ArrayLayout.ends_toString (by decide) length,
        ArrayLayout.ends_numbers (by decide) elements⟩
      apply not_mem_arrayName (forall_mem_map_spell hspell hname) (by decide)
      cases role <;> decide

/-- A listing whose symbols are labels and have a value of each function. -/
structure Regular (listing : Listing) : Prop where
  isLabel : ∀ symbol ∈ listing.symbols, isLabel symbol = true
  length_f : listing.f.length = listing.size
  length_g : listing.g.length = listing.size

theorem padding_of_layout? {format : ArrayFormat} {layout : ArrayLayout}
    (hlayout : format.layout? = some layout) : ∀ c ∈ layout.padding.toList, c = ' ' := by
  intro c hc
  cases format with
  | plain => cases hlayout
  | rust =>
      cases hlayout
      exact absurd hc List.not_mem_nil
  | c =>
      cases hlayout
      exact List.mem_singleton.mp hc

/-- The comment on the symbols of a listing ends where the mark for its end stands. -/
theorem Regular.ends_comment {listing : Listing} (hregular : listing.Regular)
    {format : ArrayFormat} {layout : ArrayLayout} (hlayout : format.layout? = some layout) :
    ArrayLayout.Ends layout.commentClosing (layout.comment listing.symbols).toList := by
  have hmark : layout.commentClosing.toList.head?.any isOutsideLabels = true := by
    cases format <;> cases hlayout <;> decide +kernel
  exact ArrayLayout.ends_comment hmark (padding_of_layout? hlayout) hregular.isLabel

/-- What a text in the layout of a language says is what the listing says. -/
theorem Regular.readAll?_render {listing : Listing} (hregular : listing.Regular)
    {format : ArrayFormat} {layout : ArrayLayout} (hlayout : format.layout? = some layout)
    {name? : Option String} {text : String} (hrender : listing.render format name? = .ok text) :
    layout.readAll? text = some (listing.arrays layout name?) := by
  obtain ⟨hname, htext⟩ := (listing.render_eq_ok_iff format name? text).mp hrender
  rw [hlayout, Option.elim_some] at htext
  have hcomment := hregular.ends_comment hlayout
  have hpadding := padding_of_layout? hlayout
  have hf := tells_array hlayout hname .f listing.size listing.f
  have hg := tells_array hlayout hname .g listing.size listing.g
  rw [htext]
  exact ArrayLayout.readAll?_writeAll hregular.isLabel hpadding hcomment hf hg

/-- The two lists of numbers in the plain lines. -/
def readLines? (text : String) : Option (List Nat × List Nat) := do
  let text ← text.toList.dropPrefix? "f = [".toList
  let (f, text) ← text.dropInfix? "]\ng = [".toList
  let (g, _) ← text.dropInfix? "]\n".toList
  return ((words f).map number, (words g).map number)

theorem readLines?_text (listing : Listing) :
    readLines? listing.text = some (listing.f, listing.g) := by
  have hf : ArrayLayout.Ends "]\ng = [" _ := ArrayLayout.ends_numbers (by decide) listing.f
  have hg : ArrayLayout.Ends "]\n" _ := ArrayLayout.ends_numbers (by decide) listing.g
  have htext : listing.text.toList = "f = [".toList ++
      ((", ".intercalate (listing.f.map toString)).toList ++ ("]\ng = [".toList ++
        ((", ".intercalate (listing.g.map toString)).toList ++ ("]\n".toList ++ [])))) := by
    simp [text, listText]
  rw [readLines?, htext]
  simp only [dropPrefix?_append, hf.dropInfix?, hg.dropInfix?, ArrayLayout.words_numbers,
    Option.bind_eq_bind, Option.bind_some]
  rfl

theorem ofFunctions_eq_ok {functions : PrecedenceFunctions} {classes : Classes}
    {order? : Option (List String)} {listing : Listing}
    (hlisting : ofFunctions functions classes order? = .ok listing) :
    (∀ symbol ∈ listing.symbols, functions.get? symbol ≠ none) ∧
      listing = laidOut functions listing.symbols := by
  unfold ofFunctions at hlisting
  dsimp only at hlisting
  split at hlisting
  · cases hlisting
  · rename_i symbols hsymbols
    rw [valuesOf_eq] at hlisting
    cases hunvalued : unvalued? functions symbols with
    | some symbol => simp [hunvalued] at hlisting
    | none =>
        simp only [hunvalued, Except.ok.injEq] at hlisting
        subst hlisting
        exact ⟨(unvalued?_eq_none_iff functions symbols).mp hunvalued, rfl⟩

/-- A listing of the functions that a table has. -/
def OfSolution (listing : Listing) : Prop :=
  ∃ (matrix : Matrix) (groups : Groups) (solution : Solution matrix.size) (classes : Classes)
    (order? : Option (List String)), matrix.solve groups = .ok solution ∧
      ofFunctions solution.functions classes order? = .ok listing

theorem OfSolution.regular {listing : Listing} (hlisting : listing.OfSolution) :
    listing.Regular := by
  obtain ⟨matrix, groups, solution, classes, order?, hsolve, hlaid⟩ := hlisting
  have hvalid := Matrix.valid_of_solve hsolve
  obtain ⟨hvalues, heq⟩ := ofFunctions_eq_ok hlaid
  obtain ⟨hf, hg, -⟩ := values_at hvalues
  rw [← heq] at hf hg
  refine ⟨?_, hf, hg⟩
  intro symbol hsymbol
  apply Classes.isLabel_of_mem_symbols hvalid.classes
  rw [← hvalid.symbols]
  by_contra hunknown
  exact hvalues symbol hsymbol ((PrecedenceFunctions.get?_eq_none_iff _ _).mpr hunknown)

/-- Renderings can be read back.  Equal texts in one format come from equal lists, and in
the formats of languages from equal symbols and from names that are the same in the case
of the language, or are both absent.  Such a text says how long each of its arrays is, and
that is how many elements the array has and how many symbols stand in the comment, which
ends nowhere before its end. -/
theorem render_reads_back :
    (∀ (s t : Listing) (format : ArrayFormat) (name? other? : Option String) (text : String),
      s.OfSolution → t.OfSolution →
      s.render format name? = .ok text → t.render format other? = .ok text →
        s.f = t.f ∧ s.g = t.g ∧ ∀ layout, format.layout? = some layout →
          s.symbols = t.symbols ∧ name?.map layout.spell = other?.map layout.spell) ∧
    ∀ (s : Listing) (format : ArrayFormat) (layout : ArrayLayout) (name? : Option String)
      (text : String), s.OfSolution → format.layout? = some layout →
      s.render format name? = .ok text →
        ∃ arrays, layout.readAll? text = some arrays ∧ arrays = s.arrays layout name? ∧
          (∀ array ∈ [arrays.f, arrays.g], array.length = array.elements.length ∧
            array.length = arrays.symbols.length) ∧
          ∃ rest, text = layout.commentOpening ++ layout.comment arrays.symbols ++
              layout.commentClosing ++ rest ∧
            ∀ before after, layout.comment arrays.symbols ++ layout.commentClosing ++ rest =
                before ++ layout.commentClosing ++ after →
              (layout.comment arrays.symbols).length ≤ before.length := by
  constructor
  · intro s t format name? other? text hs ht hrender hother
    cases hlayout : format.layout? with
    | none =>
        obtain ⟨-, htext⟩ := (s.render_eq_ok_iff format name? text).mp hrender
        obtain ⟨-, hsame⟩ := (t.render_eq_ok_iff format other? text).mp hother
        rw [hlayout, Option.elim_none] at htext hsame
        have hread := s.readLines?_text
        rw [← htext, hsame, t.readLines?_text, Option.some.injEq, Prod.mk.injEq] at hread
        exact ⟨hread.1.symm, hread.2.symm, by simp⟩
    | some layout =>
        have hread := hs.regular.readAll?_render hlayout hrender
        rw [ht.regular.readAll?_render hlayout hother, Option.some.injEq] at hread
        -- Both listings say what is read off the one text.
        have hf := congrArg (fun arrays => arrays.f.elements) hread
        have hg := congrArg (fun arrays => arrays.g.elements) hread
        have hname := congrArg (fun arrays => arrays.f.name) hread
        refine ⟨hf.symm, hg.symm, ?_⟩
        rintro found hfound
        cases hfound
        exact ⟨(congrArg ArraysText.symbols hread).symm,
          (arrayName_injective (layout.letter .f) hname).symm⟩
  · intro s format layout name? text hs hlayout hrender
    have hregular := hs.regular
    refine ⟨_, hregular.readAll?_render hlayout hrender, rfl, ?_, ?_⟩
    · intro array harray
      rcases List.mem_pair.mp harray with rfl | rfl
      · exact ⟨hregular.length_f.symm, rfl⟩
      · exact ⟨hregular.length_g.symm, rfl⟩
    · obtain ⟨-, htext⟩ := (s.render_eq_ok_iff format name? text).mp hrender
      rw [hlayout, Option.elim_some] at htext
      refine ⟨layout.afterComment ++ layout.write (s.arrays layout name?).f ++
        layout.write (s.arrays layout name?).g, ?_, ?_⟩
      · simp only [htext, ArrayLayout.writeAll, String.append_assoc]
      · intro before after hsplit
        exact (hregular.ends_comment hlayout).length_le hsplit

theorem brackets_render_reads_back :
    ∃ (listing : Listing) (text : String), listing.OfSolution ∧
      listing.render .rust (some "prec") = .ok text ∧
      ArrayLayout.rust.readAll? text = some (listing.arrays .rust (some "prec")) ∧
      ∀ other?, listing.render .rust other? = .ok text →
        other?.map upper = some (upper "prec") := by
  obtain ⟨solution, hsolve⟩ := Matrix.exists_solve_brackets
  have hlabels : solution.classes.labels = ["lp", "rp", "A", "end"] :=
    Matrix.labels_of_ofMatrix (Matrix.valid_of_solve hsolve).classes
  have horder : ∀ label ∈ ["end", "A"],
      label ∈ solution.classes.labels ∨ label ∈ solution.classes.symbols := by
    intro label hlabel
    left
    rw [hlabels]
    exact (by decide : ["end", "A"] ⊆ ["lp", "rp", "A", "end"]) hlabel
  obtain ⟨listing, hlisting⟩ := Matrix.exists_listing_of_solve hsolve horder
  have hof : listing.OfSolution := ⟨_, _, solution, _, _, hsolve, hlisting⟩
  have hlabel : ∀ name ∈ some "prec", isLabel name = true := by
    intro name hname
    rw [← Option.some.inj hname]
    decide +kernel
  have hrender := (listing.render_eq_ok_iff .rust (some "prec") _).mpr ⟨hlabel, rfl⟩
  obtain ⟨hsame, hread⟩ := render_reads_back
  obtain ⟨arrays, harrays, rfl, -⟩ := hread listing .rust .rust _ _ hof rfl hrender
  refine ⟨listing, _, hof, hrender, harrays, ?_⟩
  intro other? hother
  obtain ⟨-, -, hnames⟩ := hsame listing listing .rust _ other? _ hof hof hrender hother
  exact (hnames .rust rfl).2.symm

end Listing

end OperatorPrecedence
