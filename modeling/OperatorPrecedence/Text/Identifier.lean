import OperatorPrecedence.Text.CodeRange
import OperatorPrecedence.Text.IdentifierRanges

/-!
Identifiers.  Table files are cut into tokens in one alphabet, and labels are checked
in another.  The two come from different places and are parameters here; the instances
are the tables of Unicode 13.0 and of Unicode 18.0.
-/

namespace OperatorPrecedence.Text

/-- The characters that begin an identifier and those that continue one.  The underscore
is not among what an alphabet has to tell. -/
structure Alphabet where
  start : Char → Bool
  continues : Char → Bool

/-- What begins or continues an identifier in one alphabet does so in another. -/
structure Alphabet.Within (first second : Alphabet) : Prop where
  start : ∀ c, first.start c = true → second.start c = true
  continues : ∀ c, first.continues c = true → second.continues c = true

/-- The alphabet in which table files are cut into tokens. -/
class FileAlphabet extends Alphabet

/-- The alphabet in which labels are checked. -/
class LabelAlphabet extends Alphabet

/-- Unicode 13.0. -/
instance : FileAlphabet where
  start c := inRanges identifierStartRanges c.toNat
  continues c :=
    inRanges identifierStartRanges c.toNat || inRanges identifierContinueRanges c.toNat

/-- Unicode 18.0. -/
instance : LabelAlphabet where
  start c := inRanges labelStartRanges c.toNat
  continues c := inRanges labelStartRanges c.toNat || inRanges labelContinueRanges c.toNat

/-- No character has left the two properties since. -/
theorem fileAlphabet_within_labelAlphabet :
    (inferInstance : FileAlphabet).toAlphabet.Within
      (inferInstance : LabelAlphabet).toAlphabet := by
  have hstart : ∀ code, inRanges identifierStartRanges code = true →
      inRanges labelStartRanges code = true :=
    fun _ => inRanges_of_areCovered (by decide +kernel) (by decide +kernel)
  have hcontinue : ∀ code, inRanges identifierContinueRanges code = true →
      inRanges labelContinueRanges code = true :=
    fun _ => inRanges_of_areCovered (by decide +kernel) (by decide +kernel)
  refine ⟨fun c hc => hstart _ hc, fun c hc => ?_⟩
  exact Bool.or_eq_true_iff.mpr ((Bool.or_eq_true_iff.mp hc).imp (hstart _) (hcontinue _))

section File

variable [alphabet : FileAlphabet]

def isIdentifierStart (c : Char) : Bool :=
  c == '_' || alphabet.start c

def isIdentifierContinue (c : Char) : Bool :=
  alphabet.continues c

def isIdentifierChars : List Char → Bool
  | [] => false
  | first :: rest => isIdentifierStart first && rest.all isIdentifierContinue

end File

section Label

variable [alphabet : LabelAlphabet]

def isLabelStart (c : Char) : Bool :=
  c == '_' || alphabet.start c

def isLabelContinue (c : Char) : Bool :=
  alphabet.continues c

/-- The characters of a label.  The underscore alone is no label. -/
def isLabelChars : List Char → Bool
  | [] => false
  | first :: rest =>
      isLabelStart first && (first :: rest) != ['_'] && rest.all isLabelContinue

/-- Whether a text can name a class, a symbol or a generated array. -/
def isLabel (text : String) : Bool :=
  isLabelChars text.toList

/-- A character that may stand nowhere in a label. -/
theorem not_mem_of_isLabel {c : Char} (hc : (isLabelStart c || isLabelContinue c) = false)
    {text : String} (hlabel : isLabel text = true) : c ∉ text.toList := by
  obtain ⟨hstart, hcontinue⟩ := Bool.or_eq_false_iff.mp hc
  intro hmem
  rw [isLabel] at hlabel
  cases hcs : text.toList with
  | nil =>
      rw [hcs] at hmem
      cases hmem
  | cons first rest =>
      rw [hcs] at hlabel hmem
      simp only [isLabelChars, Bool.and_eq_true, List.all_eq_true] at hlabel
      rcases List.mem_cons.mp hmem with rfl | hmem
      · simp [hstart] at hlabel
      · rw [hlabel.2 _ hmem] at hcontinue
        cases hcontinue

theorem ne_empty_of_isLabel {text : String} (hlabel : isLabel text = true) : text ≠ "" := by
  rintro rfl
  cases hlabel

end Label

section Both

variable [files : FileAlphabet] [labels : LabelAlphabet]

/-- Within the alphabet of labels every identifier of a table file is a label, but for
`_`. -/
theorem isLabel_of_isIdentifierChars
    (hwithin : files.toAlphabet.Within labels.toAlphabet) {name : String}
    (hname : isIdentifierChars name.toList = true) (hne : name ≠ "_") : isLabel name = true := by
  have hchars : name.toList ≠ ['_'] := fun heq => hne (String.toList_injective heq)
  rw [isLabel]
  cases hcs : name.toList with
  | nil =>
      rw [hcs] at hname
      cases hname
  | cons first rest =>
      rw [hcs] at hname hchars
      obtain ⟨hfirst, hrest⟩ := Bool.and_eq_true_iff.mp hname
      have hstart : isLabelStart first = true :=
        Bool.or_eq_true_iff.mpr ((Bool.or_eq_true_iff.mp hfirst).imp_right (hwithin.start first))
      simp only [isLabelChars, Bool.and_eq_true, List.all_eq_true, bne_iff_ne]
      exact ⟨⟨hstart, hchars⟩,
        fun c hc => hwithin.continues c (List.all_eq_true.mp hrest c hc)⟩

theorem eq_underscore_of_not_isLabel
    (hwithin : files.toAlphabet.Within labels.toAlphabet) {name : String}
    (hname : isIdentifierChars name.toList = true) (hinvalid : isLabel name = false) :
    name = "_" := by
  by_cases heq : name = "_"
  · exact heq
  · rw [isLabel_of_isIdentifierChars hwithin hname heq] at hinvalid
    cases hinvalid

end Both

/-- A character of an identifier as messages quote it.  One that combines with what stands
before it is told by its code point. -/
def quotedChar (c : Char) : String :=
  if inRanges combiningRanges c.toNat then
    "\\u\x7b" ++ String.ofList (Nat.toDigits 16 c.toNat) ++ "\x7d"
  else String.singleton c

/-- An identifier between double quotes. -/
def quoted (name : String) : String :=
  "\"" ++ String.join (name.toList.map quotedChar) ++ "\""

example : quoted "e\u0301x" = "\"e\\u\x7b301\x7dx\"" := by decide +kernel

end OperatorPrecedence.Text
