import Mathlib.Data.List.Basic
import OperatorPrecedence.Text.Identifier
import OperatorPrecedence.Text.Numeral

/-!
Taking texts apart again.  A text up to a mark is found where the first character of the
mark does not come up in it, and the words of a list are found where they have no comma
and no space.
-/

namespace OperatorPrecedence.Text

/-- A mark that begins with a character foreign to a text does not stand before its end. -/
theorem length_le_of_not_mem {c : Char} {text mark rest before after : List Char}
    (hfresh : c ∉ text)
    (hsplit : text ++ c :: mark ++ rest = before ++ c :: mark ++ after) :
    text.length ≤ before.length := by
  -- A mark that stood too early would begin inside the text.
  by_contra hless
  have hplace := congrArg (fun cs => cs[before.length]?) hsplit
  simp only [List.append_assoc, List.cons_append,
    List.getElem?_append_left (Nat.not_le.mp hless), List.getElem?_append_right (Nat.le_refl _),
    Nat.sub_self, List.getElem?_cons_zero] at hplace
  exact hfresh (List.mem_of_getElem? hplace)

/-- A text is cut off at a mark that begins with a character foreign to the text. -/
theorem dropInfix?_of_not_mem {c : Char} {text mark rest : List Char} (hfresh : c ∉ text) :
    (text ++ c :: mark ++ rest).dropInfix? (c :: mark) = some (text, rest) := by
  apply List.dropInfix?_eq_some_iff.mpr
  refine ⟨⟨c :: mark, rfl, beq_self_eq_true _⟩, ?_⟩
  intro before other after hsplit hother
  rw [eq_of_beq hother] at hsplit
  exact length_le_of_not_mem hfresh hsplit

theorem dropPrefix?_append (opening rest : List Char) :
    (opening ++ rest).dropPrefix? opening = some rest :=
  List.dropPrefix?_append_of_beq rest (beq_self_eq_true opening)

/-- The words between the commas of a text, without any spaces. -/
def words (text : List Char) : List (List Char) :=
  ((text.filter (· ≠ ' ')).splitOn ',').filter (· ≠ [])

/-- A text that can be told from its neighbours in a list. -/
structure IsWord (text : List Char) : Prop where
  ne_nil : text ≠ []
  no_comma : ',' ∉ text
  no_space : ' ' ∉ text

theorem isWord_toString (value : Nat) : IsWord (toString value).toList where
  ne_nil hnil := toString_ne_empty value (String.toList_eq_nil_iff.mp hnil)
  no_comma := not_mem_toString (by decide) value
  no_space := not_mem_toString (by decide) value

theorem isWord_of_isLabel {text : String} (hlabel : isLabel text = true) : IsWord text.toList where
  ne_nil hnil := ne_empty_of_isLabel hlabel (String.toList_eq_nil_iff.mp hnil)
  no_comma := not_mem_of_isLabel (by decide +kernel) hlabel
  no_space := not_mem_of_isLabel (by decide +kernel) hlabel

theorem not_mem_intercalate {c : Char} (hcomma : c ≠ ',') (hspace : c ≠ ' ')
    {texts : List String} (htexts : ∀ text ∈ texts, c ∉ text.toList) :
    c ∉ (", ".intercalate texts).toList := by
  have hseparator : c ∉ ", ".toList := by
    have hchars : ", ".toList = [',', ' '] := by decide
    simp [hchars, hcomma, hspace]
  induction texts with
  | nil => simp
  | cons text texts ih =>
      obtain ⟨htext, hrest⟩ := List.forall_mem_cons.mp htexts
      cases texts with
      | nil => simpa using htext
      | cons next later =>
          rw [String.intercalate_cons_cons, String.toList_append, String.toList_append]
          simp only [List.mem_append, not_or]
          exact ⟨⟨htext, hseparator⟩, ih hrest⟩

def isOutsideNumbers (c : Char) : Bool :=
  !c.isDigit && c != ',' && c != ' '

def isOutsideLabels (c : Char) : Bool :=
  !(isLabelStart c || isLabelContinue c) && c != ',' && c != ' '

theorem not_mem_numbers {c : Char} (hc : isOutsideNumbers c = true) (values : List Nat) :
    c ∉ (", ".intercalate (values.map toString)).toList := by
  simp only [isOutsideNumbers, Bool.and_eq_true, Bool.not_eq_true', bne_iff_ne] at hc
  apply not_mem_intercalate hc.1.2 hc.2
  rw [List.forall_mem_map]
  exact fun value _ => not_mem_toString hc.1.1 value

theorem not_mem_labels {c : Char} (hc : isOutsideLabels c = true) {labels : List String}
    (hlabels : ∀ label ∈ labels, isLabel label = true) :
    c ∉ (", ".intercalate labels).toList := by
  simp only [isOutsideLabels, Bool.and_eq_true, Bool.not_eq_true', bne_iff_ne] at hc
  apply not_mem_intercalate hc.1.2 hc.2
  exact fun label hlabel => not_mem_of_isLabel hc.1.1 (hlabels label hlabel)

theorem filter_intercalate {texts : List (List Char)} (htexts : ∀ text ∈ texts, ' ' ∉ text) :
    ([',', ' '].intercalate texts).filter (· ≠ ' ') = [','].intercalate texts := by
  have hkept : ∀ text : List Char, ' ' ∉ text → text.filter (· ≠ ' ') = text := by
    intro text htext
    apply List.filter_eq_self.mpr
    intro c hc
    apply decide_eq_true
    rintro rfl
    exact htext hc
  induction texts with
  | nil => rfl
  | cons text texts ih =>
      obtain ⟨htext, hrest⟩ := List.forall_mem_cons.mp htexts
      cases texts with
      | nil => simpa [List.intercalate] using hkept text htext
      | cons next later =>
          have hlater := ih hrest
          simp only [List.intercalate, List.intersperse_cons_cons, List.flatten_cons,
            List.filter_append, hkept text htext] at hlater ⊢
          rw [hlater]
          rfl

theorem words_intercalate {texts : List String} (htexts : ∀ text ∈ texts, IsWord text.toList)
    {before after : List Char} (hbefore : ∀ c ∈ before, c = ' ') (hafter : ∀ c ∈ after, c = ' ') :
    words (before ++ (", ".intercalate texts).toList ++ after) = texts.map String.toList := by
  have hdropped : ∀ spaces : List Char, (∀ c ∈ spaces, c = ' ') →
      spaces.filter (· ≠ ' ') = [] := by
    intro spaces hspaces
    apply List.filter_eq_nil_iff.mpr
    intro c hc
    simp [hspaces c hc]
  have hwords : ∀ word ∈ texts.map String.toList, IsWord word := List.forall_mem_map.mpr htexts
  have hseparator : ", ".toList = [',', ' '] := by decide
  rw [words, List.filter_append, List.filter_append, hdropped before hbefore,
    hdropped after hafter, List.nil_append, List.append_nil, String.toList_intercalate,
    hseparator, filter_intercalate fun word hword => (hwords word hword).no_space]
  -- Of no words a split makes one empty piece, and that is no word.
  cases texts with
  | nil => rfl
  | cons text texts =>
      rw [List.splitOn_intercalate ',' (fun word hword => (hwords word hword).no_comma)
        (List.cons_ne_nil _ _)]
      apply List.filter_eq_self.mpr
      intro word hword
      exact decide_eq_true (hwords word hword).ne_nil

end OperatorPrecedence.Text
