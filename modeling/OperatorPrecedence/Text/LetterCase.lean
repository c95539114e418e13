import OperatorPrecedence.Text.CodeRange
import OperatorPrecedence.Text.CaseTables

/-!
Upper and lower case of a text, by the full mappings of Unicode.  A capital
sigma that ends a word becomes the final sigma; all else is mapped character by
character.
-/

namespace OperatorPrecedence.Text

/-- The image of a code point under the first entry that holds it. -/
def shift? : List CaseShift → Nat → Option Nat
  | [], _ => none
  | entry :: rest, code =>
      if entry.low ≤ code ∧ code ≤ entry.high ∧ (code - entry.low) % entry.step = 0 then
        some (entry.image + (code - entry.low))
      else shift? rest code

/-- Map one character by a table of expansions and a table of shifts; a
character that neither mentions stays. -/
def mapCase (expansions : List (Nat × List Nat)) (shifts : List CaseShift)
    (c : Char) : List Char :=
  match expansions.lookup c.toNat with
  | some codes => codes.map Char.ofNat
  | none =>
      match shift? shifts c.toNat with
      | some code => [Char.ofNat code]
      | none => [c]

def upperChar (c : Char) : List Char :=
  mapCase upperExpansions upperShifts c

/-- The lowercase form of a character that does not end a word. -/
def lowerChar (c : Char) : List Char :=
  mapCase lowerExpansions lowerShifts c

/-- Whether a letter with a case comes first once the ignorable characters are
passed over. -/
def startsCased (cs : List Char) : Bool :=
  match cs.dropWhile (fun c => inRanges caseIgnorableRanges c.toNat) with
  | [] => false
  | c :: _ => inRanges casedRanges c.toNat

/-- Lowercase the rest of a text; `before` holds what precedes it, nearest
character first. -/
def lowerFrom (before : List Char) : List Char → List Char
  | [] => []
  | c :: rest =>
      (if c = 'Σ' then
        (if startsCased before && !startsCased rest then ['ς'] else ['σ'])
      else lowerChar c) ++ lowerFrom (c :: before) rest

def upper (text : String) : String :=
  String.ofList (text.toList.flatMap upperChar)

def lower (text : String) : String :=
  String.ofList (lowerFrom [] text.toList)

end OperatorPrecedence.Text
