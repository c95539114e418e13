/-!
Numbers as texts of decimal digits.
-/

namespace OperatorPrecedence.Text

/-- The number that some digits write. -/
def number (digits : List Char) : Nat :=
  Nat.ofDigitChars 10 digits 0

theorem number_toString (value : Nat) : number (toString value).toList = value := by
  rw [number, Nat.toString_eq_ofList_toDigits, String.toList_ofList]
  exact Nat.ofDigitChars_ten_toDigits

theorem not_mem_toString {c : Char} (hc : c.isDigit = false) (value : Nat) :
    c ∉ (toString value).toList := by
  intro hmem
  rw [Nat.toString_eq_ofList_toDigits, String.toList_ofList] at hmem
  have hdigit := Nat.isDigit_of_mem_toDigits (by decide) (by decide) hmem
  rw [hc] at hdigit
  cases hdigit

theorem toString_ne_empty (value : Nat) : toString value ≠ "" := by
  intro hempty
  have hnil := congrArg String.toList hempty
  rw [Nat.toString_eq_ofList_toDigits, String.toList_ofList] at hnil
  exact Nat.toDigits_ne_nil hnil

end OperatorPrecedence.Text
