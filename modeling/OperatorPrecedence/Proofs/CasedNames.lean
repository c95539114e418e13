import Mathlib.Tactic.SplitIfs
import OperatorPrecedence.Text.LetterCase

/-!
What upper and lower case leave alone.  The images of letters are letters and marks, so
no punctuation comes about by changing the case of a name.
-/

namespace OperatorPrecedence.Text

/-- A character out of a code point is not below a bound of the code point, unless it is
the null character, which stands for what is no character. -/
theorem toNat_ofNat_eq_zero_or {least code : Nat} (hle : least ≤ code) :
    (Char.ofNat code).toNat = 0 ∨ least ≤ (Char.ofNat code).toNat := by
  by_cases hvalid : code.isValidChar
  · rw [Char.ofNat, dif_pos hvalid]
    exact Or.inr hle
  · rw [Char.ofNat, dif_neg hvalid]
    exact Or.inl rfl

theorem le_of_shift? {shifts : List CaseShift} {least code image : Nat}
    (hshifts : ∀ entry ∈ shifts, least ≤ entry.image)
    (himage : shift? shifts code = some image) : least ≤ image := by
  induction shifts with
  | nil => cases himage
  | cons entry rest ih =>
      obtain ⟨hentry, hrest⟩ := List.forall_mem_cons.mp hshifts
      rw [shift?] at himage
      split at himage
      · rw [← Option.some.inj himage]
        exact Nat.le_add_right_of_le hentry
      · exact ih hrest himage

theorem mem_mapCase {expansions : List (Nat × List Nat)} {shifts : List CaseShift} {least : Nat}
    (hexpansions : ∀ entry ∈ expansions, ∀ code ∈ entry.2, least ≤ code)
    (hshifts : ∀ entry ∈ shifts, least ≤ entry.image) {c image : Char}
    (himage : image ∈ mapCase expansions shifts c) :
    image = c ∨ image.toNat = 0 ∨ least ≤ image.toNat := by
  unfold mapCase at himage
  split at himage
  · rename_i codes hcodes
    obtain ⟨before, after, hsplit, -⟩ := List.lookup_eq_some_iff.mp hcodes
    have hentry : (c.toNat, codes) ∈ expansions := by
      rw [hsplit]
      exact List.mem_append_right before List.mem_cons_self
    obtain ⟨code, hcode, rfl⟩ := List.mem_map.mp himage
    exact Or.inr (toNat_ofNat_eq_zero_or (hexpansions _ hentry code hcode))
  · split at himage
    · rename_i code hcode
      rw [List.mem_singleton.mp himage]
      exact Or.inr (toNat_ofNat_eq_zero_or (le_of_shift? hshifts hcode))
    · exact Or.inl (List.mem_singleton.mp himage)

/-- No character below `A` comes about by uppercasing. -/
theorem not_mem_upper {c : Char} (hpositive : 0 < c.toNat) (hless : c.toNat < 0x41)
    {text : String} (htext : c ∉ text.toList) : c ∉ (upper text).toList := by
  have hexpansions : ∀ entry ∈ upperExpansions, ∀ code ∈ entry.2, 0x41 ≤ code := by
    decide +kernel
  have hshifts : ∀ entry ∈ upperShifts, 0x41 ≤ entry.image := by
    decide +kernel
  intro hmem
  rw [upper, String.toList_ofList] at hmem
  obtain ⟨origin, horigin, himage⟩ := List.mem_flatMap.mp hmem
  rcases mem_mapCase hexpansions hshifts himage with rfl | himage
  · exact htext horigin
  · omega

theorem mem_lowerFrom {before cs : List Char} {image : Char}
    (himage : image ∈ lowerFrom before cs) :
    image = 'ς' ∨ image = 'σ' ∨ ∃ c ∈ cs, image ∈ lowerChar c := by
  induction cs generalizing before with
  | nil => cases himage
  | cons c rest ih =>
      rw [lowerFrom] at himage
      rcases List.mem_append.mp himage with hfirst | hrest
      · split_ifs at hfirst
        · exact Or.inl (List.mem_singleton.mp hfirst)
        · exact Or.inr (Or.inl (List.mem_singleton.mp hfirst))
        · exact Or.inr (Or.inr ⟨c, List.mem_cons_self, hfirst⟩)
      · rcases ih hrest with hfinal | hsmall | ⟨origin, horigin, hlower⟩
        · exact Or.inl hfinal
        · exact Or.inr (Or.inl hsmall)
        · exact Or.inr (Or.inr ⟨origin, List.mem_cons_of_mem c horigin, hlower⟩)

/-- No character below `a` comes about by lowercasing. -/
theorem not_mem_lower {c : Char} (hpositive : 0 < c.toNat) (hless : c.toNat < 0x61)
    {text : String} (htext : c ∉ text.toList) : c ∉ (lower text).toList := by
  have hexpansions : ∀ entry ∈ lowerExpansions, ∀ code ∈ entry.2, 0x61 ≤ code := by
    decide +kernel
  have hshifts : ∀ entry ∈ lowerShifts, 0x61 ≤ entry.image := by
    decide +kernel
  intro hmem
  rw [lower, String.toList_ofList] at hmem
  rcases mem_lowerFrom hmem with rfl | rfl | ⟨origin, horigin, himage⟩
  · exact absurd hless (by decide)
  · exact absurd hless (by decide)
  · rcases mem_mapCase hexpansions hshifts himage with rfl | himage
    · exact htext horigin
    · omega

end OperatorPrecedence.Text
