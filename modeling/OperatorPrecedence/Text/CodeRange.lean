/-!
Tables of code points, written as inclusive ranges in ascending order.  In such
a table the search finds exactly the code points that some range covers.
-/

namespace OperatorPrecedence.Text

/-- Look a code point up in an ascending table.  The search ends at the first
range that starts above the code point. -/
def inRanges : List (Nat × Nat) → Nat → Bool
  | [], _ => false
  | (low, high) :: rest, code =>
      decide (low ≤ code) && (decide (code ≤ high) || inRanges rest code)

/-- Whether every range of a table starts at `least` or above it, ends no lower
than it starts, and is followed by higher ranges only. -/
def ascendsFrom (least : Nat) : List (Nat × Nat) → Bool
  | [] => true
  | (low, high) :: rest =>
      decide (least ≤ low) && decide (low ≤ high) && ascendsFrom (high + 1) rest

/-- Whether a table is in ascending order and no two of its ranges overlap. -/
def isAscending (ranges : List (Nat × Nat)) : Bool :=
  ascendsFrom 0 ranges

theorem exists_of_inRanges {ranges : List (Nat × Nat)} {code : Nat}
    (hfound : inRanges ranges code = true) :
    ∃ range ∈ ranges, range.1 ≤ code ∧ code ≤ range.2 := by
  induction ranges with
  | nil => simp [inRanges] at hfound
  | cons range rest ih =>
      simp only [inRanges, Bool.and_eq_true, Bool.or_eq_true,
        decide_eq_true_eq] at hfound
      obtain ⟨hlow, hhigh | hrest⟩ := hfound
      · exact ⟨range, List.mem_cons_self, hlow, hhigh⟩
      · obtain ⟨later, hmem, hbounds⟩ := ih hrest
        exact ⟨later, List.mem_cons_of_mem range hmem, hbounds⟩

theorem le_of_ascendsFrom {least : Nat} {ranges : List (Nat × Nat)}
    (hascends : ascendsFrom least ranges = true) {range : Nat × Nat}
    (hmem : range ∈ ranges) : least ≤ range.1 := by
  induction ranges generalizing least with
  | nil => simp at hmem
  | cons head rest ih =>
      simp only [ascendsFrom, Bool.and_eq_true, decide_eq_true_eq] at hascends
      obtain ⟨⟨hleast, hbounds⟩, hrest⟩ := hascends
      rcases List.mem_cons.mp hmem with rfl | hlater
      · exact hleast
      · have hhigher := ih hrest hlater
        omega

theorem inRanges_of_ascendsFrom {least : Nat} {ranges : List (Nat × Nat)}
    (hascends : ascendsFrom least ranges = true) {range : Nat × Nat}
    (hmem : range ∈ ranges) {code : Nat} (hlow : range.1 ≤ code)
    (hhigh : code ≤ range.2) : inRanges ranges code = true := by
  induction ranges generalizing least with
  | nil => simp at hmem
  | cons head rest ih =>
      simp only [ascendsFrom, Bool.and_eq_true, decide_eq_true_eq] at hascends
      obtain ⟨⟨_, hbounds⟩, hrest⟩ := hascends
      simp only [inRanges, Bool.and_eq_true, Bool.or_eq_true, decide_eq_true_eq]
      rcases List.mem_cons.mp hmem with rfl | hlater
      · exact ⟨hlow, Or.inl hhigh⟩
      · have hhigher := le_of_ascendsFrom hrest hlater
        exact ⟨by omega, Or.inr (ih hrest hlater)⟩

/-- In an ascending table the search finds what some range covers, and nothing
else. -/
theorem inRanges_iff {ranges : List (Nat × Nat)} (hascending : isAscending ranges = true)
    (code : Nat) :
    inRanges ranges code = true ↔ ∃ range ∈ ranges, range.1 ≤ code ∧ code ≤ range.2 :=
  ⟨exists_of_inRanges, fun ⟨_, hmem, hlow, hhigh⟩ =>
    inRanges_of_ascendsFrom hascending hmem hlow hhigh⟩

/-- Whether a range lies within another. -/
def liesWithin (other range : Nat × Nat) : Bool :=
  decide (other.1 ≤ range.1) && decide (range.2 ≤ other.2)

/-- Whether each range of a table lies within one of another table.  Both tables are
gone through once: a range of the other takes those off the head that lie within it. -/
def areCovered (ranges : List (Nat × Nat)) : List (Nat × Nat) → Bool
  | [] => ranges.isEmpty
  | other :: others => areCovered (ranges.dropWhile (liesWithin other)) others

theorem exists_of_areCovered {ranges others : List (Nat × Nat)}
    (hcovered : areCovered ranges others = true) {range : Nat × Nat} (hrange : range ∈ ranges) :
    ∃ other ∈ others, liesWithin other range = true := by
  induction others generalizing ranges with
  | nil =>
      rw [List.isEmpty_iff.mp hcovered] at hrange
      cases hrange
  | cons other others ih =>
      rw [← @List.takeWhile_append_dropWhile _ (liesWithin other) ranges] at hrange
      rcases List.mem_append.mp hrange with htaken | hleft
      · exact ⟨other, List.mem_cons_self, List.all_eq_true.mp List.all_takeWhile range htaken⟩
      · obtain ⟨later, hlater, hwithin⟩ := ih hcovered hleft
        exact ⟨later, List.mem_cons_of_mem other hlater, hwithin⟩

theorem inRanges_of_areCovered {ranges others : List (Nat × Nat)}
    (hcovered : areCovered ranges others = true) (hascending : isAscending others = true)
    {code : Nat} (hcode : inRanges ranges code = true) : inRanges others code = true := by
  obtain ⟨range, hrange, hlow, hhigh⟩ := exists_of_inRanges hcode
  obtain ⟨other, hother, hwithin⟩ := exists_of_areCovered hcovered hrange
  simp only [liesWithin, Bool.and_eq_true, decide_eq_true_eq] at hwithin
  exact (inRanges_iff hascending code).mpr
    ⟨other, hother, Nat.le_trans hwithin.1 hlow, Nat.le_trans hhigh hwithin.2⟩

end OperatorPrecedence.Text
