/-!
Repetitions in a list: where the first one stands, and what is left without
them.
-/

namespace OperatorPrecedence

universe u v

variable {α : Type u} [DecidableEq α]

/-- The first entry that occurs in `seen` or earlier in the list. -/
def firstSeen? (seen : List α) : List α → Option α
  | [] => none
  | x :: xs => if x ∈ seen then some x else firstSeen? (x :: seen) xs

def firstRepeat? (xs : List α) : Option α :=
  firstSeen? [] xs

theorem firstSeen?_eq_none_iff (seen xs : List α) :
    firstSeen? seen xs = none ↔ xs.Nodup ∧ ∀ x ∈ xs, x ∉ seen := by
  induction xs generalizing seen with
  | nil => simp [firstSeen?]
  | cons x xs ih =>
      by_cases hseen : x ∈ seen
      · simp [firstSeen?, hseen]
      · simp only [firstSeen?, hseen, ↓reduceIte, ih, List.nodup_cons, List.mem_cons,
          not_or, forall_eq_or_imp, not_false_eq_true, true_and]
        constructor
        · rintro ⟨hnodup, hfresh⟩
          exact ⟨⟨fun hx => (hfresh x hx).1 rfl, hnodup⟩, fun y hy => (hfresh y hy).2⟩
        · rintro ⟨⟨hx, hnodup⟩, hfresh⟩
          exact ⟨hnodup, fun y hy => ⟨fun heq => hx (heq ▸ hy), hfresh y hy⟩⟩

theorem firstRepeat?_eq_none_iff (xs : List α) :
    firstRepeat? xs = none ↔ xs.Nodup := by
  simp [firstRepeat?, firstSeen?_eq_none_iff]

/-- The entries that neither occur in `seen` nor repeat an earlier one. -/
def freshEntries (seen : List α) : List α → List α
  | [] => []
  | x :: xs =>
      if x ∈ seen then freshEntries seen xs else x :: freshEntries (x :: seen) xs

def firstOccurrences (xs : List α) : List α :=
  freshEntries [] xs

theorem mem_freshEntries_iff (seen xs : List α) (x : α) :
    x ∈ freshEntries seen xs ↔ x ∈ xs ∧ x ∉ seen := by
  induction xs generalizing seen with
  | nil => simp [freshEntries]
  | cons y ys ih =>
      by_cases hseen : y ∈ seen
      · simp only [freshEntries, hseen, ↓reduceIte, ih, List.mem_cons]
        constructor
        · exact fun h => ⟨Or.inr h.1, h.2⟩
        · rintro ⟨rfl | hx, hfresh⟩
          · exact absurd hseen hfresh
          · exact ⟨hx, hfresh⟩
      · simp only [freshEntries, hseen, ↓reduceIte, List.mem_cons, ih, not_or]
        constructor
        · rintro (rfl | ⟨hx, -, hfresh⟩)
          · exact ⟨Or.inl rfl, hseen⟩
          · exact ⟨Or.inr hx, hfresh⟩
        · rintro ⟨rfl | hx, hfresh⟩
          · exact Or.inl rfl
          · by_cases heq : x = y
            · exact Or.inl heq
            · exact Or.inr ⟨hx, heq, hfresh⟩

theorem freshEntries_nodup (seen xs : List α) : (freshEntries seen xs).Nodup := by
  induction xs generalizing seen with
  | nil => simp [freshEntries]
  | cons x xs ih =>
      by_cases hseen : x ∈ seen
      · simpa [freshEntries, hseen] using ih seen
      · simp only [freshEntries, hseen, ↓reduceIte, List.nodup_cons,
          mem_freshEntries_iff, List.mem_cons, true_or, not_true_eq_false, and_false,
          not_false_eq_true, true_and]
        exact ih (x :: seen)

/-- Fresh entries keep the order of their sources: a source of the earlier one stands
before every source of the later one. -/
theorem freshEntries_filterMap_pairwise {β : Type v} {before : β → β → Prop} (seen : List α)
    {xs : List β} (hxs : xs.Pairwise before) (image? : β → Option α) :
    (freshEntries seen (xs.filterMap image?)).Pairwise fun earlier later =>
      ∃ x ∈ xs, image? x = some earlier ∧ ∀ y ∈ xs, image? y = some later → before x y := by
  induction xs generalizing seen with
  | nil => exact .nil
  | cons x xs ih =>
      obtain ⟨hx, hxs⟩ := List.pairwise_cons.mp hxs
      -- What is fresh behind `x` does not come from `x`.
      have hbehind : ∀ met : List α, (∀ entry, image? x = some entry → entry ∈ met) →
          (freshEntries met (xs.filterMap image?)).Pairwise fun earlier later =>
            ∃ y ∈ x :: xs, image? y = some earlier ∧
              ∀ z ∈ x :: xs, image? z = some later → before y z := by
        intro met hmet
        refine (ih met hxs).imp_of_mem ?_
        rintro earlier later - hfresh ⟨y, hy, hentry, hall⟩
        refine ⟨y, List.mem_cons_of_mem x hy, hentry, fun z hz hlater => ?_⟩
        rcases List.mem_cons.mp hz with rfl | hz
        · exact absurd (hmet later hlater) ((mem_freshEntries_iff _ _ _).mp hfresh).2
        · exact hall z hz hlater
      cases hentry : image? x with
      | none =>
          rw [List.filterMap_cons_none hentry]
          exact hbehind seen (by simp [hentry])
      | some first =>
          rw [List.filterMap_cons_some hentry, freshEntries]
          split
          · rename_i hseen
            exact hbehind seen (by simp [hentry, hseen])
          · refine List.pairwise_cons.mpr ⟨?_, hbehind (first :: seen) (by simp [hentry])⟩
            intro later hfresh
            refine ⟨x, List.mem_cons_self, hentry, fun y hy hlater => ?_⟩
            rcases List.mem_cons.mp hy with rfl | hy
            · have hnew := ((mem_freshEntries_iff _ _ _).mp hfresh).2
              exact absurd (by simp [Option.some.inj (hentry.symm.trans hlater)]) hnew
            · exact hx y hy

@[simp] theorem mem_firstOccurrences (xs : List α) (x : α) :
    x ∈ firstOccurrences xs ↔ x ∈ xs := by
  simp [firstOccurrences, mem_freshEntries_iff]

theorem firstOccurrences_nodup (xs : List α) : (firstOccurrences xs).Nodup :=
  freshEntries_nodup [] xs

theorem firstOccurrences_filterMap_pairwise {β : Type v} {before : β → β → Prop} {xs : List β}
    (hxs : xs.Pairwise before) (image? : β → Option α) :
    (firstOccurrences (xs.filterMap image?)).Pairwise fun earlier later =>
      ∃ x ∈ xs, image? x = some earlier ∧ ∀ y ∈ xs, image? y = some later → before x y :=
  freshEntries_filterMap_pairwise [] hxs image?

end OperatorPrecedence
