import Mathlib.Logic.Relation
import Mathlib.Order.Fin.Basic
import OperatorPrecedence.DisjointSets

/-!
What unions do to a forest of parents.  Looking for a root moves no root, a
union puts one set under the smaller of two roots, and after any unions two
numbers share their root exactly when the united pairs link them.
-/

namespace OperatorPrecedence

namespace DisjointSets

variable {n : Nat}

theorem root_eq_self (sets : DisjointSets n) {i : Fin n}
    (hparent : getElem sets.parent i i.isLt = i) : sets.root i = i := by
  rw [root]
  simp only [hparent, ↓reduceDIte]

theorem root_parent (sets : DisjointSets n) (i : Fin n) :
    sets.root (getElem sets.parent i i.isLt) = sets.root i := by
  by_cases hparent : sets.parent[i] = i
  · rw [hparent]
  · rw [root.eq_def sets i]
    simp only [hparent, ↓reduceDIte]

theorem parent_root (sets : DisjointSets n) (i : Fin n) :
    sets.parent[sets.root i] = sets.root i := by
  induction i using root.induct sets with
  | case1 i hparent =>
      simpa only [sets.root_eq_self hparent] using hparent
  | case2 i hparent hlt ih =>
      simpa only [sets.root_parent i] using ih

@[simp] theorem root_root (sets : DisjointSets n) (i : Fin n) :
    sets.root (sets.root i) = sets.root i :=
  sets.root_eq_self (sets.parent_root i)

theorem root_le (sets : DisjointSets n) (i : Fin n) : sets.root i ≤ i := by
  induction i using root.induct sets with
  | case1 i hparent => exact (sets.root_eq_self hparent).le
  | case2 i hparent hlt ih =>
      rw [← sets.root_parent i]
      exact ih.trans (sets.parent_le i)

theorem parent_redirect (sets : DisjointSets n) (i target : Fin n) (hle : target ≤ i)
    (j : Fin n) :
    (sets.redirect i target hle).parent[j] = if j = i then target else sets.parent[j] := by
  simp only [redirect, Fin.getElem_fin, Vector.getElem_set, Fin.ext_iff, eq_comm]

@[simp] theorem root_discrete (i : Fin n) : (discrete n).root i = i :=
  root_eq_self _ (by simp [discrete])

/-- A number may point to any smaller number of its set. -/
theorem root_redirect_of_root_eq (sets : DisjointSets n) {i target : Fin n}
    (hlt : target < i) (hroot : sets.root target = sets.root i) (j : Fin n) :
    (sets.redirect i target hlt.le).root j = sets.root j := by
  induction j using WellFoundedLT.induction with
  | ind j ih =>
      have hparent := sets.parent_redirect i target hlt.le j
      by_cases hself : j = i
      · subst hself
        rw [← root_parent, hparent]
        simp only [↓reduceIte]
        rw [ih target hlt, hroot]
      · simp only [hself, ↓reduceIte] at hparent
        by_cases hend : sets.parent[j] = j
        · rw [root_eq_self _ (hparent.trans hend), sets.root_eq_self hend]
        · rw [← root_parent, hparent, ih _ (sets.parent_lt hend), root_parent]

/-- A root that points to another root takes its set there. -/
theorem root_redirect_of_roots (sets : DisjointSets n) {i target : Fin n}
    (hle : target ≤ i) (hi : sets.root i = i) (htarget : sets.root target = target)
    (j : Fin n) :
    (sets.redirect i target hle).root j =
      if sets.root j = i then target else sets.root j := by
  induction j using WellFoundedLT.induction with
  | ind j ih =>
      have hparent := sets.parent_redirect i target hle j
      by_cases hself : j = i
      · subst hself
        simp only [hi, ↓reduceIte] at hparent ⊢
        rcases hle.lt_or_eq with hlt | heq
        · have hne : target ≠ j := ne_of_lt hlt
          rw [← root_parent, hparent, ih target hlt, htarget]
          simp only [hne, ↓reduceIte]
        · subst heq
          exact root_eq_self _ hparent
      · simp only [hself, ↓reduceIte] at hparent
        by_cases hend : sets.parent[j] = j
        · rw [root_eq_self _ (hparent.trans hend), sets.root_eq_self hend]
          simp only [hself, ↓reduceIte]
        · rw [← root_parent, hparent, ih _ (sets.parent_lt hend), root_parent]

theorem find_eq (sets : DisjointSets n) (i : Fin n) :
    (sets.find i).2 = sets.root i ∧ ∀ j, (sets.find i).1.root j = sets.root j := by
  induction sets, i using find.induct with
  | case1 sets i hparent =>
      rw [find]
      simp only [hparent, ↓reduceDIte]
      exact ⟨(sets.root_eq_self hparent).symm, fun j => trivial⟩
  | case2 sets i hparent grandparent hlt ih =>
      rw [find]
      simp only [hparent, ↓reduceDIte]
      have hroot : sets.root grandparent = sets.root i := by
        rw [root_parent, root_parent]
      have hmoved := sets.root_redirect_of_root_eq hlt hroot
      refine ⟨?_, fun j => (ih.2 j).trans (hmoved j)⟩
      rw [ih.1, hmoved, hroot]

theorem root_union (sets : DisjointSets n) (i j k : Fin n) :
    (sets.union i j).root k =
      if sets.root k = max (sets.root i) (sets.root j) then
        min (sets.root i) (sets.root j)
      else sets.root k := by
  obtain ⟨hfirst, hfirstRoots⟩ := sets.find_eq i
  obtain ⟨hsecond, hsecondRoots⟩ := (sets.find i).1.find_eq j
  rw [hfirstRoots] at hsecond
  have hroots : ∀ k, ((sets.find i).1.find j).1.root k = sets.root k := fun k =>
    (hsecondRoots k).trans (hfirstRoots k)
  simp only [union, hfirst, hsecond]
  split
  · rename_i hlt
    rw [root_redirect_of_roots _ _ (by simp [hroots]) (by simp [hroots]), hroots,
      max_eq_right hlt.le, min_eq_left hlt.le]
  · rename_i hge
    rw [root_redirect_of_roots _ _ (by simp [hroots]) (by simp [hroots]), hroots,
      max_eq_left (le_of_not_gt hge), min_eq_right (le_of_not_gt hge)]

/-- A union makes the two given numbers share a root and changes nothing else. -/
theorem root_union_eq_iff (sets : DisjointSets n) (i j k l : Fin n) :
    (sets.union i j).root k = (sets.union i j).root l ↔
      sets.root k = sets.root l ∨
        sets.root k = sets.root i ∧ sets.root l = sets.root j ∨
        sets.root k = sets.root j ∧ sets.root l = sets.root i := by
  rw [root_union, root_union]
  rcases le_total (sets.root i) (sets.root j) with hle | hle
  · rw [max_eq_right hle, min_eq_left hle]
    split <;> split <;> grind
  · rw [max_eq_left hle, min_eq_right hle]
    split <;> split <;> grind

def Linked (pairs : List (Fin n × Fin n)) : Fin n → Fin n → Prop :=
  Relation.EqvGen fun i j => (i, j) ∈ pairs

theorem root_unionAll_eq_iff (sets : DisjointSets n) (pairs : List (Fin n × Fin n))
    (k l : Fin n) :
    (sets.unionAll pairs).root k = (sets.unionAll pairs).root l ↔
      Relation.EqvGen (fun i j => sets.root i = sets.root j ∨ (i, j) ∈ pairs) k l := by
  induction pairs generalizing sets with
  | nil =>
      constructor
      · exact fun hroot => .rel _ _ (Or.inl hroot)
      · intro hlinked
        exact congrArg (Quot.lift sets.root fun i j hstep =>
          hstep.resolve_right List.not_mem_nil) (Quot.eqvGen_sound hlinked)
  | cons pair pairs ih =>
      change ((sets.union pair.1 pair.2).unionAll pairs).root k =
        ((sets.union pair.1 pair.2).unionAll pairs).root l ↔ _
      rw [ih]
      constructor
      -- A root that two numbers share after the union is either one from before, or the
      -- pair leads across.
      · apply Relation.EqvGen.eqvGen_le
        intro i j hstep
        rcases hstep with hroot | hmem
        · have hpair : Relation.EqvGen (fun i j => sets.root i = sets.root j ∨
              (i, j) ∈ pair :: pairs) pair.1 pair.2 :=
            .rel _ _ (Or.inr List.mem_cons_self)
          rcases (sets.root_union_eq_iff _ _ i j).mp hroot with
            hsame | ⟨hi, hj⟩ | ⟨hi, hj⟩
          · exact .rel _ _ (Or.inl hsame)
          · exact .trans _ _ _ (.rel _ _ (Or.inl hi))
              (.trans _ _ _ hpair (.rel _ _ (Or.inl hj.symm)))
          · exact .trans _ _ _ (.rel _ _ (Or.inl hi))
              (.trans _ _ _ (.symm _ _ hpair) (.rel _ _ (Or.inl hj.symm)))
        · exact .rel _ _ (Or.inr (List.mem_cons_of_mem pair hmem))
      · apply Relation.EqvGen.eqvGen_mono
        intro i j hstep
        rw [root_union_eq_iff]
        rcases hstep with hroot | hmem
        · exact Or.inl (Or.inl hroot)
        · rcases List.mem_cons.mp hmem with rfl | hmem
          · exact Or.inl (Or.inr (Or.inl ⟨rfl, rfl⟩))
          · exact Or.inr hmem

/-- After unions from the discrete forest, exactly the numbers that the pairs
link share their root. -/
theorem root_unionAll_discrete_eq_iff (pairs : List (Fin n × Fin n)) (k l : Fin n) :
    ((discrete n).unionAll pairs).root k = ((discrete n).unionAll pairs).root l ↔
      Linked pairs k l := by
  rw [root_unionAll_eq_iff, Linked]
  constructor
  · apply Relation.EqvGen.eqvGen_le
    intro i j hstep
    rcases hstep with hroot | hmem
    · rw [root_discrete, root_discrete] at hroot
      exact hroot ▸ .refl i
    · exact .rel _ _ hmem
  · exact Relation.EqvGen.eqvGen_mono (fun i j hmem => Or.inr hmem) k l

end DisjointSets

end OperatorPrecedence
