import OperatorPrecedence.Proofs.FirstFaults
import OperatorPrecedence.Proofs.PlainRecursion

/-!
The disjoint sets on bare parents, and which number stands for a set.  Nothing keeps the
parents of a bare array in order, and a walk along them might go round.  From the discrete
forest on it never does: every sequence of unions ends, with the forest that the sets
hold, and the root of a set is its smallest number, whatever the order of the unions.
-/

namespace OperatorPrecedence

universe u

variable {n : Nat}

/-- A parent for every number below `n`, in whatever order. -/
abbrev Parents (n : Nat) := Vector (Fin n) n

namespace Parents

/-- The loop that finds the root of a number on bare parents.  It ends at a number that is
its own parent; from any other it goes on at the grandparent, to which it first redirects
the number. -/
inductive Finds : Parents n → Fin n → Parents n → Fin n → Prop where
  | root {parents : Parents n} {i : Fin n} : parents.get i = i → Finds parents i parents i
  | halve {parents later : Parents n} {i root : Fin n} :
      parents.get i ≠ i →
      Finds (parents.set i (parents.get (parents.get i)) i.isLt) (parents.get (parents.get i))
          later root →
        Finds parents i later root

/-- The union of two numbers on bare parents: the smaller root becomes the parent of the
larger. -/
def Unites (parents : Parents n) (pair : Fin n × Fin n) (later : Parents n) : Prop :=
  ∃ middle last first second, Finds parents pair.1 middle first ∧
    Finds middle pair.2 last second ∧
    later = if first < second then last.set second first second.isLt
      else last.set first second first.isLt

/-- The unions of several pairs in turn. -/
inductive UnitesAll : Parents n → List (Fin n × Fin n) → Parents n → Prop where
  | nil {parents : Parents n} : UnitesAll parents [] parents
  | cons {parents middle later : Parents n} {pair : Fin n × Fin n}
      {pairs : List (Fin n × Fin n)} :
      Unites parents pair middle → UnitesAll middle pairs later →
        UnitesAll parents (pair :: pairs) later

/-- The roots of several numbers, found in turn on the parents that the last walk left. -/
inductive FindsAll : Parents n → List (Fin n) → List (Fin n) → Prop where
  | nil {parents : Parents n} : FindsAll parents [] []
  | cons {parents later : Parents n} {i root : Fin n} {rest roots : List (Fin n)} :
      Finds parents i later root → FindsAll later rest roots →
        FindsAll parents (i :: rest) (root :: roots)

theorem Finds.unique {parents later other : Parents n} {i root found : Fin n}
    (hfinds : Finds parents i later root) (hother : Finds parents i other found) :
    later = other ∧ root = found := by
  induction hfinds with
  | root hend =>
      cases hother with
      | root _ => exact ⟨rfl, rfl⟩
      | halve hgoes _ => exact absurd hend hgoes
  | halve hgoes _ ih =>
      cases hother with
      | root hend => exact absurd hend hgoes
      | halve _ hrest => exact ih hrest

end Parents

namespace DisjointSets

theorem finds_find (sets : DisjointSets n) (i : Fin n) :
    Parents.Finds sets.parent i (sets.find i).1.parent (sets.find i).2 := by
  induction sets, i using find.induct with
  | case1 sets i hparent =>
      rw [find]
      simp only [hparent, ↓reduceDIte]
      exact .root hparent
  | case2 sets i hparent grandparent hlt ih =>
      rw [find]
      simp only [hparent, ↓reduceDIte]
      exact .halve hparent ih

theorem finds_parent_iff (sets : DisjointSets n) (i : Fin n) (later : Parents n) (root : Fin n) :
    Parents.Finds sets.parent i later root ↔
      later = (sets.find i).1.parent ∧ root = sets.root i := by
  have hfinds := sets.finds_find i
  rw [(sets.find_eq i).1] at hfinds
  constructor
  · exact fun hother => hother.unique hfinds
  · rintro ⟨rfl, rfl⟩
    exact hfinds

theorem unites_parent_iff (sets : DisjointSets n) (pair : Fin n × Fin n) (later : Parents n) :
    Parents.Unites sets.parent pair later ↔ later = (sets.union pair.1 pair.2).parent := by
  have hunion : (sets.union pair.1 pair.2).parent =
      let both := (sets.find pair.1).1.find pair.2
      if (sets.find pair.1).2 < both.2 then both.1.parent.set both.2 (sets.find pair.1).2
      else both.1.parent.set (sets.find pair.1).2 both.2 := by
    unfold union
    dsimp only
    split <;> rfl
  constructor
  · rintro ⟨middle, last, first, second, hfirst, hsecond, rfl⟩
    obtain ⟨rfl, rfl⟩ := hfirst.unique (sets.finds_find pair.1)
    obtain ⟨rfl, rfl⟩ := hsecond.unique ((sets.find pair.1).1.finds_find pair.2)
    exact hunion.symm
  · rintro rfl
    exact ⟨_, _, _, _, sets.finds_find pair.1, (sets.find pair.1).1.finds_find pair.2, hunion⟩

theorem unitesAll_parent_iff (sets : DisjointSets n) (pairs : List (Fin n × Fin n))
    (later : Parents n) :
    Parents.UnitesAll sets.parent pairs later ↔ later = (sets.unionAll pairs).parent := by
  induction pairs generalizing sets with
  | nil =>
      constructor
      · rintro ⟨⟩
        rfl
      · rintro rfl
        exact .nil
  | cons pair pairs ih =>
      have hall : sets.unionAll (pair :: pairs) = (sets.union pair.1 pair.2).unionAll pairs := rfl
      rw [hall, ← ih]
      constructor
      · rintro (_ | ⟨hunites, hrest⟩)
        rwa [← (sets.unites_parent_iff pair _).mp hunites]
      · exact .cons ((sets.unites_parent_iff pair _).mpr rfl)

theorem findsAll_parent_iff (sets : DisjointSets n) (numbers roots : List (Fin n)) :
    Parents.FindsAll sets.parent numbers roots ↔ roots = numbers.map sets.root := by
  induction numbers generalizing sets roots with
  | nil =>
      constructor
      · rintro ⟨⟩
        rfl
      · rintro rfl
        exact .nil
  | cons i numbers ih =>
      have hroots : numbers.map (sets.find i).1.root = numbers.map sets.root :=
        List.map_congr_left fun j _ => (sets.find_eq i).2 j
      constructor
      · rintro (_ | ⟨hfinds, hrest⟩)
        obtain ⟨rfl, rfl⟩ := (sets.finds_parent_iff i _ _).mp hfinds
        rw [(ih _ _).mp hrest, hroots, List.map_cons]
      · rintro rfl
        exact .cons ((sets.finds_parent_iff i _ _).mpr ⟨rfl, rfl⟩) ((ih _ _).mpr hroots.symm)

/-- The root of a number is the smallest number that is linked with it. -/
theorem isLeast_root_unionAll_discrete (pairs : List (Fin n × Fin n)) (i : Fin n) :
    IsLeast {j | Linked pairs i j} (((discrete n).unionAll pairs).root i) := by
  constructor
  · rw [Set.mem_ofPred_eq, ← root_unionAll_discrete_eq_iff, root_root]
  · intro j hlinked
    rw [Set.mem_ofPred_eq, ← root_unionAll_discrete_eq_iff] at hlinked
    rw [hlinked]
    exact root_le _ j

/-- The roots depend on which pairs there are, not on their order or how often each comes. -/
theorem root_unionAll_congr {pairs others : List (Fin n × Fin n)}
    (hsame : ∀ pair, pair ∈ pairs ↔ pair ∈ others) (i : Fin n) :
    ((discrete n).unionAll pairs).root i = ((discrete n).unionAll others).root i := by
  have hlinked : Linked pairs = Linked others := by
    have hpairs : (fun i j => (i, j) ∈ pairs) = fun i j => (i, j) ∈ others :=
      funext fun i => funext fun j => propext (hsame (i, j))
    rw [Linked, Linked, hpairs]
  have hleast := isLeast_root_unionAll_discrete pairs i
  rw [hlinked] at hleast
  exact hleast.unique (isLeast_root_unionAll_discrete others i)

end DisjointSets

/-- Where a list is in order, an entry is the first with a property if none before it in the
order has the property. -/
theorem isFirst_of_pairwise {α : Type u} {before : α → α → Prop} {p : α → Prop} {xs : List α}
    {x : α} (hordered : xs.Pairwise before) (hmem : x ∈ xs) (hp : p x)
    (hfirst : ∀ y, p y → ¬ before y x) : IsFirst p xs x := by
  obtain ⟨earlier, later, rfl⟩ := List.append_of_mem hmem
  refine ⟨earlier, later, rfl, fun y hy hpy => hfirst y hpy ?_, hp⟩
  exact (List.pairwise_append.mp hordered).2.2 y hy x List.mem_cons_self

theorem Vertex.all_pairwise (n : Nat) :
    (all n).Pairwise fun vertex other => vertex.index < other.index := by
  rw [all, List.pairwise_append, List.pairwise_map, List.pairwise_map]
  refine ⟨List.pairwise_lt_finRange n, ?_, ?_⟩
  · exact (List.pairwise_lt_finRange n).imp fun hlt => (Fin.natAdd_lt_natAdd_iff n).mpr hlt
  · intro vertex hvertex other hother
    obtain ⟨cls, -, rfl⟩ := List.mem_map.mp hvertex
    obtain ⟨otherCls, -, rfl⟩ := List.mem_map.mp hother
    exact Nat.lt_of_lt_of_le cls.isLt (Nat.le_add_right n _)

namespace OrderingGraph

theorem index_representative_ofLinks (links : List (Vertex n × Vertex n)) (edges : List (Edge n))
    (vertex : Vertex n) :
    ((ofLinks links edges).representative vertex).index = (merge links).root vertex.index := by
  rw [representative_ofLinks, Vertex.index_ofIndex]

/-- Of the vertices with the same representative it is the first. -/
theorem isFirst_representative_ofLinks (links : List (Vertex n × Vertex n))
    (edges : List (Edge n)) (vertex : Vertex n) :
    IsFirst (fun other => (ofLinks links edges).representative other =
        (ofLinks links edges).representative vertex)
      (Vertex.all n) ((ofLinks links edges).representative vertex) := by
  apply isFirst_of_pairwise (Vertex.all_pairwise n) (Vertex.mem_all _)
  · exact (ofLinks_coherent links edges).representative_idem vertex
  · intro other hsame
    rw [not_lt, ← hsame, index_representative_ofLinks]
    exact DisjointSets.root_le _ _

/-- The representatives depend on which links there are, and on nothing else. -/
theorem representatives_ofLinks_congr {links others : List (Vertex n × Vertex n)}
    (hsame : ∀ link, link ∈ links ↔ link ∈ others) (edges otherEdges : List (Edge n)) :
    (ofLinks links edges).representatives = (ofLinks others otherEdges).representatives := by
  apply VertexTable.ext_get
  intro vertex
  have hpairs : ∀ pair, pair ∈ links.map (fun link => (link.1.index, link.2.index)) ↔
      pair ∈ others.map fun link => (link.1.index, link.2.index) := by
    intro pair
    simp only [List.mem_map, hsame]
  change (ofLinks links edges).representative vertex =
    (ofLinks others otherEdges).representative vertex
  rw [representative_ofLinks, representative_ofLinks, merge, merge,
    DisjointSets.root_unionAll_congr hpairs]

/-- Disjoint sets by parents, and the merging of vertices by them.  From the discrete forest
every sequence of unions on bare parents ends with the forest of the sets, whose parents are
never larger than the numbers; finding a root ends and moves no root; numbers share a root
exactly when the united pairs link them, and it is the smallest of those linked.  So the
vertices of a matrix share a representative exactly when a chain of `=` cells links them, it
is the first of them, and it is the same with the cells in any other order. -/
theorem merging_canonical :
    (∀ (n : Nat) (pairs : List (Fin n × Fin n)),
      let sets := (DisjointSets.discrete n).unionAll pairs
      (∀ parents, Parents.UnitesAll (Vector.ofFn id) pairs parents ↔ parents = sets.parent) ∧
      (∀ i, sets.parent.get i ≤ i) ∧
      (∀ i parents root, Parents.Finds sets.parent i parents root ↔
        parents = (sets.find i).1.parent ∧ root = sets.root i) ∧
      (∀ i j, (sets.find i).1.root j = sets.root j) ∧
      (∀ i j, sets.root i = sets.root j ↔ DisjointSets.Linked pairs i j) ∧
      ∀ i, IsLeast {j | DisjointSets.Linked pairs i j} (sets.root i)) ∧
    ∀ matrix : Matrix,
      let graph := ofMatrix matrix
      let pairs := (matrix.cellList.filterMap Matrix.Cell.link?).map fun link =>
        (link.1.index, link.2.index)
      (∃ parents, Parents.UnitesAll (Vector.ofFn id) pairs parents ∧
        Parents.FindsAll parents ((Vertex.all matrix.size).map Vertex.index)
          ((Vertex.all matrix.size).map fun vertex => (graph.representative vertex).index)) ∧
      (∀ first second, graph.representative first = graph.representative second ↔
        matrix.Merged first second) ∧
      (∀ vertex, IsFirst (matrix.Merged vertex) (Vertex.all matrix.size)
        (graph.representative vertex)) ∧
      ∀ cells : List (Matrix.Cell matrix.size),
        (∀ cell, cell ∈ cells ↔ cell ∈ matrix.cellList) → ∀ edges,
          (ofLinks (cells.filterMap Matrix.Cell.link?) edges).representatives =
            graph.representatives := by
  refine ⟨fun n pairs => ?_, fun matrix => ?_⟩
  · intro sets
    exact ⟨(DisjointSets.discrete n).unitesAll_parent_iff pairs, sets.parent_le,
      sets.finds_parent_iff, fun i => (sets.find_eq i).2,
      DisjointSets.root_unionAll_discrete_eq_iff pairs,
      DisjointSets.isLeast_root_unionAll_discrete pairs⟩
  · intro graph pairs
    have hmerged := representative_ofMatrix_eq_iff matrix
    have hunited := ((DisjointSets.discrete _).unitesAll_parent_iff pairs _).mpr rfl
    refine ⟨⟨_, hunited, ?_⟩, hmerged, ?_, ?_⟩
    · rw [DisjointSets.findsAll_parent_iff, List.map_map]
      exact List.map_congr_left fun vertex _ => index_representative_ofLinks _ _ vertex
    · intro vertex
      apply (isFirst_representative_ofLinks _ _ vertex).congr
      intro other _
      rw [← hmerged]
      exact eq_comm
    · intro cells hcells edges
      apply representatives_ofLinks_congr
      intro link
      simp only [List.mem_filterMap, hcells]

theorem looped_merging_reverse :
    (ofLinks (Matrix.looped.cellList.reverse.filterMap Matrix.Cell.link?) []).representatives =
        (ofMatrix Matrix.looped).representatives ∧
      (ofMatrix Matrix.looped).representative ⟨.g, ⟨1, by decide⟩⟩ = ⟨.f, ⟨0, by decide⟩⟩ := by
  obtain ⟨-, -, -, horder⟩ := merging_canonical.2 Matrix.looped
  refine ⟨horder _ (fun cell => List.mem_reverse) [], ?_⟩
  decide +kernel

end OrderingGraph

end OperatorPrecedence
