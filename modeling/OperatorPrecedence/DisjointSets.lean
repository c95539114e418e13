/-!
Disjoint sets over the numbers below `n`.  Every number points to a parent that
is not larger, so following parents ends, and it ends at the smallest number of
the set.
-/

namespace OperatorPrecedence

/-- A forest of parents over the numbers below `n`. -/
structure DisjointSets (n : Nat) where
  parent : Vector (Fin n) n
  parent_le : ∀ i : Fin n, parent[i] ≤ i

namespace DisjointSets

variable {n : Nat}

def discrete (n : Nat) : DisjointSets n where
  parent := Vector.ofFn id
  parent_le := fun i => by simp

/-- Let a number point to another that is not larger. -/
def redirect (sets : DisjointSets n) (i target : Fin n) (hle : target ≤ i) :
    DisjointSets n where
  parent := sets.parent.set i target
  parent_le := fun j => by
    by_cases heq : (i : Nat) = j
    · have hij : i = j := Fin.ext heq
      subst hij
      simpa using hle
    · simpa [Vector.getElem_set, heq] using sets.parent_le j

theorem parent_lt (sets : DisjointSets n) {i : Fin n} (hne : sets.parent[i] ≠ i) :
    (sets.parent[i] : Nat) < i :=
  Nat.lt_of_le_of_ne (sets.parent_le i) (fun heq => hne (Fin.ext heq))

/-- The number at which the parents of `i` end. -/
def root (sets : DisjointSets n) (i : Fin n) : Fin n :=
  if h : sets.parent[i] = i then i
  else
    have := sets.parent_lt h
    sets.root sets.parent[i]
termination_by i.val

/-- Find the root of a number and shorten the way to it: on the way every other
number is made to point to its grandparent. -/
def find (sets : DisjointSets n) (i : Fin n) : DisjointSets n × Fin n :=
  if h : sets.parent[i] = i then (sets, i)
  else
    let grandparent := sets.parent[sets.parent[i]]
    have hlt : (grandparent : Nat) < i :=
      Nat.lt_of_le_of_lt (sets.parent_le sets.parent[i]) (sets.parent_lt h)
    (sets.redirect i grandparent (Nat.le_of_lt hlt)).find grandparent
termination_by i.val

/-- Join the sets of two numbers.  The smaller root becomes the root of both, so
the roots do not depend on the order of the unions. -/
def union (sets : DisjointSets n) (i j : Fin n) : DisjointSets n :=
  let (sets, i) := sets.find i
  let (sets, j) := sets.find j
  if h : i < j then sets.redirect j i (Nat.le_of_lt h)
  else sets.redirect i j (Nat.le_of_not_lt h)

def unionAll (sets : DisjointSets n) (pairs : List (Fin n × Fin n)) : DisjointSets n :=
  pairs.foldl (fun sets pair => sets.union pair.1 pair.2) sets

end DisjointSets

end OperatorPrecedence
