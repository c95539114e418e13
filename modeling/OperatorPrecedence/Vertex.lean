import OperatorPrecedence.Matrix

/-!
The unknowns of a table: for every class its value on the left of an input
position, `f`, and its value on the right, `g`.
-/

namespace OperatorPrecedence

universe u

/-- Which of the two functions an unknown belongs to. -/
inductive Role where
  | f
  | g
deriving Repr, DecidableEq

namespace Role

def text : Role → String
  | .f => "f"
  | .g => "g"

def name : Role → String
  | .f => "F"
  | .g => "G"

end Role

/-- The value of one function at one of `n` classes. -/
structure Vertex (n : Nat) where
  role : Role
  cls : Fin n
deriving Repr, DecidableEq

/-- A vertex by the label of its class. -/
structure VertexName where
  role : Role
  label : String
deriving Repr, DecidableEq

/-- The vertex as an application, such as `f(a)`. -/
def VertexName.text (name : VertexName) : String :=
  name.role.text ++ "(" ++ name.label ++ ")"

namespace Vertex

variable {n : Nat}

def all (n : Nat) : List (Vertex n) :=
  (List.finRange n).map (⟨.f, ·⟩) ++ (List.finRange n).map (⟨.g, ·⟩)

@[simp] theorem mem_all (vertex : Vertex n) : vertex ∈ all n := by
  obtain ⟨role, cls⟩ := vertex
  cases role <;> simp [all, List.mem_finRange]

theorem nodup_all (n : Nat) : (all n).Nodup := by
  have hrole : ∀ role, ((List.finRange n).map fun cls => Vertex.mk role cls).Nodup := by
    intro role
    refine List.pairwise_map.mpr ((List.nodup_finRange n).imp ?_)
    intro i j hne hvertex
    exact hne (Vertex.mk.inj hvertex).2
  refine List.nodup_append.mpr ⟨hrole .f, hrole .g, ?_⟩
  simp [List.mem_finRange]

def index : Vertex n → Fin (n + n)
  | ⟨.f, cls⟩ => cls.castAdd n
  | ⟨.g, cls⟩ => cls.natAdd n

def ofIndex (i : Fin (n + n)) : Vertex n :=
  if h : i < n then ⟨.f, ⟨i, h⟩⟩ else ⟨.g, ⟨i - n, by omega⟩⟩

@[simp] theorem ofIndex_index (vertex : Vertex n) : ofIndex vertex.index = vertex := by
  obtain ⟨role, cls⟩ := vertex
  cases role <;> simp [ofIndex, index]

@[simp] theorem index_ofIndex (i : Fin (n + n)) : (ofIndex i).index = i := by
  unfold ofIndex
  split <;> ext <;> simp [index]
  omega

end Vertex

def Matrix.vertexName [Text.LabelAlphabet] (matrix : Matrix)
    (vertex : Vertex matrix.size) : VertexName :=
  ⟨vertex.role, matrix.label vertex.cls⟩

structure VertexTable (n : Nat) (α : Type u) where
  f : Vector α n
  g : Vector α n
deriving Repr, DecidableEq

namespace VertexTable

variable {n : Nat} {α : Type u}

def ofFn (entry : Vertex n → α) : VertexTable n α :=
  ⟨Vector.ofFn fun cls => entry ⟨.f, cls⟩,
    Vector.ofFn fun cls => entry ⟨.g, cls⟩⟩

def get (table : VertexTable n α) : Vertex n → α
  | ⟨.f, cls⟩ => getElem table.f cls.val cls.isLt
  | ⟨.g, cls⟩ => getElem table.g cls.val cls.isLt

def get? (table : VertexTable n α) (role : Role) (index : Nat) : Option α :=
  if h : index < n then some (table.get ⟨role, ⟨index, h⟩⟩) else none

def set (table : VertexTable n α) (vertex : Vertex n) (entry : α) : VertexTable n α :=
  match vertex with
  | ⟨.f, cls⟩ => { table with f := table.f.set cls entry cls.isLt }
  | ⟨.g, cls⟩ => { table with g := table.g.set cls entry cls.isLt }

@[simp] theorem get_ofFn (entry : Vertex n → α) (vertex : Vertex n) :
    (ofFn entry).get vertex = entry vertex := by
  obtain ⟨role, cls⟩ := vertex
  cases role <;> simp [ofFn, get]

@[simp] theorem get?_cls (table : VertexTable n α) (role : Role) (cls : Fin n) :
    table.get? role cls = some (table.get ⟨role, cls⟩) := by
  simp [get?]

theorem get_set (table : VertexTable n α) (vertex other : Vertex n) (entry : α) :
    (table.set vertex entry).get other =
      if other = vertex then entry else table.get other := by
  obtain ⟨role, cls⟩ := vertex
  obtain ⟨otherRole, otherCls⟩ := other
  cases role <;> cases otherRole <;>
    simp [set, get, Vector.getElem_set, Fin.ext_iff, eq_comm]

@[simp] theorem get_set_self (table : VertexTable n α) (vertex : Vertex n) (entry : α) :
    (table.set vertex entry).get vertex = entry := by
  simp [get_set]

end VertexTable

end OperatorPrecedence
