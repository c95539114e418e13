/-!
The precedence relation that a cell of a table states between the symbol of its
row and the symbol of its column.
-/

namespace OperatorPrecedence

inductive Relation where
  /-- The row yields precedence to the column. -/
  | less
  /-- The row takes precedence over the column. -/
  | greater
  /-- Both have the same precedence. -/
  | equal
  /-- Nothing is stated. -/
  | unrelated
deriving Repr, DecidableEq, Inhabited

namespace Relation

/-- The relation that a mark stands for.  The letter `x` is a second spelling
of the unrelated cell. -/
def ofMark? : Char → Option Relation
  | '<' => some .less
  | '>' => some .greater
  | '=' => some .equal
  | '.' => some .unrelated
  | 'x' => some .unrelated
  | _ => none

def mark : Relation → Char
  | .less => '<'
  | .greater => '>'
  | .equal => '='
  | .unrelated => '.'

def text (relation : Relation) : String :=
  String.singleton relation.mark

def name : Relation → String
  | .less => "Less"
  | .greater => "Greater"
  | .equal => "Equal"
  | .unrelated => "None"

/-- `f`, the value of the row, and `g`, the value of the column, reproduce the
relation.  An unrelated cell is reproduced by any two values. -/
def Holds {α : Type _} [LT α] : Relation → α → α → Prop
  | .less, f, g => f < g
  | .greater, f, g => g < f
  | .equal, f, g => f = g
  | .unrelated, _, _ => True

instance (relation : Relation) (f g : Nat) : Decidable (relation.Holds f g) := by
  cases relation <;> unfold Holds <;> infer_instance

@[simp] theorem ofMark?_mark (relation : Relation) :
    ofMark? relation.mark = some relation := by
  cases relation <;> rfl

theorem ofMark?_isSome_iff (c : Char) :
    (ofMark? c).isSome ↔ c ∈ ['<', '>', '=', '.', 'x'] := by
  unfold ofMark?
  split <;> simp_all

end Relation

end OperatorPrecedence
