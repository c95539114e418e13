import OperatorPrecedence.Classes
import OperatorPrecedence.Distances
import OperatorPrecedence.Fault

/-!
The precedence functions: for every symbol its value on the left and its value
on the right.  The symbols of a class share the distances of the class.
-/

namespace OperatorPrecedence

structure Values where
  f : Nat
  g : Nat
deriving Repr, DecidableEq

/-- The values of the symbols, in the order in which the symbols came first. -/
structure PrecedenceFunctions where
  entries : List (String × Values)
deriving Repr, DecidableEq

/-- A relation that the functions do not reproduce. -/
structure Violation where
  left : String
  right : String
  relation : Relation
  f : Nat
  g : Nat
deriving Repr, DecidableEq

def Violation.text (violation : Violation) : String :=
  violation.left ++ " " ++ violation.relation.text ++ " " ++ violation.right ++
    " does not hold: f(" ++ violation.left ++ ") = " ++ toString violation.f ++ ", g(" ++
    violation.right ++ ") = " ++ toString violation.g

namespace PrecedenceFunctions

def empty : PrecedenceFunctions := ⟨[]⟩

/-- Give a symbol its values.  A symbol that has values already keeps its
place. -/
def insert (functions : PrecedenceFunctions) (symbol : String) (values : Values) :
    PrecedenceFunctions :=
  if symbol ∈ functions.entries.map Prod.fst then
    ⟨functions.entries.map fun entry =>
      if entry.1 = symbol then (symbol, values) else entry⟩
  else ⟨functions.entries ++ [(symbol, values)]⟩

def insertAll (functions : PrecedenceFunctions) (symbols : List String)
    (values : Values) : PrecedenceFunctions :=
  symbols.foldl (fun functions symbol => functions.insert symbol values) functions

def get? (functions : PrecedenceFunctions) (symbol : String) : Option Values :=
  functions.entries.lookup symbol

def f? (functions : PrecedenceFunctions) (symbol : String) : Option Nat :=
  (functions.get? symbol).map Values.f

def g? (functions : PrecedenceFunctions) (symbol : String) : Option Nat :=
  (functions.get? symbol).map Values.g

def size (functions : PrecedenceFunctions) : Nat :=
  functions.entries.length

def classValues? {n : Nat} (distances : Distances n) (cls : Class) : Option Values :=
  match distances.get? .f cls.index, distances.get? .g cls.index with
  | some f, some g => some ⟨f, g⟩
  | _, _ => none

/-- Spread the distances of each class over its symbols. -/
def insertClasses {n : Nat} (distances : Distances n) (functions : PrecedenceFunctions) :
    List Class → Except Fault PrecedenceFunctions
  | [] => .ok functions
  | cls :: rest =>
      match classValues? distances cls with
      | none => .error (.missingDistance cls.label)
      | some values =>
          insertClasses distances (functions.insertAll cls.symbols values) rest

def ofDistances {n : Nat} (distances : Distances n) (classes : Classes) :
    Except Fault PrecedenceFunctions :=
  insertClasses distances empty classes.list

/-- The violation of a relation by two symbols.  There is none where a symbol
has no values. -/
def violation? (functions : PrecedenceFunctions) (relation : Relation)
    (left right : String) : Option Violation :=
  match functions.f? left, functions.g? right with
  | some f, some g =>
      if relation.Holds f g then none else some ⟨left, right, relation, f, g⟩
  | _, _ => none

def symbolsAt (classes : Classes) (index : Nat) : List String :=
  (classes.get? index).elim [] Class.symbols

/-- Every violation of a matrix: by its cells row by row, then by the symbols of
the row, then by those of the column. -/
def violations [Text.LabelAlphabet] (functions : PrecedenceFunctions) (matrix : Matrix)
    (classes : Classes) : List Violation :=
  matrix.cellList.flatMap fun cell =>
    if cell.relation = .unrelated then []
    else
      (symbolsAt classes cell.row).flatMap fun left =>
        (symbolsAt classes cell.column).filterMap fun right =>
          functions.violation? cell.relation left right

end PrecedenceFunctions

end OperatorPrecedence
