import OperatorPrecedence.Groups
import OperatorPrecedence.Matrix

/-!
Classes: the labels of a matrix together with the symbols that each stands for.
A label without a group stands for itself.
-/

namespace OperatorPrecedence

/-- A row and column of a matrix.  The class of a group has members. -/
structure Class where
  /-- The place of the class in the canonical order. -/
  index : Nat
  label : String
  members? : Option (List String)
deriving Repr, DecidableEq

namespace Class

def isGroup (cls : Class) : Bool :=
  cls.members?.isSome

/-- The symbols that the class stands for. -/
def symbols (cls : Class) : List String :=
  cls.members?.getD [cls.label]

end Class

/-- The classes of a matrix in their canonical order. -/
structure Classes where
  list : List Class
  endIndex : Fin list.length
deriving DecidableEq

namespace Classes

variable [Text.LabelAlphabet]

/-- Classes are numbered in sixteen bits. -/
def capacity : Nat := 65536

/-- Check the members of one group; `seen` holds the members met before.  The
answer is what has then been met. -/
def checkMembers (labels : List String) (seen : List String) :
    List String → Except TableError (List String)
  | [] => .ok seen
  | member :: members =>
      if Text.isLabel member = false then .error (.invalidLabel member)
      else if member ∈ labels then .error (.memberIsLabel member)
      else if member ∈ seen then .error (.repeatedMember member)
      else checkMembers labels (member :: seen) members

def checkGroups (labels : List String) (seen : List String) :
    List (String × List String) → Except TableError Unit
  | [] => .ok ()
  | (label, members) :: rest =>
      if members.isEmpty then .error (.emptyGroup label)
      else
        match checkMembers labels seen members with
        | .error error => .error error
        | .ok met => checkGroups labels met rest

/-- Number the labels of a matrix and give each its group.  The labels of all
groups are checked first, then the members group by group. -/
def ofMatrix (matrix : Matrix) (groups : Groups) : Except TableError Classes :=
  match groups.entries.find? (fun entry => entry.1 ∉ matrix.labels) with
  | some entry => .error (.groupWithoutClass entry.1)
  | none =>
  match checkGroups matrix.labels [] groups.entries with
  | .error error => .error error
  | .ok () =>
  if capacity < matrix.size then .error .tooManyClasses
  else
    .ok
      { list := matrix.labels.zipIdx.map fun (label, index) =>
          ⟨index, label, groups.get? label⟩
        endIndex := matrix.endIndex.cast (by simp) }

abbrev size (classes : Classes) : Nat :=
  classes.list.length

def find? (classes : Classes) (label : String) : Option Class :=
  classes.list.find? (fun cls => cls.label = label)

def get? (classes : Classes) (index : Nat) : Option Class :=
  classes.list[index]?

def isGroup (classes : Classes) (label : String) : Bool :=
  (classes.find? label).any Class.isGroup

/-- The class that marks the end of the input. -/
def endMarker (classes : Classes) : Class :=
  classes.list[classes.endIndex]

/-- Every symbol in canonical order, the members of a group in its place. -/
def symbols (classes : Classes) : List String :=
  classes.list.flatMap Class.symbols

end Classes

end OperatorPrecedence
