import OperatorPrecedence.Attempts
import OperatorPrecedence.TableError

/-!
Groups: labels that stand for several symbols each, in the order in which they
were inserted.
-/

namespace OperatorPrecedence

/-- The members of each group.  No label is given twice. -/
structure Groups where
  entries : List (String × List String)
  labels_nodup : (entries.map Prod.fst).Nodup
deriving DecidableEq

namespace Groups

def empty : Groups := ⟨[], List.nodup_nil⟩

/-- Add a group behind the others. -/
def register (entry : String × List String) : EStateM TableError Groups Unit := do
  let groups ← get
  if h : entry.1 ∈ groups.entries.map Prod.fst then throw (.repeatedGroup entry.1)
  else
    set
      ({ entries := groups.entries ++ [entry]
         labels_nodup := by
          rw [List.map_append, List.nodup_append]
          refine ⟨groups.labels_nodup, by simp, ?_⟩
          intro a ha b hb heq
          simp only [List.map_cons, List.map_nil, List.mem_singleton] at hb
          exact h (hb ▸ heq ▸ ha) } : Groups)

/-- A label that is there is refused, and nothing changes; another comes last. -/
theorem register_cases (groups : Groups) (entry : String × List String) :
    (entry.1 ∈ groups.entries.map Prod.fst ∧
      (register entry).run groups = .error (.repeatedGroup entry.1) groups) ∨
    (entry.1 ∉ groups.entries.map Prod.fst ∧ ∃ next,
      (register entry).run groups = .ok () next ∧ next.entries = groups.entries ++ [entry]) := by
  rw [register, EStateM.run_bind, EStateM.run_get]
  dsimp only
  by_cases hlabel : entry.1 ∈ groups.entries.map Prod.fst
  · rw [dif_pos hlabel]
    exact Or.inl ⟨hlabel, rfl⟩
  · rw [dif_neg hlabel]
    exact Or.inr ⟨hlabel, _, rfl, rfl⟩

/-- The groups with one more, if its label is new. -/
def insert (groups : Groups) (label : String) (members : List String) :
    Except TableError Groups :=
  stateAfter (register (label, members)) groups

theorem entries_of_insert {groups next : Groups} {label : String} {members : List String}
    (hnext : groups.insert label members = .ok next) :
    next.entries = groups.entries ++ [(label, members)] := by
  rw [insert, stateAfter_eq_ok_iff] at hnext
  rcases groups.register_cases (label, members) with ⟨-, herror⟩ | ⟨-, found, hok, hentries⟩
  · rw [herror] at hnext
    cases hnext
  · rw [hok] at hnext
    cases hnext
    exact hentries

theorem insert_eq_error_iff (groups : Groups) (label : String) (members : List String)
    (error : TableError) :
    groups.insert label members = .error error ↔
      label ∈ groups.entries.map Prod.fst ∧ error = .repeatedGroup label := by
  rw [insert, stateAfter_eq_error_iff]
  rcases groups.register_cases (label, members) with ⟨hlabel, herror⟩ | ⟨hlabel, found, hok, -⟩
  · simp [herror, hlabel, eq_comm]
  · simp [hok, hlabel]

/-- Add groups up to the first that fails. -/
def insertAll (groups : Groups) :
    List (String × List String) → Except TableError Groups
  | [] => .ok groups
  | (label, members) :: rest =>
      match groups.insert label members with
      | .error error => .error error
      | .ok next => next.insertAll rest

/-- Add one group after the other, also after one that is refused. -/
def attemptAll (groups : Groups) (entries : List (String × List String)) :
    Groups × List (Option TableError) :=
  attemptEach register groups entries

def get? (groups : Groups) (label : String) : Option (List String) :=
  groups.entries.lookup label

/-- The symbols that a label stands for: the members of its group, or the label
itself. -/
def symbolsOf (groups : Groups) (label : String) : List String :=
  (groups.get? label).getD [label]

def size (groups : Groups) : Nat :=
  groups.entries.length

/-- Whether two collections hold the same groups, in whatever order. -/
def same (groups others : Groups) : Bool :=
  groups.size == others.size &&
    groups.entries.all fun entry => others.get? entry.1 == some entry.2

end Groups

end OperatorPrecedence
