import OperatorPrecedence.Proofs.AcceptedTables
import OperatorPrecedence.Proofs.ClassSymbols
import OperatorPrecedence.Proofs.FirstFaults
import OperatorPrecedence.Proofs.KeyedEntries

/-!
Which groups a table is refused for, and how the classes of the others are numbered.
The labels of all groups are checked first, then the groups one at a time and their
members one at a time, and last the number of classes.  What is numbered fits in
sixteen bits.
-/

namespace OperatorPrecedence

namespace Groups

variable [Text.LabelAlphabet]

/-- What is wrong with a member that comes behind others. -/
def MemberFault (labels met : List String) (member : String) : TableError → Prop :=
  FirstFound
    [FoundIf (Text.isLabel member = false) (.invalidLabel member),
      FoundIf (member ∈ labels) (.memberIsLabel member),
      FoundIf (member ∈ met) (.repeatedMember member)]

structure Faultless (labels met : List String) : Prop where
  isLabel : ∀ member ∈ met, Text.isLabel member = true
  not_mem : ∀ member ∈ met, member ∉ labels
  nodup : met.Nodup

theorem Faultless.left {labels met members : List String}
    (hboth : Faultless labels (met ++ members)) : Faultless labels met where
  isLabel member hmember := hboth.isLabel member (List.mem_append_left members hmember)
  not_mem member hmember := hboth.not_mem member (List.mem_append_left members hmember)
  nodup := (List.nodup_append.mp hboth.nodup).1

/-- What is wrong with the first group with which anything is: it has no member, or
its first faulty member has a fault. -/
inductive FaultyGroup (labels : List String) (entries : List (String × List String)) :
    TableError → Prop
  | empty {before after : List (String × List String)} {label : String}
      (hentries : entries = before ++ (label, []) :: after)
      (hbefore : ∀ entry ∈ before, entry.2 ≠ [])
      (hmet : Faultless labels (before.flatMap Prod.snd)) :
      FaultyGroup labels entries (.emptyGroup label)
  | member {before after : List (String × List String)} {label member : String}
      {earlier later : List String} {error : TableError}
      (hentries : entries = before ++ (label, earlier ++ member :: later) :: after)
      (hbefore : ∀ entry ∈ before, entry.2 ≠ [])
      (hmet : Faultless labels (before.flatMap Prod.snd ++ earlier))
      (hfault : MemberFault labels (before.flatMap Prod.snd ++ earlier) member error) :
      FaultyGroup labels entries error

def checks (groups : Groups) (labels : List String) : List (TableError → Prop) :=
  [FoundAtFirst (fun entry => entry.1 ∉ labels) groups.entries
      fun entry => .groupWithoutClass entry.1,
    FaultyGroup labels groups.entries,
    FoundIf (Classes.capacity < labels.length) .tooManyClasses]

/-- Only which members were met matters to the fault of the next. -/
theorem memberFault_congr {labels met others : List String}
    (hsame : ∀ symbol, symbol ∈ met ↔ symbol ∈ others) (member : String) (error : TableError) :
    MemberFault labels met member error ↔ MemberFault labels others member error := by
  rw [MemberFault, MemberFault, hsame]

def memberFault? (labels met : List String) (member : String) : Option TableError :=
  if Text.isLabel member = false then some (.invalidLabel member)
  else if member ∈ labels then some (.memberIsLabel member)
  else if member ∈ met then some (.repeatedMember member)
  else none

theorem memberFault?_eq_some_iff (labels met : List String) (member : String)
    (error : TableError) :
    memberFault? labels met member = some error ↔ MemberFault labels met member error := by
  rw [MemberFault, memberFault?]
  split
  · rename_i hinvalid
    rw [firstFound_cons_of_some (ite_eq_some_iff_foundIf _ _) (if_pos hinvalid),
      Option.some.injEq]
  rename_i hvalid
  rw [firstFound_cons_of_none (ite_eq_some_iff_foundIf _ _) (if_neg hvalid)]
  split
  · rename_i hlabel
    rw [firstFound_cons_of_some (ite_eq_some_iff_foundIf _ _) (if_pos hlabel),
      Option.some.injEq]
  · rename_i hlabel
    rw [firstFound_cons_of_none (ite_eq_some_iff_foundIf _ _) (if_neg hlabel),
      ite_eq_some_iff_foundIf, firstFound_cons_iff]
    simp [firstFound_nil]

end Groups

namespace Classes

open Groups

section AnyAlphabet

variable [Text.LabelAlphabet]

/-- Take a member behind those that were met. -/
def takeMember (labels met : List String) (member : String) : Except TableError (List String) :=
  match memberFault? labels met member with
  | some error => .error error
  | none => .ok (member :: met)

def takeGroup (labels met : List String) (entry : String × List String) :
    Except TableError (List String) :=
  if entry.2.isEmpty then .error (.emptyGroup entry.1) else checkMembers labels met entry.2

theorem takeMember_eq_error_iff (labels met : List String) (member : String)
    (error : TableError) :
    takeMember labels met member = .error error ↔ MemberFault labels met member error := by
  rw [← memberFault?_eq_some_iff, takeMember]
  cases memberFault? labels met member <;> simp

theorem checkMembers_eq_foldlM (labels met members : List String) :
    checkMembers labels met members = members.foldlM (takeMember labels) met := by
  induction members generalizing met with
  | nil => rfl
  | cons member members ih =>
      rw [checkMembers, List.foldlM_cons, takeMember, memberFault?]
      split
      · rfl
      split
      · rfl
      split
      · rfl
      · exact ih (member :: met)

theorem checkGroups_eq_foldlM (labels met : List String)
    (entries : List (String × List String)) :
    checkGroups labels met entries =
      (entries.foldlM (takeGroup labels) met).map fun _ => () := by
  induction entries generalizing met with
  | nil => rfl
  | cons entry entries ih =>
      rw [checkGroups, List.foldlM_cons, takeGroup]
      split
      · rfl
      · cases checkMembers labels met entry.2 with
        | error first => rfl
        | ok next => exact ih next

theorem takeGroup_eq_error_iff (labels met : List String) (entry : String × List String)
    (error : TableError) :
    takeGroup labels met entry = .error error ↔
      entry.2 = [] ∧ error = .emptyGroup entry.1 ∨
        entry.2.foldlM (takeMember labels) met = .error error := by
  rw [takeGroup, checkMembers_eq_foldlM]
  cases hmembers : entry.2 with
  | nil => simp [pure, Except.pure, eq_comm]
  | cons member members => simp

theorem takeGroup_eq_ok {labels met reached : List String} {entry : String × List String}
    (htaken : takeGroup labels met entry = .ok reached) : reached = entry.2.reverse ++ met := by
  rw [takeGroup] at htaken
  split at htaken
  · cases htaken
  · exact ((checkMembers_eq_ok_iff _ _ _ _).mp htaken).2.2

theorem foldlM_takeGroup_eq_ok {labels met reached : List String}
    {entries : List (String × List String)}
    (htaken : entries.foldlM (takeGroup labels) met = .ok reached) :
    reached = (entries.flatMap Prod.snd).reverse ++ met := by
  induction entries generalizing met with
  | nil => exact (Except.ok.inj htaken).symm
  | cons entry entries ih =>
      rw [List.foldlM_cons] at htaken
      cases hentry : takeGroup labels met entry with
      | error error =>
          rw [hentry] at htaken
          cases htaken
      | ok next =>
          rw [hentry] at htaken
          rw [ih htaken, takeGroup_eq_ok hentry, List.flatMap_cons, List.reverse_append,
            List.append_assoc]

/-- Groups are taken when none is empty and their members are faultless. -/
theorem foldlM_takeGroup_eq_ok_iff (labels reached : List String)
    (entries : List (String × List String)) :
    entries.foldlM (takeGroup labels) [] = .ok reached ↔
      (∀ entry ∈ entries, entry.2 ≠ []) ∧ Faultless labels (entries.flatMap Prod.snd) ∧
        reached = (entries.flatMap Prod.snd).reverse := by
  constructor
  · intro htaken
    have hchecked : checkGroups labels [] entries = .ok () := by
      rw [checkGroups_eq_foldlM, htaken]
      rfl
    obtain ⟨hmembers, hvalid, hnodup⟩ := (checkGroups_eq_ok_iff _ _ _).mp hchecked
    refine ⟨hmembers, ⟨fun member hmember => (hvalid member hmember).1,
      fun member hmember => (hvalid member hmember).2.1, hnodup⟩, ?_⟩
    rw [foldlM_takeGroup_eq_ok htaken, List.append_nil]
  · rintro ⟨hmembers, hfaultless, rfl⟩
    have hchecked := (checkGroups_eq_ok_iff labels [] entries).mpr
      ⟨hmembers, fun member hmember => ⟨hfaultless.isLabel member hmember,
        hfaultless.not_mem member hmember, List.not_mem_nil⟩, hfaultless.nodup⟩
    rw [checkGroups_eq_foldlM] at hchecked
    cases htaken : entries.foldlM (takeGroup labels) [] with
    | error error =>
        rw [htaken] at hchecked
        cases hchecked
    | ok reached => rw [foldlM_takeGroup_eq_ok htaken, List.append_nil]

/-- Members are taken behind faultless ones when they are faultless with them. -/
theorem foldlM_takeMember_eq_ok_iff {labels met : List String} (hmet : Faultless labels met)
    (members reached : List String) :
    members.foldlM (takeMember labels) met.reverse = .ok reached ↔
      Faultless labels (met ++ members) ∧ reached = (met ++ members).reverse := by
  rw [← checkMembers_eq_foldlM, checkMembers_eq_ok_iff, List.reverse_append]
  constructor
  · rintro ⟨hvalid, hnodup, hreached⟩
    refine ⟨⟨?_, ?_, ?_⟩, hreached⟩
    · exact List.forall_mem_append.mpr
        ⟨hmet.isLabel, fun member hmember => (hvalid member hmember).1⟩
    · exact List.forall_mem_append.mpr
        ⟨hmet.not_mem, fun member hmember => (hvalid member hmember).2.1⟩
    · refine List.nodup_append.mpr ⟨hmet.nodup, hnodup, ?_⟩
      rintro old hold member hmember rfl
      exact (hvalid old hmember).2.2 (List.mem_reverse.mpr hold)
  · rintro ⟨hboth, hreached⟩
    obtain ⟨-, hnodup, hapart⟩ := List.nodup_append.mp hboth.nodup
    refine ⟨fun member hmember => ?_, hnodup, hreached⟩
    have hmem := List.mem_append_right met hmember
    exact ⟨hboth.isLabel member hmem, hboth.not_mem member hmem,
      fun hold => hapart member (List.mem_reverse.mp hold) member hmember rfl⟩

theorem checkGroups_eq_error_iff (labels : List String)
    (entries : List (String × List String)) (error : TableError) :
    checkGroups labels [] entries = .error error ↔ FaultyGroup labels entries error := by
  have hsame : checkGroups labels [] entries = .error error ↔
      entries.foldlM (takeGroup labels) [] = .error error := by
    rw [checkGroups_eq_foldlM]
    cases entries.foldlM (takeGroup labels) [] <;> simp [Except.map]
  -- What was met is kept last first, but only which members were met matters to a fault.
  rw [hsame, foldlM_eq_error_iff]
  constructor
  · rintro ⟨before, ⟨label, members⟩, after, reached, hentries, hbefore, hentry⟩
    obtain ⟨hmembers, hmet, rfl⟩ := (foldlM_takeGroup_eq_ok_iff _ _ _).mp hbefore
    rcases (takeGroup_eq_error_iff _ _ _ _).mp hentry with ⟨hempty, rfl⟩ | hfirst
    · obtain rfl : members = [] := hempty
      exact .empty hentries hmembers hmet
    · obtain ⟨earlier, member, later, met, hsplit, hearlier, hmember⟩ :=
        (foldlM_eq_error_iff _ _ _ _).mp hfirst
      obtain rfl : members = earlier ++ member :: later := hsplit
      obtain ⟨hboth, rfl⟩ := (foldlM_takeMember_eq_ok_iff hmet _ _).mp hearlier
      rw [takeMember_eq_error_iff, memberFault_congr fun _ => List.mem_reverse] at hmember
      exact .member hentries hmembers hboth hmember
  · intro hfault
    cases hfault with
    | empty hentries hmembers hmet =>
        refine ⟨_, _, _, _, hentries,
          (foldlM_takeGroup_eq_ok_iff _ _ _).mpr ⟨hmembers, hmet, rfl⟩, ?_⟩
        exact (takeGroup_eq_error_iff _ _ _ _).mpr (Or.inl ⟨rfl, rfl⟩)
    | member hentries hmembers hboth hmember =>
        refine ⟨_, _, _, _, hentries,
          (foldlM_takeGroup_eq_ok_iff _ _ _).mpr ⟨hmembers, hboth.left, rfl⟩, ?_⟩
        refine (takeGroup_eq_error_iff _ _ _ _).mpr (Or.inr ?_)
        refine (foldlM_eq_error_iff _ _ _ _).mpr ⟨_, _, _, _, rfl,
          (foldlM_takeMember_eq_ok_iff hboth.left _ _).mpr ⟨hboth, rfl⟩, ?_⟩
        rwa [takeMember_eq_error_iff, memberFault_congr fun _ => List.mem_reverse]

/-- A table is refused for its groups, or for too many classes, by the first check that
finds anything. -/
theorem ofMatrix_eq_error_iff_firstFound (matrix : Matrix) (groups : Groups)
    (error : TableError) :
    ofMatrix matrix groups = .error error ↔ FirstFound (groups.checks matrix.labels) error := by
  have hanswer : ∀ found : TableError,
      (groups.entries.find? fun entry => decide (entry.1 ∉ matrix.labels)).map
          (fun entry => .groupWithoutClass entry.1) = some found ↔
        FoundAtFirst (fun entry => entry.1 ∉ matrix.labels) groups.entries
          (fun entry => .groupWithoutClass entry.1) found := by
    simp only [find?_map_eq_some_iff, decide_eq_true_eq, implies_true]
  rw [ofMatrix, checks]
  split
  · rename_i entry hentry
    rw [firstFound_cons_of_some hanswer (congrArg _ hentry), Except.error.injEq]
  -- The checks are taken off the list one by one, as the function makes them.
  rename_i hlabels
  rw [firstFound_cons_of_none hanswer (congrArg _ hlabels)]
  split
  · rename_i first hfirst
    have hcheck : ∀ other, FaultyGroup matrix.labels groups.entries other ↔ first = other := by
      intro other
      rw [← checkGroups_eq_error_iff, hfirst, Except.error.injEq]
    rw [firstFound_cons_of_forall_iff hcheck, Except.error.injEq]
  rename_i hgroups
  have hcheck : ∀ other, ¬ FaultyGroup matrix.labels groups.entries other := by
    intro other
    rw [← checkGroups_eq_error_iff, hgroups]
    exact nofun
  rw [firstFound_cons_of_forall_not hcheck]
  split
  · rename_i hlarge
    rw [firstFound_cons_of_some (ite_eq_some_iff_foundIf _ _) (if_pos hlarge), Except.error.injEq]
  · rename_i hsmall
    rw [firstFound_cons_of_none (ite_eq_some_iff_foundIf _ _) (if_neg hsmall)]
    simp [firstFound_nil]

end AnyAlphabet

theorem toNat_ofNat_of_lt_capacity {index : Nat} (hindex : index < capacity) :
    (UInt16.ofNat index).toNat = index :=
  UInt16.toNat_ofNat_of_lt' hindex

/-- A table has classes exactly when its groups fit and its labels are at most 65536.
Each label then has the class with its number, which sixteen bits keep, and with the
members of its group if it has one; and the class of the end marker is found by its
number in sixteen bits.  Any other table is refused for what the first check finds that
finds anything. -/
theorem ofMatrix_classes_or_first_fault (matrix : Matrix) (groups : Groups) :
    ((∃ classes, ofMatrix matrix groups = .ok classes) ↔
      groups.Fits matrix.labels ∧ matrix.size ≤ 65536) ∧
    (∀ classes, ofMatrix matrix groups = .ok classes →
      classes.size = matrix.size ∧
      (∀ i : Fin matrix.size, ∃ cls,
        classes.get? (UInt16.ofNat i).toNat = some cls ∧ cls.index = i ∧
          cls.label = matrix.label i ∧
          ∀ members, cls.members? = some members ↔
            (matrix.label i, members) ∈ groups.entries) ∧
      classes.get? (UInt16.ofNat matrix.endIndex).toNat = some classes.endMarker ∧
      classes.endMarker.label = matrix.endMarker) ∧
    ∀ error, ofMatrix matrix groups = .error error ↔
      FirstFound (groups.checks matrix.labels) error := by
  refine ⟨exists_ofMatrix_iff matrix groups, fun classes hclasses => ?_,
    ofMatrix_eq_error_iff_firstFound matrix groups⟩
  obtain ⟨-, hsize⟩ := (exists_ofMatrix_iff matrix groups).mp ⟨classes, hclasses⟩
  have hkept : ∀ i : Fin matrix.size, (UInt16.ofNat i).toNat = i := fun i =>
    toNat_ofNat_of_lt_capacity (i.isLt.trans_le hsize)
  have hend := get?_endIndex_of_ofMatrix hclasses
  refine ⟨size_of_ofMatrix hclasses, fun i => ?_, ?_, ?_⟩
  · refine ⟨⟨i, matrix.label i, groups.get? (matrix.label i)⟩, ?_, rfl, rfl, fun members => ?_⟩
    · rw [hkept, get?_of_ofMatrix hclasses]
    · exact lookup_eq_some_iff_mem groups.labels_nodup (matrix.label i) members
  · rw [hkept, hend]
  · rw [get?_of_ofMatrix hclasses] at hend
    rw [← Option.some.inj hend]
    rfl

/-- One label of three stands for two symbols. -/
def paired : Groups where
  entries := [("b", ["plus", "minus"])]
  labels_nodup := by decide

/-- Two groups that share a member; behind it the second has a member that is no
identifier and one that is a label. -/
def crossed : Groups where
  entries := [("c", ["plus"]), ("a", ["minus", "plus", "1st", "b"])]
  labels_nodup := by decide

theorem paired_fits : paired.Fits Matrix.rotated.labels where
  label_mem := by decide
  members_ne_nil := by decide
  isLabel := by decide
  not_mem := by decide
  nodup := by decide

theorem rotated_classes_or_first_fault :
    (∃ classes cls, ofMatrix Matrix.rotated paired = .ok classes ∧ classes.get? 1 = some cls ∧
      cls.label = "b" ∧ cls.members? = some ["plus", "minus"] ∧
      classes.endMarker.label = "c") ∧
    FirstFound (crossed.checks Matrix.rotated.labels) (.repeatedMember "plus") := by
  constructor
  · obtain ⟨haccepted, hnumbered, -⟩ := ofMatrix_classes_or_first_fault Matrix.rotated paired
    obtain ⟨classes, hclasses⟩ := haccepted.mpr ⟨paired_fits, by decide⟩
    obtain ⟨-, hcls, -, hend⟩ := hnumbered classes hclasses
    obtain ⟨cls, hget, -, hlabel, hmembers⟩ := hcls ⟨1, by decide⟩
    exact ⟨classes, cls, hclasses, hget, hlabel, (hmembers _).mpr (by decide), hend⟩
  · exact ((ofMatrix_classes_or_first_fault Matrix.rotated crossed).2.2 _).mp (by decide)

end Classes

end OperatorPrecedence
