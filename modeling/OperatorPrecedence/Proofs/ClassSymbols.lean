import Mathlib.Data.List.Lattice
import Mathlib.Data.List.Nodup
import Mathlib.Data.List.Pairwise
import OperatorPrecedence.PrecedenceFunctions

/-!
Which groups a table admits, and what its classes are then.  Every label stands
for some symbol, no symbol belongs to two labels, and the symbols of the classes
are those of the labels in their order.
-/

namespace OperatorPrecedence

universe u v

/-- In parts without a common entry, an entry tells its part. -/
theorem eq_of_mem_of_nodup_flatMap {α : Type u} {β : Type v} {parts : List α}
    {entries : α → List β} (hnodup : (parts.flatMap entries).Nodup) {first second : α}
    (hfirst : first ∈ parts) (hsecond : second ∈ parts) {entry : β}
    (hentry : entry ∈ entries first) (hother : entry ∈ entries second) : first = second := by
  by_contra hne
  have : Std.Symm (Function.onFun List.Disjoint entries) :=
    ⟨fun _ _ hdisjoint => List.Disjoint.symm hdisjoint⟩
  have hdisjoint := (List.nodup_flatMap.mp hnodup).2.forall hfirst hsecond hne
  exact hdisjoint hentry hother

namespace Groups

def members (groups : Groups) : List String :=
  groups.entries.flatMap Prod.snd

/-- The groups fit a table with these labels. -/
structure Fits (groups : Groups) (labels : List String) : Prop where
  label_mem : ∀ entry ∈ groups.entries, entry.1 ∈ labels
  members_ne_nil : ∀ entry ∈ groups.entries, entry.2 ≠ []
  isLabel : ∀ member ∈ groups.members, Text.isLabel member = true
  not_mem : ∀ member ∈ groups.members, member ∉ labels
  nodup : groups.members.Nodup

theorem empty_fits (labels : List String) : empty.Fits labels where
  label_mem := by simp [empty]
  members_ne_nil := by simp [empty]
  isLabel := by simp [empty, members]
  not_mem := by simp [empty, members]
  nodup := by simp [empty, members]

end Groups

namespace Classes

theorem checkMembers_eq_ok_iff [Text.LabelAlphabet] (labels seen members met : List String) :
    checkMembers labels seen members = .ok met ↔
      (∀ member ∈ members, Text.isLabel member = true ∧ member ∉ labels ∧
        member ∉ seen) ∧ members.Nodup ∧ met = members.reverse ++ seen := by
  induction members generalizing seen with
  | nil =>
      rw [checkMembers, Except.ok.injEq, eq_comm]
      simp
  | cons member members ih =>
      rw [checkMembers]
      split
      · rename_i hinvalid
        simp [hinvalid]
      · rename_i hvalid
        split
        · rename_i hlabel
          simp [hlabel]
        · rename_i hlabel
          split
          · rename_i hseen
            simp [hseen]
          · rename_i hseen
            rw [ih]
            simp only [List.nodup_cons, List.mem_cons, not_or,
              List.reverse_cons, List.append_assoc, List.singleton_append]
            grind

/-- Groups are accepted when each has members and these are identifiers, no
labels, new, and distinct over all groups. -/
theorem checkGroups_eq_ok_iff [Text.LabelAlphabet] (labels seen : List String)
    (entries : List (String × List String)) :
    checkGroups labels seen entries = .ok () ↔
      (∀ entry ∈ entries, entry.2 ≠ []) ∧
      (∀ member ∈ entries.flatMap Prod.snd, Text.isLabel member = true ∧
        member ∉ labels ∧ member ∉ seen) ∧ (entries.flatMap Prod.snd).Nodup := by
  induction entries generalizing seen with
  | nil => simp [checkGroups]
  | cons entry rest ih =>
      rw [checkGroups]
      split
      · rename_i hempty
        simp [List.isEmpty_iff.mp hempty]
      · rename_i hmembers
        rw [List.isEmpty_iff] at hmembers
        split
        · rename_i error herror
          have hrefused := mt (checkMembers_eq_ok_iff labels seen entry.2
            (entry.2.reverse ++ seen)).mpr (by simp [herror])
          simp only [List.flatMap_cons, List.nodup_append, List.mem_append]
          grind
        · rename_i met hmet
          obtain ⟨hvalid, hnodup, rfl⟩ := (checkMembers_eq_ok_iff _ _ _ _).mp hmet
          rw [ih]
          simp only [List.flatMap_cons, List.nodup_append, List.mem_append,
            List.forall_mem_cons]
          grind

theorem checkGroups_eq_ok_iff_fits (matrix : Matrix) (groups : Groups) :
    groups.Fits matrix.labels ↔
      groups.entries.find? (fun entry => entry.1 ∉ matrix.labels) = none ∧
        checkGroups matrix.labels [] groups.entries = .ok () := by
  rw [checkGroups_eq_ok_iff, List.find?_eq_none]
  constructor
  · intro hfits
    exact ⟨by simpa using hfits.label_mem, hfits.members_ne_nil,
      fun member hmember => ⟨hfits.isLabel member hmember,
        hfits.not_mem member hmember, List.not_mem_nil⟩, hfits.nodup⟩
  · rintro ⟨hlabels, hmembers, hvalid, hnodup⟩
    exact ⟨by simpa using hlabels, hmembers, fun member hmember => (hvalid member hmember).1,
      fun member hmember => (hvalid member hmember).2.1, hnodup⟩

/-- A table has classes exactly when its groups fit and it has not too many
labels. -/
theorem exists_ofMatrix_iff (matrix : Matrix) (groups : Groups) :
    (∃ classes, ofMatrix matrix groups = .ok classes) ↔
      groups.Fits matrix.labels ∧ matrix.size ≤ capacity := by
  rw [checkGroups_eq_ok_iff_fits]
  unfold ofMatrix
  split
  · rename_i entry hentry
    rw [hentry]
    simp
  · rename_i hlabels
    rw [hlabels]
    split
    · rename_i error herror
      simp [herror]
    · rename_i hgroups
      split
      · rename_i hlarge
        simp [Nat.not_le.mpr hlarge]
      · rename_i hsmall
        simp [hgroups, Nat.le_of_not_lt hsmall]

theorem fields_of_ofMatrix {matrix : Matrix} {groups : Groups} {classes : Classes}
    (hclasses : ofMatrix matrix groups = .ok classes) :
    (classes.list = matrix.labels.zipIdx.map fun (label, index) =>
      ⟨index, label, groups.get? label⟩) ∧ classes.endIndex.val = matrix.endIndex := by
  unfold ofMatrix at hclasses
  split at hclasses
  · cases hclasses
  · split at hclasses
    · cases hclasses
    · split at hclasses
      · cases hclasses
      · rw [← Except.ok.inj hclasses]
        exact ⟨rfl, rfl⟩

theorem list_of_ofMatrix {matrix : Matrix} {groups : Groups} {classes : Classes}
    (hclasses : ofMatrix matrix groups = .ok classes) :
    classes.list = matrix.labels.zipIdx.map fun (label, index) =>
      ⟨index, label, groups.get? label⟩ :=
  (fields_of_ofMatrix hclasses).1

theorem size_of_ofMatrix {matrix : Matrix} {groups : Groups} {classes : Classes}
    (hclasses : ofMatrix matrix groups = .ok classes) : classes.size = matrix.size := by
  simp [size, list_of_ofMatrix hclasses]

/-- The class with the number of a label is the class of that label. -/
theorem get?_of_ofMatrix {matrix : Matrix} {groups : Groups} {classes : Classes}
    (hclasses : ofMatrix matrix groups = .ok classes) (i : Fin matrix.size) :
    classes.get? i = some ⟨i, matrix.label i, groups.get? (matrix.label i)⟩ := by
  simp [get?, list_of_ofMatrix hclasses, Matrix.label]

theorem get?_endIndex_of_ofMatrix {matrix : Matrix} {groups : Groups} {classes : Classes}
    (hclasses : ofMatrix matrix groups = .ok classes) :
    classes.get? matrix.endIndex = some classes.endMarker := by
  rw [← (fields_of_ofMatrix hclasses).2]
  exact List.getElem?_eq_getElem classes.endIndex.isLt

theorem index_lt_of_ofMatrix {matrix : Matrix} {groups : Groups} {classes : Classes}
    (hclasses : ofMatrix matrix groups = .ok classes) {cls : Class}
    (hcls : cls ∈ classes.list) : cls.index < matrix.size := by
  rw [list_of_ofMatrix hclasses, List.mem_map] at hcls
  obtain ⟨⟨label, index⟩, hmem, rfl⟩ := hcls
  simpa using List.snd_lt_of_mem_zipIdx hmem

theorem symbols_of_ofMatrix {matrix : Matrix} {groups : Groups} {classes : Classes}
    (hclasses : ofMatrix matrix groups = .ok classes) :
    classes.symbols = matrix.labels.flatMap groups.symbolsOf := by
  rw [symbols, list_of_ofMatrix hclasses, List.flatMap_map,
    ← List.zipIdx_map_fst 0 matrix.labels, List.flatMap_map, List.zipIdx_map_fst]
  rfl

theorem symbolsAt_of_ofMatrix {matrix : Matrix} {groups : Groups} {classes : Classes}
    (hclasses : ofMatrix matrix groups = .ok classes) (i : Fin matrix.size) :
    PrecedenceFunctions.symbolsAt classes i = groups.symbolsOf (matrix.label i) := by
  rw [PrecedenceFunctions.symbolsAt, get?_of_ofMatrix hclasses]
  rfl

end Classes

namespace Groups

variable {groups : Groups} {labels : List String}

theorem symbolsOf_cases (groups : Groups) (label : String) :
    groups.symbolsOf label = [label] ∨
      ∃ members, (label, members) ∈ groups.entries ∧ groups.symbolsOf label = members := by
  cases hmembers : groups.get? label with
  | none => exact Or.inl (by simp [symbolsOf, hmembers])
  | some members =>
      obtain ⟨before, rest, hsplit, -⟩ := List.lookup_eq_some_iff.mp hmembers
      exact Or.inr ⟨members, by simp [hsplit], by simp [symbolsOf, hmembers]⟩

theorem mem_members {entry : String × List String} (hentry : entry ∈ groups.entries)
    {member : String} (hmember : member ∈ entry.2) : member ∈ groups.members :=
  List.mem_flatMap.mpr ⟨entry, hentry, hmember⟩

theorem Fits.symbolsOf_ne_nil (hfits : groups.Fits labels) (label : String) :
    groups.symbolsOf label ≠ [] := by
  rcases groups.symbolsOf_cases label with hsingle | ⟨members, hentry, hsymbols⟩
  · rw [hsingle]
    exact List.cons_ne_nil label []
  · rw [hsymbols]
    exact hfits.members_ne_nil _ hentry

theorem Fits.isLabel_of_mem_symbolsOf (hfits : groups.Fits labels) {label symbol : String}
    (hlabel : Text.isLabel label = true) (hsymbol : symbol ∈ groups.symbolsOf label) :
    Text.isLabel symbol = true := by
  rcases groups.symbolsOf_cases label with hsingle | ⟨members, hentry, hsymbols⟩
  · rw [hsingle, List.mem_singleton] at hsymbol
    rwa [hsymbol]
  · rw [hsymbols] at hsymbol
    exact hfits.isLabel symbol (mem_members hentry hsymbol)

/-- No symbol belongs to two groups. -/
theorem Fits.entry_eq (hfits : groups.Fits labels) {first second : String × List String}
    (hfirst : first ∈ groups.entries) (hsecond : second ∈ groups.entries)
    {symbol : String} (hsymbolFirst : symbol ∈ first.2) (hsymbolSecond : symbol ∈ second.2) :
    first = second :=
  eq_of_mem_of_nodup_flatMap hfits.nodup hfirst hsecond hsymbolFirst hsymbolSecond

/-- No symbol belongs to two labels. -/
theorem Fits.label_eq (hfits : groups.Fits labels) {first second symbol : String}
    (hfirst : first ∈ labels) (hsecond : second ∈ labels)
    (hsymbolFirst : symbol ∈ groups.symbolsOf first)
    (hsymbolSecond : symbol ∈ groups.symbolsOf second) : first = second := by
  rcases groups.symbolsOf_cases first with hsingle | ⟨members, hentry, hsymbols⟩ <;>
    rcases groups.symbolsOf_cases second with hother | ⟨others, hotherEntry, hotherSymbols⟩
  · rw [hsingle, List.mem_singleton] at hsymbolFirst
    rw [hother, List.mem_singleton] at hsymbolSecond
    rw [← hsymbolFirst, hsymbolSecond]
  · rw [hsingle, List.mem_singleton] at hsymbolFirst
    rw [hotherSymbols, hsymbolFirst] at hsymbolSecond
    exact absurd hfirst (hfits.not_mem first (mem_members hotherEntry hsymbolSecond))
  · rw [hother, List.mem_singleton] at hsymbolSecond
    rw [hsymbols, hsymbolSecond] at hsymbolFirst
    exact absurd hsecond (hfits.not_mem second (mem_members hentry hsymbolFirst))
  · rw [hsymbols] at hsymbolFirst
    rw [hotherSymbols] at hsymbolSecond
    exact congrArg Prod.fst (hfits.entry_eq hentry hotherEntry hsymbolFirst hsymbolSecond)

theorem Fits.nodup_symbols (hfits : groups.Fits labels) (hnodup : labels.Nodup) :
    (labels.flatMap groups.symbolsOf).Nodup := by
  rw [List.nodup_flatMap]
  constructor
  · intro label hlabel
    rcases groups.symbolsOf_cases label with hsingle | ⟨members, hentry, hsymbols⟩
    · rw [hsingle]
      exact List.nodup_singleton label
    · rw [hsymbols]
      exact (List.nodup_flatMap.mp hfits.nodup).1 _ hentry
  · apply hnodup.imp_of_mem
    intro first second hfirst hsecond hne symbol hsymbolFirst hsymbolSecond
    exact hne (hfits.label_eq hfirst hsecond hsymbolFirst hsymbolSecond)

end Groups

namespace Classes

variable {matrix : Matrix} {groups : Groups} {classes : Classes}

theorem fits_of_ofMatrix (hclasses : ofMatrix matrix groups = .ok classes) :
    groups.Fits matrix.labels :=
  ((exists_ofMatrix_iff matrix groups).mp ⟨classes, hclasses⟩).1

theorem nodup_symbols_of_ofMatrix (hclasses : ofMatrix matrix groups = .ok classes) :
    classes.symbols.Nodup := by
  rw [symbols_of_ofMatrix hclasses]
  exact (fits_of_ofMatrix hclasses).nodup_symbols matrix.labels_nodup

theorem exists_mem_symbolsOf (hclasses : ofMatrix matrix groups = .ok classes)
    {symbol : String} (hsymbol : symbol ∈ classes.symbols) :
    ∃ i : Fin matrix.size, symbol ∈ groups.symbolsOf (matrix.label i) := by
  rw [symbols_of_ofMatrix hclasses, List.mem_flatMap] at hsymbol
  obtain ⟨label, hlabel, hsymbol⟩ := hsymbol
  obtain ⟨i, hi, rfl⟩ := List.getElem_of_mem hlabel
  exact ⟨⟨i, hi⟩, hsymbol⟩

theorem isLabel_of_mem_symbols (hclasses : ofMatrix matrix groups = .ok classes)
    {symbol : String} (hsymbol : symbol ∈ classes.symbols) : Text.isLabel symbol = true := by
  obtain ⟨i, hi⟩ := exists_mem_symbolsOf hclasses hsymbol
  have hlabel := matrix.labels_valid (matrix.label i) (List.getElem_mem i.isLt)
  exact (fits_of_ofMatrix hclasses).isLabel_of_mem_symbolsOf hlabel hi

end Classes

end OperatorPrecedence
