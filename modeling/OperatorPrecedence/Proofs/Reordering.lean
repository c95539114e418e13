import Mathlib
import OperatorPrecedence.Proofs.LabelledCells
import OperatorPrecedence.Proofs.LeastSolution

/-!
The order in which a table is written.  Columns may be listed in any order as
long as the cells of every row follow them: the matrix is the same.  Rows and
groups may come in any order: the table is then solved, or refused for its groups
or for a cycle, as before, and every symbol has the same values.
-/

namespace OperatorPrecedence

universe u

namespace Groups

theorem insertAll_of_nodup {groups : Groups} {entries : List (String × List String)}
    (hnodup : ((groups.entries ++ entries).map Prod.fst).Nodup) :
    ∃ all, groups.insertAll entries = .ok all ∧ all.entries = groups.entries ++ entries := by
  induction entries generalizing groups with
  | nil => exact ⟨groups, rfl, (List.append_nil groups.entries).symm⟩
  | cons entry entries ih =>
      rw [List.append_cons] at hnodup
      cases hnext : groups.insert entry.1 entry.2 with
      | error error =>
          have hlabel := ((groups.insert_eq_error_iff _ _ _).mp hnext).1
          rw [List.map_append, List.map_append] at hnodup
          have hapart := (List.nodup_append.mp (List.nodup_append.mp hnodup).1).2.2
          exact absurd rfl (hapart entry.1 hlabel entry.1 List.mem_cons_self)
      | ok next =>
          rw [← entries_of_insert hnext] at hnodup
          obtain ⟨all, hall, hentries⟩ := ih hnodup
          rw [insertAll, hnext]
          refine ⟨all, hall, ?_⟩
          rw [hentries, entries_of_insert hnext, ← List.append_cons]

variable {groups others : Groups} {labels otherLabels : List String}

theorem symbolsOf_eq_of_perm (hperm : groups.entries.Perm others.entries) (label : String) :
    groups.symbolsOf label = others.symbolsOf label := by
  rw [symbolsOf, symbolsOf, get?, get?, lookup_eq_of_perm hperm groups.labels_nodup]

theorem Fits.of_perm (hfits : groups.Fits labels)
    (hperm : groups.entries.Perm others.entries) (hlabels : labels.Perm otherLabels) :
    others.Fits otherLabels where
  label_mem entry hentry := hlabels.mem_iff.mp (hfits.label_mem entry (hperm.mem_iff.mpr hentry))
  members_ne_nil entry hentry := hfits.members_ne_nil entry (hperm.mem_iff.mpr hentry)
  isLabel member hmember :=
    hfits.isLabel member ((hperm.flatMap_right Prod.snd).mem_iff.mpr hmember)
  not_mem member hmember hlabel :=
    hfits.not_mem member ((hperm.flatMap_right Prod.snd).mem_iff.mpr hmember)
      (hlabels.mem_iff.mpr hlabel)
  nodup := (hperm.flatMap_right Prod.snd).nodup_iff.mp hfits.nodup

end Groups

namespace Matrix

variable {matrix other : Matrix} {groups others : Groups}

/-- Functions that reproduce a table reproduce every table with the same labels
and groups that agrees with it. -/
theorem Agrees.satisfiedBy {α : Type u} [LT α] (hagrees : matrix.Agrees other)
    (hlabels : matrix.labels.Perm other.labels)
    (hgroups : groups.entries.Perm others.entries) {f g : String → α}
    (hsatisfied : matrix.SatisfiedBy groups f g) : other.SatisfiedBy others f g := by
  intro row column left hleft right hright
  have hplace : ∀ k : Fin other.size, ∃ i, matrix.label i = other.label k := by
    intro k
    obtain ⟨i, hi, hlabel⟩ :=
      List.getElem_of_mem (hlabels.mem_iff.mpr (List.getElem_mem k.isLt))
    exact ⟨⟨i, hi⟩, hlabel⟩
  obtain ⟨i, hi⟩ := hplace row
  obtain ⟨j, hj⟩ := hplace column
  rw [← Groups.symbolsOf_eq_of_perm hgroups, ← hi] at hleft
  rw [← Groups.symbolsOf_eq_of_perm hgroups, ← hj] at hright
  rw [← hagrees i j row column hi hj]
  exact hsatisfied i j left hleft right hright

theorem Agrees.symm (hagrees : matrix.Agrees other) : other.Agrees matrix :=
  fun k l i j hki hlj => (hagrees i j k l hki.symm hlj.symm).symm

theorem Agrees.satisfiedBy_iff {α : Type u} [LT α] (hagrees : matrix.Agrees other)
    (hlabels : matrix.labels.Perm other.labels)
    (hgroups : groups.entries.Perm others.entries) (f g : String → α) :
    matrix.SatisfiedBy groups f g ↔ other.SatisfiedBy others f g :=
  ⟨hagrees.satisfiedBy hlabels hgroups,
    hagrees.symm.satisfiedBy hlabels.symm hgroups.symm⟩

/-- Reordered labels and groups have classes when the given ones have. -/
theorem exists_classes_iff_of_perm (hlabels : matrix.labels.Perm other.labels)
    (hgroups : groups.entries.Perm others.entries) :
    (∃ classes, Classes.ofMatrix matrix groups = .ok classes) ↔
      ∃ classes, Classes.ofMatrix other others = .ok classes := by
  rw [Classes.exists_ofMatrix_iff, Classes.exists_ofMatrix_iff, size, size, hlabels.length_eq]
  refine and_congr_left fun _ => ?_
  exact ⟨fun hfits => hfits.of_perm hgroups hlabels,
    fun hfits => hfits.of_perm hgroups.symm hlabels.symm⟩

theorem symbols_perm {classes found : Classes}
    (hclasses : Classes.ofMatrix matrix groups = .ok classes)
    (hfound : Classes.ofMatrix other others = .ok found)
    (hlabels : matrix.labels.Perm other.labels)
    (hgroups : groups.entries.Perm others.entries) :
    classes.symbols.Perm found.symbols := by
  have hsame : groups.symbolsOf = others.symbolsOf :=
    funext fun label => Groups.symbolsOf_eq_of_perm hgroups label
  rw [Classes.symbols_of_ofMatrix hclasses, Classes.symbols_of_ofMatrix hfound, hsame]
  exact hlabels.flatMap_right others.symbolsOf

/-- Rearranged columns with rearranged rows describe a square as before. -/
theorem Describes.rearranged {columns : List String} {rows : List LabelledRow}
    {endMarker : String} (hdescribes : Describes columns rows endMarker) {places : List Nat}
    (hplaces : places.Perm (List.range columns.length)) :
    Describes (atPlaces places columns)
      (rows.map fun row => (row.1, atPlaces places row.2)) endMarker := by
  have hcolumns := atPlaces_perm hplaces
  have hlabels : (rows.map fun row => (row.1, atPlaces places row.2)).map
      Prod.fst = rows.map Prod.fst := by
    simp [Function.comp_def]
  exact
    { column_valid := fun label hlabel =>
        hdescribes.column_valid label (hcolumns.mem_iff.mp hlabel)
      row_valid := List.forall_mem_map.mpr hdescribes.row_valid
      columns_nodup := hcolumns.nodup_iff.mpr hdescribes.columns_nodup
      labels_nodup := hlabels ▸ hdescribes.labels_nodup
      square := by rw [List.length_map, hcolumns.length_eq, hdescribes.square]
      row_length := List.forall_mem_map.mpr fun row hrow => by
        have hlength := hdescribes.row_length row hrow
        rw [hcolumns.length_eq, (atPlaces_perm (hlength ▸ hplaces)).length_eq, hlength]
      row_column := List.forall_mem_map.mpr fun row hrow =>
        hcolumns.mem_iff.mpr (hdescribes.row_column row hrow)
      end_mem := hlabels ▸ hdescribes.end_mem }

/-- Rearranged with the columns, a row has the same cell under every label. -/
theorem lookup_zip_atPlaces {columns : List String} {cells : List Relation}
    (hnodup : columns.Nodup) (hlength : cells.length = columns.length) {places : List Nat}
    (hplaces : places.Perm (List.range columns.length)) (label : String) :
    ((atPlaces places columns).zip (atPlaces places cells)).lookup label =
      (columns.zip cells).lookup label := by
  rw [zip_atPlaces hlength.symm]
  have hzip : (columns.zip cells).length = columns.length := by
    simp [List.length_zip, hlength]
  have hkeys : ((columns.zip cells).map Prod.fst).Nodup := by
    rwa [List.map_fst_zip hlength.ge]
  have hplacesZip : places.Perm (List.range (columns.zip cells).length) := hzip ▸ hplaces
  have hperm := atPlaces_perm hplacesZip
  exact (lookup_eq_of_perm hperm.symm hkeys label).symm

theorem ofRows_atPlaces {columns : List String} {rows : List LabelledRow}
    {endMarker : String} (haccepted : ofRows columns rows endMarker = .ok matrix)
    {places : List Nat} (hplaces : places.Perm (List.range columns.length)) :
    ofRows (atPlaces places columns) (rows.map fun row => (row.1, atPlaces places row.2))
      endMarker = .ok matrix := by
  obtain ⟨hdescribes, htabulates⟩ := tabulates_of_ofRows haccepted
  obtain ⟨other, hother⟩ := (exists_ofRows_iff _ _ _).mpr (hdescribes.rearranged hplaces)
  have hotherTabulates := (tabulates_of_ofRows hother).2
  have hagrees : matrix.Agrees other := by
    apply htabulates.agrees hotherTabulates
    intro row hrow
    refine ⟨_, List.mem_map_of_mem hrow, rfl, fun label => ?_⟩
    exact lookup_zip_atPlaces hdescribes.columns_nodup (hdescribes.row_length row hrow)
      hplaces label
  have hlabels : matrix.labels = other.labels := by
    rw [htabulates.labels, hotherTabulates.labels, List.map_map]
    rfl
  rw [hother, hagrees.eq hlabels (htabulates.endMarker.trans hotherTabulates.endMarker.symm)]

theorem ofRows_perm {columns : List String} {rows otherRows : List LabelledRow}
    {endMarker : String} (haccepted : ofRows columns rows endMarker = .ok matrix)
    (hrows : rows.Perm otherRows) :
    ∃ other, ofRows columns otherRows endMarker = .ok other ∧
      matrix.labels.Perm other.labels ∧ matrix.Agrees other := by
  obtain ⟨hdescribes, htabulates⟩ := tabulates_of_ofRows haccepted
  obtain ⟨other, hother⟩ := (exists_ofRows_iff _ _ _).mpr (hdescribes.of_perm hrows)
  have hotherTabulates := (tabulates_of_ofRows hother).2
  refine ⟨other, hother, ?_, ?_⟩
  · rw [htabulates.labels, hotherTabulates.labels]
    exact hrows.map Prod.fst
  · exact htabulates.agrees hotherTabulates fun row hrow =>
      ⟨row, hrows.mem_iff.mp hrow, rfl, fun label => rfl⟩

/-- The order in which a table is written does not matter.  Columns rearranged
with the cells of every row give the same matrix; rows and groups in another order
give a run with the same outcome and the same values of every symbol. -/
theorem ofRows_order_irrelevant {columns : List String} {rows : List LabelledRow}
    {endMarker : String} (haccepted : ofRows columns rows endMarker = .ok matrix) :
    (∀ places : List Nat, places.Perm (List.range columns.length) →
      ofRows (atPlaces places columns) (rows.map fun row => (row.1, atPlaces places row.2))
        endMarker = .ok matrix) ∧
    ∀ otherRows : List LabelledRow, rows.Perm otherRows →
      ∀ entries otherEntries : List (String × List String), (entries.map Prod.fst).Nodup →
        entries.Perm otherEntries →
          ∃ other groups others, ofRows columns otherRows endMarker = .ok other ∧
            Groups.empty.insertAll entries = .ok groups ∧
            Groups.empty.insertAll otherEntries = .ok others ∧
            ((∃ solution, matrix.solve groups = .ok solution) ↔
              ∃ solution, other.solve others = .ok solution) ∧
            ((∃ error, matrix.solve groups = .error (.table error)) ↔
              ∃ error, other.solve others = .error (.table error)) ∧
            ((∃ cycle, matrix.solve groups = .error (.cycle cycle)) ↔
              ∃ cycle, other.solve others = .error (.cycle cycle)) ∧
            ∀ solution found, matrix.solve groups = .ok solution →
              other.solve others = .ok found →
                ∀ symbol, solution.functions.get? symbol = found.functions.get? symbol := by
  refine ⟨fun places hplaces => ofRows_atPlaces haccepted hplaces, ?_⟩
  intro otherRows hrows entries otherEntries hnodup hperm
  obtain ⟨other, hother, hlabels, hagrees⟩ := ofRows_perm haccepted hrows
  have hotherNodup := (hperm.map Prod.fst).nodup_iff.mp hnodup
  obtain ⟨groups, hgroups, hentries⟩ := @Groups.insertAll_of_nodup .empty entries hnodup
  obtain ⟨others, hothers, hotherEntries⟩ :=
    @Groups.insertAll_of_nodup .empty otherEntries hotherNodup
  have hsame : groups.entries.Perm others.entries := by
    rw [hentries, hotherEntries]
    exact hperm
  have hclasses := exists_classes_iff_of_perm hlabels hsame
  -- An outcome depends on the classes and on the integers that reproduce the table.
  have hintegers : (∃ f g : String → Int, matrix.SatisfiedBy groups f g) ↔
      ∃ f g : String → Int, other.SatisfiedBy others f g :=
    exists_congr fun f => exists_congr fun g => hagrees.satisfiedBy_iff hlabels hsame f g
  refine ⟨other, groups, others, hother, hgroups, hothers, ?_, ?_, ?_, ?_⟩
  · rw [exists_solve_iff, exists_solve_iff, hclasses, hintegers]
  · rw [exists_table_error_iff, exists_table_error_iff, hclasses]
  · rw [exists_cycle_iff, exists_cycle_iff, hclasses, hintegers]
  · intro solution found hsolve hfound symbol
    have hvalid := valid_of_solve hsolve
    have hother := valid_of_solve hfound
    exact hvalid.get?_eq hother (symbols_perm hvalid.classes hother.classes hlabels hsame)
      (fun f g => hagrees.satisfiedBy_iff hlabels hsame f g) symbol

/-- A table with two levels of operators. -/
def ladder : Matrix where
  labels := ["A", "B", "end"]
  cells := #v[.greater, .greater, .greater, .less, .greater, .greater, .less, .less,
    .unrelated]
  endIndex := ⟨2, by decide⟩
  labels_valid := by decide
  labels_nodup := by decide

/-- The rows of the ladder, cells from the right to the left. -/
def ladderRows : List LabelledRow :=
  [("A", [.greater, .greater, .greater]), ("B", [.greater, .greater, .less]),
    ("end", [.unrelated, .less, .less])]

def levels : Groups :=
  ⟨[("A", ["mul", "div"]), ("B", ["add", "sub"])], by decide⟩

set_option maxRecDepth 4096 in
theorem ladder_order_irrelevant :
    ofRows ["A", "B", "end"]
        (ladderRows.map fun row => (row.1, atPlaces [2, 1, 0] row.2)) "end" = .ok ladder ∧
      ∃ other others found, ofRows ["end", "B", "A"] ladderRows.reverse "end" = .ok other ∧
        Groups.empty.insertAll [("B", ["add", "sub"]), ("A", ["mul", "div"])] = .ok others ∧
        other.solve others = .ok found ∧ found.functions.get? "mul" = some ⟨4, 3⟩ := by
  have haccepted : ofRows ["end", "B", "A"] ladderRows "end" = .ok ladder := by
    cbv
  obtain ⟨hcolumns, hrows⟩ := ofRows_order_irrelevant haccepted
  refine ⟨hcolumns [2, 1, 0] (by decide), ?_⟩
  obtain ⟨other, groups, others, hother, hgroups, hothers, hsolved, -, -, hvalues⟩ :=
    hrows ladderRows.reverse (List.reverse_perm ladderRows).symm levels.entries
      levels.entries.reverse levels.labels_nodup (List.reverse_perm levels.entries).symm
  have hlevels : groups = levels := Except.ok.inj (hgroups.symm.trans rfl)
  have hvalue : (ladder.solve levels).toOption.bind
      (fun solution => solution.functions.get? "mul") = some ⟨4, 3⟩ := by
    cbv
  rw [hlevels] at hsolved hvalues
  cases hsolution : ladder.solve levels with
  | error error => simp [hsolution, Except.toOption] at hvalue
  | ok solution =>
      rw [hsolution] at hvalue
      obtain ⟨found, hfound⟩ := hsolved.mp ⟨solution, hsolution⟩
      exact ⟨other, others, found, hother, hothers, hfound,
        (hvalues solution found hsolution hfound "mul").symm.trans hvalue⟩

end Matrix

end OperatorPrecedence
