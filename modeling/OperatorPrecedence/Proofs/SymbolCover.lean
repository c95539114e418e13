import Mathlib.Algebra.BigOperators.Group.List.Basic
import OperatorPrecedence.Proofs.LeastSolution

/-!
The classes divide the symbols among them, and the functions found have values for
exactly these symbols.  No symbol is given values twice, so spreading the distances of
the classes loses none.
-/

namespace OperatorPrecedence

namespace Class

theorem length_flatMap_symbols (classes : List Class) :
    (classes.flatMap symbols).length =
      classes.countP (fun cls => !cls.isGroup) +
        ((classes.filterMap members?).map List.length).sum := by
  induction classes with
  | nil => rfl
  | cons cls classes ih =>
      rw [List.flatMap_cons, List.length_append, ih, List.countP_cons]
      cases hmembers : cls.members? with
      | none =>
          rw [List.filterMap_cons_none hmembers]
          simp only [symbols, isGroup, hmembers, Option.getD_none, List.length_singleton,
            Option.isSome_none, Bool.not_false, ↓reduceIte]
          omega
      | some members =>
          rw [List.filterMap_cons_some hmembers, List.map_cons, List.sum_cons]
          simp only [symbols, isGroup, hmembers, Option.getD_some, Option.isSome_some,
            Bool.not_true, Bool.false_eq_true, ↓reduceIte]
          omega

end Class

namespace Groups

/-- Distinct labels have all groups between them when the labels of the groups are
among them. -/
theorem filterMap_get?_perm {groups : Groups} {labels : List String} (hnodup : labels.Nodup)
    (hlabels : ∀ entry ∈ groups.entries, entry.1 ∈ labels) :
    (labels.filterMap groups.get?).Perm (groups.entries.map Prod.snd) := by
  -- Two groups may have the same members, so the groups are compared with their labels.
  have hmem : ∀ entry : String × List String,
      entry ∈ labels.filterMap (fun label => (groups.get? label).map (label, ·)) ↔
        entry ∈ groups.entries := by
    rintro ⟨label, members⟩
    have hlookup := lookup_eq_some_iff_mem groups.labels_nodup label members
    simp only [List.mem_filterMap, Option.map_eq_some_iff, Prod.mk.injEq]
    constructor
    · rintro ⟨label, -, members, hget, rfl, rfl⟩
      exact hlookup.mp hget
    · intro hentry
      exact ⟨label, hlabels _ hentry, members, hlookup.mpr hentry, rfl, rfl⟩
  have hpairs : (labels.filterMap fun label => (groups.get? label).map (label, ·)).Nodup := by
    refine List.Nodup.filterMap (fun first second entry hfirst hsecond => ?_) hnodup
    simp only [Option.mem_def, Option.map_eq_some_iff] at hfirst hsecond
    obtain ⟨members, -, rfl⟩ := hfirst
    obtain ⟨others, -, heq⟩ := hsecond
    exact (congrArg Prod.fst heq).symm
  have hentries := List.Nodup.of_map Prod.fst groups.labels_nodup
  have hperm := ((List.perm_ext_iff_of_nodup hpairs hentries).mpr hmem).map Prod.snd
  refine .trans (.of_eq ?_) hperm
  simp [List.map_filterMap, Option.map_map, Function.comp_def]

theorem symbolsOf_of_mem {groups : Groups} {entry : String × List String}
    (hentry : entry ∈ groups.entries) : groups.symbolsOf entry.1 = entry.2 := by
  have hget : groups.get? entry.1 = some entry.2 :=
    (lookup_eq_some_iff_mem groups.labels_nodup entry.1 entry.2).mpr hentry
  rw [symbolsOf, hget, Option.getD_some]

/-- The label of a group is no symbol. -/
theorem Fits.label_not_mem_symbols {groups : Groups} {labels : List String}
    (hfits : groups.Fits labels) {entry : String × List String} (hentry : entry ∈ groups.entries) :
    entry.1 ∉ labels.flatMap groups.symbolsOf := by
  -- A symbol is a label that has no group, or a member, and no member is a label.
  intro hsymbol
  obtain ⟨label, -, hmem⟩ := List.mem_flatMap.mp hsymbol
  have hmember : entry.1 ∈ groups.members := by
    rcases groups.symbolsOf_cases label with hsingle | ⟨members, hother, hsymbols⟩
    · rw [hsingle, List.mem_singleton] at hmem
      rw [← hmem, symbolsOf_of_mem hentry] at hsingle
      exact mem_members hentry (hsingle ▸ List.mem_singleton_self entry.1)
    · rw [hsymbols] at hmem
      exact mem_members hother hmem
  exact hfits.not_mem entry.1 hmember (hfits.label_mem entry hentry)

end Groups

namespace PrecedenceFunctions

variable {n : Nat}

/-- Every symbol of the classes is inserted where it has no values yet. -/
def InsertsNew (distances : Distances n) (classes : List Class) : Prop :=
  ∀ before cls after, classes = before ++ cls :: after →
    ∃ built values, insertClasses distances empty before = .ok built ∧
      classValues? distances cls = some values ∧
      ∀ earlier symbol later, cls.symbols = earlier ++ symbol :: later →
        (built.insertAll earlier values).get? symbol = none

theorem classValues?_eq_some (distances : Distances n) {cls : Class} (hindex : cls.index < n) :
    classValues? distances cls =
      some ⟨distances.get ⟨.f, cls.index, hindex⟩, distances.get ⟨.g, cls.index, hindex⟩⟩ := by
  simp [classValues?, Distances.get?, VertexTable.get?, hindex, Distances.get]

/-- Distinct symbols are each inserted once. -/
theorem insertsNew_of_nodup (distances : Distances n) {classes : List Class}
    (hindex : ∀ cls ∈ classes, cls.index < n) (hnodup : (classes.flatMap Class.symbols).Nodup) :
    InsertsNew distances classes := by
  rintro before cls after rfl
  rw [List.flatMap_append, List.flatMap_cons, ← List.append_assoc] at hnodup
  have hwith := (List.nodup_append.mp hnodup).1
  obtain ⟨built, hbuilt, hsymbols, -⟩ := insertClasses_eq_ok distances empty
    (fun other hother => hindex other (List.mem_append_left _ hother))
    (List.nodup_append.mp hwith).1
  replace hsymbols : built.symbols = before.flatMap Class.symbols := hsymbols
  have hcls := hindex cls (List.mem_append_right before List.mem_cons_self)
  refine ⟨built, _, hbuilt, classValues?_eq_some distances hcls, ?_⟩
  intro earlier symbol later hsplit
  rw [hsplit, ← hsymbols, List.append_cons, ← List.append_assoc, ← List.append_assoc] at hwith
  obtain ⟨hearlier, -, hapart⟩ := List.nodup_append.mp (List.nodup_append.mp hwith).1
  rw [get?_eq_none_iff, symbols_insertAll_of_nodup hearlier]
  exact fun hmem => hapart symbol hmem symbol (List.mem_singleton_self symbol) rfl

end PrecedenceFunctions

namespace Classes

variable {matrix : Matrix} {groups : Groups} {classes : Classes}

theorem exists_eq_of_mem_list (hclasses : ofMatrix matrix groups = .ok classes) {cls : Class}
    (hcls : cls ∈ classes.list) :
    ∃ i : Fin matrix.size, cls = ⟨i, matrix.label i, groups.get? (matrix.label i)⟩ := by
  obtain ⟨i, hi⟩ := List.getElem?_of_mem hcls
  have hlt : i < matrix.size :=
    size_of_ofMatrix hclasses ▸ (List.getElem?_eq_some_iff.mp hi).1
  have hget := get?_of_ofMatrix hclasses ⟨i, hlt⟩
  exact ⟨⟨i, hlt⟩, Option.some.inj (hi.symm.trans hget)⟩

theorem existsUnique_class (hclasses : ofMatrix matrix groups = .ok classes) {symbol : String}
    (hsymbol : symbol ∈ classes.symbols) :
    ∃! cls, cls ∈ classes.list ∧ symbol ∈ cls.symbols := by
  obtain ⟨cls, hcls, hmem⟩ := List.mem_flatMap.mp hsymbol
  refine ⟨cls, ⟨hcls, hmem⟩, ?_⟩
  rintro other ⟨hother, hotherMem⟩
  exact eq_of_mem_of_nodup_flatMap (nodup_symbols_of_ofMatrix hclasses) hother hcls hotherMem hmem

/-- The symbols are as many as the classes without a group and the members of all
groups. -/
theorem length_symbols_of_ofMatrix (hclasses : ofMatrix matrix groups = .ok classes) :
    classes.symbols.length =
      classes.list.countP (fun cls => !cls.isGroup) +
        (groups.entries.map fun entry => entry.2.length).sum := by
  have hgroups : classes.list.filterMap Class.members? = matrix.labels.filterMap groups.get? := by
    rw [list_of_ofMatrix hclasses, List.filterMap_map, ← List.zipIdx_map_fst 0 matrix.labels,
      List.filterMap_map, List.zipIdx_map_fst]
    rfl
  have hperm := Groups.filterMap_get?_perm matrix.labels_nodup (fits_of_ofMatrix hclasses).label_mem
  rw [symbols, Class.length_flatMap_symbols, hgroups, (hperm.map List.length).sum_eq,
    List.map_map]
  rfl

end Classes

namespace Matrix

variable {matrix : Matrix} {groups : Groups}

/-- The classes of a solution divide its symbols among them.  The functions list just
these symbols in their order, each inserted once, so they are as many as the classes
without a group and the members of all groups; they have values for these symbols and
for no other text, the label of a group included.  The values of a symbol are the
distances of its class, so the members of a group share theirs. -/
theorem solve_covers_symbols {solution : Solution matrix.size}
    (hsolve : matrix.solve groups = .ok solution) :
    solution.classes.symbols.Nodup ∧
    (∀ symbol ∈ solution.classes.symbols,
      ∃! cls, cls ∈ solution.classes.list ∧ symbol ∈ cls.symbols) ∧
    solution.functions.entries.map Prod.fst = solution.classes.symbols ∧
    PrecedenceFunctions.InsertsNew solution.distances solution.classes.list ∧
    solution.functions.size = solution.classes.list.countP (fun cls => !cls.isGroup) +
      (groups.entries.map fun entry => entry.2.length).sum ∧
    (∀ text, (solution.functions.get? text).isSome = true ↔
      text ∈ solution.classes.symbols) ∧
    (∀ entry ∈ groups.entries, solution.functions.get? entry.1 = none) ∧
    (∀ cls ∈ solution.classes.list, ∀ symbol ∈ cls.symbols, ∃ values,
      solution.functions.get? symbol = some values ∧
        solution.distances.get? .f cls.index = some values.f ∧
        solution.distances.get? .g cls.index = some values.g) ∧
    ∀ entry ∈ groups.entries, ∀ first ∈ entry.2, ∀ second ∈ entry.2,
      solution.functions.get? first = solution.functions.get? second := by
  have hvalid := valid_of_solve hsolve
  have hclasses := hvalid.classes
  have hfits := Classes.fits_of_ofMatrix hclasses
  have hnodup := Classes.nodup_symbols_of_ofMatrix hclasses
  have hsome : ∀ text, (solution.functions.get? text).isSome = true ↔
      text ∈ solution.classes.symbols := by
    intro text
    rw [← hvalid.symbols]
    exact isSome_lookup_iff solution.functions.entries text
  refine ⟨hnodup, fun symbol => Classes.existsUnique_class hclasses, hvalid.symbols, ?_, ?_,
    hsome, ?_, ?_, ?_⟩
  · exact PrecedenceFunctions.insertsNew_of_nodup solution.distances
      (fun cls => Classes.index_lt_of_ofMatrix hclasses) hnodup
  · rw [← Classes.length_symbols_of_ofMatrix hclasses, ← hvalid.symbols]
    exact (List.length_map Prod.fst).symm
  · intro entry hentry
    have hlabel := hfits.label_not_mem_symbols hentry
    rw [← Classes.symbols_of_ofMatrix hclasses, ← hsome] at hlabel
    exact Option.not_isSome_iff_eq_none.mp hlabel
  · intro cls hcls symbol hsymbol
    obtain ⟨i, rfl⟩ := Classes.exists_eq_of_mem_list hclasses hcls
    exact ⟨_, hvalid.values i symbol hsymbol, VertexTable.get?_cls _ _ _,
      VertexTable.get?_cls _ _ _⟩
  · intro entry hentry first hfirst second hsecond
    -- Both are symbols of the class with the label of the group, and that has one pair of values.
    obtain ⟨i, hi, hlabel⟩ := List.getElem_of_mem (hfits.label_mem entry hentry)
    have hsymbols : groups.symbolsOf (matrix.label ⟨i, hi⟩) = entry.2 :=
      (congrArg groups.symbolsOf hlabel).trans (Groups.symbolsOf_of_mem hentry)
    rw [hvalid.values ⟨i, hi⟩ first (hsymbols ▸ hfirst),
      hvalid.values ⟨i, hi⟩ second (hsymbols ▸ hsecond)]

theorem brackets_solve_covers_symbols :
    ∃ solution, brackets.solve operators = .ok solution ∧
      solution.classes.symbols = ["lp", "rp", "plus", "minus", "end"] ∧
      solution.functions.size = 5 ∧
      solution.functions.get? "A" = none ∧
      solution.functions.get? "plus" = solution.functions.get? "minus" := by
  obtain ⟨solution, hsolve⟩ := exists_solve_brackets
  obtain ⟨-, -, hlist, -, -, -, hgroups, -, hmembers⟩ := solve_covers_symbols hsolve
  have hsymbols : solution.classes.symbols = ["lp", "rp", "plus", "minus", "end"] := by
    rw [Classes.symbols_of_ofMatrix (valid_of_solve hsolve).classes]
    decide
  refine ⟨solution, hsolve, hsymbols, ?_, ?_, ?_⟩
  · have hlength := congrArg List.length (hlist.trans hsymbols)
    rwa [List.length_map] at hlength
  · exact hgroups ("A", ["plus", "minus"]) List.mem_cons_self
  · exact hmembers ("A", ["plus", "minus"]) List.mem_cons_self "plus" (by decide) "minus" (by decide)

end Matrix

end OperatorPrecedence
