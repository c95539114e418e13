import OperatorPrecedence.Satisfaction
import OperatorPrecedence.Proofs.ClassSymbols
import OperatorPrecedence.Proofs.KeyedEntries

/-!
Spreading distances over symbols.  For the classes of a table it always
succeeds, the functions list the symbols of the classes in their order, and
every symbol has the distances of its class.
-/

namespace OperatorPrecedence

namespace PrecedenceFunctions

variable {n : Nat}

def symbols (functions : PrecedenceFunctions) : List String :=
  functions.entries.map Prod.fst

/-- The value of a symbol on the left, zero where the symbol has none. -/
def f (functions : PrecedenceFunctions) (symbol : String) : Nat :=
  (functions.f? symbol).getD 0

/-- The value of a symbol on the right, zero where the symbol has none. -/
def g (functions : PrecedenceFunctions) (symbol : String) : Nat :=
  (functions.g? symbol).getD 0

theorem f_eq {functions : PrecedenceFunctions} {symbol : String} {values : Values}
    (hget : functions.get? symbol = some values) : functions.f symbol = values.f := by
  simp [f, f?, hget]

theorem g_eq {functions : PrecedenceFunctions} {symbol : String} {values : Values}
    (hget : functions.get? symbol = some values) : functions.g symbol = values.g := by
  simp [g, g?, hget]

theorem get?_eq_none_iff (functions : PrecedenceFunctions) (symbol : String) :
    functions.get? symbol = none ↔ symbol ∉ functions.symbols := by
  rw [get?, symbols, ← isSome_lookup_iff, Option.not_isSome_iff_eq_none]

theorem get?_eq_some_of_mem {functions : PrecedenceFunctions}
    (hnodup : functions.symbols.Nodup) {symbol : String} {values : Values}
    (hentry : (symbol, values) ∈ functions.entries) :
    functions.get? symbol = some values :=
  (lookup_eq_some_iff_mem hnodup symbol values).mpr hentry

theorem get?_eq_some_values {functions : PrecedenceFunctions} {symbol : String}
    (hsymbol : symbol ∈ functions.symbols) :
    functions.get? symbol = some ⟨functions.f symbol, functions.g symbol⟩ := by
  cases hget : functions.get? symbol with
  | none => exact absurd hsymbol ((functions.get?_eq_none_iff symbol).mp hget)
  | some values => rw [f_eq hget, g_eq hget]

/-- Functions are determined by their symbols and their values. -/
theorem entries_eq {functions : PrecedenceFunctions} (hnodup : functions.symbols.Nodup) :
    functions.entries =
      functions.symbols.map fun symbol => (symbol, ⟨functions.f symbol, functions.g symbol⟩) := by
  rw [symbols, List.map_map]
  apply (List.map_id _).symm.trans
  apply List.map_congr_left
  intro entry hentry
  have hget := get?_eq_some_of_mem hnodup hentry
  rw [Function.comp_apply, f_eq hget, g_eq hget]
  rfl

theorem eq_of_values {first second : PrecedenceFunctions} (hnodup : first.symbols.Nodup)
    (hsymbols : first.symbols = second.symbols)
    (hf : ∀ symbol ∈ first.symbols, first.f symbol = second.f symbol)
    (hg : ∀ symbol ∈ first.symbols, first.g symbol = second.g symbol) :
    first = second := by
  have hentries : first.entries = second.entries := by
    rw [entries_eq hnodup, entries_eq (hsymbols ▸ hnodup), ← hsymbols]
    apply List.map_congr_left
    intro symbol hsymbol
    rw [hf symbol hsymbol, hg symbol hsymbol]
  obtain ⟨entries⟩ := first
  exact congrArg mk hentries

theorem insert_of_not_mem {functions : PrecedenceFunctions} {symbol : String}
    (hfresh : symbol ∉ functions.symbols) (values : Values) :
    functions.insert symbol values = ⟨functions.entries ++ [(symbol, values)]⟩ :=
  if_neg hfresh

theorem insertAll_of_nodup {functions : PrecedenceFunctions} {symbols : List String}
    (hnodup : (functions.symbols ++ symbols).Nodup) (values : Values) :
    functions.insertAll symbols values =
      ⟨functions.entries ++ symbols.map fun symbol => (symbol, values)⟩ := by
  induction symbols generalizing functions with
  | nil => simp [insertAll]
  | cons symbol rest ih =>
      have hfresh : symbol ∉ functions.symbols := fun hmem =>
        (List.nodup_append.mp hnodup).2.2 symbol hmem symbol List.mem_cons_self rfl
      change (functions.insert symbol values).insertAll rest values = _
      rw [insert_of_not_mem hfresh, ih]
      · simp
      · simpa [PrecedenceFunctions.symbols] using hnodup

theorem symbols_insertAll_of_nodup {functions : PrecedenceFunctions} {symbols : List String}
    (hnodup : (functions.symbols ++ symbols).Nodup) (values : Values) :
    (functions.insertAll symbols values).symbols = functions.symbols ++ symbols := by
  rw [insertAll_of_nodup hnodup]
  simp [PrecedenceFunctions.symbols, Function.comp_def]

theorem insertClasses_eq_ok (distances : Distances n) (functions : PrecedenceFunctions)
    {classes : List Class} (hindex : ∀ cls ∈ classes, cls.index < n)
    (hnodup : (functions.symbols ++ classes.flatMap Class.symbols).Nodup) :
    ∃ result, insertClasses distances functions classes = .ok result ∧
      result.symbols = functions.symbols ++ classes.flatMap Class.symbols ∧
      (∀ entry ∈ functions.entries, entry ∈ result.entries) ∧
      ∀ cls ∈ classes, ∀ symbol ∈ cls.symbols, ∀ values,
        classValues? distances cls = some values →
          (symbol, values) ∈ result.entries := by
  induction classes generalizing functions with
  | nil => exact ⟨functions, rfl, by simp, fun entry hentry => hentry, by simp⟩
  | cons cls rest ih =>
      have hlt : cls.index < n := hindex cls List.mem_cons_self
      rw [List.flatMap_cons, ← List.append_assoc] at hnodup
      obtain ⟨values, hvalues⟩ : ∃ values, classValues? distances cls = some values := by
        simp [classValues?, Distances.get?, VertexTable.get?, hlt]
      -- As no symbol comes twice, inserting appends and replaces nothing.
      have hall := insertAll_of_nodup (List.nodup_append.mp hnodup).1 values
      have hsymbols := symbols_insertAll_of_nodup (List.nodup_append.mp hnodup).1 values
      obtain ⟨result, hresult, hnames, hkeep, hnew⟩ := ih
        (functions.insertAll cls.symbols values)
        (fun other hother => hindex other (List.mem_cons_of_mem cls hother))
        (hsymbols ▸ hnodup)
      refine ⟨result, ?_, ?_, fun entry hentry => hkeep entry ?_, ?_⟩
      · simp only [insertClasses, hvalues]
        exact hresult
      · rw [hnames, hsymbols, List.flatMap_cons, List.append_assoc]
      · rw [hall]
        exact List.mem_append_left _ hentry
      · intro other hother symbol hsymbol found hfound
        rcases List.mem_cons.mp hother with rfl | hother
        · have heq : found = values := Option.some.inj (hfound.symm.trans hvalues)
          apply hkeep
          rw [hall, heq]
          exact List.mem_append_right _ (List.mem_map_of_mem hsymbol)
        · exact hnew other hother symbol hsymbol found hfound

/-- Over the classes of a table distances spread to exactly its symbols. -/
theorem ofDistances_eq_ok {matrix : Matrix} {groups : Groups} {classes : Classes}
    (hclasses : Classes.ofMatrix matrix groups = .ok classes)
    (distances : Distances matrix.size) :
    ∃ functions, ofDistances distances classes = .ok functions ∧
      functions.symbols = classes.symbols ∧
      ∀ (i : Fin matrix.size), ∀ symbol ∈ groups.symbolsOf (matrix.label i),
        functions.get? symbol =
          some ⟨distances.get ⟨.f, i⟩, distances.get ⟨.g, i⟩⟩ := by
  have hnodup := Classes.nodup_symbols_of_ofMatrix hclasses
  obtain ⟨functions, hfunctions, hsymbols, -, hentries⟩ :=
    insertClasses_eq_ok distances empty
      (fun cls hcls => Classes.index_lt_of_ofMatrix hclasses hcls) (by simpa [symbols, empty])
  have hsymbols : functions.symbols = classes.symbols := hsymbols
  refine ⟨functions, hfunctions, hsymbols, ?_⟩
  intro i symbol hsymbol
  apply get?_eq_some_of_mem (hsymbols ▸ hnodup)
  refine hentries ⟨i, matrix.label i, groups.get? (matrix.label i)⟩ ?_ symbol hsymbol _ ?_
  · exact List.mem_of_getElem? (Classes.get?_of_ofMatrix hclasses i)
  · simp [classValues?, Distances.get?, Distances.get]

theorem violation?_eq_none {functions : PrecedenceFunctions} {relation : Relation}
    {left right : String} (hholds : relation.Holds (functions.f left) (functions.g right)) :
    functions.violation? relation left right = none := by
  unfold violation?
  split
  · rename_i valueF valueG hf hg
    rw [f, g, hf, hg] at hholds
    exact if_pos hholds
  · rfl

theorem violations_eq_nil {matrix : Matrix} {groups : Groups} {classes : Classes}
    (hclasses : Classes.ofMatrix matrix groups = .ok classes)
    {functions : PrecedenceFunctions}
    (hsatisfied : matrix.SatisfiedBy groups functions.f functions.g) :
    functions.violations matrix classes = [] := by
  rw [violations, List.flatMap_eq_nil_iff]
  intro cell hcell
  rw [ite_eq_left_iff, Classes.symbolsAt_of_ofMatrix hclasses,
    Classes.symbolsAt_of_ofMatrix hclasses]
  intro _
  rw [List.flatMap_eq_nil_iff]
  intro left hleft
  rw [List.filterMap_eq_nil_iff]
  intro right hright
  apply violation?_eq_none
  exact (matrix.satisfiedBy_iff_cellList groups _ _).mp hsatisfied cell hcell left hleft
    right hright

end PrecedenceFunctions

end OperatorPrecedence
