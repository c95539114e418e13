import OperatorPrecedence.Proofs.FirstFaults
import OperatorPrecedence.Proofs.LeastSolution

/-!
Laying out values in an order.  The labels of the order are looked up first, then the
values of the symbols that they stand for; each pass ends at the first text that is
not known.
-/

namespace OperatorPrecedence

universe u v

theorem map_some_filterMap {α : Type u} {β : Type v} {select : α → Option β} {xs : List α}
    (hxs : ∀ x ∈ xs, select x ≠ none) : (xs.filterMap select).map some = xs.map select := by
  induction xs with
  | nil => rfl
  | cons x xs ih =>
      obtain ⟨hx, hxs⟩ := List.forall_mem_cons.mp hxs
      obtain ⟨y, hy⟩ := Option.ne_none_iff_exists'.mp hx
      rw [List.filterMap_cons_some hy, List.map_cons, List.map_cons, ih hxs, hy]

namespace Classes

def labels (classes : Classes) : List String :=
  classes.list.map Class.label

theorem find?_eq_none_iff (classes : Classes) (label : String) :
    classes.find? label = none ↔ label ∉ classes.labels := by
  simp [find?, labels]

end Classes

namespace Listing

variable (functions : PrecedenceFunctions) (classes : Classes)

/-- The symbols that a label stands for: those of its class, or itself. -/
def expansion (label : String) : List String :=
  (classes.find? label).elim [label] Class.symbols

/-- What is wrong with an order: first a label that is neither that of a class nor a
symbol with values, then a symbol without values that a label stands for. -/
def orderChecks (order : List String) : List (TableError → Prop) :=
  [FoundAtFirst (fun label => label ∉ classes.labels ∧ functions.get? label = none) order
      .unknownSymbol,
    FoundAtFirst (fun symbol => functions.get? symbol = none)
      (order.flatMap (expansion classes)) .unknownSymbol]

def unknown? (order : List String) : Option String :=
  order.find? fun label => decide (label ∉ classes.labels ∧ functions.get? label = none)

def unvalued? (symbols : List String) : Option String :=
  symbols.find? fun symbol => decide (functions.get? symbol = none)

theorem unknown?_eq_none_iff (order : List String) :
    unknown? functions classes order = none ↔
      ∀ label ∈ order, label ∈ classes.labels ∨ functions.get? label ≠ none := by
  simp only [unknown?, List.find?_eq_none, decide_eq_true_eq, Classical.not_and_iff_not_or_not,
    Classical.not_not, ne_eq]

theorem unvalued?_eq_none_iff (symbols : List String) :
    unvalued? functions symbols = none ↔
      ∀ symbol ∈ symbols, functions.get? symbol ≠ none := by
  simp only [unvalued?, List.find?_eq_none, decide_eq_true_eq, ne_eq]

theorem symbolsOf_eq (label : String) :
    symbolsOf functions classes label =
      if label ∉ classes.labels ∧ functions.get? label = none then
        .error (.unknownSymbol label)
      else .ok (expansion classes label) := by
  have hlabel := classes.find?_eq_none_iff label
  rw [symbolsOf, expansion]
  cases hclass : classes.find? label with
  | some cls => simp_all
  | none => cases functions.get? label <;> simp_all

theorem symbolsOfAll_eq (order : List String) :
    symbolsOfAll functions classes order =
      match unknown? functions classes order with
      | some label => .error (.unknownSymbol label)
      | none => .ok (order.flatMap (expansion classes)) := by
  unfold unknown?
  induction order with
  | nil => rfl
  | cons label order ih =>
      rw [symbolsOfAll, symbolsOf_eq, ih, List.find?_cons]
      by_cases hunknown : label ∉ classes.labels ∧ functions.get? label = none
      · simp only [hunknown, not_false_eq_true, and_self, ↓reduceIte, decide_true]
      · simp only [hunknown, ↓reduceIte, decide_false, List.flatMap_cons]
        cases order.find? _ <;> rfl

theorem valuesOf_eq (symbols : List String) :
    valuesOf functions symbols =
      match unvalued? functions symbols with
      | some symbol => .error (.unknownSymbol symbol)
      | none => .ok (symbols.filterMap functions.get?) := by
  unfold unvalued?
  induction symbols with
  | nil => rfl
  | cons symbol symbols ih =>
      rw [valuesOf, ih, List.find?_cons]
      cases hget : functions.get? symbol with
      | none => simp
      | some values =>
          simp only [reduceCtorEq, decide_false, List.filterMap_cons_some hget]
          cases symbols.find? _ <;> rfl

/-- Some symbols with those values that they have. -/
def laidOut (symbols : List String) : Listing :=
  ⟨symbols, (symbols.filterMap functions.get?).map Values.f,
    (symbols.filterMap functions.get?).map Values.g⟩

/-- An order is laid out after two searches for a text that is not known. -/
theorem ofFunctions_eq (order : List String) :
    ofFunctions functions classes (some order) =
      match unknown? functions classes order with
      | some label => .error (.unknownSymbol label)
      | none =>
          match unvalued? functions (order.flatMap (expansion classes)) with
          | some symbol => .error (.unknownSymbol symbol)
          | none => .ok (laidOut functions (order.flatMap (expansion classes))) := by
  simp only [ofFunctions, symbolsOfAll_eq]
  cases unknown? functions classes order with
  | some label => rfl
  | none =>
      simp only [valuesOf_eq]
      cases unvalued? functions (order.flatMap (expansion classes)) <;> rfl

/-- An order is refused for what the first of its checks finds that finds anything. -/
theorem ofFunctions_eq_error_iff (order : List String) (error : TableError) :
    ofFunctions functions classes (some order) = .error error ↔
      FirstFound (orderChecks functions classes order) error := by
  have hlabels := find?_map_eq_some_iff
    (fun label => decide (label ∉ classes.labels ∧ functions.get? label = none)) order
    TableError.unknownSymbol
  have hsymbols := find?_map_eq_some_iff
    (fun symbol => decide (functions.get? symbol = none)) (order.flatMap (expansion classes))
    TableError.unknownSymbol
  simp only [decide_eq_true_eq] at hlabels hsymbols
  rw [ofFunctions_eq, orderChecks]
  split
  · rename_i label hlabel
    rw [firstFound_cons_of_some hlabels (congrArg _ hlabel), Except.error.injEq]
  · rename_i hnone
    rw [firstFound_cons_of_none hlabels (congrArg _ hnone)]
    split
    · rename_i symbol hsymbol
      rw [firstFound_cons_of_some hsymbols (congrArg _ hsymbol), Except.error.injEq]
    · rename_i hall
      rw [firstFound_cons_of_none hsymbols (congrArg _ hall)]
      simp [firstFound_nil]

/-- An order is laid out exactly if all of it is known. -/
theorem ofFunctions_eq_ok_iff (order : List String) (listing : Listing) :
    ofFunctions functions classes (some order) = .ok listing ↔
      (∀ label ∈ order, label ∈ classes.labels ∨ functions.get? label ≠ none) ∧
      (∀ symbol ∈ order.flatMap (expansion classes), functions.get? symbol ≠ none) ∧
        listing = laidOut functions (order.flatMap (expansion classes)) := by
  rw [ofFunctions_eq, ← unknown?_eq_none_iff, ← unvalued?_eq_none_iff]
  cases unknown? functions classes order with
  | some label => simp
  | none =>
      cases unvalued? functions (order.flatMap (expansion classes)) with
      | some symbol => simp
      | none => simp [eq_comm]

variable {functions}

theorem values_at {symbols : List String}
    (hsymbols : ∀ symbol ∈ symbols, functions.get? symbol ≠ none) :
    (laidOut functions symbols).f.length = symbols.length ∧
    (laidOut functions symbols).g.length = symbols.length ∧
    ∀ (place : Nat) (symbol : String), symbols[place]? = some symbol → ∃ values,
      functions.get? symbol = some values ∧
        (laidOut functions symbols).f[place]? = some values.f ∧
        (laidOut functions symbols).g[place]? = some values.g := by
  have hvalues := map_some_filterMap hsymbols
  have hlength := congrArg List.length hvalues
  rw [List.length_map, List.length_map] at hlength
  refine ⟨by simp [laidOut, hlength], by simp [laidOut, hlength], ?_⟩
  intro place symbol hplace
  have hentry := congrArg (fun entries => entries[place]?) hvalues
  simp only [List.getElem?_map, hplace, Option.map_some] at hentry
  obtain ⟨values, hat, hget⟩ := Option.map_eq_some_iff.mp hentry
  exact ⟨values, hget.symm, by simp [laidOut, hat], by simp [laidOut, hat]⟩

def append (first second : Listing) : Listing :=
  ⟨first.symbols ++ second.symbols, first.f ++ second.f, first.g ++ second.g⟩

/-- Two orders are laid out one after the other exactly if both are laid out. -/
theorem ofFunctions_append_eq_ok_iff (first second : List String) (listing : Listing) :
    ofFunctions functions classes (some (first ++ second)) = .ok listing ↔
      ∃ head tail, ofFunctions functions classes (some first) = .ok head ∧
        ofFunctions functions classes (some second) = .ok tail ∧
          listing = head.append tail := by
  have happend : ∀ symbols more, laidOut functions (symbols ++ more) =
      (laidOut functions symbols).append (laidOut functions more) := by
    intro symbols more
    simp only [laidOut, append, List.filterMap_append, List.map_append]
  simp only [ofFunctions_eq_ok_iff, List.flatMap_append, List.forall_mem_append, happend]
  constructor
  · rintro ⟨⟨hfirst, hsecond⟩, ⟨hhead, htail⟩, rfl⟩
    exact ⟨_, _, ⟨hfirst, hhead, rfl⟩, ⟨hsecond, htail, rfl⟩, rfl⟩
  · rintro ⟨head, tail, ⟨hfirst, hhead, rfl⟩, ⟨hsecond, htail, rfl⟩, rfl⟩
    exact ⟨⟨hfirst, hsecond⟩, ⟨hhead, htail⟩, rfl⟩

variable {classes}

theorem expansion_label (hnodup : classes.labels.Nodup) {cls : Class}
    (hcls : cls ∈ classes.list) : expansion classes cls.label = cls.symbols := by
  have hlabel : cls.label ∈ classes.labels := List.mem_map_of_mem hcls
  cases hfound : classes.find? cls.label with
  | none => exact absurd hlabel ((classes.find?_eq_none_iff cls.label).mp hfound)
  | some other =>
      have hother : other ∈ classes.list := List.mem_of_find?_eq_some hfound
      have hsame : other.label = cls.label := by simpa using List.find?_some hfound
      rw [expansion, hfound, Option.elim_some, List.inj_on_of_nodup_map hnodup hother hcls hsame]

/-- A label stands for symbols of the classes, or for itself if it is not the label of
any. -/
theorem mem_expansion {label symbol : String} (hsymbol : symbol ∈ expansion classes label) :
    symbol ∈ classes.symbols ∨ label ∉ classes.labels ∧ symbol = label := by
  rw [expansion] at hsymbol
  cases hfound : classes.find? label with
  | none =>
      rw [hfound, Option.elim_none, List.mem_singleton] at hsymbol
      exact Or.inr ⟨(classes.find?_eq_none_iff label).mp hfound, hsymbol⟩
  | some cls =>
      rw [hfound, Option.elim_some] at hsymbol
      exact Or.inl (List.mem_flatMap.mpr ⟨cls, List.mem_of_find?_eq_some hfound, hsymbol⟩)

/-- All symbols in canonical order are those of the order of all labels. -/
theorem ofFunctions_none (functions : PrecedenceFunctions) (hnodup : classes.labels.Nodup) :
    ofFunctions functions classes none = ofFunctions functions classes (some classes.labels) := by
  have hsymbols : classes.labels.flatMap (expansion classes) = classes.symbols := by
    rw [Classes.labels, List.flatMap_map, Classes.symbols]
    exact List.flatMap_congr fun cls hcls => expansion_label hnodup hcls
  have hknown : unknown? functions classes classes.labels = none := by
    rw [unknown?_eq_none_iff]
    intro label hlabel
    exact Or.inl hlabel
  simp only [ofFunctions, symbolsOfAll_eq, hknown, hsymbols]

end Listing

namespace Matrix

variable {matrix : Matrix} {groups : Groups}

theorem labels_of_ofMatrix {classes : Classes}
    (hclasses : Classes.ofMatrix matrix groups = .ok classes) : classes.labels = matrix.labels := by
  rw [Classes.labels, Classes.list_of_ofMatrix hclasses, List.map_map]
  exact List.zipIdx_map_fst 0 matrix.labels

/-- A solution lays out every order of labels and symbols of its classes. -/
theorem exists_listing_of_solve {solution : Solution matrix.size}
    (hsolve : matrix.solve groups = .ok solution) {order : List String}
    (horder : ∀ label ∈ order,
      label ∈ solution.classes.labels ∨ label ∈ solution.classes.symbols) :
    ∃ listing, solution.listing (some order) = .ok listing := by
  have hvalued : ∀ symbol ∈ solution.classes.symbols, solution.functions.get? symbol ≠ none := by
    intro symbol hsymbol hnone
    rw [← (valid_of_solve hsolve).symbols] at hsymbol
    exact (solution.functions.get?_eq_none_iff symbol).mp hnone hsymbol
  refine ⟨_, (Listing.ofFunctions_eq_ok_iff _ _ order _).mpr ⟨?_, ?_, rfl⟩⟩
  · intro label hlabel
    exact (horder label hlabel).imp_right (hvalued label)
  · intro symbol hsymbol
    obtain ⟨label, hlabel, hmem⟩ := List.mem_flatMap.mp hsymbol
    rcases Listing.mem_expansion hmem with hsymbols | ⟨hother, rfl⟩
    · exact hvalued symbol hsymbols
    · exact hvalued symbol ((horder symbol hlabel).resolve_left hother)

end Matrix

namespace Listing

/-- Values are laid out faithfully, whatever functions and classes are put together.
An order is refused for the first of its texts that is neither the label of a class nor
a symbol with values, then for the first symbol without values for which a label stands.
Any other order gives the symbols label by label, and at the place of each symbol its
two values.  Two orders one after the other are laid out exactly if both are, and give
both listings one after the other.  No order at all is the order of all labels of the
table.  A solution lays out every order of labels and symbols of its own classes. -/
theorem ofFunctions_faithful (functions : PrecedenceFunctions) (classes : Classes) :
    (∀ order error, ofFunctions functions classes (some order) = .error error ↔
      FirstFound (orderChecks functions classes order) error) ∧
    (∀ order listing, ofFunctions functions classes (some order) = .ok listing →
      listing.symbols = order.flatMap (expansion classes) ∧
      listing.f.length = listing.size ∧ listing.g.length = listing.size ∧
      ∀ (place : Nat) (symbol : String), listing.symbols[place]? = some symbol → ∃ values,
        functions.get? symbol = some values ∧ listing.f[place]? = some values.f ∧
          listing.g[place]? = some values.g) ∧
    (∀ first second listing,
      ofFunctions functions classes (some (first ++ second)) = .ok listing ↔
        ∃ head tail, ofFunctions functions classes (some first) = .ok head ∧
          ofFunctions functions classes (some second) = .ok tail ∧
            listing = head.append tail) ∧
    (∀ matrix groups, Classes.ofMatrix matrix groups = .ok classes →
      ofFunctions functions classes none = ofFunctions functions classes (some classes.labels)) ∧
    ∀ (matrix : Matrix) (groups : Groups) (solution : Solution matrix.size) (order : List String),
      matrix.solve groups = .ok solution →
      (∀ label ∈ order, label ∈ solution.classes.labels ∨ label ∈ solution.classes.symbols) →
        ∃ listing, solution.listing (some order) = .ok listing := by
  refine ⟨ofFunctions_eq_error_iff functions classes, ?_,
    ofFunctions_append_eq_ok_iff classes, ?_, ?_⟩
  · intro order listing hlisting
    obtain ⟨-, hvalued, rfl⟩ := (ofFunctions_eq_ok_iff functions classes order listing).mp hlisting
    exact ⟨rfl, values_at hvalued⟩
  · intro matrix groups hclasses
    apply ofFunctions_none functions
    rw [Matrix.labels_of_ofMatrix hclasses]
    exact matrix.labels_nodup
  · intro matrix groups solution order hsolve horder
    exact Matrix.exists_listing_of_solve hsolve horder

theorem brackets_ofFunctions_faithful :
    ∃ solution, Matrix.brackets.solve Matrix.operators = .ok solution ∧
      (∃ listing, solution.listing (some ["end", "minus", "A"]) = .ok listing ∧
        listing.symbols = ["end", "minus", "plus", "minus"] ∧ listing.f.length = 4 ∧
        listing.f[0]? = (solution.functions.get? "end").map Values.f) ∧
      solution.listing none = solution.listing (some ["lp", "rp", "A", "end"]) ∧
      solution.listing (some ["lp", "star", "A"]) = .error (.unknownSymbol "star") := by
  obtain ⟨solution, hsolve⟩ := Matrix.exists_solve_brackets
  have hclasses := (Matrix.valid_of_solve hsolve).classes
  have hlabels : solution.classes.labels = ["lp", "rp", "A", "end"] :=
    Matrix.labels_of_ofMatrix hclasses
  have hsymbols : solution.classes.symbols = ["lp", "rp", "plus", "minus", "end"] := by
    rw [Classes.symbols_of_ofMatrix hclasses]
    decide
  obtain ⟨herrors, hlistings, -, hnone, hown⟩ :=
    ofFunctions_faithful solution.functions solution.classes
  refine ⟨solution, hsolve, ?_, ?_, ?_⟩
  · obtain ⟨listing, hlisting⟩ := hown _ _ solution ["end", "minus", "A"] hsolve
      (by rw [hlabels, hsymbols]; decide)
    obtain ⟨hlisted, hlength, -, hvalues⟩ := hlistings _ listing hlisting
    have hexpanded : listing.symbols = ["end", "minus", "plus", "minus"] := by
      rw [hlisted]
      simp only [List.flatMap_cons, List.flatMap_nil, expansion, Classes.find?,
        Classes.list_of_ofMatrix hclasses]
      decide
    obtain ⟨values, hget, hf, -⟩ := hvalues 0 "end" (by rw [hexpanded]; rfl)
    refine ⟨listing, hlisting, hexpanded, ?_, ?_⟩
    · rw [hlength, size, hexpanded]
      rfl
    · rw [hf, hget, Option.map_some]
  · rw [← hlabels]
    exact hnone _ _ hclasses
  · have hstar : solution.functions.get? "star" = none := by
      rw [PrecedenceFunctions.get?_eq_none_iff, (Matrix.valid_of_solve hsolve).symbols, hsymbols]
      decide
    apply (herrors _ _).mpr
    refine .here ⟨"star", ⟨["lp"], ["A"], rfl, ?_, ?_, hstar⟩, rfl⟩
    · simp [hlabels]
    · rw [hlabels]
      decide

end Listing

end OperatorPrecedence
