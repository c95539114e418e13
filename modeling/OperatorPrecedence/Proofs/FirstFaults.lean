import OperatorPrecedence.Proofs.LabelledCells

/-!
Which fault of a table is reported.  Checks are made in a fixed order, and the error
is what the first check finds that finds anything.  The rows are checked one at a
time: both checks of a row come before those of the next.
-/

namespace OperatorPrecedence

universe u v w

variable {α : Type u} {β : Type v}

/-- The first entry of a list that has a property. -/
def IsFirst (p : α → Prop) (xs : List α) (x : α) : Prop :=
  ∃ before after, xs = before ++ x :: after ∧ (∀ earlier ∈ before, ¬ p earlier) ∧ p x

theorem IsFirst.mem {p : α → Prop} {xs : List α} {x : α} (hx : IsFirst p xs x) : x ∈ xs := by
  obtain ⟨before, after, rfl, -⟩ := hx
  exact List.mem_append_right before List.mem_cons_self

theorem IsFirst.holds {p : α → Prop} {xs : List α} {x : α} (hx : IsFirst p xs x) : p x := by
  obtain ⟨before, after, -, -, hp⟩ := hx
  exact hp

theorem IsFirst.congr {p q : α → Prop} {xs : List α} {x : α} (hx : IsFirst p xs x)
    (hsame : ∀ y ∈ xs, p y ↔ q y) : IsFirst q xs x := by
  obtain ⟨before, after, rfl, hbefore, hp⟩ := hx
  refine ⟨before, after, rfl, fun earlier hearlier => ?_, ?_⟩
  · exact mt (hsame earlier (List.mem_append_left _ hearlier)).mpr (hbefore earlier hearlier)
  · exact (hsame x (List.mem_append_right before List.mem_cons_self)).mp hp

/-- The first entry of a list that repeats an earlier one. -/
def IsFirstRepeat (xs : List α) (x : α) : Prop :=
  ∃ before after, xs = before ++ x :: after ∧ before.Nodup ∧ x ∈ before

/-- Of several checks in turn, the first that finds anything finds this. -/
inductive FirstFound : List (α → Prop) → α → Prop
  | here {check : α → Prop} {checks : List (α → Prop)} {found : α} :
      check found → FirstFound (check :: checks) found
  | later {check : α → Prop} {checks : List (α → Prop)} {found : α} :
      (∀ other, ¬ check other) → FirstFound checks found → FirstFound (check :: checks) found

theorem firstFound_nil (found : α) : ¬ FirstFound [] found := nofun

theorem firstFound_cons_iff (check : α → Prop) (checks : List (α → Prop)) (found : α) :
    FirstFound (check :: checks) found ↔
      check found ∨ (∀ other, ¬ check other) ∧ FirstFound checks found := by
  constructor
  · intro hfound
    cases hfound with
    | here hcheck => exact Or.inl hcheck
    | later hnone hlater => exact Or.inr ⟨hnone, hlater⟩
  · rintro (hcheck | ⟨hnone, hlater⟩)
    · exact .here hcheck
    · exact .later hnone hlater

theorem FirstFound.exists_check {checks : List (α → Prop)} {found : α}
    (hfound : FirstFound checks found) : ∃ check ∈ checks, check found := by
  induction hfound with
  | here hcheck => exact ⟨_, List.mem_cons_self, hcheck⟩
  | later hnone hlater ih =>
      obtain ⟨check, hmem, hcheck⟩ := ih
      exact ⟨check, List.mem_cons_of_mem _ hmem, hcheck⟩

theorem firstFound_cons_of_forall_iff {check : α → Prop} {first : α}
    (hcheck : ∀ other, check other ↔ first = other) (checks : List (α → Prop)) (found : α) :
    FirstFound (check :: checks) found ↔ first = found := by
  rw [firstFound_cons_iff, hcheck, or_iff_left_iff_imp]
  rintro ⟨hnone, -⟩
  exact absurd ((hcheck first).mpr rfl) (hnone first)

/-- Where the first check finds nothing, the others decide. -/
theorem firstFound_cons_of_forall_not {check : α → Prop} (hcheck : ∀ other, ¬ check other)
    (checks : List (α → Prop)) (found : α) :
    FirstFound (check :: checks) found ↔ FirstFound checks found := by
  rw [firstFound_cons_iff, or_iff_right (hcheck found)]
  exact and_iff_right hcheck

theorem firstFound_cons_of_some {found? : Option α} {check : α → Prop}
    (hanswer : ∀ found, found? = some found ↔ check found) {first : α}
    (hfirst : found? = some first) (checks : List (α → Prop)) (found : α) :
    FirstFound (check :: checks) found ↔ first = found := by
  refine firstFound_cons_of_forall_iff (fun other => ?_) checks found
  rw [← hanswer, hfirst, Option.some.injEq]

theorem firstFound_cons_of_none {found? : Option α} {check : α → Prop}
    (hanswer : ∀ found, found? = some found ↔ check found) (hnone : found? = none)
    (checks : List (α → Prop)) (found : α) :
    FirstFound (check :: checks) found ↔ FirstFound checks found := by
  refine firstFound_cons_of_forall_not (fun other => ?_) checks found
  rw [← hanswer, hnone]
  exact nofun

/-- Checks that find the same may be exchanged behind others. -/
theorem firstFound_append_congr {first second : List (α → Prop)}
    (hsame : ∀ found, FirstFound first found ↔ FirstFound second found)
    (checks : List (α → Prop)) (found : α) :
    FirstFound (checks ++ first) found ↔ FirstFound (checks ++ second) found := by
  induction checks with
  | nil => exact hsame found
  | cons check checks ih =>
      rw [List.cons_append, List.cons_append, firstFound_cons_iff, firstFound_cons_iff, ih]

theorem find?_eq_some_iff_isFirst (p : α → Bool) (xs : List α) (x : α) :
    xs.find? p = some x ↔ IsFirst (fun y => p y = true) xs x := by
  rw [List.find?_eq_some_iff_append]
  simp only [Bool.not_eq_true', IsFirst, Bool.not_eq_true]
  constructor
  · rintro ⟨hx, before, after, heq, hbefore⟩
    exact ⟨before, after, heq, hbefore, hx⟩
  · rintro ⟨before, after, heq, hbefore, hx⟩
    exact ⟨hx, before, after, heq, hbefore⟩

theorem firstSeen?_eq_some_iff [DecidableEq α] (seen xs : List α) (x : α) :
    firstSeen? seen xs = some x ↔
      ∃ before after, xs = before ++ x :: after ∧ before.Nodup ∧
        (∀ y ∈ before, y ∉ seen) ∧ (x ∈ seen ∨ x ∈ before) := by
  induction xs generalizing seen with
  | nil => simp [firstSeen?]
  | cons y ys ih =>
      by_cases hseen : y ∈ seen
      · simp only [firstSeen?, hseen, ↓reduceIte, Option.some.injEq]
        constructor
        · rintro rfl
          exact ⟨[], ys, rfl, .nil, List.forall_mem_nil _, Or.inl hseen⟩
        · rintro ⟨before, after, heq, -, hfresh, -⟩
          cases before with
          | nil => exact (List.cons.inj heq).1
          | cons z before =>
              have hz := hfresh z List.mem_cons_self
              exact absurd ((List.cons.inj heq).1 ▸ hseen) hz
      · simp only [firstSeen?, hseen, ↓reduceIte, ih]
        -- From here on `y` is among the entries seen, so it goes over between `seen` and `before`.
        constructor
        · rintro ⟨before, after, rfl, hnodup, hfresh, hx⟩
          have hnew : y ∉ before := fun hy => hfresh y hy List.mem_cons_self
          refine ⟨y :: before, after, rfl, List.nodup_cons.mpr ⟨hnew, hnodup⟩, ?_, ?_⟩
          · exact List.forall_mem_cons.mpr
              ⟨hseen, fun z hz hold => hfresh z hz (List.mem_cons_of_mem y hold)⟩
          · rw [List.mem_cons] at hx ⊢
            tauto
        · rintro ⟨before, after, heq, hnodup, hfresh, hx⟩
          cases before with
          | nil =>
              rw [← (List.cons.inj heq).1] at hx
              simp [hseen] at hx
          | cons z before =>
              obtain ⟨rfl, rfl⟩ := List.cons.inj heq
              obtain ⟨hnew, hnodup⟩ := List.nodup_cons.mp hnodup
              refine ⟨before, after, rfl, hnodup, ?_, ?_⟩
              · intro z hz hmem
                rcases List.mem_cons.mp hmem with rfl | hold
                · exact hnew hz
                · exact hfresh z (List.mem_cons_of_mem y hz) hold
              · rw [List.mem_cons] at hx ⊢
                tauto

theorem firstRepeat?_eq_some_iff [DecidableEq α] (xs : List α) (x : α) :
    firstRepeat? xs = some x ↔ IsFirstRepeat xs x := by
  simp [firstRepeat?, firstSeen?_eq_some_iff, IsFirstRepeat]

def FoundIf (p : Prop) (fault found : α) : Prop :=
  p ∧ found = fault

theorem ite_eq_some_iff_foundIf (p : Prop) [Decidable p] (fault found : α) :
    (if p then some fault else none) = some found ↔ FoundIf p fault found := by
  by_cases hp : p <;> simp [hp, FoundIf, eq_comm]

/-- A check that finds a fault of the first entry of a list that has a property. -/
def FoundAtFirst (p : α → Prop) (xs : List α) (fault : α → β) (found : β) : Prop :=
  ∃ x, IsFirst p xs x ∧ found = fault x

theorem find?_map_eq_some_iff (p : α → Bool) (xs : List α) (fault : α → β) (found : β) :
    (xs.find? p).map fault = some found ↔ FoundAtFirst (fun x => p x = true) xs fault found := by
  simp only [Option.map_eq_some_iff, find?_eq_some_iff_isFirst, FoundAtFirst, eq_comm]

/-- Steps taken one after the other fail with the first that does, in the state to
which those before it lead. -/
theorem foldlM_eq_error_iff {σ : Type v} {ε : Type w} (take : σ → α → Except ε σ)
    (state : σ) (steps : List α) (error : ε) :
    steps.foldlM take state = .error error ↔
      ∃ before step after reached, steps = before ++ step :: after ∧
        before.foldlM take state = .ok reached ∧ take reached step = .error error := by
  induction steps generalizing state with
  | nil => simp [pure, Except.pure]
  | cons step steps ih =>
      rw [List.foldlM_cons]
      cases hstep : take state step with
      | error first =>
          constructor
          · intro hfirst
            exact ⟨[], step, steps, state, rfl, rfl, hstep.trans hfirst⟩
          · rintro ⟨before, other, after, reached, heq, hbefore, hother⟩
            cases before with
            | nil =>
                obtain ⟨rfl, rfl⟩ := List.cons.inj heq
                obtain rfl := Except.ok.inj hbefore
                exact hstep.symm.trans hother
            | cons head before =>
                obtain ⟨rfl, rfl⟩ := List.cons.inj heq
                rw [List.foldlM_cons, hstep] at hbefore
                cases hbefore
      | ok next =>
          -- The head was taken, so what comes before the failure begins with it.
          change List.foldlM take next steps = _ ↔ _
          rw [ih]
          constructor
          · rintro ⟨before, other, after, reached, rfl, hbefore, hother⟩
            refine ⟨step :: before, other, after, reached, rfl, ?_, hother⟩
            rw [List.foldlM_cons, hstep]
            exact hbefore
          · rintro ⟨before, other, after, reached, heq, hbefore, hother⟩
            cases before with
            | nil =>
                obtain ⟨rfl, rfl⟩ := List.cons.inj heq
                obtain rfl := Except.ok.inj hbefore
                cases hstep.symm.trans hother
            | cons head before =>
                obtain ⟨rfl, rfl⟩ := List.cons.inj heq
                rw [List.foldlM_cons, hstep] at hbefore
                exact ⟨before, other, after, reached, rfl, hbefore, hother⟩

namespace Matrix

/-- What is wrong with a row among the given columns: first its length, then its
label. -/
def RowFault (columns : List String) (row : LabelledRow) : TableError → Prop :=
  FirstFound
    [FoundIf (row.2.length ≠ columns.length)
        (.wrongRowLength row.1 columns.length row.2.length),
      FoundIf (row.1 ∉ columns) (.rowWithoutColumn row.1)]

/-- What is wrong with the first row with which anything is. -/
def FaultyRow (columns : List String) (rows : List LabelledRow) (error : TableError) : Prop :=
  ∃ row, IsFirst (fun row => row.2.length ≠ columns.length ∨ row.1 ∉ columns) rows row ∧
    RowFault columns row error

def RepeatedLabel (axis : Axis) (labels : List String) (error : TableError) : Prop :=
  ∃ label, IsFirstRepeat labels label ∧ error = .repeatedLabel label axis

def axisChecks [Text.LabelAlphabet] (columns : List String) (rows : List LabelledRow) :
    List (TableError → Prop) :=
  [FoundAtFirst (fun label => Text.isLabel label = false) (columns ++ rows.map Prod.fst)
      .invalidLabel,
    RepeatedLabel .columns columns,
    RepeatedLabel .rows (rows.map Prod.fst),
    FoundIf (rows.length ≠ columns.length) (.notSquare rows.length columns.length)]

def endMarkerCheck (rows : List LabelledRow) (endMarker : String) : TableError → Prop :=
  FoundIf (endMarker ∉ rows.map Prod.fst) (.unknownEndMarker endMarker)

/-- The checks of a table in their order. -/
def tableChecks [Text.LabelAlphabet] (columns : List String) (rows : List LabelledRow)
    (endMarker : String) : List (TableError → Prop) :=
  axisChecks columns rows ++ [FaultyRow columns rows, endMarkerCheck rows endMarker]

/-- The checks of a table with the lengths of all rows before the labels of any. -/
def lengthsFirstChecks (columns : List String) (rows : List LabelledRow) (endMarker : String) :
    List (TableError → Prop) :=
  axisChecks columns rows ++
    [FoundAtFirst (fun row => row.2.length ≠ columns.length) rows
        fun row => .wrongRowLength row.1 columns.length row.2.length,
      FoundAtFirst (fun row => row.1 ∉ columns) rows fun row => .rowWithoutColumn row.1,
      endMarkerCheck rows endMarker]

theorem rowFault?_eq_some_iff (columns : List String) (row : LabelledRow) (error : TableError) :
    rowFault? columns row = some error ↔ RowFault columns row error := by
  rw [RowFault, rowFault?]
  split
  · rename_i hlength
    rw [firstFound_cons_of_some (ite_eq_some_iff_foundIf _ _) (if_pos hlength),
      Option.some.injEq]
  · rename_i hlength
    rw [firstFound_cons_of_none (ite_eq_some_iff_foundIf _ _) (if_neg hlength),
      ite_eq_some_iff_foundIf, firstFound_cons_iff]
    simp [firstFound_nil]

theorem rowFault?_eq_none_iff_not (columns : List String) (row : LabelledRow) :
    rowFault? columns row = none ↔ ¬ (row.2.length ≠ columns.length ∨ row.1 ∉ columns) := by
  rw [rowFault?_eq_none_iff, not_or, not_not, not_not]

theorem findSome?_rowFault?_eq_some_iff (columns : List String) (rows : List LabelledRow)
    (error : TableError) :
    rows.findSome? (rowFault? columns) = some error ↔ FaultyRow columns rows error := by
  rw [List.findSome?_eq_some_iff]
  constructor
  · rintro ⟨before, row, after, hrows, hrow, hbefore⟩
    refine ⟨row, ⟨before, after, hrows, ?_, ?_⟩, (rowFault?_eq_some_iff _ _ _).mp hrow⟩
    · exact fun earlier hearlier =>
        (rowFault?_eq_none_iff_not _ _).mp (hbefore earlier hearlier)
    · by_contra hsound
      rw [(rowFault?_eq_none_iff_not _ _).mpr hsound] at hrow
      cases hrow
  · rintro ⟨row, ⟨before, after, hrows, hbefore, -⟩, hfault⟩
    refine ⟨before, row, after, hrows, (rowFault?_eq_some_iff _ _ _).mpr hfault, ?_⟩
    exact fun earlier hearlier => (rowFault?_eq_none_iff_not _ _).mpr (hbefore earlier hearlier)

theorem find?_invalid_eq_some_iff [Text.LabelAlphabet] (labels : List String)
    (error : TableError) :
    (labels.find? fun label => !Text.isLabel label).map .invalidLabel = some error ↔
      FoundAtFirst (fun label => Text.isLabel label = false) labels .invalidLabel error := by
  simp only [find?_map_eq_some_iff, Bool.not_eq_true']

theorem firstRepeat?_map_eq_some_iff (axis : Axis) (labels : List String) (error : TableError) :
    (firstRepeat? labels).map (.repeatedLabel · axis) = some error ↔
      RepeatedLabel axis labels error := by
  simp only [Option.map_eq_some_iff, firstRepeat?_eq_some_iff, RepeatedLabel, eq_comm (b := error)]

/-- A table is refused for what the first of its checks finds that finds anything. -/
theorem ofRows_eq_error_iff_firstFound [Text.LabelAlphabet] (columns : List String)
    (rows : List LabelledRow) (endMarker : String) (error : TableError) :
    ofRows columns rows endMarker = .error error ↔
      FirstFound (tableChecks columns rows endMarker) error := by
  -- A branch of the function either answers its check or leaves the checks behind it.
  simp only [tableChecks, axisChecks, List.cons_append, List.nil_append]
  unfold ofRows
  dsimp only
  split
  · rename_i label hlabel
    rw [firstFound_cons_of_some (find?_invalid_eq_some_iff _) (congrArg _ hlabel),
      Except.error.injEq]
  rename_i hvalid
  rw [firstFound_cons_of_none (find?_invalid_eq_some_iff _) (congrArg _ hvalid)]
  split
  · rename_i label hlabel
    rw [firstFound_cons_of_some (firstRepeat?_map_eq_some_iff _ _) (congrArg _ hlabel),
      Except.error.injEq]
  rename_i hcolumns
  rw [firstFound_cons_of_none (firstRepeat?_map_eq_some_iff _ _) (congrArg _ hcolumns)]
  split
  · rename_i label hlabel
    rw [firstFound_cons_of_some (firstRepeat?_map_eq_some_iff _ _) (congrArg _ hlabel),
      Except.error.injEq]
  rename_i hlabels
  rw [firstFound_cons_of_none (firstRepeat?_map_eq_some_iff _ _) (congrArg _ hlabels)]
  split
  · rename_i hshape
    rw [firstFound_cons_of_some (ite_eq_some_iff_foundIf _ _) (if_pos hshape), Except.error.injEq]
  rename_i hsquare
  rw [firstFound_cons_of_none (ite_eq_some_iff_foundIf _ _) (if_neg hsquare)]
  split
  · rename_i fault hfault
    rw [firstFound_cons_of_some (findSome?_rowFault?_eq_some_iff _ _)
      (Alignment.findSome?_of_ofRows_error hfault), Except.error.injEq]
  rename_i alignment halignment
  rw [firstFound_cons_of_none (findSome?_rowFault?_eq_some_iff _ _)
    (Alignment.findSome?_of_ofRows_ok halignment), endMarkerCheck]
  split
  · rename_i hend
    rw [firstFound_cons_of_some (ite_eq_some_iff_foundIf _ _)
      (if_pos (List.finIdxOf?_eq_none_iff.mp hend)), Except.error.injEq]
  · rename_i endIndex hend
    have hmem : ¬ endMarker ∉ rows.map Prod.fst := by
      rw [← List.finIdxOf?_eq_none_iff, hend]
      exact Option.some_ne_none endIndex
    rw [firstFound_cons_of_none (ite_eq_some_iff_foundIf _ _) (if_neg hmem)]
    simp [firstFound_nil]

/-- The first row of a wrong length is reported where no row without a column stands
before it. -/
theorem findSome?_rowFault?_of_length {columns : List String} {rows : List LabelledRow}
    (hrows : rows.Pairwise fun earlier later =>
      earlier.1 ∈ columns ∨ later.2.length = columns.length) {row : LabelledRow}
    (hrow : IsFirst (fun row => row.2.length ≠ columns.length) rows row) :
    rows.findSome? (rowFault? columns) =
      some (.wrongRowLength row.1 columns.length row.2.length) := by
  obtain ⟨before, after, rfl, hbefore, hlength⟩ := hrow
  rw [List.findSome?_eq_some_iff]
  refine ⟨before, row, after, rfl, if_pos hlength, fun earlier hearlier => ?_⟩
  have hapart := (List.pairwise_append.mp hrows).2.2 earlier hearlier row List.mem_cons_self
  exact (rowFault?_eq_none_iff columns earlier).mpr
    ⟨not_not.mp (hbefore earlier hearlier), hapart.resolve_right hlength⟩

/-- Where every row has the right length, rows are refused for their labels only. -/
theorem faultyRow_iff_of_length {columns : List String} {rows : List LabelledRow}
    (hlength : ∀ row ∈ rows, row.2.length = columns.length) (error : TableError) :
    FaultyRow columns rows error ↔
      FoundAtFirst (fun row => row.1 ∉ columns) rows (fun row => .rowWithoutColumn row.1)
        error := by
  have hsame : ∀ row ∈ rows,
      (row.2.length ≠ columns.length ∨ row.1 ∉ columns) ↔ row.1 ∉ columns :=
    fun row hrow => or_iff_right (not_not.mpr (hlength row hrow))
  have hfault : ∀ row ∈ rows, row.1 ∉ columns →
      rowFault? columns row = some (.rowWithoutColumn row.1) := by
    intro row hrow hlabel
    rw [rowFault?, if_neg (not_not.mpr (hlength row hrow)), if_pos hlabel]
  constructor
  · rintro ⟨row, hfirst, hfound⟩
    have hlabel := hfirst.congr hsame
    have hknown := hfault row hlabel.mem hlabel.holds
    rw [← rowFault?_eq_some_iff, hknown] at hfound
    exact ⟨row, hlabel, (Option.some.inj hfound).symm⟩
  · rintro ⟨row, hfirst, rfl⟩
    refine ⟨row, hfirst.congr fun other hother => (hsame other hother).symm, ?_⟩
    exact (rowFault?_eq_some_iff _ _ _).mp (hfault row hfirst.mem hfirst.holds)

/-- The checks of the rows may be made one after the other where no row without a
column stands before a row of a wrong length. -/
theorem firstFound_rowChecks_iff {columns : List String} {rows : List LabelledRow}
    (hrows : rows.Pairwise fun earlier later =>
      earlier.1 ∈ columns ∨ later.2.length = columns.length)
    (endMarker : String) (error : TableError) :
    FirstFound [FaultyRow columns rows, endMarkerCheck rows endMarker] error ↔
      FirstFound
        [FoundAtFirst (fun row => row.2.length ≠ columns.length) rows
            fun row => .wrongRowLength row.1 columns.length row.2.length,
          FoundAtFirst (fun row => row.1 ∉ columns) rows fun row => .rowWithoutColumn row.1,
          endMarkerCheck rows endMarker] error := by
  have hanswer : ∀ found : TableError,
      (rows.find? fun row => decide (row.2.length ≠ columns.length)).map
          (fun row => .wrongRowLength row.1 columns.length row.2.length) = some found ↔
        FoundAtFirst (fun row => row.2.length ≠ columns.length) rows
          (fun row => .wrongRowLength row.1 columns.length row.2.length) found := by
    simp only [find?_map_eq_some_iff, decide_eq_true_eq, implies_true]
  cases hfind : rows.find? fun row => decide (row.2.length ≠ columns.length) with
  | none =>
      have hlength : ∀ row ∈ rows, row.2.length = columns.length := by
        simpa using List.find?_eq_none.mp hfind
      rw [firstFound_cons_of_none hanswer (congrArg _ hfind),
        funext fun found => propext (faultyRow_iff_of_length hlength found)]
  | some row =>
      have hrow : IsFirst (fun row => row.2.length ≠ columns.length) rows row := by
        simpa using (find?_eq_some_iff_isFirst _ _ _).mp hfind
      rw [firstFound_cons_of_some hanswer (congrArg _ hfind),
        firstFound_cons_of_some (findSome?_rowFault?_eq_some_iff _ _)
          (findSome?_rowFault?_of_length hrows hrow)]

/-- A table is refused for what the first of its checks finds that finds anything.
This is what checking all lengths before all labels would find, where no row without a
column stands before a row of a wrong length. -/
theorem ofRows_reports_first_fault (columns : List String) (rows : List LabelledRow)
    (endMarker : String) (error : TableError) :
    (ofRows columns rows endMarker = .error error ↔
      FirstFound (tableChecks columns rows endMarker) error) ∧
    ((rows.Pairwise fun earlier later =>
        earlier.1 ∈ columns ∨ later.2.length = columns.length) →
      (ofRows columns rows endMarker = .error error ↔
        FirstFound (lengthsFirstChecks columns rows endMarker) error)) := by
  refine ⟨ofRows_eq_error_iff_firstFound _ _ _ _, fun hrows => ?_⟩
  rw [ofRows_eq_error_iff_firstFound, tableChecks, lengthsFirstChecks]
  exact firstFound_append_congr (firstFound_rowChecks_iff hrows endMarker) _ _

/-- A row without a column, and behind it one that is too short. -/
def unevenRows : List LabelledRow :=
  [("c", [.unrelated, .unrelated]), ("b", [.unrelated])]

/-- The length of a row is not checked before the labels of the rows above it. -/
theorem uneven_label_before_length :
    FirstFound (lengthsFirstChecks ["a", "b"] unevenRows "b") (.wrongRowLength "b" 2 1) ∧
    ofRows ["a", "b"] unevenRows "b" = .error (.rowWithoutColumn "c") := by
  constructor
  · simp only [lengthsFirstChecks, axisChecks, List.cons_append, List.nil_append]
    rw [firstFound_cons_of_none (find?_invalid_eq_some_iff _) (by decide),
      firstFound_cons_of_none (firstRepeat?_map_eq_some_iff _ _) (by decide),
      firstFound_cons_of_none (firstRepeat?_map_eq_some_iff _ _) (by decide),
      firstFound_cons_of_none (ite_eq_some_iff_foundIf _ _) (by decide)]
    exact .here ⟨("b", [.unrelated]),
      ⟨[("c", [.unrelated, .unrelated])], [], rfl, by decide, by decide⟩, rfl⟩
  · decide

theorem uneven_reverse_length_first :
    FirstFound (lengthsFirstChecks ["a", "b"] unevenRows.reverse "b") (.wrongRowLength "b" 2 1) ∧
    FirstFound (tableChecks ["a", "b"] unevenRows.reverse "b") (.wrongRowLength "b" 2 1) := by
  have hrefused : ofRows ["a", "b"] unevenRows.reverse "b" = .error (.wrongRowLength "b" 2 1) := by
    decide
  obtain ⟨hrowwise, hlengthsFirst⟩ := ofRows_reports_first_fault ["a", "b"] unevenRows.reverse "b"
    (.wrongRowLength "b" 2 1)
  exact ⟨(hlengthsFirst (by decide)).mp hrefused, hrowwise.mp hrefused⟩

end Matrix

end OperatorPrecedence
