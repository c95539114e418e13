import OperatorPrecedence.Groups
import OperatorPrecedence.Matrix.Definition
import OperatorPrecedence.Proofs.KeyedEntries

/-!
Steps that fail and are passed over.  Leaving them out changes nothing: the other
steps succeed as before and lead to the same state.  For the definition of a matrix
the failing steps are a second list of columns, a second end marker and a row with
a character that is no mark; for groups they are the repeated labels.
-/

namespace OperatorPrecedence

section Attempts

variable {σ α ε : Type} {take : α → EStateM ε σ Unit}

/-- An action that leaves the state as it found it where it fails. -/
def FailsClean (action : EStateM ε σ Unit) : Prop :=
  ∀ state error broken, action.run state = .error error broken → broken = state

theorem attemptEach_of_error {state broken : σ} {step : α} {error : ε}
    (herror : (take step).run state = .error error broken) (steps : List α) :
    attemptEach take state (step :: steps) =
      ((attemptEach take broken steps).1, some error :: (attemptEach take broken steps).2) := by
  rw [attemptEach, herror]

theorem attemptEach_of_ok {state next : σ} {step : α} (hnext : (take step).run state = .ok () next)
    (steps : List α) :
    attemptEach take state (step :: steps) =
      ((attemptEach take next steps).1, none :: (attemptEach take next steps).2) := by
  rw [attemptEach, hnext]

theorem attemptEach_append (state : σ) (before later : List α) :
    attemptEach take state (before ++ later) =
      ((attemptEach take (attemptEach take state before).1 later).1,
        (attemptEach take state before).2 ++
          (attemptEach take (attemptEach take state before).1 later).2) := by
  induction before generalizing state with
  | nil => rfl
  | cons step steps ih =>
      rw [List.cons_append]
      cases hstep : (take step).run state with
      | error error broken =>
          rw [attemptEach_of_error hstep, attemptEach_of_error hstep, ih]
          rfl
      | ok _ next =>
          rw [attemptEach_of_ok hstep, attemptEach_of_ok hstep, ih]
          rfl

@[simp] theorem length_attemptEach (state : σ) (steps : List α) :
    (attemptEach take state steps).2.length = steps.length := by
  induction steps generalizing state with
  | nil => rfl
  | cons step steps ih =>
      cases hstep : (take step).run state with
      | error error broken =>
          rw [attemptEach_of_error hstep, List.length_cons, ih, List.length_cons]
      | ok _ next => rw [attemptEach_of_ok hstep, List.length_cons, ih, List.length_cons]

/-- The error listed for a step is the one that it has in the state to which the
steps before it lead. -/
theorem getElem?_attemptEach_eq_error_iff (state : σ) (before : List α) (step : α)
    (later : List α) (error : ε) :
    (attemptEach take state (before ++ step :: later)).2[before.length]? =
        some (some error) ↔
      stateAfter (take step) (attemptEach take state before).1 = .error error := by
  rw [attemptEach_append, List.getElem?_append_right (by simp), length_attemptEach,
    Nat.sub_self, stateAfter_eq_error_iff]
  cases hstep : (take step).run (attemptEach take state before).1 with
  | error found broken => simp [attemptEach_of_error hstep]
  | ok _ next => simp [attemptEach_of_ok hstep]

theorem run_tryCatch_pure (action : EStateM ε σ Unit) (state : σ) :
    (tryCatch action fun _ => pure ()).run state =
      match action.run state with
      | .error _ broken => .ok () broken
      | .ok () next => .ok () next := by
  simp only [tryCatch, tryCatchThe, MonadExceptOf.tryCatch, EStateM.tryCatch, EStateM.run]
  cases action state <;> rfl

/-- A caller who does not look at errors comes to the end, in the last state. -/
theorem ignoringErrors_eq (state : σ) (steps : List α) :
    (ignoringErrors take steps).run state = .ok () (attemptEach take state steps).1 := by
  induction steps generalizing state with
  | nil => rfl
  | cons step steps ih =>
      rw [ignoringErrors, List.forM_cons, EStateM.run_bind, run_tryCatch_pure]
      cases hstep : (take step).run state with
      | error error broken =>
          rw [attemptEach_of_error hstep]
          exact ih broken
      | ok _ next =>
          rw [attemptEach_of_ok hstep]
          exact ih next

/-- Where failing steps leave the state as it was, the others succeed one after the
other, and lead to the same state. -/
theorem forM_succeeding (htake : ∀ step, FailsClean (take step)) (state : σ) (steps : List α) :
    (forM (succeeding steps (attemptEach take state steps).2) take).run state =
      .ok () (attemptEach take state steps).1 := by
  induction steps generalizing state with
  | nil => rfl
  | cons step steps ih =>
      cases hstep : (take step).run state with
      | error error broken =>
          -- Only here it matters in which state a step fails.
          obtain rfl := htake step _ _ _ hstep
          rw [attemptEach_of_error hstep, succeeding_cons_some]
          exact ih broken
      | ok _ next =>
          rw [attemptEach_of_ok hstep, succeeding_cons_none, List.forM_cons, EStateM.run_bind,
            hstep]
          exact ih next

/-- Where all steps succeed, nothing is passed over. -/
theorem attemptEach_of_forM {state last : σ} {steps : List α}
    (hlast : (forM steps take).run state = .ok () last) :
    attemptEach take state steps = (last, List.replicate steps.length none) := by
  induction steps generalizing state with
  | nil =>
      cases hlast
      rfl
  | cons step steps ih =>
      rw [List.forM_cons, EStateM.run_bind] at hlast
      cases hstep : (take step).run state with
      | error error broken =>
          rw [hstep] at hlast
          cases hlast
      | ok _ next =>
          rw [hstep] at hlast
          rw [attemptEach_of_ok hstep, ih hlast]
          rfl

/-- Without the steps that failed, the others lead to the same state. -/
theorem attemptEach_succeeding (htake : ∀ step, FailsClean (take step)) (state : σ)
    (steps : List α) :
    (attemptEach take state (succeeding steps (attemptEach take state steps).2)).1 =
      (attemptEach take state steps).1 := by
  rw [attemptEach_of_forM (forM_succeeding htake state steps)]

theorem isSome_findSome?_iff {β : Type} {view : α → Option β} {form : β → α}
    (hview : ∀ entry value, view entry = some value ↔ entry = form value) {entries : List α} :
    (entries.findSome? view).isSome = true ↔ ∃ value, form value ∈ entries := by
  rw [List.findSome?_isSome_iff]
  constructor
  · rintro ⟨entry, hentry, hsome⟩
    obtain ⟨value, hvalue⟩ := Option.isSome_iff_exists.mp hsome
    exact ⟨value, (hview entry value).mp hvalue ▸ hentry⟩
  · rintro ⟨value, hmem⟩
    exact ⟨form value, hmem, Option.isSome_iff_exists.mpr ⟨value, (hview _ value).mpr rfl⟩⟩

end Attempts

namespace Matrix

theorem readMarks_eq_error_iff (label : String) (chars : List Char) (error : TableError) :
    readMarks label chars = .error error ↔
      ∃ c, chars.find? (fun c => !Text.isBlank c && (Relation.ofMark? c).isNone) = some c ∧
        error = .unknownMark c label := by
  induction chars with
  | nil => simp [readMarks]
  | cons c chars ih =>
      rw [readMarks, List.find?_cons]
      by_cases hblank : Text.isBlank c = true
      · simpa [hblank] using ih
      · cases hmark : Relation.ofMark? c with
        | none => simp [hblank, eq_comm]
        | some relation =>
            cases hrest : readMarks label chars with
            | error found =>
                rw [hrest] at ih
                simpa [hblank] using ih
            | ok relations =>
                rw [hrest] at ih
                simpa [hblank] using ih

theorem exists_readMarks_error_iff (label : String) (chars : List Char) :
    (∃ error, readMarks label chars = .error error) ↔
      ∃ c ∈ chars, Text.isBlank c = false ∧ c ∉ ['<', '>', '=', '.', 'x'] := by
  have hmark : ∀ c, (Relation.ofMark? c).isNone = true ↔ c ∉ ['<', '>', '=', '.', 'x'] := by
    intro c
    rw [← Relation.ofMark?_isSome_iff, Option.isNone_iff_eq_none, Option.not_isSome_iff_eq_none]
  simp only [readMarks_eq_error_iff, ← hmark]
  rw [exists_comm]
  simp [← Option.isSome_iff_exists]

/-- When a step fails after others: a second list of columns, a second end marker,
or a row with a character that is neither a blank nor a mark. -/
def Step.FailsAfter (before : List Step) : Step → Prop
  | .columns _ => ∃ labels, .columns labels ∈ before
  | .row _ _ => False
  | .rowText _ marks =>
      ∃ c ∈ marks.toList, Text.isBlank c = false ∧ c ∉ ['<', '>', '=', '.', 'x']
  | .endMarker _ => ∃ label, .endMarker label ∈ before

@[simp] def Step.columns? : Step → Option (List String)
  | .columns labels => some labels
  | _ => none

theorem Step.columns?_eq_some_iff (step : Step) (labels : List String) :
    step.columns? = some labels ↔ step = .columns labels := by
  cases step <;> simp

@[simp] def Step.endMarker? : Step → Option String
  | .endMarker label => some label
  | _ => none

theorem Step.endMarker?_eq_some_iff (step : Step) (label : String) :
    step.endMarker? = some label ↔ step = .endMarker label := by
  cases step <;> simp

/-- The row that a step gives, if all of it can be read. -/
@[simp] def Step.row? : Step → Option LabelledRow
  | .row label cells => some (label, cells)
  | .rowText label marks =>
      (readMarks label marks.toList).toOption.map fun cells => (label, cells)
  | _ => none

namespace Definition

/-- A definition with what a step adds to it: columns and an end marker where it
has none, and a row. -/
def extend (definition : Definition) (step : Step) : Definition where
  columns? := definition.columns?.or step.columns?
  rows := definition.rows ++ step.row?.toList
  endMarker? := definition.endMarker?.or step.endMarker?

/-- A step either adds what it has, or it fails and leaves the definition alone; then
it has nothing to add. -/
theorem take_cases (definition : Definition) (step : Step) :
    step.take.run definition = .ok () (definition.extend step) ∨
      ∃ error, step.take.run definition = .error error definition ∧
        definition.extend step = definition := by
  obtain ⟨columns?, rows, endMarker?⟩ := definition
  cases step with
  | columns labels => cases columns? <;> simp [Step.run_take_columns, extend]
  | row label cells => simp [Step.run_take_row, extend]
  | rowText label marks =>
      cases hmarks : readMarks label marks.toList <;>
        simp [Step.run_take_rowText, extend, hmarks, Except.toOption]
  | endMarker label => cases endMarker? <;> simp [Step.run_take_endMarker, extend]

theorem failsClean_take (step : Step) : FailsClean step.take := by
  intro definition error broken herror
  rcases definition.take_cases step with hstep | ⟨found, hstep, -⟩
  · rw [herror] at hstep
    cases hstep
  · rw [herror] at hstep
    cases hstep
    rfl

/-- Of all steps, the first columns, the first end marker and the rows that can be
read are left. -/
theorem attemptAll_fst (definition : Definition) (steps : List Step) :
    (definition.attemptAll steps).1 =
      ⟨definition.columns?.or (steps.findSome? Step.columns?),
        definition.rows ++ steps.filterMap Step.row?,
        definition.endMarker?.or (steps.findSome? Step.endMarker?)⟩ := by
  induction steps generalizing definition with
  | nil => simp [attemptAll, attemptEach]
  | cons step steps ih =>
      -- Whether the step fails or not, the others go on from the extended definition.
      have hrest : ((definition.extend step).attemptAll steps).1 =
          ⟨definition.columns?.or ((step :: steps).findSome? Step.columns?),
            definition.rows ++ (step :: steps).filterMap Step.row?,
            definition.endMarker?.or ((step :: steps).findSome? Step.endMarker?)⟩ := by
        rw [ih]
        simp only [extend, Option.or_assoc, List.append_assoc, List.findSome?_cons,
          List.filterMap_cons]
        cases step.columns? <;> cases step.row? <;> cases step.endMarker? <;> rfl
      rw [← hrest, attemptAll]
      rcases definition.take_cases step with hstep | ⟨error, hstep, hextend⟩
      · rw [attemptEach_of_ok hstep, attemptAll]
      · rw [attemptEach_of_error hstep, hextend, attemptAll]

/-- A step fails after others exactly for one of the three reasons. -/
theorem exists_apply_error_iff (before : List Step) (step : Step) :
    (∃ error, (empty.attemptAll before).1.apply step = .error error) ↔
      step.FailsAfter before := by
  simp only [attemptAll_fst, apply, stateAfter_eq_error_iff]
  cases step with
  | columns labels =>
      rw [Step.FailsAfter, ← isSome_findSome?_iff Step.columns?_eq_some_iff]
      cases before.findSome? Step.columns? <;> simp [Step.run_take_columns, empty]
  | row label cells => simp [Step.run_take_row, Step.FailsAfter]
  | rowText label marks =>
      rw [Step.FailsAfter, ← exists_readMarks_error_iff label]
      cases hmarks : readMarks label marks.toList <;> simp [Step.run_take_rowText, hmarks]
  | endMarker label =>
      rw [Step.FailsAfter, ← isSome_findSome?_iff Step.endMarker?_eq_some_iff]
      cases before.findSome? Step.endMarker? <;> simp [Step.run_take_endMarker, empty]

end Definition

/-- The matrix that is defined by steps whose errors are ignored is that of the
definition to which they lead. -/
theorem defineBy_ignoringErrors (steps : List Step) :
    defineBy (ignoringErrors Step.take steps) = (Definition.empty.attemptAll steps).1.matrix := by
  rw [defineBy, ignoringErrors_eq]
  rfl

end Matrix

namespace Groups

theorem failsClean_register (entry : String × List String) :
    FailsClean (register entry) := by
  intro groups error broken herror
  rcases groups.register_cases entry with ⟨-, hregister⟩ | ⟨-, next, hregister, -⟩
  · rw [herror] at hregister
    cases hregister
    rfl
  · rw [herror] at hregister
    cases hregister

theorem get?_attemptAll (groups : Groups) (entries : List (String × List String))
    (label : String) :
    (groups.attemptAll entries).1.get? label = (groups.get? label).or (entries.lookup label) := by
  induction entries generalizing groups with
  | nil => simp [attemptAll, attemptEach]
  | cons entry entries ih =>
      obtain ⟨first, members⟩ := entry
      rw [attemptAll]
      rcases groups.register_cases (first, members) with ⟨hlabel, herror⟩ | ⟨-, next, hok, hentries⟩
      · rw [attemptEach_of_error herror]
        refine (ih groups).trans ?_
        by_cases heq : label = first
        · change first ∈ groups.entries.map Prod.fst at hlabel
          rw [← heq, ← isSome_lookup_iff] at hlabel
          rw [get?, Option.or_of_isSome hlabel, Option.or_of_isSome hlabel]
        · simp [List.lookup_cons, beq_eq_false_iff_ne.mpr heq]
      · rw [attemptEach_of_ok hok]
        refine (ih next).trans ?_
        rw [get?, hentries, List.lookup_append, Option.or_assoc, ← List.lookup_append]
        rfl

theorem entries_attemptAll (groups : Groups) (entries : List (String × List String)) :
    (groups.attemptAll entries).1.entries =
      groups.entries ++ succeeding entries (groups.attemptAll entries).2 := by
  induction entries generalizing groups with
  | nil => simp [attemptAll, attemptEach]
  | cons entry entries ih =>
      rw [attemptAll]
      rcases groups.register_cases entry with ⟨-, herror⟩ | ⟨-, next, hok, hentries⟩
      · rw [attemptEach_of_error herror, succeeding_cons_some]
        exact ih groups
      · rw [attemptEach_of_ok hok, succeeding_cons_none]
        refine (ih next).trans ?_
        rw [hentries, List.append_assoc]
        rfl

theorem exists_insert_error_iff (before : List (String × List String)) (label : String)
    (members : List String) :
    (∃ error, (empty.attemptAll before).1.insert label members = .error error) ↔
      label ∈ before.map Prod.fst := by
  simp only [insert_eq_error_iff, exists_and_left, exists_eq, and_true]
  rw [← isSome_lookup_iff, ← isSome_lookup_iff]
  exact iff_of_eq (congrArg (Option.isSome · = true) (get?_attemptAll empty before label))

end Groups

/-- A step that fails leaves no trace, though a caller who passes over it goes on in
the state that it leaves: that is the state before it.  In the definition of a matrix
the failing steps are the repeated columns, the repeated end markers and the rows with
a character that is no mark; without them the same matrix, or the same error, results,
whether errors are then ignored or not.  Of groups those with a repeated label fail;
the groups are those of the other entries, and each label has the members with which it
came first. -/
theorem failing_steps_irrelevant :
    (∀ (step : Matrix.Step) definition error broken,
      step.take.run definition = .error error broken → broken = definition) ∧
    (∀ before step later,
      (∃ error, (Matrix.Definition.empty.attemptAll (before ++ step :: later)).2[before.length]? =
        some (some error)) ↔ Matrix.Step.FailsAfter before step) ∧
    (∀ steps,
      let errors := (Matrix.Definition.empty.attemptAll steps).2
      let kept := succeeding steps errors
      let defined := Matrix.defineBy (ignoringErrors Matrix.Step.take steps)
      errors.length = steps.length ∧
        defined = (Matrix.Definition.empty.attemptAll steps).1.matrix ∧
        defined = Matrix.defineBy (ignoringErrors Matrix.Step.take kept) ∧
        defined = Matrix.define kept) ∧
    (∀ label members groups error broken,
      (Groups.register (label, members)).run groups = .error error broken → broken = groups) ∧
    (∀ before label members later,
      (∃ error, (Groups.empty.attemptAll (before ++ (label, members) :: later)).2[before.length]? =
        some (some error)) ↔ label ∈ before.map Prod.fst) ∧
    ∀ entries,
      let errors := (Groups.empty.attemptAll entries).2
      let kept := succeeding entries errors
      errors.length = entries.length ∧
        ∃ groups, (ignoringErrors Groups.register entries).run Groups.empty = .ok () groups ∧
          (ignoringErrors Groups.register kept).run Groups.empty = .ok () groups ∧
          (forM kept Groups.register).run Groups.empty = .ok () groups ∧
          groups.entries = kept ∧ groups.size = kept.length ∧
          ∀ label, groups.get? label = entries.lookup label := by
  refine ⟨Matrix.Definition.failsClean_take, fun before step later => ?_,
    fun steps => ⟨?_, ?_, ?_, ?_⟩, fun label members => Groups.failsClean_register (label, members),
    fun before label members later => ?_, fun entries => ⟨?_, ?_⟩⟩
  · simp only [Matrix.Definition.attemptAll, getElem?_attemptEach_eq_error_iff]
    exact Matrix.Definition.exists_apply_error_iff before step
  · exact length_attemptEach _ steps
  · exact Matrix.defineBy_ignoringErrors steps
  · rw [Matrix.defineBy_ignoringErrors, Matrix.defineBy_ignoringErrors]
    exact congrArg Matrix.Definition.matrix
      (attemptEach_succeeding Matrix.Definition.failsClean_take _ steps).symm
  · rw [Matrix.defineBy_ignoringErrors, Matrix.define, Matrix.defineBy,
      Matrix.Definition.attemptAll, forM_succeeding Matrix.Definition.failsClean_take]
  · simp only [Groups.attemptAll, getElem?_attemptEach_eq_error_iff]
    exact Groups.exists_insert_error_iff before label members
  · exact length_attemptEach _ entries
  · have hentries := Groups.empty.entries_attemptAll entries
    refine ⟨_, ignoringErrors_eq _ entries, ?_, ?_, hentries, congrArg List.length hentries,
      Groups.empty.get?_attemptAll entries⟩
    · rw [ignoringErrors_eq]
      exact congrArg (EStateM.Result.ok ())
        (attemptEach_succeeding Groups.failsClean_register _ entries)
    · exact forM_succeeding Groups.failsClean_register _ entries

-- The row that fails has a mark before the character that is none.
example :
    Matrix.Definition.empty.attemptAll
        [.columns ["a"], .columns ["b"], .rowText "a" "<?", .rowText "a" " =", .endMarker "a",
          .endMarker "b"] =
      (⟨some ["a"], [("a", [.equal])], some "a"⟩,
        [none, some .repeatedColumns, some (.unknownMark '?' "a"), none, none,
          some .repeatedEndMarker]) := by
  cbv

end OperatorPrecedence
