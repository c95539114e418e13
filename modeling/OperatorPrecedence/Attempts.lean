/-!
Steps that change a state and may fail.  A failure comes with the state in which the
step has broken off, and it is from there that a caller who passes over it goes on.
-/

namespace OperatorPrecedence

variable {σ α ε : Type}

/-- Take steps one after the other, also after one that fails.  The answer holds the
last state and the error of each step that failed. -/
def attemptEach (take : α → EStateM ε σ Unit) (state : σ) : List α → σ × List (Option ε)
  | [] => (state, [])
  | step :: steps =>
      match (take step).run state with
      | .error error broken =>
          let (last, errors) := attemptEach take broken steps
          (last, some error :: errors)
      | .ok () next =>
          let (last, errors) := attemptEach take next steps
          (last, none :: errors)

/-- Steps one after the other by a caller who does not look at their errors. -/
def ignoringErrors (take : α → EStateM ε σ Unit) (steps : List α) : EStateM ε σ Unit :=
  forM steps fun step => tryCatch (take step) fun _ => pure ()

/-- The steps that did not fail, out of steps with the error of each that did. -/
def succeeding (steps : List α) (errors : List (Option ε)) : List α :=
  ((steps.zip errors).filter fun taken => taken.2.isNone).map Prod.fst

@[simp] theorem succeeding_nil : succeeding ([] : List α) ([] : List (Option ε)) = [] :=
  rfl

@[simp] theorem succeeding_cons_some (step : α) (steps : List α) (error : ε)
    (errors : List (Option ε)) :
    succeeding (step :: steps) (some error :: errors) = succeeding steps errors :=
  rfl

@[simp] theorem succeeding_cons_none (step : α) (steps : List α)
    (errors : List (Option ε)) :
    succeeding (step :: steps) (none :: errors) = step :: succeeding steps errors :=
  rfl

/-- What an action makes of a state, if it does not fail. -/
def stateAfter (action : EStateM ε σ Unit) (state : σ) : Except ε σ :=
  match action.run state with
  | .ok () next => .ok next
  | .error error _ => .error error

theorem stateAfter_eq_ok_iff (action : EStateM ε σ Unit) (state next : σ) :
    stateAfter action state = .ok next ↔ action.run state = .ok () next := by
  unfold stateAfter
  cases action.run state <;> simp

theorem stateAfter_eq_error_iff (action : EStateM ε σ Unit) (state : σ) (error : ε) :
    stateAfter action state = .error error ↔ ∃ broken, action.run state = .error error broken := by
  unfold stateAfter
  cases action.run state <;> simp

end OperatorPrecedence
