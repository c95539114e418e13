import OperatorPrecedence.Proofs.Delivery
import OperatorPrecedence.Proofs.UnbracketedLines

/-!
The options that show the graph, show the distances or verify the functions.  They
change what a run says, and nothing that it delivers, whatever the log writes before.
Verifying adds nothing even to what is said, since the functions found reproduce every
relation of their table.
-/

namespace OperatorPrecedence

namespace Invocation

/-- The same run with other diagnostics. -/
def withDiagnostics (invocation : Invocation) (verify dumpGraph dumpDistances : Bool) :
    Invocation :=
  { invocation with verify := verify, dumpGraph := dumpGraph, dumpDistances := dumpDistances }

/-- What is shown of a solved table has no line that begins with a bracket. -/
theorem unbracketed_shown {matrix : Matrix} (solution : Solution matrix.size)
    (dumpGraph dumpDistances : Bool) :
    Unbracketed (shown solution dumpGraph dumpDistances) := by
  have hname := matrix.unbracketed_vertexName
  apply Unbracketed.append
  · split
    · exact (solution.graph.unbracketed_text hname).append (by decide)
    · decide
  · split
    · exact (solution.distances.unbracketed_text hname).append (by decide)
    · decide

/-- What is said depends on what is to be shown, and the result on no diagnostics. -/
theorem exists_process_eq (invocation : Invocation) (content : Except FileError String) :
    ∃ said : Bool → Bool → String,
      (∀ dumpGraph dumpDistances, Unbracketed (said dumpGraph dumpDistances)) ∧
        ∀ verify dumpGraph dumpDistances,
          (invocation.withDiagnostics verify dumpGraph dumpDistances).process content =
            ⟨said dumpGraph dumpDistances, (invocation.process content).result⟩ := by
  have hsilent : Unbracketed "" := by decide
  -- Nothing is said before the table is solved, and then only what is to be shown.
  cases hload : Table.ofContent content with
  | error error =>
      refine ⟨fun _ _ => "", fun _ _ => hsilent, ?_⟩
      intro verify dumpGraph dumpDistances
      simp only [process, hload]
  | ok table =>
      cases hsolve : table.matrix.solve table.groups with
      | error error =>
          refine ⟨fun _ _ => "", fun _ _ => hsilent, ?_⟩
          intro verify dumpGraph dumpDistances
          simp only [process, hload, hsolve]
      | ok solution =>
          refine ⟨shown solution, unbracketed_shown solution, ?_⟩
          intro verify dumpGraph dumpDistances
          rw [process_of_solve _ hload hsolve, invocation.process_of_solve hload hsolve]
          rfl

variable {σ : Type} [FileSystem σ]

/-- What a run adds to the error stream at its end is at most the report of a failure. -/
theorem delivery_report (invocation : Invocation) (files : σ) (result : Except Failure String) :
    (invocation.delivery files result).report = "" ∨ ∃ failure : Failure,
      (invocation.delivery files result).report = failure.text invocation.input := by
  unfold delivery
  split
  · exact Or.inr ⟨_, rfl⟩
  · split
    · exact Or.inl rfl
    · split
      · exact Or.inl rfl
      · exact Or.inr ⟨_, rfl⟩

/-- A run ends in a way that no diagnostics change, after what it logs and says. -/
theorem exists_run_eq (invocation : Invocation) (files : σ) :
    ∃ (said : Bool → Bool → String) (delivery : Delivery σ),
      (∀ dumpGraph dumpDistances, Unbracketed (said dumpGraph dumpDistances)) ∧
      (delivery.report = "" ∨ ∃ failure : Failure, delivery.report = failure.text invocation.input) ∧
      ∀ (program : Program) {arguments : List String} {verify dumpGraph dumpDistances : Bool},
        program.parse arguments =
            .run (invocation.withDiagnostics verify dumpGraph dumpDistances) →
          program.run arguments files =
            { code := delivery.code
              stdout := program.subscriber.lines []
                (.argumentsParsed (invocation.withDiagnostics verify dumpGraph dumpDistances) ::
                  workEvents (FileSystem.readText files invocation.input)) ++ delivery.printed
              stderr := said dumpGraph dumpDistances ++ delivery.report
              directory := delivery.directory } := by
  let content := FileSystem.readText files invocation.input
  let result := (invocation.process content).result
  obtain ⟨said, hsaid, hprocess⟩ := invocation.exists_process_eq content
  refine ⟨said, invocation.delivery files result, hsaid, invocation.delivery_report files result, ?_⟩
  intro program arguments verify dumpGraph dumpDistances hrequest
  have hcontent : FileSystem.readText files
      (invocation.withDiagnostics verify dumpGraph dumpDistances).input = content := rfl
  have hrun := program.run_eq hrequest files
  simp only [hcontent, hprocess] at hrun
  exact hrun

end Invocation

/-- Two runs that differ in whether they verify or show something, each with a log of
its own, end in the same way, change the same files and print the same behind what is
logged; and nothing tells them apart where the logs let only errors through and they
only differ in whether they verify.  No violation is found in a table that is solved,
and a line begins as the report of one only where the path of the table file, which the
report of a failure repeats, has that line. -/
theorem Program.run_diagnostics_irrelevant {σ : Type} [FileSystem σ] (program other : Program)
    {arguments others : List String} {invocation : Invocation}
    {verify dumpGraph dumpDistances : Bool}
    (hrequest : program.parse arguments = .run invocation)
    (hother : other.parse others =
      .run (invocation.withDiagnostics verify dumpGraph dumpDistances))
    (files : σ) :
    let outcome := program.run arguments files
    let second := other.run others files
    let content := FileSystem.readText files invocation.input
    (second.code = outcome.code ∧ second.directory = outcome.directory ∧
      ∃ printed,
        outcome.stdout =
          program.subscriber.lines [] (.argumentsParsed invocation :: workEvents content) ++
            printed ∧
        second.stdout =
          other.subscriber.lines []
            (.argumentsParsed (invocation.withDiagnostics verify dumpGraph dumpDistances) ::
              workEvents content) ++ printed) ∧
    (program.subscriber.ErrorsOnly → other.subscriber.ErrorsOnly →
      second.stdout = outcome.stdout ∧
      (dumpGraph = invocation.dumpGraph → dumpDistances = invocation.dumpDistances →
        second = outcome)) ∧
    (∀ table solution, Table.ofContent content = .ok table →
      table.matrix.solve table.groups = .ok solution →
        solution.functions.violations table.matrix solution.classes = []) ∧
    (HasViolationLine outcome.stderr → '\n' :: violationMark <:+: invocation.input.toList) := by
  intro outcome second content
  obtain ⟨said, delivery, hsaid, hreport, hrun⟩ := invocation.exists_run_eq files
  have houtcome := hrun program hrequest
  have hsecond := hrun other hother
  refine ⟨?_, ?_, ?_, ?_⟩
  · simp only [outcome, second, houtcome, hsecond, true_and]
    exact ⟨delivery.printed, rfl, rfl⟩
  · intro herrors hotherErrors
    simp only [outcome, second, houtcome, hsecond, herrors.lines_eq, hotherErrors.lines_eq]
    refine ⟨trivial, ?_⟩
    rintro rfl rfl
    rfl
  · intro table solution _ hsolve
    have hvalid := Matrix.valid_of_solve hsolve
    exact PrecedenceFunctions.violations_eq_nil hvalid.classes hvalid.satisfiedBy
  · intro hline
    simp only [outcome, houtcome] at hline
    rcases hreport with hempty | ⟨failure, hfailure⟩
    · rw [hempty, String.append_empty] at hline
      exact absurd hline (hsaid _ _).not_hasViolationLine
    · rw [hfailure] at hline
      exact failure.infix_of_hasViolationLine (hsaid _ _) hline

theorem single_diagnostics_irrelevant :
    let plain := runArguments ["t.prec"] single
    let verbose :=
      runArguments ["--verify", "--dump-graph", "--dump-distances", "t.prec"] single
    plain.code = verbose.code ∧ plain.stdout = verbose.stdout ∧
      plain.directory = verbose.directory ∧ ¬ HasViolationLine verbose.stderr := by
  intro plain verbose
  let invocation : Invocation := ⟨.plain, none, none, true, true, true, "t.prec"⟩
  have hverbose : Program.quiet.parse
      ["--verify", "--dump-graph", "--dump-distances", "t.prec"] = .run invocation := by
    decide +kernel
  have hplain : Program.quiet.parse ["t.prec"] =
      .run (invocation.withDiagnostics false false false) := by
    decide +kernel
  obtain ⟨⟨hcode, hdirectory, -⟩, hquiet, -, hline⟩ :=
    Program.quiet.run_diagnostics_irrelevant Program.quiet hverbose hplain single
  have hstdout := (hquiet Program.quiet_errorsOnly Program.quiet_errorsOnly).1
  have hpath : ¬ '\n' :: violationMark <:+: "t.prec".toList := by decide +kernel
  exact ⟨hcode, hstdout, hdirectory, fun hviolation => hpath (hline hviolation)⟩

end OperatorPrecedence
