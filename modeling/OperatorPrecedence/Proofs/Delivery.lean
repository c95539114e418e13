import Mathlib
import OperatorPrecedence.CommandLine
import OperatorPrecedence.Proofs.LookUps
import OperatorPrecedence.Proofs.WrittenFiles

/-!
What a run on a table file delivers.  The text of the functions follows from the
file, the format and the name; the run prints it whole, or leaves it as all that
the output file holds, or it fails and then prints nothing and changes no file.  This
holds in every file system that writes a text whole or not at all, however arguments
are read, and the log comes in front of what is printed.
-/

namespace OperatorPrecedence

theorem mapError_eq_ok_iff {ε δ β : Type} (f : ε → δ) (x : Except ε β) (a : β) :
    x.mapError f = .ok a ↔ x = .ok a := by
  cases x <;> simp [Except.mapError]

namespace Invocation

variable {matrix : Matrix} {groups : Groups} {solution : Solution matrix.size}

/-- The text of the functions of a solved table, with its values in an order. -/
def textOf {n : Nat} (invocation : Invocation) (solution : Solution n)
    (order? : Option (List String)) : Except TableError String :=
  match solution.listing order? with
  | .error error => .error error
  | .ok listing => listing.render invocation.format invocation.name?

/-- The file is loaded, its table solved, the values of the symbols laid out in the
order of the file, and written as the text in the format and with the name asked
for. -/
def Yields (invocation : Invocation) (content : Except FileError String) (text : String) :
    Prop :=
  ∃ table solution listing, Table.ofContent content = .ok table ∧
    table.matrix.solve table.groups = .ok solution ∧
      solution.listing table.order? = .ok listing ∧
        listing.render invocation.format invocation.name? = .ok text

theorem textOf_eq_ok_iff (invocation : Invocation) (order? : Option (List String))
    (text : String) :
    invocation.textOf solution order? = .ok text ↔
      ∃ listing, solution.listing order? = .ok listing ∧
        listing.render invocation.format invocation.name? = .ok text := by
  unfold textOf
  cases solution.listing order? <;> simp

/-- What is shown of a solved table, in the labels of its matrix. -/
def shown {matrix : Matrix} (solution : Solution matrix.size) (dumpGraph dumpDistances : Bool) :
    String :=
  let name := fun vertex => (matrix.vertexName vertex).text
  (if dumpGraph then solution.graph.text name ++ "\n" else "") ++
    if dumpDistances then solution.distances.text name ++ "\n" else ""

/-- The graph and the distances of a solved table can be shown: its classes name
all the vertices. -/
theorem dumps_eq_ok (invocation : Invocation)
    (hclasses : Classes.ofMatrix matrix groups = .ok solution.classes) :
    invocation.dumps solution =
      .ok (shown solution invocation.dumpGraph invocation.dumpDistances) := by
  have hnaming := Classes.naming_of_ofMatrix hclasses
  rw [dumps, Solution.graphText, Solution.distancesText, hnaming]
  cases invocation.dumpGraph <;> cases invocation.dumpDistances <;> rfl

variable {content : Except FileError String} {table : Table}

/-- On a solved table nothing can fail before the text of the functions is made,
and the options that show something say nothing of the result. -/
theorem process_of_solve (invocation : Invocation) {solution : Solution table.matrix.size}
    (hload : Table.ofContent content = .ok table)
    (hsolve : table.matrix.solve table.groups = .ok solution) :
    invocation.process content =
      ⟨shown solution invocation.dumpGraph invocation.dumpDistances,
        (invocation.textOf solution table.order?).mapError fun error => ⟨[error.message]⟩⟩ := by
  have hvalid := Matrix.valid_of_solve hsolve
  have hdumps := invocation.dumps_eq_ok hvalid.classes
  have hviolations :=
    PrecedenceFunctions.violations_eq_nil hvalid.classes hvalid.satisfiedBy
  simp only [process, hload, hsolve, hdumps, hviolations, ite_self, textOf]
  cases hlisting : solution.listing table.order? with
  | error error => simp [Except.mapError]
  | ok listing =>
      cases hrender : listing.render invocation.format invocation.name? <;>
        simp [Except.mapError, hrender]

theorem process_result_eq_ok_iff (invocation : Invocation)
    (content : Except FileError String) (text : String) :
    (invocation.process content).result = .ok text ↔ invocation.Yields content text := by
  constructor
  · intro hresult
    cases hload : Table.ofContent content with
    | error error => simp [process, hload] at hresult
    | ok table =>
        cases hsolve : table.matrix.solve table.groups with
        | error error => simp [process, hload, hsolve] at hresult
        | ok solution =>
            rw [invocation.process_of_solve hload hsolve, mapError_eq_ok_iff,
              textOf_eq_ok_iff] at hresult
            obtain ⟨listing, hlisting, hrender⟩ := hresult
            exact ⟨table, solution, listing, hload, hsolve, hlisting, hrender⟩
  · rintro ⟨table, solution, listing, hload, hsolve, hlisting, hrender⟩
    rw [invocation.process_of_solve hload hsolve, mapError_eq_ok_iff, textOf_eq_ok_iff]
    exact ⟨listing, hlisting, hrender⟩

theorem Yields.unique {invocation : Invocation} {text other : String}
    (htext : invocation.Yields content text) (hother : invocation.Yields content other) :
    text = other := by
  rw [← process_result_eq_ok_iff] at htext hother
  exact Except.ok.inj (htext.symm.trans hother)

end Invocation

/-- No event of a run is an error. -/
theorem RunEvent.level_ne_error (event : RunEvent) : event.level ≠ .error := by
  cases event with
  | argumentsParsed | tableLoaded | tableSolved => exact nofun
  | within event => cases event <;> exact nofun

theorem Subscriber.ErrorsOnly.lines_eq {subscriber : Subscriber}
    (herrors : subscriber.ErrorsOnly) (earlier events : List RunEvent) :
    subscriber.lines earlier events = "" := by
  induction events generalizing earlier with
  | nil => rfl
  | cons event later ih =>
      have hsilent : ¬ subscriber.enabled event = true :=
        fun henabled => event.level_ne_error (herrors event henabled)
      rw [Subscriber.lines, ih, Subscriber.line, if_neg hsilent, String.append_empty]

section Runs

variable {σ : Type} [FileSystem σ]

theorem Host.run_forM_log (subscriber : Subscriber) (events : List RunEvent) (world : World σ) :
    (forM events (Host.ofWorld σ subscriber).log).run world =
      pure ((), { world with
        events := world.events ++ events
        stdout := world.stdout ++ subscriber.lines world.events events }) := by
  induction events generalizing world with
  | nil => simp [Subscriber.lines]
  | cons event later ih =>
      rw [List.forM_cons, StateT.run_bind, Host.run_log, pure_bind, ih]
      simp [Subscriber.lines, String.append_assoc]

/-- What a run adds when it delivers its result. -/
structure Delivery (σ : Type) where
  code : Nat
  printed : String
  report : String
  directory : σ

namespace Invocation

/-- The text is printed or written, or there is none, or it cannot be written. -/
def delivery (invocation : Invocation) (files : σ) : Except Failure String → Delivery σ
  | .error failure => ⟨1, "", failure.text invocation.input, files⟩
  | .ok text =>
      match invocation.output? with
      | none => ⟨0, text, "", files⟩
      | some path =>
          match FileSystem.write files path text with
          | (.ok (), changed) => ⟨0, "", "", changed⟩
          | (.error error, changed) =>
              ⟨1, "", (Failure.ofWrite path error).text invocation.input, changed⟩

/-- What has been logged and said before stays in front of what is delivered. -/
theorem run_deliver (invocation : Invocation) (subscriber : Subscriber)
    (result : Except Failure String) (world : World σ) :
    (invocation.deliver (.ofWorld σ subscriber) result).run world =
      let delivery := invocation.delivery world.files result
      pure (delivery.code, { world with
        files := delivery.directory
        stdout := world.stdout ++ delivery.printed
        stderr := world.stderr ++ delivery.report }) := by
  unfold deliver delivery
  cases result with
  | error failure => simp [Failure.report]
  | ok text =>
      cases invocation.output? with
      | none => simp
      | some path =>
          cases hwrite : FileSystem.write world.files path text with
          | mk answer changed => cases answer <;> simp [Failure.report, hwrite]

end Invocation

/-- A run logs its events, says what it has to say, and delivers its result. -/
theorem Program.run_eq (program : Program) {arguments : List String}
    {invocation : Invocation} (hrequest : program.parse arguments = .run invocation) (files : σ) :
    let content := FileSystem.readText files invocation.input
    let report := invocation.process content
    let delivery := invocation.delivery files report.result
    program.run arguments files =
      { code := delivery.code
        stdout := program.subscriber.lines [] (invocation.events content) ++ delivery.printed
        stderr := report.diagnostics ++ delivery.report
        directory := delivery.directory } := by
  rw [run, hrequest]
  -- Each action of the host is carried out by its law, in the order of the program.
  simp only [Request.execute, Invocation.execute, StateT.run_bind, Host.run_log, Host.run_read,
    pure_bind, Host.run_forM_log, Host.run_eprint, Invocation.run_deliver, World.start,
    List.nil_append, String.empty_append]
  rfl

/-- A text is delivered: printed behind what was logged, without a change of any file,
or written as all that the output file holds, without a change of any other. -/
structure Outcome.Delivers (outcome : Outcome σ) (invocation : Invocation) (files : σ)
    (logged text : String) : Prop where
  printed : invocation.output? = none →
    outcome.stdout = logged ++ text ∧ outcome.directory = files
  written : ∀ path, invocation.output? = some path → outcome.stdout = logged ∧
    ∃ file, FileSystem.Written files outcome.directory path text file

namespace Invocation

/-- A run ends well exactly where there is a text and it can be written. -/
theorem delivery_code_eq_zero_iff (invocation : Invocation) (files : σ)
    (result : Except Failure String) :
    (invocation.delivery files result).code = 0 ↔
      ∃ text, result = .ok text ∧ ∀ path, invocation.output? = some path →
        (FileSystem.write files path text).1 = .ok () := by
  unfold delivery
  cases result with
  | error failure => simp
  | ok text =>
      cases invocation.output? with
      | none => simp
      | some path =>
          cases hwrite : FileSystem.write files path text with
          | mk answer changed => cases answer <;> simp [hwrite]

variable [LawfulFileSystem σ]

/-- A run that ends well prints the text, or has the file system write it. -/
theorem delivery_of_code_eq_zero {invocation : Invocation} {files : σ} {text : String}
    (hcode : (invocation.delivery files (.ok text)).code = 0) :
    let delivery := invocation.delivery files (.ok text)
    (invocation.output? = none → delivery.printed = text ∧ delivery.directory = files) ∧
    ∀ path, invocation.output? = some path → delivery.printed = "" ∧
      ∃ file, FileSystem.Written files delivery.directory path text file := by
  unfold delivery at hcode ⊢
  cases houtput : invocation.output? with
  | none => simp
  | some path =>
      cases hwrite : FileSystem.write files path text with
      | mk answer changed =>
          cases answer with
          | error error => simp [houtput, hwrite] at hcode
          | ok _ => simpa [hwrite] using LawfulFileSystem.of_write_ok hwrite

/-- A run that does not end well prints nothing and changes no file. -/
theorem delivery_of_code_ne_zero {invocation : Invocation} {files : σ}
    {result : Except Failure String} (hcode : (invocation.delivery files result).code ≠ 0) :
    let delivery := invocation.delivery files result
    delivery.code = 1 ∧ delivery.printed = "" ∧ delivery.directory = files := by
  unfold delivery at hcode ⊢
  cases result with
  | error failure => simp
  | ok text =>
      cases houtput : invocation.output? with
      | none => simp [houtput] at hcode
      | some path =>
          cases hwrite : FileSystem.write files path text with
          | mk answer changed =>
              cases answer with
              | ok _ => simp [houtput, hwrite] at hcode
              | error error => simpa [hwrite] using LawfulFileSystem.of_write_error hwrite

end Invocation

/-- A run is all or nothing: it ends well exactly where the file yields a text and,
with an output file, the text can be written; it has then delivered the text.
Otherwise it ends with one, prints nothing and changes no file.  What the log writes
stands in front of what is printed, and it writes nothing where it lets only errors
through. -/
theorem Program.run_all_or_nothing [LawfulFileSystem σ] (program : Program)
    {arguments : List String} {invocation : Invocation}
    (hrequest : program.parse arguments = .run invocation) (files : σ) :
    let outcome := program.run arguments files
    let content := FileSystem.readText files invocation.input
    let logged := program.subscriber.lines [] (invocation.events content)
    (outcome.code = 0 ↔ ∃ text, invocation.Yields content text ∧
      ∀ path, invocation.output? = some path →
        (FileSystem.write files path text).1 = .ok ()) ∧
    (outcome.code = 0 → ∀ text, invocation.Yields content text →
      outcome.Delivers invocation files logged text) ∧
    (outcome.code ≠ 0 →
      outcome.code = 1 ∧ outcome.stdout = logged ∧ outcome.directory = files) ∧
    (program.subscriber.ErrorsOnly → logged = "") := by
  intro outcome content logged
  have hrun := program.run_eq hrequest files
  refine ⟨?_, ?_, ?_, fun herrors => herrors.lines_eq _ _⟩
  · simp only [outcome, hrun, Invocation.delivery_code_eq_zero_iff,
      Invocation.process_result_eq_ok_iff]
    rfl
  · intro hcode text hyields
    have hresult := (invocation.process_result_eq_ok_iff content text).mpr hyields
    simp only [outcome, hrun] at hcode ⊢
    rw [hresult] at hcode ⊢
    obtain ⟨hprinted, hwritten⟩ := Invocation.delivery_of_code_eq_zero hcode
    constructor
    · intro hnone
      obtain ⟨htext, hdirectory⟩ := hprinted hnone
      exact ⟨congrArg (logged ++ ·) htext, hdirectory⟩
    · intro path hpath
      obtain ⟨hempty, hfile⟩ := hwritten path hpath
      refine ⟨?_, hfile⟩
      dsimp only
      rw [hempty, String.append_empty]
  · intro hcode
    simp only [outcome, hrun] at hcode ⊢
    obtain ⟨hone, hprinted, hdirectory⟩ := Invocation.delivery_of_code_ne_zero hcode
    exact ⟨hone, by rw [hprinted, String.append_empty], hdirectory⟩

end Runs

/-- The program with a quiet log lets only errors through. -/
theorem Program.quiet_errorsOnly : Program.quiet.subscriber.ErrorsOnly := by
  intro event henabled
  simpa [Program.quiet] using henabled

/-- A directory of one file that is no text. -/
def garbled : Directory ByteArray := ⟨[(["t.prec"], ⟨#[255]⟩)]⟩

example : runArguments ["-o", "t.prec", "t.prec"] garbled =
    ⟨1, "", "Error: errored during processing t.prec\n\nCaused by:\n" ++
      "    0: failed to load the precedence table\n" ++
      "    1: IO error: stream did not contain valid UTF-8\n", garbled⟩ := by
  decide +kernel

/-- A table file of one label that is below itself. -/
def singleText : String := "@end z;\n@columns z;\n@row z: <;\n"

def single : Directory String := ⟨[(["t.prec"], singleText)]⟩

def singleTable : Table where
  matrix := ⟨["z"], #v[.less], ⟨0, by decide⟩, by decide, by decide⟩
  groups := .empty
  order? := none

theorem exists_listing_singleTable :
    ∃ solution, singleTable.matrix.solve singleTable.groups = .ok solution ∧
      solution.listing none = .ok ⟨["z"], [0], [1]⟩ := by
  have hlisting : (singleTable.matrix.solve singleTable.groups).toOption.map
      (fun solution => solution.listing none) = some (.ok ⟨["z"], [0], [1]⟩) := by
    cbv
  cases hsolve : singleTable.matrix.solve singleTable.groups with
  | error error => simp [hsolve, Except.toOption] at hlisting
  | ok solution =>
      rw [hsolve] at hlisting
      exact ⟨solution, rfl, Option.some.inj hlisting⟩

/-- The run that verifies the table and writes the functions over it. -/
def overwriting : Invocation :=
  ⟨.plain, none, some "./t.prec", false, false, true, "t.prec"⟩

theorem single_overwritten :
    let outcome := runArguments ["--verify", "-o", "./t.prec", "t.prec"] single
    outcome.code = 0 ∧ outcome.stdout = "" ∧
      FileSystem.content? outcome.directory ["t.prec"] = some "f = [0]\ng = [1]\n".toUTF8 := by
  intro outcome
  have hrequest : Program.quiet.parse ["--verify", "-o", "./t.prec", "t.prec"] =
      .run overwriting := by
    decide +kernel
  obtain ⟨hcode, hdelivers, -, hsilent⟩ :=
    Program.quiet.run_all_or_nothing hrequest single
  have hread : FileSystem.readText single "t.prec" = .ok singleText := by decide +kernel
  have hload : Table.ofText singleText = .ok singleTable := by decide +kernel
  have hlocate : single.locate "./t.prec" = .ok (.file ["t.prec"]) := by decide +kernel
  have hplace : FileSystem.file? single "./t.prec" = some ["t.prec"] := by
    simp only [FileSystem.file?, hlocate]
  obtain ⟨solution, hsolve, hlisting⟩ := exists_listing_singleTable
  have hyields : overwriting.Yields (FileSystem.readText single overwriting.input)
      "f = [0]\ng = [1]\n" := by
    refine ⟨singleTable, solution, ⟨["z"], [0], [1]⟩, ?_, hsolve, hlisting, by decide +kernel⟩
    exact (congrArg Table.ofContent hread).trans hload
  have hzero : outcome.code = 0 := by
    refine hcode.mpr ⟨_, hyields, ?_⟩
    rintro path ⟨⟩
    decide +kernel
  obtain ⟨hstdout, file, hwritten⟩ := (hdelivers hzero _ hyields).written "./t.prec" rfl
  rw [hsilent Program.quiet_errorsOnly] at hstdout
  obtain rfl := hwritten.led _ hplace
  exact ⟨hzero, hstdout, hwritten.holds⟩

end OperatorPrecedence
