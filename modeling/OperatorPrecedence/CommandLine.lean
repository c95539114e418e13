import OperatorPrecedence.Directory
import OperatorPrecedence.Host

/-!
The command line: read a table file, compute its functions, and print them or
write them to a file.  The functions are delivered whole or not at all.
-/

namespace OperatorPrecedence

def FileSystem.readText {σ : Type} [FileSystem σ] (files : σ) (path : String) :
    Except FileError String :=
  (FileSystem.read files path).bind Table.textOfBytes

section Execution

variable {m : Type → Type} [Monad m]

/-- Say why a run has failed. -/
def Failure.report (failure : Failure) (host : Host m) (invocation : Invocation) : m Nat := do
  host.eprint (failure.text invocation.input)
  return 1

/-- Print the functions or write them to a file, if there are any. -/
def Invocation.deliver (invocation : Invocation) (host : Host m)
    (result : Except Failure String) : m Nat := do
  match result with
  | .error failure => failure.report host invocation
  | .ok text =>
      match invocation.output? with
      | none =>
          host.print text
          return 0
      | some path =>
          match ← host.write path text with
          | .error error => (Failure.ofWrite path error).report host invocation
          | .ok () => return 0

/-- Run on a table file. -/
def Invocation.execute (invocation : Invocation) (host : Host m) : m Nat := do
  host.log (.argumentsParsed invocation)
  let content := (← host.read invocation.input).bind Table.textOfBytes
  forM (workEvents content) host.log
  let report := invocation.process content
  host.eprint report.diagnostics
  invocation.deliver host report.result

def versionText : String := "precfun 0.0.0-dev\n"

/-- A reminder of the arguments. -/
def usageText : String := "Usage: precfun [OPTIONS] <INPUT>\n"

/-- Do what is asked for, and tell how it ended. -/
def Request.execute (request : Request) (host : Host m) : m Nat := do
  match request with
  | .run invocation => invocation.execute host
  | .version =>
      host.print versionText
      return 0
  | .help =>
      host.print usageText
      return 0
  | .rejected =>
      host.eprint usageText
      return 2

end Execution

structure Outcome (σ : Type) where
  code : Nat
  stdout : String
  stderr : String
  directory : σ
deriving Repr, DecidableEq

def Outcome.ofEnd {σ : Type} (ended : Nat × World σ) : Outcome σ :=
  ⟨ended.1, ended.2.stdout, ended.2.stderr, ended.2.files⟩

/-- What the program takes from others: how arguments are read, and its log. -/
structure Program where
  parse : List String → Request
  subscriber : Subscriber

def Program.run {σ : Type} [FileSystem σ] (program : Program) (arguments : List String)
    (files : σ) : Outcome σ :=
  let request := program.parse arguments
  .ofEnd ((request.execute (.ofWorld σ program.subscriber)).run (.start files))

/-- The program where the log lets only errors through.  No event is one, so none is
put into words. -/
def Program.quiet : Program where
  parse := Request.ofArguments
  subscriber := ⟨fun event => event.level = .error, fun _ _ => ""⟩

/-- Do in a directory what the arguments ask for. -/
def runArguments {α : Type} [FileContent α] (arguments : List String)
    (directory : Directory α) : Outcome (Directory α) :=
  Program.quiet.run arguments directory

end OperatorPrecedence
