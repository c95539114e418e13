import OperatorPrecedence.CommandLine

/-!
The program: arguments in, files and streams out.
-/

namespace OperatorPrecedence

/-- The cause of a system error.  The system gives its number with either sign. -/
def FileError.ofSystem : IO.Error → FileError
  | .noFileOrDirectory .. | .noSuchThing .. => .notFound
  | .inappropriateType _ code _ =>
      if code = 20 ∨ code = 0 - 20 then .notDirectory else .isDirectory
  | .invalidArgument _ code details =>
      if code = 36 ∨ code = 0 - 36 then .nameTooLong
      else .other details
  | error => .other error.toString

/-- Do something with a file, or tell why it cannot be done. -/
def attemptFile {β : Type} (action : IO β) : IO (Except FileError β) := do
  try
    return .ok (← action)
  catch error => return .error (.ofSystem error)

def Host.system (subscriber : Subscriber) : Host IO where
  log event := IO.print (subscriber.line [] event)
  read path := attemptFile (IO.FS.readBinFile path)
  write path text := attemptFile (IO.FS.writeFile path text)
  print text := IO.print text
  eprint text := IO.eprint text

end OperatorPrecedence

open OperatorPrecedence in
/-- Do what the arguments ask for. -/
def main (arguments : List String) : IO UInt32 := do
  let request := Program.quiet.parse arguments
  return (← request.execute (Host.system Program.quiet.subscriber)).toUInt32
