/-!
Why a file cannot be read or written.
-/

namespace OperatorPrecedence

inductive FileError where
  | notFound
  | isDirectory
  /-- The path goes on after the name of a file. -/
  | notDirectory
  /-- A name in the path, or the whole path, has too many bytes. -/
  | nameTooLong
  | invalidText
  /-- A cause that the system words itself. -/
  | other (message : String)
deriving Repr, DecidableEq

def FileError.message : FileError → String
  | .notFound => "No such file or directory (os error 2)"
  | .isDirectory => "Is a directory (os error 21)"
  | .notDirectory => "Not a directory (os error 20)"
  | .nameTooLong => "File name too long (os error 36)"
  | .invalidText => "stream did not contain valid UTF-8"
  | .other message => message

end OperatorPrecedence
