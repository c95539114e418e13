import OperatorPrecedence.FileError

/-!
File systems as a program sees them: files of bytes, the paths that lead to them, and
what may be relied on when a text is written.
-/

namespace OperatorPrecedence

/-- A file system with states `σ`. -/
class FileSystem (σ : Type) where
  /-- What tells one file from another, whatever paths lead to it. -/
  File : Type
  /-- What a file holds, if there is such a file. -/
  content? : σ → File → Option ByteArray
  /-- The file to which a path leads. -/
  file? : σ → String → Option File
  read : σ → String → Except FileError ByteArray
  /-- Write a text to the file at a path.  A failure comes with a state as well. -/
  write : σ → String → String → Except FileError Unit × σ

namespace FileSystem

variable {σ : Type} [FileSystem σ]

/-- The file at a path holds a text whole, and every other file is as it was.  If the
path led to a file before, it is that one. -/
structure Written (files changed : σ) (path text : String) (file : File σ) : Prop where
  leads : file? changed path = some file
  led : ∀ old, file? files path = some old → old = file
  holds : content? changed file = some text.toUTF8
  others : ∀ other, other ≠ file → content? changed other = content? files other

end FileSystem

/-- A file system that writes a text whole or leaves everything as it is. -/
class LawfulFileSystem (σ : Type) [FileSystem σ] : Prop where
  of_write_error : ∀ {files changed : σ} {path text : String} {error : FileError},
    FileSystem.write files path text = (.error error, changed) → changed = files
  of_write_ok : ∀ {files changed : σ} {path text : String},
    FileSystem.write files path text = (.ok (), changed) →
      ∃ file, FileSystem.Written files changed path text file

end OperatorPrecedence
