import OperatorPrecedence.FileSystem

/-!
A directory and the files in it, by their paths.
-/

namespace OperatorPrecedence

/-- What files hold: bytes, which texts can be written as. -/
class FileContent (α : Type) where
  ofText : String → α
  bytes : α → ByteArray
  bytes_ofText : ∀ text, bytes (ofText text) = text.toUTF8

instance : FileContent String where
  ofText text := text
  bytes := String.toUTF8
  bytes_ofText _ := rfl

instance : FileContent ByteArray where
  ofText := String.toUTF8
  bytes content := content
  bytes_ofText _ := rfl

/-- The files of a directory and what they hold.  The path of a file holds the
names of its subdirectories before its own. -/
structure Directory (α : Type) where
  files : List (List String × α)
deriving Repr, DecidableEq

namespace Directory

variable {α : Type}

/-- No name in a path has more bytes than this. -/
def nameLimit : Nat := 255

/-- Every path has fewer bytes than this. -/
def pathLimit : Nat := 4096

inductive Place where
  | file (path : List String)
  | directory
  /-- Nothing yet, in a directory that exists. -/
  | vacant (path : List String)
deriving Repr, DecidableEq

def content? (directory : Directory α) (path : List String) : Option α :=
  directory.files.lookup path

/-- Whether a path names a subdirectory, which exists if a file lies in it. -/
def isSubdirectory (directory : Directory α) (path : List String) : Bool :=
  directory.files.any fun file =>
    path.isPrefixOf file.1 && decide (path.length < file.1.length)

/-- Follow a path outside of the directory, where no file is known. -/
def locateOutside : List String → Except FileError Place
  | [] => .ok .directory
  | name :: names =>
      if name = "" ∨ name = "." ∨ name = ".." then locateOutside names
      else if nameLimit < name.utf8ByteSize then .error .nameTooLong
      else .error .notFound

/-- Follow the names of a path from the subdirectory `base`. -/
def locateFrom (directory : Directory α) (base : List String) :
    List String → Except FileError Place
  | [] => .ok .directory
  | name :: names =>
      if name = "" ∨ name = "." then directory.locateFrom base names
      else if name = ".." then
        if base = [] then locateOutside names
        else directory.locateFrom base.dropLast names
      else if nameLimit < name.utf8ByteSize then .error .nameTooLong
      else
        let path := base ++ [name]
        if (directory.content? path).isSome then
          if names = [] then .ok (.file path) else .error .notDirectory
        else if directory.isSubdirectory path then directory.locateFrom path names
        else if names = [] then .ok (.vacant path)
        else .error .notFound

def locate (directory : Directory α) (path : String) : Except FileError Place :=
  if pathLimit ≤ path.utf8ByteSize then .error .nameTooLong
  else
  match (path.toList.splitOn '/').map String.ofList with
  | [""] => .error .notFound
  | "" :: names => locateOutside names
  | names => directory.locateFrom [] names

def read [FileContent α] (directory : Directory α) (path : String) :
    Except FileError ByteArray :=
  match directory.locate path with
  | .error error => .error error
  | .ok .directory => .error .isDirectory
  | .ok (.vacant _) => .error .notFound
  | .ok (.file place) =>
      (directory.content? place).elim (.error .notFound) fun content =>
        .ok (FileContent.bytes content)

/-- Give a file what it is to hold; a new file comes last. -/
def put (directory : Directory α) (path : List String) (content : α) : Directory α :=
  if (directory.content? path).isSome then
    ⟨directory.files.map fun file => if file.1 = path then (path, content) else file⟩
  else ⟨directory.files ++ [(path, content)]⟩

/-- A path that ends in a slash, with a dot in place of its last name and of the
slashes after it. -/
def withoutLastName (path : String) : String :=
  let bare := path.toList.reverse.dropWhile (· = '/')
  String.ofList (bare.dropWhile (· ≠ '/')).reverse ++ "."

/-- Find the place of a file that is to be written.  A path that ends in a slash
asks for a directory, whatever its last name is. -/
def locateTarget (directory : Directory α) (path : String) : Except FileError Place :=
  if path.toList.getLast? = some '/' ∧ path.utf8ByteSize < pathLimit then
    directory.locate (withoutLastName path)
  else directory.locate path

def write [FileContent α] (directory : Directory α) (path text : String) :
    Except FileError (Directory α) :=
  match directory.locateTarget path with
  | .error error => .error error
  | .ok .directory => .error .isDirectory
  | .ok (.vacant place) | .ok (.file place) => .ok (directory.put place (FileContent.ofText text))

end Directory

/-- Directories as a file system.  Their files are known by the names on the way. -/
instance {α : Type} [FileContent α] : FileSystem (Directory α) where
  File := List String
  content? directory file := (directory.content? file).map FileContent.bytes
  file? directory path :=
    match directory.locate path with
    | .ok (.file file) => some file
    | .error _ | .ok .directory | .ok (.vacant _) => none
  read := Directory.read
  write directory path text :=
    match directory.write path text with
    | .error error => (.error error, directory)
    | .ok changed => (.ok (), changed)

end OperatorPrecedence
