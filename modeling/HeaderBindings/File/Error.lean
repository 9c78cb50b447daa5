import HeaderBindings.File.Tree
import HeaderBindings.Text.Literal

/-!
Reading and writing files, and why a file cannot be opened, with the numbers that the system gives
to such errors.
-/

namespace HeaderBindings

inductive FileError where
  | missing
  | isDirectory
  | throughFile
  | longName
  /-- A stream that is not open, or not for this. -/
  | notOpen
  | denied
  | noRoom
  deriving DecidableEq, Repr

def FileError.number : FileError → Nat
  | .missing => 2
  | .notOpen => 9
  | .denied => 13
  | .throughFile => 20
  | .isDirectory => 21
  | .noRoom => 28
  | .longName => 36

def FileError.text : FileError → String
  | .missing => "No such file or directory"
  | .notOpen => "Bad file descriptor"
  | .denied => "Permission denied"
  | .throughFile => "Not a directory"
  | .isDirectory => "Is a directory"
  | .noRoom => "No space left on device"
  | .longName => "File name too long"

/-- The message for a file without a name. -/
def FileError.brief (error : FileError) : String :=
  "[Errno " ++ toString error.number ++ "] " ++ error.text

/-- The message for a file whose name is given as a literal. -/
def FileError.describe (error : FileError) (name : List Char) : String :=
  error.brief ++ ": " ++ String.ofList name

def FileError.message (error : FileError) (path : String) : String :=
  error.describe (literalString path.toList)

/-- What a lookup stands for where a file is asked for. -/
def FileLookup.file? : FileLookup → Except FileError (FilePlace × String)
  | .file place text => .ok (place, text)
  | .directory _ => .error .isDirectory
  | .throughFile => .error .throughFile
  | .missing => .error .missing
  | .longName => .error .longName

def FileTree.read (tree : FileTree) (path : String) : Except FileError String :=
  (tree.find path).file?.map (·.2)

/-- The directories whose files are all made by the system, and what is said of any other file
there. -/
def sealedPlaces : List (FilePlace × FileError) :=
  [("/dev/fd", .missing), ("/proc", .missing), ("/proc/self", .missing), ("/proc/self/fd", .missing),
    ("/sys", .denied)].map fun (path, error) => (pathParts path.toList, error)

/-- Writes a file, which is made if its directory is there. A name that ends with a slash can only
be that of a directory. -/
def FileTree.write (tree : FileTree) (path text : String) : Except FileError FileTree :=
  let chars := path.toList
  let named := (chars.reverse.dropWhile (· = '/')).reverse
  let parent := (named.reverse.dropWhile (· ≠ '/')).reverse
  match (tree.find path).file?, tree.follow parent with
  | .error .isDirectory, _ => .error .isDirectory
  | found, .directory place =>
    if path = "" then .error .missing
    else if named.length ≠ chars.length then .error .isDirectory
    else match found with
      | .ok (place, _) => .ok (tree.set place text)
      | .error .missing =>
        match sealedPlaces.lookup place with
        | none => .ok (tree.set (place ++ [named.drop parent.length]) text)
        | some error => .error error
      | .error error => .error error
  | _, .missing => .error .missing
  | _, .longName => .error .longName
  | _, .throughFile | _, .file _ _ => .error .throughFile

end HeaderBindings
