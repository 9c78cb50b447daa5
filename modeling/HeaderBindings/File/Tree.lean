import HeaderBindings.File.Path

/-!
The files that a run can read and write. A path is followed part by part, from the working directory
or from the root, so every part but the last must be a directory; the place that is reached
identifies the file, whatever spelling of its path was used. Outside the working directory only some
directories are known, and the devices that nearly every system has; what they give to a reader is
left out.
-/

namespace HeaderBindings

/-- A place below the working directory, or below the root where the first part is empty. -/
abbrev FilePlace := List PathPart

def rootPlace : FilePlace := [[]]

/-- What a file that is no file on a disk does with a text. -/
inductive Device where
  /-- Shows it to nobody who reads the streams of the run, and keeps nothing. -/
  | sink
  /-- Has no room for it. -/
  | full
  /-- One of the open streams of the run. -/
  | input
  | output
  | complaints
  deriving DecidableEq, Repr

/-- The device with the number of an open stream. -/
def Device.ofNumber? : Nat → Option Device
  | 0 => some .input
  | 1 => some .output
  | 2 => some .complaints
  | _ => none

def Device.number? : Device → Option Nat
  | .input => some 0
  | .output => some 1
  | .complaints => some 2
  | .sink | .full => none

/-- The devices by their places. -/
def devices : List (FilePlace × Device) :=
  [("/dev/null", .sink), ("/dev/zero", .sink), ("/dev/random", .sink), ("/dev/urandom", .sink),
    ("/dev/tty", .sink), ("/dev/full", .full), ("/dev/stdin", .input), ("/dev/stdout", .output),
    ("/dev/stderr", .complaints), ("/dev/fd/0", .input), ("/dev/fd/1", .output),
    ("/dev/fd/2", .complaints), ("/proc/self/fd/0", .input), ("/proc/self/fd/1", .output),
    ("/proc/self/fd/2", .complaints)].map fun (path, device) => (pathParts path.toList, device)

/-- The device in a place; there is none in the working directory. -/
def deviceAt? : FilePlace → Option Device
  | [] :: rest => devices.lookup ([] :: rest)
  | _ => none

/-- Directories that every system has. -/
def systemPlaces : List FilePlace :=
  ["/bin", "/boot", "/dev", "/etc", "/home", "/lib", "/media", "/mnt", "/opt", "/proc", "/root",
    "/run", "/sbin", "/srv", "/sys", "/tmp", "/usr", "/var", "/usr/bin", "/usr/include",
    "/usr/lib", "/usr/local", "/usr/local/include", "/usr/share", "/var/tmp", "/dev/fd",
    "/proc/self", "/proc/self/fd"].map
    fun path => pathParts path.toList

structure FileTree where
  texts : List (FilePlace × String)
  directories : List FilePlace

inductive FileLookup where
  | file (place : FilePlace) (text : String)
  | directory (place : FilePlace)
  | missing
  | throughFile
  | longName

def FileTree.at (tree : FileTree) (place : FilePlace) : FileLookup :=
  if place = [] ∨ place = rootPlace ∨ place ∈ tree.directories ∨ place ∈ systemPlaces then
    .directory place
  else if (deviceAt? place).isSome then .file place ""
  else match tree.texts.lookup place with
    | some text => .file place text
    | none => .missing

/-- The most bytes that a name of a file can have. -/
def longestName : Nat := 255

/-- One step along a path; an empty part and a dot ask that the place be a directory. -/
def FileTree.step (tree : FileTree) (reached : FileLookup) (part : PathPart) : FileLookup :=
  match reached with
  | .directory place =>
    if part = [] ∨ part = ['.'] then .directory place
    else if part = ['.', '.'] then
      .directory (if place = rootPlace then rootPlace else place.dropLast)
    else if longestName < (String.ofList part).utf8ByteSize then .longName
    else tree.at (place ++ [part])
  | .file _ _ => .throughFile
  | other => other

/-- Where a path starts. -/
def startPlace (path : List Char) : FilePlace :=
  if path.head? = some '/' then rootPlace else []

/-- Follows the parts of a path. -/
def FileTree.follow (tree : FileTree) (path : List Char) : FileLookup :=
  (pathParts path).foldl tree.step (.directory (startPlace path))

def FileTree.find (tree : FileTree) (path : String) : FileLookup :=
  if path = "" then .missing else tree.follow path.toList

/-- The place that a path leads to when every directory on its way is made. -/
def placeOf (path : String) : FilePlace :=
  ((pathParts path.toList).foldl (pushPart true) []).reverse

/-- The directories that must exist for a path to be followed, its last part left out. -/
def directoriesOn (path : String) : List FilePlace :=
  let parts := (pathParts path.toList).dropLast
  (List.range parts.length).map fun count =>
    ((parts.take (count + 1)).foldl (pushPart true) []).reverse

def FileTree.ofFiles (files : List (String × String)) : FileTree where
  texts := files.reverse.map fun file => (placeOf file.1, file.2)
  directories := (files.flatMap fun file => directoriesOn file.1).eraseDups

/-- The device that a path leads to, if it is one. -/
def FileTree.device? (tree : FileTree) (path : String) : Option Device :=
  match tree.find path with
  | .file place _ => deviceAt? place
  | _ => none

/-- Puts a text in a place; a device keeps none. -/
def FileTree.set (tree : FileTree) (place : FilePlace) (text : String) : FileTree :=
  if (deviceAt? place).isSome then tree
  else { tree with texts := (place, text) :: tree.texts.filter (·.1 ≠ place) }

/-- Makes a directory in a place. -/
def FileTree.makeDirectory (tree : FileTree) (place : FilePlace) : FileTree :=
  { tree with directories := tree.directories ++ [place] }

/-- Takes away what is in a place and below it. -/
def FileTree.remove (tree : FileTree) (place : FilePlace) : FileTree where
  texts := tree.texts.filter fun entry => !place.isPrefixOf entry.1
  directories := tree.directories.filter fun other => !place.isPrefixOf other

/-- The names of what is directly in a place, in the order of their characters. -/
def FileTree.names (tree : FileTree) (place : FilePlace) : List String :=
  let places := tree.directories ++ tree.texts.map Prod.fst
  let names := places.filterMap fun other =>
    match other.getLast? with
    | some name => if other = place ++ [name] then some (String.ofList name) else none
    | none => none
  names.eraseDups.mergeSort fun a b => a ≤ b

end HeaderBindings
