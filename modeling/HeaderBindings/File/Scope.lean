import HeaderBindings.File.Path

/-!
The files whose declarations are bound: those that a configured header names, and those in the
directory of such a file when the header was given with a directory.
-/

namespace HeaderBindings

/-- The first header that names a file. -/
def headerOf (headers : List (List Char)) (file : List Char) : Option (List Char) :=
  (headers.find? fun header => namesFile header file).filter (· ≠ [])

/-- Whether a header brings in the other files of its directory. -/
def bringsDirectory (header : List Char) : Bool :=
  directoryOf header ≠ [] && directoryOf header ≠ ['.']

/-- The directories, each with a slash at its end, that are bound as a whole. -/
def boundDirectories (headers included : List (List Char)) : List (List Char) :=
  included.filterMap fun file =>
    match headerOf headers file with
    | some header => if bringsDirectory header then some (directoryOf file ++ ['/']) else none
    | none => none

/-- Whether a file, given in normal form, is in the scope of the binding. -/
def inScope (headers included : List (List Char)) (file : List Char) : Bool :=
  included.contains file &&
    ((headerOf headers file).isSome
      || (boundDirectories headers included).any fun directory => directory.isPrefixOf file)

/-- The bound files among the included ones, in normal form. -/
def boundFiles (headers included : List String) : List String :=
  let headers := headers.map String.toList
  let included := included.map fun file => normalizePath file.toList
  (included.filter (inScope headers included)).eraseDups.map String.ofList

end HeaderBindings
