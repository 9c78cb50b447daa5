import HeaderBindings.Binding.Model
import HeaderBindings.SettingsFile

/-!
The files that a run may look at, as far as they can be told from the command line and from the
files that were found already. Whoever reads them from a disk asks again until nothing is added.
-/

namespace HeaderBindings

/-- The names in the `#include` lines of a text, whatever the conditions around them. -/
def includeNames : List Token → List String
  | sign :: word :: rest =>
    let later := includeNames (word :: rest)
    if sign.isSign "#" && sign.startsLine
        && ["include", "include_next", "import"].contains word.text then
      match includedName? (rest.takeWhile (!·.startsLine)) with
      | some (_, name) => name :: later
      | none => later
    else later
  | _ => []

def includeNamesOf (text : String) : List String :=
  includeNames ((lexFile .default text.toList).map (·.token 0))

/-- The path to a place from the working directory. -/
def pathOf (place : FilePlace) : String := String.ofList (joinWith ['/'] place)

/-- Paths under which the includes of a file may be found. -/
def includePaths (directories : List String) (file : FilePlace × String) : List String :=
  (includeNamesOf file.2).flatMap fun name =>
    (pathOf file.1.dropLast :: directories).map fun directory =>
      if directory = "" then name else joinPath directory name

/-- The files that a run with some settings may read, and the directories it may write to. -/
def Settings.wantedFiles (settings : Settings) (directories : List String) (tree : FileTree) :
    List String :=
  let options := settings.compilerOptions directories
  let search := searchDirectories options
  let outputs := match settings.output.argument? with
    | some path => path :: (directoriesOn path).map pathOf
    | _ => []
  let headers := forcedHeaders options
  headers ++ (search.flatMap fun directory => headers.map (joinPath directory))
    ++ tree.texts.flatMap (includePaths search) ++ outputs

/-- The files that a command line may lead to. -/
def wantedFiles (argv directories : List String) (tree : FileTree) : List String :=
  match Arguments.read argv with
  | .error _ => []
  | .ok arguments =>
    let config := match arguments.config with
      | some (.text file) => [file]
      | _ => []
    match loadSettings tree arguments with
    | .ok settings => config ++ settings.wantedFiles directories tree
    | .error _ => config

end HeaderBindings
