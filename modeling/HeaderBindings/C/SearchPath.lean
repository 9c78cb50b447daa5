import HeaderBindings.C.Option
import HeaderBindings.File.Tree

/-!
The directories that included files are looked for in. A name in quotes is also looked for in those
at the front. A directory counts once: where it was named first, unless the system has it too.
-/

namespace HeaderBindings

structure SearchEntry where
  path : String
  place : FilePlace
  /-- Whether the directory is one of the system. -/
  system : Bool
  deriving Repr

structure SearchPath where
  quoted : List SearchEntry
  angled : List SearchEntry
  deriving Repr

/-- A directory without one slash at its end. -/
def trimSlash (path : String) : String :=
  if path.endsWith "/" && 1 < path.length then String.ofList path.toList.dropLast else path

def SearchEntry.ofPath? (tree : FileTree) (system : Bool) (path : String) : Option SearchEntry :=
  match tree.find path with
  | .directory place => some ⟨trimSlash path, place, system⟩
  | _ => none

/-- Adds a directory behind others; one of the system takes the place of one that is not. -/
def addDirectory (kept : List SearchEntry) (added : SearchEntry) : List SearchEntry :=
  match kept.find? fun entry => entry.place = added.place with
  | none => kept ++ [added]
  | some earlier =>
    if added.system && !earlier.system then
      kept.filter (·.place ≠ added.place) ++ [added]
    else kept

def SearchPath.ofOptions (tree : FileTree) (options : List CompilerOption) : SearchPath :=
  let entries (group : DirectoryGroup) : List SearchEntry :=
    let system := group = .system || group = .last
    (directoriesIn options group).filterMap (SearchEntry.ofPath? tree system)
  { quoted := (entries .quoted).foldl addDirectory []
    angled := (entries .user ++ entries .system ++ entries .last).foldl addDirectory [] }

/-- All directories, in the order in which a name in quotes is looked for. -/
def SearchPath.all (search : SearchPath) : List SearchEntry := search.quoted ++ search.angled

end HeaderBindings
