import HeaderBindings.Binding.Wanted
import HeaderBindings.Program

/-!
The command line program: files are read from the disk as far as they are wanted, and the run itself
is a function.
-/

namespace HeaderBindings

/-- A file or a directory of the disk, added to a tree. Devices are not read. -/
def addFromDisk (tree : FileTree) (path : String) : IO FileTree := do
  if (tree.device? path).isSome then return tree
  try
    let text ← IO.FS.readFile path
    let added := FileTree.ofFiles [(path, text)]
    return ⟨added.texts ++ tree.texts, (added.directories ++ tree.directories).eraseDups⟩
  catch _ =>
    try
      let _ ← IO.FS.realPath path
      return { tree with directories := (placeOf path :: tree.directories).eraseDups }
    catch _ => return tree

def addAllFromDisk (tree : FileTree) (paths : List String) : IO FileTree :=
  paths.foldlM addFromDisk tree

/-- Reads wanted files until there are no new ones. -/
partial def readWanted (wanted : FileTree → List String) (asked : List String)
    (tree : FileTree) : IO FileTree := do
  let fresh := ((wanted tree).filter (!asked.contains ·)).eraseDups
  if fresh.isEmpty then return tree
  else readWanted wanted (fresh ++ asked) (← addAllFromDisk tree fresh)

/-- Does to the disk what a run did to its files. -/
def writeChanges (before after : FileTree) : IO Unit := do
  for place in after.directories do
    if !before.directories.contains place then IO.FS.createDirAll (pathOf place)
  for (place, text) in after.texts do
    if before.texts.lookup place ≠ some text then IO.FS.writeFile (pathOf place) text
  for (place, _) in before.texts do
    if (after.texts.lookup place).isNone then IO.FS.removeFile (pathOf place)

end HeaderBindings

open HeaderBindings in
def main (argv : List String) : IO UInt32 := do
  let compiler ← IO.getEnv "CC"
  let named ← addAllFromDisk ⟨[], []⟩ (namedPaths (compiler.getD ""))
  let start ← readWanted (wantedFiles argv []) [] named
  let directories := match (askCompiler compiler).run (.start start) with
    | .ok directories _ => directories
    | .error _ _ => []
  let tree ← readWanted (wantedFiles argv directories) [] start
  let (world, ending) := runProgram tree compiler argv
  IO.print world.output
  for line in world.complaints ++ (ending.map Ending.lines).getD [] do IO.eprintln line
  writeChanges tree world.tree
  return ((ending.map Ending.code).getD 0).toUInt32
