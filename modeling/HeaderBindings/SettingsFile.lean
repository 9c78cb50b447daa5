import HeaderBindings.CommandLine.Arguments
import HeaderBindings.File.Error
import HeaderBindings.Yaml.Kind
import HeaderBindings.Yaml.Meaning

/-!
Settings from a YAML file and the command line together. A single value of the command line replaces
that of the file, and a list is added behind that of the file.
-/

namespace HeaderBindings

inductive SettingsFileError where
  | unreadable (file : String) (error : FileError)
  /-- A file that is no YAML, or with a scalar that is not what its tag says. -/
  | malformed (file : String) (fault : YamlFault)
  | notMapping (file : String)
  | unknownKeys (keys : List String)
  /-- An unknown key that is no string cannot be listed. -/
  | strangeKey (kind : String)
  /-- Unknown keys of several kinds cannot be sorted. -/
  | mixedKeys (first second : String)
  | notList (field : String) (value : Yaml)
  /-- What stands in the place of a list cannot be shown. -/
  | unwritable (field : String)

def SettingsFileError.message : SettingsFileError → String
  | .unreadable file error => "Cannot read `" ++ file ++ "`: " ++ error.message file
  | .malformed file .malformed => "Cannot read `" ++ file ++ "`:"
  | .malformed _ fault => fault.message
  | .notMapping file => "`" ++ file ++ "` is not a mapping."
  | .unknownKeys keys => "Unknown configuration keys: " ++ joinStrings ", " keys
  | .strangeKey kind => "sequence item 0: expected str instance, " ++ kind ++ " found"
  | .mixedKeys first second =>
    "'<' not supported between instances of '" ++ second ++ "' and '" ++ first ++ "'"
  | .notList field value => "`" ++ field ++ "` must be a list, got `" ++ value.quoted ++ "`."
  | .unwritable _ => YamlFault.unwritable.message

def singleFields : List String := ["module", "library", "output", "format"]

def listFields : List String := ["headers", "cflags", "prefixes", "blacklist"]

def settingsFields : List String := singleFields ++ listFields

/-- The entries of a settings file by their names. -/
abbrev FileEntries := List (String × Yaml)

/-- Splits entries into those with known keys and the other keys. -/
def knownEntries : List (Yaml × Yaml) → FileEntries × List Yaml
  | [] => ([], [])
  | (key, value) :: rest =>
    let (known, unknown) := knownEntries rest
    match key.content with
    | .string name =>
      if settingsFields.contains name then ((name, value) :: known, unknown)
      else (known, key :: unknown)
    | _ => (known, key :: unknown)

/-- The first of some numbers in order of size. -/
def leastNumber (first : Yaml) (others : List Yaml) : Yaml :=
  others.foldl (fun least other =>
    match other.ratio?, least.ratio? with
    | some a, some b => if smallerRatio a b then other else least
    | _, _ => least) first

/-- What is wrong with unknown keys. They are sorted before they are listed; numbers can be sorted
among each other, and so can keys of one kind. -/
def unknownKeysError (first : Yaml) (others : List Yaml) : SettingsFileError :=
  let kind := first.content.kindName
  let keys := first :: others
  if keys.all fun key => key.content.kindName = "str" then
    .unknownKeys (stringsOf keys).mergeSort
  else if keys.all fun key => key.content.ratio?.isSome then
    .strangeKey (leastNumber first others).kindName
  else match others.find? fun key => key.content.kindName ≠ kind with
    | some other => .mixedKeys kind other.content.kindName
    | none => .strangeKey kind

/-- The entries of a document, which may be empty. -/
def fileEntries (file : String) (document : Yaml) : Except SettingsFileError FileEntries :=
  if !document.isGiven then .ok []
  else match document.content with
    | .mapping entries =>
      match knownEntries entries with
      | (known, []) => .ok known
      | (_, first :: others) => .error (unknownKeysError first others)
    | _ => .error (.notMapping file)

/-- Reads the file that the command line names; no name and an empty one are no file. -/
def readSettingsFile (tree : FileTree) (file : Option OptionValue) :
    Except SettingsFileError FileEntries :=
  match file with
  | none | some .nothing | some (.text "") => .ok []
  | some (.text file) =>
    match tree.read file with
    | .error error => .error (.unreadable file error)
    | .ok text =>
      match Yaml.read text with
      | .error fault => .error (.malformed file fault)
      | .ok document => fileEntries file document

/-- The list under a key; what counts as not given is an empty list. -/
def FileEntries.list (entries : FileEntries) (field : String) :
    Except SettingsFileError (List Yaml) :=
  match entries.lookup field with
  | none => .ok []
  | some value =>
    if !value.isGiven then .ok []
    else match value.content with
      | .list items => .ok items
      | other => .error (if other.isWritable then .notList field other else .unwritable field)

/-- A single value: the command line's, else the file's, else the default. -/
def FileEntries.single (entries : FileEntries) (field : String) (argument : Option OptionValue)
    (default : Yaml) : Yaml :=
  match argument with
  | some value => value.setting
  | none => (entries.lookup field).getD default

/-- Puts the values of the command line over and behind those of a file. -/
def mergeSettings (entries : FileEntries) (arguments : Arguments) :
    Except SettingsFileError Settings := do
  let headers ← entries.list "headers"
  let compilerFlags ← entries.list "cflags"
  let prefixes ← entries.list "prefixes"
  let blacklist ← entries.list "blacklist"
  let default := Settings.default
  return {
    moduleName := entries.single "module" arguments.moduleName default.moduleName
    library := entries.single "library" arguments.library default.library
    headers := headers ++ arguments.headers.map .string
    compilerFlags := compilerFlags ++ arguments.compilerFlags.map .string
    prefixes := prefixes ++ arguments.prefixes.map OptionValue.setting
    blacklist := blacklist ++ arguments.blacklist.map OptionValue.setting
    output := entries.single "output" arguments.output default.output
    format := entries.single "format" arguments.format default.format }

def loadSettings (tree : FileTree) (arguments : Arguments) : Except SettingsFileError Settings := do
  let entries ← readSettingsFile tree arguments.config
  mergeSettings entries arguments

end HeaderBindings
