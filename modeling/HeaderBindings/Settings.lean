import HeaderBindings.Ruby.Block
import HeaderBindings.Dump
import HeaderBindings.Yaml.Kind

/-!
The settings of a run. They may come from a YAML file, so each holds any value of YAML; they are
complete when the module, the library and at least one header are given and the output format is a
known one.
-/

namespace HeaderBindings

inductive OutputFormat where
  | ruby
  | yaml
  deriving DecidableEq, Repr

def OutputFormat.name : OutputFormat → String
  | .ruby => "ruby"
  | .yaml => "yaml"

/-- The formats in the order in which they are listed. -/
def OutputFormat.all : List OutputFormat := [.ruby, .yaml]

def OutputFormat.ofName? (name : String) : Option OutputFormat :=
  OutputFormat.all.find? fun format => format.name = name

structure Settings where
  moduleName : Yaml
  library : Yaml
  headers : List Yaml
  compilerFlags : List Yaml
  prefixes : List Yaml
  blacklist : List Yaml
  output : Yaml
  format : Yaml

/-- What holds where nothing is set. -/
def Settings.default : Settings where
  moduleName := .null
  library := .null
  headers := []
  compilerFlags := []
  prefixes := []
  blacklist := []
  output := .string "-"
  format := .string "ruby"

inductive IncompleteSettings where
  | missing (field : String)
  | unknownFormat (format : Yaml)
  /-- A format that is a collection cannot be looked up. -/
  | collectionAsFormat (kind : String)

def IncompleteSettings.message : IncompleteSettings → String
  | .missing field => "No " ++ field ++ " given."
  | .unknownFormat format => "Unknown output format `" ++ format.quoted ++ "`."
  | .collectionAsFormat kind => "unhashable type: '" ++ kind ++ "'"

/-- The format of settings that are complete. -/
def Settings.validate (settings : Settings) : Except IncompleteSettings OutputFormat :=
  if !settings.moduleName.isGiven then .error (.missing "module")
  else if !settings.library.isGiven then .error (.missing "library")
  else if settings.headers.isEmpty then .error (.missing "headers")
  else match settings.format.content with
    | .string name =>
      match OutputFormat.ofName? name with
      | some format => .ok format
      | none => .error (.unknownFormat settings.format)
    | format =>
      match format.collectionKind? with
      | some kind => .error (.collectionAsFormat kind)
      | none => .error (.unknownFormat format)

/-- The strings among some values. -/
def stringsOf (values : List Yaml) : List String :=
  values.filterMap fun value =>
    match value.content with
    | .string text => some text
    | _ => none

/-- The kind of the first prefix that is given and no string. No name can be stripped then. -/
def Settings.oddPrefix? (settings : Settings) : Option String :=
  (settings.prefixes.find? fun entry =>
    match entry.content with
    | .string _ => false
    | value => value.isGiven).map Yaml.kindName

/-- The document of a binding. -/
def Settings.document (settings : Settings) (format : OutputFormat) (artifacts : List Artifact) :
    Except RenderError String :=
  match format, settings.oddPrefix? with
  | .ruby, some kind =>
    if artifacts.isEmpty then
      renderModule settings.moduleName.quoted settings.library.quoted [] artifacts
    else .error (.oddPrefix kind)
  | .ruby, none =>
    renderModule settings.moduleName.quoted settings.library.quoted (stringsOf settings.prefixes)
      artifacts
  | .yaml, _ => .ok (dump settings.moduleName settings.library artifacts).document

end HeaderBindings
