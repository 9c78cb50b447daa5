import HeaderBindings.Binding.Pass
import HeaderBindings.C.Unit
import HeaderBindings.File.Scope
import HeaderBindings.Settings

/-!
From headers to artifacts: the headers are included in order, what they declare is read, and the
pass goes over it.
-/

namespace HeaderBindings

/-- The text of a value that the compiler can take as an argument: a string, or bytes. -/
def Yaml.argument? (value : Yaml) : Option String :=
  match value.content with
  | .string text => some text
  | .bytes values => String.fromUTF8? ⟨(values.map Nat.toUInt8).toArray⟩
  | _ => none

/-- The first header or flag that the compiler cannot take, by its kind. -/
def Settings.oddArgument? (settings : Settings) : Option String :=
  ((settings.headers ++ settings.compilerFlags).find? fun value =>
    match value.content with
    | .string _ | .bytes _ => false
    | _ => true).map Yaml.kindName

/-- Whether the files of a unit meet a header in bytes before one that names them; bytes cannot be
compared with the name of a file. -/
def Settings.meetsBytes (settings : Settings) (source : Source) : Bool :=
  source.includedFiles.any fun file =>
    let rest := settings.headers.dropWhile fun header =>
      match header.content with
      | .string text => !namesFile text.toList file.toList
      | _ => false
    match rest.head?.map Yaml.content with
    | some (.bytes _) => true
    | _ => false

/-- The options of the compiler: the headers come first and the directories of the system last. -/
def Settings.compilerOptions (settings : Settings) (directories : List String) :
    List CompilerOption :=
  readOptions ((settings.headers.filterMap Yaml.argument?).flatMap (fun header =>
      ["-include", header])
    ++ settings.compilerFlags.filterMap Yaml.argument? ++ directories.map ("-I" ++ ·))

def Settings.unit (settings : Settings) (directories : List String) (tree : FileTree) :
    TranslationUnit :=
  .read tree (settings.compilerOptions directories)

def Settings.boundFiles (settings : Settings) (source : Source) : List String :=
  HeaderBindings.boundFiles (stringsOf settings.headers) source.includedFiles

def Settings.context (settings : Settings) (unit : TranslationUnit) : PassContext where
  source := unit.source
  target := unit.target
  tags := unit.tags
  files := settings.boundFiles unit.source
  blacklist := stringsOf settings.blacklist
  prefixes := stringsOf settings.prefixes
  oddPrefix := settings.oddPrefix?

def Settings.run (settings : Settings) (unit : TranslationUnit) : PassRun :=
  (settings.context unit).run .start unit.declarations

end HeaderBindings
