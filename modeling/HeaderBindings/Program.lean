import HeaderBindings.Binding.Model
import HeaderBindings.CommandLine.Help
import HeaderBindings.SettingsFile
import HeaderBindings.Shell
import HeaderBindings.SystemDirectories
import HeaderBindings.Text.Line

/-!
A whole run of the program, from the command line to the files that it leaves behind. Faults of the
settings and types without a translation end it with a message; all others are left to the caller.
A run that ends early leaves what it did up to there.
-/

namespace HeaderBindings

/-- The directories that the compiler of the environment searches, asked for by a shell command. -/
def probeCommand (compiler : String) : String := compiler ++ " -E -Wp,-v -xc /dev/null"

/-- What a run cannot report by itself. -/
inductive RunError where
  | probe (command : String) (ending : ShellEnding)
  /-- A file whose name is given as a literal. -/
  | file (name : List Char) (error : FileError)
  /-- A file that is given by its number, or that is open already. -/
  | unnamed (error : FileError)
  | negativeFile
  | nulInName
  /-- A settings file with a scalar that is not what its tag says, or that cannot be shown. -/
  | scalar (fault : YamlFault)
  /-- An argument for the compiler that is no text. -/
  | argument (type : String)
  /-- A header in bytes, which is no part of a path. -/
  | bytesHeader
  | pass (error : PassError)
  | render (error : RenderError)
  /-- A value of the settings of a kind that cannot be used at all. -/
  | kind (message : String)

def RunError.message : RunError → String
  | .probe command ending => ending.message command
  | .file name error => error.describe name
  | .unnamed error => error.brief
  | .negativeFile => "negative file descriptor"
  | .nulInName => "embedded null byte"
  | .scalar fault => fault.message
  | .argument type => "'" ++ type ++ "' object has no attribute 'encode'"
  | .bytesHeader => "can only concatenate str (not \"bytes\") to str"
  | .pass error => error.message
  | .render error => error.message
  | .kind message => message

/-! What a run does to the world. -/

/-- What can be seen of a run: what it printed, what it complained of, and the files there are. -/
structure World where
  output : String
  complaints : List String
  tree : FileTree

def World.start (tree : FileTree) : World := ⟨"", [], tree⟩

/-- Why there are no settings or no document. What is refused is told to the user; the rest is left
to the caller. -/
inductive Failure where
  | refused (message : String)
  | escaped (error : RunError)

/-- How a run ends early. -/
inductive Ending where
  | exit (code : Nat)
  | escape (error : RunError)

def Ending.code : Ending → Nat
  | .exit code => code
  | .escape _ => 1

/-- What is said about an early end by those who called the program. -/
def Ending.lines : Ending → List String
  | .exit _ => []
  | .escape error => [error.message]

/-- A part of a run, which keeps what it did when it fails. -/
abbrev Run (ε : Type) := EStateM ε World

namespace Run

variable {ε α : Type}

def print (text : String) : Run ε Unit :=
  modify fun world => { world with output := world.output ++ text }

def note (lines : List String) : Run ε Unit :=
  modify fun world => { world with complaints := world.complaints ++ lines }

def putTree (tree : FileTree) : Run ε Unit := modify fun world => { world with tree }

/-- Says what is wrong and ends the run with a code. -/
def quit (code : Nat) (message : String) : Run Ending α := do
  note (shownLines (programName ++ ": error: " ++ message))
  throw (.exit code)

/-- A part of a run that tells the user what it refuses. -/
def reported (part : Run Failure α) : Run Ending α := fun world =>
  match part world with
  | .ok result world => .ok result world
  | .error (.refused message) world => quit 1 message world
  | .error (.escaped error) world => .error (.escape error) world

end Run

open Run

/-! From the command line to a document. -/

def Arguments.settings (arguments : Arguments) : Run Failure Settings := do
  match loadSettings (← get).tree arguments with
  | .ok settings => return settings
  | .error (.malformed file .malformed) =>
    throw (.refused (SettingsFileError.malformed file .malformed).message)
  | .error (.malformed _ fault) => throw (.escaped (.scalar fault))
  | .error (.unwritable _) => throw (.escaped (.scalar .unwritable))
  | .error (.strangeKey kind) => throw (.escaped (.kind (SettingsFileError.strangeKey kind).message))
  | .error (.mixedKeys first second) =>
    throw (.escaped (.kind (SettingsFileError.mixedKeys first second).message))
  | .error error => throw (.refused error.message)

/-- The format of settings that may be incomplete. -/
def Settings.checkedFormat (settings : Settings) : Run Failure OutputFormat :=
  match settings.validate with
  | .ok format => return format
  | .error (.collectionAsFormat kind) =>
    throw (.escaped (.kind (IncompleteSettings.collectionAsFormat kind).message))
  | .error error => throw (.refused error.message)

/-- The directories of the compiler, which can do to the files what it wants. No compiler, and one
with an empty name, has no directories. -/
def askCompiler (compiler : Option String) : Run Failure (List String) :=
  match compiler with
  | none | some "" => return []
  | some compiler => do
    let report := runShell (← get).tree compiler (probeCommand compiler)
    putTree report.tree
    match report.ending with
    | .status 0 => return systemDirectories report.output
    | ending => throw (.escaped (.probe (probeCommand compiler) ending))

/-- The headers as they are read. -/
def Settings.readHeaders (settings : Settings) (directories : List String) :
    Run Failure TranslationUnit := do
  match settings.oddArgument? with
  | some kind => throw (.escaped (.argument kind))
  | none =>
    let unit := settings.unit directories (← get).tree
    if settings.meetsBytes unit.source then throw (.escaped .bytesHeader) else return unit

/-- What the headers declare. -/
def Settings.bindUnit (settings : Settings) (unit : TranslationUnit) :
    Run Failure (List Artifact) := do
  let run := settings.run unit
  note (run.final.warningLines unit.source)
  match run.error with
  | some (.unsupported kind) => throw (.refused (PassError.unsupported kind).message)
  | some error => throw (.escaped (.pass error))
  | none => return run.final.declared.artifacts

def Settings.rendered (settings : Settings) (format : OutputFormat) (artifacts : List Artifact) :
    Run Failure String :=
  match settings.document format artifacts with
  | .ok document => return document
  | .error error => throw (.escaped (.render error))

/-- The document that settings ask for. -/
def Settings.text (settings : Settings) (compiler : Option String) : Run Failure String := do
  let format ← settings.checkedFormat
  let directories ← askCompiler compiler
  let unit ← settings.readHeaders directories
  let artifacts ← settings.bindUnit unit
  settings.rendered format artifacts

/-- The settings of a command line and their document; nothing is written yet. -/
def Arguments.draft (arguments : Arguments) (compiler : Option String) :
    Run Failure (Settings × String) := do
  let settings ← arguments.settings
  let document ← settings.text compiler
  return (settings, document)

/-! The document is written. -/

/-- Says what was written. -/
def reportWritten (report : String) : Run Ending Unit :=
  note (shownLines (programName ++ ": " ++ report))

/-- What a device does with the document; it keeps nothing. -/
def Device.take (document : String) : Device → Run Ending Unit
  | .sink | .input => return
  | .output => print document
  | .complaints => note (shownLines document)
  | .full => throw (.escape (.unnamed .noRoom))

/-- Writes the document to a file, whose name is shown in the report and in errors. -/
def deliverTo (document path report : String) (name : List Char) : Run Ending Unit := do
  if path.toList.contains (Char.ofNat 0) then throw (.escape .nulInName)
  else
    let tree := (← get).tree
    match tree.device? path with
    | some device => device.take document
    | none =>
      match tree.write path document with
      | .ok written => putTree written
      | .error error => throw (.escape (.file name error))
    reportWritten report

/-- Writes the document to an open stream, which is then closed. The input is not open for writing,
and where the complaints went there is no report. -/
def deliverToStream (document : String) (number : Int) (report : String) : Run Ending Unit :=
  match Device.ofNumber? number.toNat with
  | some .output => do
    print document
    reportWritten report
  | some .complaints => do
    note (shownLines document)
    throw (.escape (.unnamed .notOpen))
  | _ => throw (.escape (.unnamed .notOpen))

/-- The numbers of streams are below this one; negative numbers are refused as such down to its
opposite. -/
def streamNumbers : Int := 2147483648

/-- Puts the document where the settings say. -/
def deliver (output : Yaml) (document : String) : Run Ending Unit :=
  match output.content with
  | .string "-" => print document
  | .string path => deliverTo document path path (literalString path.toList)
  | .bytes values =>
    let name := literalBytes values
    match String.fromUTF8? ⟨(values.map Nat.toUInt8).toArray⟩ with
    | some path => deliverTo document path (String.ofList name) name
    | none => throw (.escape (.file name .missing))
  | .boolean value => deliverToStream document (if value then 1 else 0) output.quoted
  | .integer number =>
    if 0 ≤ number ∧ number < streamNumbers then deliverToStream document number output.quoted
    else if -streamNumbers ≤ number ∧ number < 0 then throw (.escape .negativeFile)
    else throw (.escape (.kind "expected str, bytes or os.PathLike object, not int"))
  | other =>
    throw (.escape (.kind ("expected str, bytes or os.PathLike object, not " ++ other.shortKindName)))

/-- A run of the program. -/
def program (compiler : Option String) (argv : List String) : Run Ending Unit :=
  match Arguments.read argv with
  | .error .help => print helpText
  | .error .version => print versionText
  | .error (.usage error) => quit 2 error.message
  | .ok arguments => do
    let (settings, document) ← reported (arguments.draft compiler)
    deliver settings.output document

/-- What a run leaves behind, and how it ended if that was early. -/
def runProgram (tree : FileTree) (compiler : Option String) (argv : List String) :
    World × Option Ending :=
  match (program compiler argv).run (.start tree) with
  | .ok () world => (world, none)
  | .error ending world => (world, some ending)

end HeaderBindings
