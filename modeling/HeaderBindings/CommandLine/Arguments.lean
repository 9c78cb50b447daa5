import HeaderBindings.CommandLine.CompilerArguments
import HeaderBindings.CommandLine.Options
import HeaderBindings.Settings

/-!
Reading the command line. Headers are taken from one run of operands only; operands that come after
another option are left over. Everything behind `--` is an operand.
-/

namespace HeaderBindings

/-- What an option is given: a text, or nothing when the divider stands for its value. -/
inductive OptionValue where
  | text (value : String)
  | nothing
  deriving DecidableEq, Repr

/-- The value that an argument holds for its own option. -/
def OptionValue.ofGlued (value : String) : OptionValue :=
  if value = "--" then .nothing else .text value

/-- The value as a setting, where nothing is an empty list. -/
def OptionValue.setting : OptionValue → Yaml
  | .text value => .string value
  | .nothing => .list []

structure Arguments where
  moduleName : Option OptionValue
  library : Option OptionValue
  output : Option OptionValue
  format : Option OptionValue
  config : Option OptionValue
  prefixes : List OptionValue
  blacklist : List OptionValue
  headers : List String
  compilerFlags : List String

def Arguments.none : Arguments where
  moduleName := .none
  library := .none
  output := .none
  format := .none
  config := .none
  prefixes := []
  blacklist := []
  headers := []
  compilerFlags := []

inductive UsageError where
  | ambiguous (argument : String) (candidates : List String)
  | missingValue (option : CommandOption)
  | ignoredValue (option : CommandOption) (value : String)
  | invalidChoice (value : String)
  | unrecognized (arguments : List String)
  deriving DecidableEq, Repr

/-- Why reading the command line ends the run. -/
inductive Farewell where
  | help
  | version
  | usage (error : UsageError)
  deriving DecidableEq, Repr

def UsageError.message : UsageError → String
  | .ambiguous argument candidates =>
    "ambiguous option: " ++ argument ++ " could match " ++ joinStrings ", " candidates
  | .missingValue option => "argument " ++ option.title ++ ": expected one argument"
  | .ignoredValue option value =>
    "argument " ++ option.title ++ ": ignored explicit argument " ++ literalOf value
  | .invalidChoice value =>
    "argument " ++ CommandOption.format.title ++ ": invalid choice: " ++ literalOf value
      ++ " (choose from "
      ++ joinStrings ", " (OutputFormat.all.map fun format => literalOf format.name) ++ ")"
  | .unrecognized arguments => "unrecognized arguments: " ++ joinStrings " " arguments

/-! What the arguments are in a row. -/

inductive ArgumentMark where
  | operand
  | option (named : NamedOption)
  | unknownOption
  /-- The mark behind which all arguments are operands. -/
  | divider
  deriving DecidableEq, Repr

structure MarkedArgument where
  text : String
  mark : ArgumentMark
  deriving DecidableEq, Repr

def markArguments : List String → Except UsageError (List MarkedArgument)
  | [] => .ok []
  | argument :: rest =>
    if argument = "--" then
      .ok (⟨argument, .divider⟩ :: rest.map fun operand => ⟨operand, .operand⟩)
    else match argumentShape argument with
      | .ambiguous candidates => .error (.ambiguous argument candidates)
      | .operand => (markArguments rest).map (⟨argument, .operand⟩ :: ·)
      | .known named => (markArguments rest).map (⟨argument, .option named⟩ :: ·)
      | .unknown => (markArguments rest).map (⟨argument, .unknownOption⟩ :: ·)

def MarkedArgument.isOption (argument : MarkedArgument) : Bool :=
  match argument.mark with
  | .option _ | .unknownOption => true
  | _ => false

/-! Carrying out options. -/

def Arguments.set (arguments : Arguments) (option : CommandOption) (value : OptionValue) :
    Except UsageError Arguments :=
  match option with
  | .moduleName => .ok { arguments with moduleName := some value }
  | .library => .ok { arguments with library := some value }
  | .namePrefix => .ok { arguments with prefixes := arguments.prefixes ++ [value] }
  | .blacklist => .ok { arguments with blacklist := arguments.blacklist ++ [value] }
  | .output => .ok { arguments with output := some value }
  | .config => .ok { arguments with config := some value }
  | .format =>
    match value with
    | .nothing => .ok { arguments with format := some value }
    | .text name =>
      if (OutputFormat.ofName? name).isNone then .error (.invalidChoice name)
      else .ok { arguments with format := some value }
  | .help | .version => .ok arguments

/-- An option with the value it got; one that takes none has nothing. -/
structure OptionUse where
  option : CommandOption
  value : OptionValue

/-- Takes apart an argument that names an option. Behind a short option without a value the next
characters are short options too. The last one may still want the next argument. -/
def gluedUses (named : NamedOption) (fuel : Nat) :
    Except UsageError (List OptionUse × Option CommandOption) :=
  match fuel, named.glued with
  | 0, _ => .ok ([], none)
  | _, none =>
    if named.option.takesValue then .ok ([], some named.option)
    else .ok ([⟨named.option, .nothing⟩], none)
  | fuel + 1, some value =>
    if named.option.takesValue then .ok ([⟨named.option, .ofGlued value⟩], none)
    else match value.toList with
      | [] => .error (.ignoredValue named.option value)
      | c :: rest =>
        let name := String.ofList ['-', c]
        match CommandOption.ofName? name with
        | none => .error (.ignoredValue named.option value)
        | some option =>
          if named.name.startsWith "--" then .error (.ignoredValue named.option value)
          else do
            let glued := if rest.isEmpty then none else some (String.ofList rest)
            let (uses, waiting) ← gluedUses ⟨option, name, glued⟩ fuel
            return (⟨named.option, .nothing⟩ :: uses, waiting)

def Arguments.use (arguments : Arguments) : List OptionUse → Except Farewell Arguments
  | [] => .ok arguments
  | ⟨.help, _⟩ :: _ => .error .help
  | ⟨.version, _⟩ :: _ => .error .version
  | ⟨option, value⟩ :: rest =>
    match arguments.set option value with
    | .ok arguments => arguments.use rest
    | .error error => .error (.usage error)

/-- How far the reading of a command line got. -/
structure Reading where
  arguments : Arguments
  /-- Whether the run of headers was met. -/
  headersTaken : Bool
  leftOver : List String

/-- The texts of operands, without the first divider among them. -/
def operandTexts (run : List MarkedArgument) : List String := (run.map (·.text)).erase "--"

def Reading.takeOperands (reading : Reading) (run : List MarkedArgument) : Reading :=
  if reading.headersTaken then
    { reading with leftOver := reading.leftOver ++ run.map (·.text) }
  else
    { reading with
      arguments := { reading.arguments with headers := operandTexts run }, headersTaken := true }

/-- Carries out the arguments in order. -/
def Reading.run (reading : Reading) (arguments : List MarkedArgument) :
    Except Farewell Reading :=
  match arguments with
  | [] => .ok reading
  | argument :: rest =>
    match argument.mark with
    | .unknownOption => { reading with leftOver := reading.leftOver ++ [argument.text] }.run rest
    | .option named =>
      match gluedUses named (argument.text.length + 1) with
      | .error error => .error (.usage error)
      | .ok (uses, none) => do
        let arguments ← reading.arguments.use uses
        Reading.run { reading with arguments } rest
      | .ok (uses, some waiting) =>
        match rest with
        | ⟨value, .operand⟩ :: rest => do
          let arguments ← reading.arguments.use (uses ++ [⟨waiting, .text value⟩])
          Reading.run { reading with arguments } rest
        | _ => .error (.usage (.missingValue waiting))
    | _ =>
      let run := argument :: rest.takeWhile (!·.isOption)
      (reading.takeOperands run).run (rest.dropWhile (!·.isOption))
termination_by arguments.length
decreasing_by
  · simp only [List.length_cons]; omega
  · simp only [List.length_cons]; omega
  · simp only [List.length_cons]; omega
  · have := (List.dropWhile_sublist (fun next : MarkedArgument => !next.isOption)
      (l := rest)).length_le
    simp only [List.length_cons]; omega

/-- Reads a command line. -/
def Arguments.read (argv : List String) : Except Farewell Arguments := do
  let split := splitArguments false argv
  let marked ← match markArguments split.own with
    | .ok marked => pure marked
    | .error error => .error (.usage error)
  let reading ← Reading.run ⟨.none, false, []⟩ marked
  if reading.leftOver.isEmpty then
    return { reading.arguments with compilerFlags := split.compiler }
  else .error (.usage (.unrecognized reading.leftOver))

end HeaderBindings
