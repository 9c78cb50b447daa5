import HeaderBindings.Text.Digit

/-!
The options of the command line, and how an argument names one: by its full name, by a beginning of
a long name, or by a short name with its value glued on.
-/

namespace HeaderBindings

inductive CommandOption where
  | help
  | version
  | moduleName
  | library
  | namePrefix
  | blacklist
  | output
  | format
  | config
  deriving DecidableEq, Repr

def CommandOption.all : List CommandOption :=
  [.help, .version, .moduleName, .library, .namePrefix, .blacklist, .output, .format, .config]

/-- The spellings of an option, the short one first. -/
def CommandOption.names : CommandOption → List String
  | .help => ["-h", "--help"]
  | .version => ["--version"]
  | .moduleName => ["-m", "--module"]
  | .library => ["-l", "--library"]
  | .namePrefix => ["-p", "--prefix"]
  | .blacklist => ["-b", "--blacklist"]
  | .output => ["-o", "--output"]
  | .format => ["--format"]
  | .config => ["--config"]

def CommandOption.takesValue : CommandOption → Bool
  | .help | .version => false
  | _ => true

def CommandOption.title (option : CommandOption) : String :=
  String.intercalate "/" option.names

def CommandOption.ofName? (name : String) : Option CommandOption :=
  CommandOption.all.find? fun option => option.names.contains name

/-- An option as an argument names it. -/
structure NamedOption where
  option : CommandOption
  name : String
  /-- The value in the same argument. -/
  glued : Option String
  deriving DecidableEq, Repr

/-- What an argument is by itself. -/
inductive ArgumentShape where
  | operand
  | known (named : NamedOption)
  | unknown
  | ambiguous (candidates : List String)
  deriving DecidableEq, Repr

/-- Numbers with a minus sign are no options, even with the end of a line behind them. -/
def isNegativeNumber (text : List Char) : Bool :=
  match text with
  | '-' :: digits =>
    let digits := if digits.getLast? = some '\n' then digits.dropLast else digits
    match digits.dropWhile isDecimal with
    | [] => !digits.isEmpty
    | '.' :: fraction => !fraction.isEmpty && fraction.all isDecimal
    | _ => false
  | _ => false

/-- A text in front of its first equals sign, and the text behind. -/
def splitAtEquals (text : List Char) : Option (List Char × List Char) :=
  match text.dropWhile (· ≠ '=') with
  | _ :: value => some (text.takeWhile (· ≠ '='), value)
  | [] => none

/-- Every option with a long name that starts as the argument does. -/
def abbreviated (argument : List Char) : List NamedOption :=
  let (start, glued) := match splitAtEquals argument with
    | some (start, value) => (start, some (String.ofList value))
    | none => (argument, none)
  CommandOption.all.flatMap fun option =>
    (option.names.filter fun name => start.isPrefixOf name.toList).map fun name =>
      ⟨option, name, glued⟩

/-- A short name with its value behind it. -/
def gluedShort (argument : List Char) : List NamedOption :=
  let name := String.ofList (argument.take 2)
  match CommandOption.ofName? name with
  | some option => [⟨option, name, some (String.ofList (argument.drop 2))⟩]
  | none => []

/-- What an argument is before its neighbours are looked at. -/
def argumentShape (argument : String) : ArgumentShape :=
  let chars := argument.toList
  let exact (text : List Char) : Option CommandOption :=
    CommandOption.ofName? (String.ofList text)
  match chars with
  | [] | ['-'] => .operand
  | '-' :: second :: _ =>
    match exact chars with
    | some option => .known ⟨option, argument, none⟩
    | none =>
      let direct := (splitAtEquals chars).bind fun (start, value) =>
        (exact start).map fun option =>
          NamedOption.mk option (String.ofList start) (some (String.ofList value))
      match direct with
      | some named => .known named
      | none =>
        match (if second = '-' then abbreviated chars else gluedShort chars) with
        | [named] => .known named
        | [] =>
          if isNegativeNumber chars || chars.contains ' ' then .operand else .unknown
        | several => .ambiguous (several.map NamedOption.name)
  | _ => .operand

end HeaderBindings
