import HeaderBindings.C.Diagnostic
import HeaderBindings.C.GivenMacro

/-!
Compiler options: macros, include directories, forced inclusions, and choices about the target and
the language. Options with no influence on declarations are passed over. Options for a later stage
are read behind all others.
-/

namespace HeaderBindings

/-- The lists of directories, in the order in which they are searched. -/
inductive DirectoryGroup where
  | quoted
  | user
  | system
  | last
  deriving DecidableEq, Repr

inductive CompilerOption where
  | define (text : String)
  | undefine (name : String)
  | forceInclude (header : String)
  /-- Only the macros of the header count. -/
  | forceMacros (header : String)
  | directory (group : DirectoryGroup) (path : String)
  | unsignedChar (holds : Bool)
  | shortEnums (holds : Bool)
  | shortWide (holds : Bool)
  | packing (limit : Option Nat)
  | wordWidth (width : Nat)
  | target (name : String)
  | standard (name : String)
  | trigraphs (holds : Bool)
  | blocks (holds : Bool)
  | freestanding (holds : Bool)
  | optimize (level : String)
  | threads
  | bare
  | noWarnings
  | warning (name : String)
  /-- An argument for a later stage. -/
  | forward (argument : String)

/-- Options that take a value, either glued on or as the next argument. -/
def valueOptions : List (String × (String → CompilerOption)) :=
  [("--define-macro=", .define), ("--define-macro", .define), ("--undefine-macro=", .undefine),
    ("--undefine-macro", .undefine), ("--include-directory-after=", .directory .last),
    ("--include-directory-after", .directory .last),
    ("--include-directory=", .directory .user), ("--include-directory", .directory .user),
    ("--include=", .forceInclude), ("--include", .forceInclude), ("--imacros=", .forceMacros),
    ("--imacros", .forceMacros), ("--target=", .target), ("-target", .target),
    ("-isystem-after", .directory .last), ("-isystem", .directory .system),
    ("-idirafter", .directory .last), ("-iquote", .directory .quoted),
    ("-include", .forceInclude), ("-imacros", .forceMacros), ("-Xpreprocessor", .forward),
    ("-Xclang", .forward), ("-D", .define), ("-U", .undefine), ("-I", .directory .user)]

/-- Options whose values say nothing about declarations. -/
def ignoredValueOptions : List String :=
  ["-x", "-MF", "-MT", "-MQ", "-MJ", "-o", "-arch", "-Xlinker", "-Xassembler", "-Xanalyzer", "-mllvm",
    "-isysroot", "--sysroot", "-L", "-l", "-T", "-u", "-z", "-F", "-iprefix", "-iwithprefix",
    "-iwithprefixbefore", "-iframework", "-include-pch", "--param", "-resource-dir"]

def plainOption? : String → Option CompilerOption
  | "-funsigned-char" | "-fno-signed-char" => some (.unsignedChar true)
  | "-fsigned-char" | "-fno-unsigned-char" => some (.unsignedChar false)
  | "-fshort-enums" => some (.shortEnums true)
  | "-fno-short-enums" => some (.shortEnums false)
  | "-fshort-wchar" => some (.shortWide true)
  | "-fno-short-wchar" => some (.shortWide false)
  | "-fpack-struct" => some (.packing (some 1))
  | "-fno-pack-struct" => some (.packing none)
  | "-m32" => some (.wordWidth 32)
  | "-m64" => some (.wordWidth 64)
  | "-ansi" => some (.standard "c89")
  | "-trigraphs" | "--trigraphs" | "-ftrigraphs" => some (.trigraphs true)
  | "-fno-trigraphs" => some (.trigraphs false)
  | "-fblocks" => some (.blocks true)
  | "-fno-blocks" => some (.blocks false)
  | "-ffreestanding" | "-fno-hosted" => some (.freestanding true)
  | "-fhosted" | "-fno-freestanding" => some (.freestanding false)
  | "-pthread" => some .threads
  | "-undef" => some .bare
  | "-w" | "--no-warnings" => some .noWarnings
  | _ => none

/-- Options that go on with their value. -/
def gluedOptions : List (String × (String → Option CompilerOption)) :=
  [("-std=", some ∘ .standard), ("--std=", some ∘ .standard),
    ("-fpack-struct=", fun value => value.toNat?.map fun limit => .packing (some limit)),
    ("-O", some ∘ .optimize), ("-W", some ∘ .warning)]

/-- An option that is one argument. -/
def soleOption? (argument : String) : Option CompilerOption :=
  match plainOption? argument with
  | some option => some option
  | none =>
    gluedOptions.findSome? fun (start, make) =>
      if argument.startsWith start then
        make (String.ofList (argument.toList.drop start.length))
      else none

/-- Arguments for the preprocessor, written as one with commas. -/
def listedArguments? (argument : String) : Option (List String) :=
  if argument.startsWith "-Wp," then some ((argument.splitOn ",").drop 1) else none

def readArguments : List String → List CompilerOption
  | [] => []
  | argument :: rest =>
    match listedArguments? argument with
    | some arguments => arguments.map .forward ++ readArguments rest
    | none =>
      if ignoredValueOptions.contains argument then
        match rest with
        | _ :: rest => readArguments rest
        | [] => []
      else match valueOptions.find? fun entry => argument.startsWith entry.1 with
        | some (name, make) =>
          if argument = name && !name.endsWith "=" then
            match rest with
            | value :: rest => make value :: readArguments rest
            | [] => []
          else make (String.ofList (argument.toList.drop name.length)) :: readArguments rest
        | none => (soleOption? argument).toList ++ readArguments rest

/-- The arguments for a later stage. -/
def forwardedArguments (options : List CompilerOption) : List String :=
  options.filterMap fun
    | .forward argument => some argument
    | _ => none

def readOptions (arguments : List String) : List CompilerOption :=
  let options := readArguments arguments
  options ++ readArguments (forwardedArguments options)

/-- What a target's name and the width of its words say. -/
def baseTarget (options : List CompilerOption) : Target :=
  let named := options.foldl (fun target option => match option with
    | .target name => (Target.ofName? name).getD target
    | _ => target) Target.default
  let width := options.foldl (fun width option => match option with
    | .wordWidth asked => some asked
    | _ => width) none
  match width with
  | some width => if named.wordWidth = width then named
    else .on (named.machine.withWordWidth width) named.system
  | none => named

def targetOf (options : List CompilerOption) : Target :=
  options.foldl
    (fun target option => match option with
      | .unsignedChar holds => { target with charSigned := !holds }
      | .shortEnums holds => { target with shortEnums := holds }
      | .shortWide holds => { target with shortWide := holds }
      | .packing limit => { target with packing := limit }
      | _ => target)
    (baseTarget options)

def forcedHeaders (options : List CompilerOption) : List String :=
  options.filterMap fun
    | .forceInclude header => some header
    | _ => none

/-- The headers whose macros are read before all others. -/
def macroHeaders (options : List CompilerOption) : List String :=
  options.filterMap fun
    | .forceMacros header => some header
    | _ => none

def directoriesIn (options : List CompilerOption) (group : DirectoryGroup) : List String :=
  options.filterMap fun
    | .directory own path => if own = group && path ≠ "" then some path else none
    | _ => none

/-- All directories that included files may be found in. -/
def searchDirectories (options : List CompilerOption) : List String :=
  [DirectoryGroup.quoted, .user, .system, .last].flatMap (directoriesIn options)

def warningPolicyOf (options : List CompilerOption) : WarningPolicy :=
  options.foldl (fun policy option => match option with
    | .noWarnings => { policy with silent := true }
    | .warning name => policy.option name
    | _ => policy) .default

/-- The dialect; a name that is not known changes nothing. -/
def languageOf (options : List CompilerOption) : Language :=
  let language := options.foldl (fun language option => match option with
    | .standard name => (Language.ofName? name).getD language
    | _ => language) Language.default
  options.foldl (fun language option => match option with
    | .trigraphs holds => { language with trigraphs := holds }
    | _ => language) language

def macroChoicesOf (options : List CompilerOption) : MacroChoices :=
  options.foldl (fun choices option => match option with
    | .blocks holds => { choices with blocks := holds }
    | .freestanding holds => { choices with freestanding := holds }
    | .optimize level =>
      { choices with optimizes := level ≠ "0", optimizesSize := level = "s" || level = "z" }
    | .threads => { choices with threads := true }
    | .bare => { choices with bare := true }
    | _ => choices) .default

/-- The directive that stands for a macro given as an option: no value means one. -/
def macroDirective? : CompilerOption → Option String
  | .define text =>
    let name := text.toList.takeWhile (· ≠ '=')
    let value := match text.toList.dropWhile (· ≠ '=') with
      | [] => ['1']
      | _ :: value => value.takeWhile fun c => c ≠ '\n' && c ≠ '\r'
    some ("#define " ++ String.ofList (name ++ ' ' :: value))
  | .undefine name => some ("#undef " ++ name)
  | _ => none

/-- The directives for the macros of the options and for the headers that they include. -/
def openingText (options : List CompilerOption) : String :=
  let lines := options.filterMap macroDirective?
    ++ (macroHeaders options).map (fun header => "#__include_macros \"" ++ header ++ "\"")
    ++ (forcedHeaders options).map fun header => "#include \"" ++ header ++ "\""
  String.join (lines.map (· ++ "\n"))

end HeaderBindings
