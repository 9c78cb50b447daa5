import HeaderBindings.Shell.Condition
import HeaderBindings.Shell.Format
import HeaderBindings.Shell.Reader

/-!
The commands that are part of a shell and run no other commands. What a command gives back is its
status; where the shell goes on is part of its state.
-/

namespace HeaderBindings

/-- Commands whose errors end the shell, and whose assignments last. -/
def specialCommands : List String :=
  [":", ".", "break", "continue", "eval", "exec", "exit", "export", "readonly", "return", "set",
    "shift", "times", "trap", "unset"]

def echoCommand (arguments : List String) : Shell Nat := do
  let (words, ending) := match arguments with
    | "-n" :: words => (words, "")
    | words => (words, "\n")
  let text := (String.intercalate " " words).toList
  let (shown, ends) := resolveEscapes text (text.length + 1)
  say (String.ofList shown ++ if ends then "" else ending)
  return 0

/-- Prints words as they are, unless escapes are asked for. -/
def echoProgram (arguments : List String) : Shell Nat := do
  let isOption (word : String) : Bool :=
    match word.toList with
    | '-' :: c :: letters => (c :: letters).all fun c => "neE".toList.contains c
    | _ => false
  let options := (arguments.takeWhile isOption).flatMap String.toList
  let text := (String.intercalate " " (arguments.dropWhile isOption)).toList
  let (shown, ends) := if options.contains 'e' then resolveEscapes text (text.length + 1)
    else (text, false)
  say (String.ofList shown ++ if ends ∨ options.contains 'n' then "" else "\n")
  return 0

def printCommand (arguments : List String) : Shell Nat := do
  let arguments := match arguments with
    | "--" :: rest => rest
    | rest => rest
  match arguments with
  | [] =>
    complainShell "printf: usage: printf format [arg ...]"
    return 2
  | format :: rest =>
    if format.startsWith "-" ∧ 1 < format.length then
      complainShell ("printf: Illegal option " ++ String.ofList (format.toList.take 2))
      return 2
    let (text, complaints) := printFormat format rest
    say text
    complaints.forM fun complaint => complainShell ("printf: " ++ complaint)
    return if complaints.isEmpty then 0 else 1

def testCommand (name : String) (arguments : List String) : Shell Nat := do
  let words? := if name = "[" then
      if arguments.getLast? = some "]" then some arguments.dropLast else none
    else some arguments
  match words? with
  | none =>
    complainShell "[: missing ]"
    return 2
  | some words =>
    match testHolds (← get) words with
    | .ok holds => return if holds then 0 else 1
    | .error message =>
      complainShell (name ++ ": " ++ message)
      return 2

/-- The path of a place, which is empty for the working directory. -/
def pathOfPlace (place : FilePlace) : String :=
  String.ofList (joinWith ['/'] place)

def changeDirectory (arguments : List String) : Shell Nat := do
  let state ← get
  let target := match arguments.filter (· ≠ "--") with
    | [] => (state.valueOf? "HOME").getD ""
    | "-" :: _ => (state.valueOf? "OLDPWD").getD ""
    | path :: _ => path
  match state.find target with
  | .directory place =>
    let directory := if place = rootPlace then "/" else pathOfPlace place
    let old := (state.valueOf? "PWD").getD "."
    let state := (state.assign "OLDPWD" old).assign "PWD" (if directory = "" then "." else directory)
    set { state with directory }
    return 0
  | _ =>
    complainShell ("cd: can't cd to " ++ target)
    return 2

/-- Fields of a line for some variables; the last one gets all that is left. -/
def splitForNames (separators : List Char) (names : List String) (line : List (Char × Bool)) :
    List (String × String) :=
  let isGap (item : Char × Bool) : Bool :=
    !item.2 && separators.contains item.1 && (item.1 = ' ' || item.1 = '\t' || item.1 = '\n')
  let isEnd (item : Char × Bool) : Bool := !item.2 && separators.contains item.1
  let line := line.dropWhile isGap
  match names with
  | [] => []
  | [name] =>
    let kept := (line.reverse.dropWhile isGap).reverse
    [(name, String.ofList (kept.map Prod.fst))]
  | name :: others =>
    let field := line.takeWhile (!isEnd ·)
    let rest := (line.drop field.length).dropWhile isGap
    let rest := match rest with
      | item :: behind => if isEnd item then behind else rest
      | [] => []
    (name, String.ofList (field.map Prod.fst)) :: splitForNames separators others rest

/-- The characters of a line, with the mark whether a backslash quotes them. -/
def unescapeLine : List Char → List (Char × Bool)
  | '\\' :: c :: rest => (c, true) :: unescapeLine rest
  | c :: rest => (c, false) :: unescapeLine rest
  | [] => []

/-- A line with the lines that backslashes at the ends join to it. -/
def readLogicalLine (raw : Bool) (fuel : Nat) : Shell (List Char × Bool) := do
  let (line, ended) ← modifyGet fun state =>
    let (line, ended, state) := state.takeLine 0
    ((line, ended), state)
  match fuel with
  | 0 => return (line, ended)
  | fuel + 1 =>
    let slashes := (line.reverse.takeWhile (· = '\\')).length
    if !raw ∧ ended ∧ slashes % 2 = 1 then
      let (rest, ended) ← readLogicalLine raw fuel
      return (line.dropLast ++ rest, ended)
    else return (line, ended)

def readCommandLine (arguments : List String) : Shell Nat := do
  let raw := arguments.head? = some "-r"
  let names := if raw then arguments.drop 1 else arguments
  if names.isEmpty then
    complainShell "read: arg count"
    return 2
  let (line, ended) ← readLogicalLine raw 1000
  let marked := if raw then line.map fun c => (c, false) else unescapeLine line
  let state ← get
  set ((splitForNames state.separators names marked).foldl
    (fun state (name, value) => state.assign name value) state)
  return if ended then 0 else 1

/-- The letter of an option that is set by name. -/
def optionLetter? (name : String) : Option Char :=
  [("errexit", 'e'), ("nounset", 'u'), ("noglob", 'f'), ("xtrace", 'x'), ("allexport", 'a'),
    ("noexec", 'n'), ("verbose", 'v'), ("noclobber", 'C')].lookup name

def setOption (on : Bool) (letter : Char) : Shell Unit := modify fun state =>
  let others := state.options.filter (· ≠ letter)
  { state with options := if on then others ++ [letter] else others }

def setCommand (fuel : Nat) (arguments : List String) : Shell Nat := do
  match fuel, arguments with
  | 0, _ | _, [] => return 0
  | fuel + 1, word :: rest =>
    match word.toList with
    | ['-', '-'] =>
      modify fun state => { state with arguments := rest }
      return 0
    | ['-', 'o'] | ['+', 'o'] =>
      match rest with
      | name :: rest =>
        match optionLetter? name with
        | some letter =>
          setOption (word = "-o") letter
          setCommand fuel rest
        | none =>
          abandon ("set: Illegal option -o " ++ name)
          return 2
      | [] => return 0
    | sign :: letter :: letters =>
      if sign = '-' ∨ sign = '+' then
        match (letter :: letters).find? fun c => !"euafxnvCbImhV".toList.contains c with
        | some bad =>
          abandon ("set: Illegal option " ++ String.ofList [sign, bad])
          return 2
        | none =>
          (letter :: letters).forM (setOption (sign = '-'))
          setCommand fuel rest
      else
        modify fun state => { state with arguments := word :: rest }
        return 0
    | _ =>
      modify fun state => { state with arguments := word :: rest }
      return 0

def shiftCommand (arguments : List String) : Shell Nat := do
  let count := (arguments.head?.bind String.toNat?).getD 1
  let state ← get
  if state.arguments.length < count then
    abandon "shift: can't shift that many"
    return 2
  set { state with arguments := state.arguments.drop count }
  return 0

/-- A name with the value that is written behind it. -/
def splitAssignment (word : String) : String × Option String :=
  match takeAssignment? word.toList with
  | some (name, value) => (name, some (String.ofList value))
  | none => (word, none)

/-- Names with values, of which something more is remembered. -/
def declareNames (command : String) (remember : String → ShellState → ShellState)
    (arguments : List String) : Shell Nat := do
  for word in arguments.filter (fun word => word ≠ "-p" && word ≠ "--") do
    let (name, value) := splitAssignment word
    if !isShellName name then
      abandon (command ++ ": " ++ name ++ ": bad variable name")
      return 2
    modify fun state =>
      let state := match value with
        | some value => state.assign name value
        | none => state
      remember name state
  return 0

def unsetCommand (arguments : List String) : Shell Nat := do
  match arguments with
  | "-f" :: names =>
    modify fun state => { state with
      functions := state.functions.filter fun entry => !names.contains entry.1 }
  | names =>
    let names := names.filter (· ≠ "-v")
    let state ← get
    match names.find? state.locked.contains with
    | some name =>
      abandon ("unset: " ++ name ++ ": is read only")
      return 2
    | none =>
      modify fun state =>
        let state := names.foldl ShellState.unset state
        { state with functions := state.functions.filter fun entry => !names.contains entry.1 }
  return 0

def localCommand (arguments : List String) : Shell Nat := do
  for word in arguments do
    let (name, value) := splitAssignment word
    modify fun state =>
      let state := { state with saved := state.saved ++ [(name, state.valueOf? name)] }
      match value with
      | some value => state.assign name value
      | none => state
  return 0

/-- A status that is given in words. -/
def statusOf (arguments : List String) : Shell (Option Nat) := do
  match arguments with
  | [] => return some (← get).status
  | word :: _ =>
    match word.toNat? with
    | some status => return some (status % 256)
    | none =>
      abandon ("Illegal number: " ++ word)
      return none

def leaveCommand (flow : ShellFlow) (arguments : List String) : Shell Nat := do
  match ← statusOf arguments with
  | some status =>
    modify fun state => { state with flow }
    return status
  | none => return 2

def loopCommand (flow : Nat → ShellFlow) (arguments : List String) : Shell Nat := do
  let levels := (arguments.head?.bind String.toNat?).getD 1
  modify fun state => { state with flow := flow levels }
  return 0

/-- The numbers of signals. -/
def signalNumber? (name : String) : Option Nat :=
  let name := if name.startsWith "SIG" then String.ofList (name.toList.drop 3) else name
  let numbers := [("HUP", 1), ("INT", 2), ("QUIT", 3), ("ILL", 4), ("TRAP", 5), ("ABRT", 6),
    ("BUS", 7), ("FPE", 8), ("KILL", 9), ("USR1", 10), ("SEGV", 11), ("USR2", 12), ("PIPE", 13),
    ("ALRM", 14), ("TERM", 15), ("STKFLT", 16), ("CHLD", 17), ("CONT", 18), ("STOP", 19),
    ("TSTP", 20), ("TTIN", 21), ("TTOU", 22), ("URG", 23), ("XCPU", 24), ("XFSZ", 25),
    ("VTALRM", 26), ("PROF", 27), ("WINCH", 28), ("IO", 29), ("PWR", 30), ("SYS", 31)]
  (numbers.lookup name).or name.toNat?

/-- Signals that end no process. -/
def harmlessSignals : List Nat := [0, 17, 18, 19, 20, 21, 22, 23, 28]

def killCommand (arguments : List String) : Shell Nat := do
  let (signal, targets) := match arguments with
    | "-s" :: name :: rest | "-n" :: name :: rest => (signalNumber? name, rest)
    | word :: rest =>
      match word.toList with
      | '-' :: name => (signalNumber? (String.ofList name), rest)
      | _ => (some 15, word :: rest)
    | [] => (none, [])
  match signal with
  | none =>
    complainShell "kill: Illegal option"
    return 2
  | some signal =>
    if !targets.all (· = processNumber) ∨ targets.isEmpty then
      complainShell "kill: No such process"
      return 1
    if !harmlessSignals.contains signal then
      modify fun state => { state with flow := .killed signal }
    return 0

def trapCommand (arguments : List String) : Shell Nat := do
  match arguments with
  | action :: signals =>
    let text := if action = "-" then "" else action
    if signals.any fun signal => signal = "EXIT" || signal = "0" then
      modify fun state => { state with farewell := text }
  | [] => pure ()
  return 0

/-- The commands by their names. -/
def builtin? (name : String) : Option (List String → Shell Nat) :=
  match name with
  | ":" | "true" | "wait" | "times" | "ulimit" | "hash" | "alias" | "unalias" | "jobs" =>
    some fun _ => return 0
  | "false" => some fun _ => return 1
  | "umask" => some fun arguments => do
    if arguments.isEmpty then say "0022\n"
    return 0
  | "echo" => some echoCommand
  | "printf" => some printCommand
  | "test" | "[" => some (testCommand name)
  | "cd" | "chdir" => some changeDirectory
  | "pwd" => some fun _ => do
    say ((((← get).valueOf? "PWD").getD ".") ++ "\n")
    return 0
  | "read" => some readCommandLine
  | "set" => some fun arguments => setCommand (arguments.length + 1) arguments
  | "shift" => some shiftCommand
  | "export" => some (declareNames "export" fun name state =>
      { state with exported := name :: state.exported })
  | "readonly" => some (declareNames "readonly" fun name state =>
      { state with locked := name :: state.locked })
  | "unset" => some unsetCommand
  | "local" => some localCommand
  | "exit" => some (leaveCommand .exited)
  | "return" => some (leaveCommand .returned)
  | "break" => some (loopCommand .breaking)
  | "continue" => some (loopCommand .continuing)
  | "kill" => some killCommand
  | "trap" => some trapCommand
  | _ => none

/-- Commands of a shell that are programs of their own, too. -/
def programTwin? (name : String) : Option (List String → Shell Nat) :=
  match name with
  | "echo" => some echoProgram
  | "printf" | "test" | "[" | "true" | "false" | "pwd" | "kill" => builtin? name
  | _ => none

end HeaderBindings
