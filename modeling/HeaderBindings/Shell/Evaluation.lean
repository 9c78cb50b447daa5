import HeaderBindings.Shell.Builtin
import HeaderBindings.Shell.Field
import HeaderBindings.Shell.Utility

/-!
Running the commands of a shell. The commands of a pipeline run one after the other, each as a shell
of its own that starts with what the last one has written.
-/

namespace HeaderBindings

def isRunning : Shell Bool := return (← get).flow = .running

/-- Whether a word runs commands for their output. -/
def runsCommands (parts : List WordPart) : Bool :=
  parts.any fun part =>
    match part with
    | .output _ _ => true
    | _ => false

/-- The files of a redirection, opened: the number of the stream, or what is wrong. -/
def openTarget (kind : RedirectionKind) (path : String) :
    Shell (Except String (Option Nat)) := do
  let state ← get
  if let some descriptor := state.descriptor? path then
    return .ok (state.descriptors.lookup descriptor)
  match kind with
  | .input =>
    match state.find path with
    | .directory _ =>
      let (number, state) := state.addStream (.source [])
      set state
      return .ok (some number)
    | found =>
      match found.file? with
      | .ok (_, text) =>
        let (number, state) := state.addStream (.source (bytesOfText text).toList)
        set state
        return .ok (some number)
      | .error _ => return .error ("cannot open " ++ path ++ ": No such file")
  | kind =>
    let old := match state.read path with
      | .ok text => text
      | .error _ => ""
    match state.write path (if kind = .output then "" else old) with
    | .error error => return .error ("cannot create " ++ path ++ ": " ++ error.text)
    | .ok state =>
      match state.find path with
      | .file place _ =>
        let (number, state) := state.addStream (.file place 0 (kind = .append))
        set state
        return .ok (some number)
      | _ => return .error ("cannot create " ++ path ++ ": Directory nonexistent")

/-- The stream for a descriptor that is copied; a dash stands for none. -/
def copyTarget (name : String) : Shell (Except String (Option Nat)) := do
  if name = "-" then return .ok none
  let state ← get
  match name.toNat?.bind fun descriptor => state.descriptors.lookup descriptor with
  | some number => return .ok (some number)
  | none => return .error (name ++ ": Bad file descriptor")

/-- Assigns to a variable that may be locked. -/
def assignChecked (name value : String) : Shell Unit := do
  if (← get).locked.contains name then abandon (name ++ ": is read only")
  else modify fun state => state.assign name value

/-- Where a program is found. -/
def programPath (name : String) : String := "/usr/bin/" ++ name

def systemFolders : List String :=
  ["/bin", "/usr/bin", "/usr/local/bin", "/sbin", "/usr/sbin", "/usr/local/sbin"]

/-- Programs that run other programs. -/
def runnerNames : List String :=
  ["sh", "dash", "bash", "env", "xargs", "nohup", "nice", "timeout", "time", "setsid", "stdbuf"]

def isProgram (name : String) : Bool :=
  (utility? name).isSome || (programTwin? name).isSome || runnerNames.contains name

/-- Ends a shell of its own inside another one: what it has changed is lost, but for the files, what
was written, and its status. -/
def ShellState.afterApart (outer inner : ShellState) : ShellState :=
  { outer with
    tree := inner.tree
    streams := inner.streams
    status := inner.status
    flow := match inner.flow with
      | .killed signal => .killed signal
      | _ => .running }

/-- What a program knows of a shell: the exported variables alone. -/
def ShellState.forProgram (state : ShellState) (name : String) (arguments : List String) :
    ShellState :=
  { state with
    name
    bindings := (state.bindings.filter fun entry => state.exported.contains entry.1) ++
      initialVariables.filter fun entry => entry.1 ≠ "PATH" && entry.1 ≠ "HOME"
    functions := []
    arguments
    options := []
    locked := []
    guarded := false
    farewell := ""
    flow := .running
    status := 0 }

mutual

/-- The glyphs of a part of a word, which are split if so wanted. -/
def expandPart (splits : Bool) (part : WordPart) (fuel : Nat) : Shell (List ShellGlyph) := do
  match fuel with
  | 0 => return []
  | fuel + 1 =>
    let given (text : String) (quoted : Bool) : Shell (List ShellGlyph) := do
      if quoted ∨ !splits then return quotedGlyphs text quoted
      else return splitGlyphs (← get).separators text.toList (text.length + 1)
    match part with
    | .text text quoted => return quotedGlyphs (String.ofList text) quoted
    | .quotes => return [.mark]
    | .output command quoted =>
      let text ← captureOutput command fuel
      let trimmed := (text.toList.reverse.dropWhile (· = '\n')).reverse
      given (String.ofList trimmed) quoted
    | .arithmetic formula quoted =>
      let text ← expandText formula fuel
      if !(← isRunning) then return []
      let state ← get
      match evaluateFormula state.bindings text with
      | .error message =>
        abandon ("arithmetic expression: " ++ message ++ ": \"" ++ text ++ "\"")
        return []
      | .ok (value, bindings) =>
        let new := bindings.take (bindings.length - state.bindings.length)
        set (new.foldr (fun (name, value) state => state.assign name value) state)
        given (toString value) quoted
    | .parameter name use word quoted =>
      let state ← get
      let value? := state.parameter? name
      let missing (whenEmpty : Bool) : Bool :=
        match value? with
        | none => true
        | some text => whenEmpty && text = ""
      let plain (text : String) : Shell (List ShellGlyph) := do
        if !splits then return quotedGlyphs text quoted
        match name, quoted with
        | "@", true =>
          let pieces := state.arguments.map fun argument =>
            ShellGlyph.mark :: quotedGlyphs argument true
          return (pieces.intersperse [.cut]).flatten
        | "@", false | "*", false =>
          let pieces ← state.arguments.mapM fun argument => given argument false
          return (pieces.intersperse [.gap]).flatten
        | _, _ => given text quoted
      let plainOrFail : Shell (List ShellGlyph) := do
        if value?.isNone ∧ state.options.contains 'u' ∧ !(["@", "*", "!"].contains name) then
          abandon (name ++ ": parameter not set")
          return []
        plain (value?.getD "")
      match use with
      | .value => plainOrFail
      | .length =>
        if value?.isNone ∧ state.options.contains 'u' then plainOrFail
        else given (toString (value?.getD "").length) quoted
      | .default whenEmpty =>
        if missing whenEmpty then expandParts splits word fuel else plain (value?.getD "")
      | .replace whenEmpty =>
        if missing whenEmpty then return [] else expandParts splits word fuel
      | .assign whenEmpty =>
        if missing whenEmpty then
          let text ← expandText word fuel
          if !isShellName name then
            abandon (name ++ ": bad variable name")
            return []
          assignChecked name text
          given text quoted
        else plain (value?.getD "")
      | .demand whenEmpty =>
        if missing whenEmpty then
          let text ← expandText word fuel
          abandon (name ++ ": " ++ if word.isEmpty then "parameter not set" else text)
          return []
        else plain (value?.getD "")
      | .trimStart longest =>
        let pattern ← expandPattern word fuel
        given (String.ofList (cutStart longest pattern (value?.getD "").toList)) quoted
      | .trimEnd longest =>
        let pattern ← expandPattern word fuel
        given (String.ofList (cutEnd longest pattern (value?.getD "").toList)) quoted

def expandParts (splits : Bool) (parts : List WordPart) (fuel : Nat) : Shell (List ShellGlyph) := do
  match fuel, parts with
  | 0, _ | _, [] => return []
  | fuel + 1, part :: rest =>
    let glyphs ← expandPart splits part fuel
    if !(← isRunning) then return []
    return glyphs ++ (← expandParts splits rest fuel)

/-- The text of a word that is neither split nor taken as a pattern. -/
def expandText (parts : List WordPart) (fuel : Nat) : Shell String := do
  match fuel with
  | 0 => return ""
  | fuel + 1 =>
    let field := (fieldsOf (← expandParts false parts fuel)).flatten
    return plainField field

def expandPattern (parts : List WordPart) (fuel : Nat) : Shell (List PatternPart) := do
  match fuel with
  | 0 => return []
  | fuel + 1 => return patternOf (fieldsOf (← expandParts false parts fuel)).flatten

/-- The fields of words, with files for patterns. -/
def expandWords (words : List (List WordPart)) (fuel : Nat) : Shell (List String) := do
  match fuel, words with
  | 0, _ | _, [] => return []
  | fuel + 1, word :: rest =>
    let homely := match word with
      | .text ['~'] false :: others =>
        match others with
        | [] | .text ['/'] false :: _ => true
        | _ => false
      | _ => false
    let word := if homely then .parameter "HOME" .value [] true :: word.drop 1 else word
    let fields := fieldsOf (← expandParts true word fuel)
    if !(← isRunning) then return []
    let state ← get
    let found := fields.flatMap state.matchField
    return found ++ (← expandWords rest fuel)

/-- Connects descriptors; the first thing that is wrong is told. -/
def redirect (redirections : List Redirection) (fuel : Nat) : Shell Bool := do
  match fuel, redirections with
  | 0, _ => return false
  | _, [] => return true
  | fuel + 1, .mk descriptor kind target :: rest =>
    let text ← expandText target fuel
    if !(← isRunning) then return false
    let opened ← match kind with
      | .hereText => do
        let (number, state) := (← get).addStream (.source text.toList)
        set state
        pure (.ok (some number))
      | .copy => copyTarget text
      | kind => openTarget kind text
    match opened with
    | .ok stream =>
      modify fun state => state.connect descriptor stream
      redirect rest fuel
    | .error message =>
      complainShell message
      return false

/-- What a command writes. -/
def captureOutput (command : ShellCommand) (fuel : Nat) : Shell String := do
  match fuel with
  | 0 => return ""
  | fuel + 1 =>
    let outer ← get
    let (number, state) := outer.addStream (.sink [])
    set (state.connect 1 (some number))
    runApart command fuel
    modify fun state => { state with descriptors := outer.descriptors }
    return (← get).collected number

/-- Runs a command in a shell of its own. -/
def runApart (command : ShellCommand) (fuel : Nat) : Shell Unit := do
  match fuel with
  | 0 => return
  | fuel + 1 =>
    let outer ← get
    set { outer with farewell := "" }
    execute command fuel
    sayFarewell fuel
    modify outer.afterApart

/-- Runs the commands that are kept for the end of a shell. -/
def sayFarewell (fuel : Nat) : Shell Unit := do
  match fuel with
  | 0 => return
  | fuel + 1 =>
    let state ← get
    let isKilled := match state.flow with
      | .killed _ => true
      | _ => false
    if state.farewell ≠ "" ∧ !isKilled then
      set { state with farewell := "", flow := .running }
      runScript state.farewell.toList fuel
      modify fun final =>
        match final.flow with
        | .exited => final
        | _ => { final with status := state.status, flow := state.flow }

/-- Commands of a pipeline, the first of which reads from a stream. -/
def runPipeline (commands : List ShellCommand) (input : Option Nat) (fuel : Nat) :
    Shell Unit := do
  match fuel, commands with
  | 0, _ | _, [] => return
  | fuel + 1, command :: rest =>
    let outer ← get
    if let some input := input then set (outer.connect 0 (some input))
    if rest.isEmpty then
      runApart command fuel
      modify fun state => { state with descriptors := outer.descriptors }
    else
      let (number, state) := (← get).addStream (.sink [])
      set (state.connect 1 (some number))
      runApart command fuel
      let text := (← get).collected number
      let (next, state) := (← get).addStream (.source text.toList)
      set { state with descriptors := outer.descriptors }
      if ← isRunning then runPipeline rest (some next) fuel

/-- Runs a command whose failure is only asked for. -/
def runGuarded (command : ShellCommand) (fuel : Nat) : Shell Unit := do
  match fuel with
  | 0 => return
  | fuel + 1 =>
    let guarded := (← get).guarded
    modify fun state => { state with guarded := true }
    execute command fuel
    modify fun state => { state with guarded }

/-- Ends one round of a loop; the answer is whether there can be a next one. -/
def endRound (fuel : Nat) : Shell Bool := do
  match fuel with
  | 0 => return false
  | _ + 1 =>
    let state ← get
    match state.flow with
    | .running => return true
    | .breaking levels =>
      set { state with flow := if levels ≤ 1 then .running else .breaking (levels - 1) }
      return false
    | .continuing levels =>
      set { state with flow := if levels ≤ 1 then .running else .continuing (levels - 1) }
      return levels ≤ 1
    | _ => return false

def runLoop (wanted : Bool) (test body : ShellCommand) (status : Nat) (fuel : Nat) :
    Shell Unit := do
  match fuel with
  | 0 => return
  | fuel + 1 =>
    runGuarded test fuel
    if !(← endRound fuel) then return
    if ((← get).status = 0) ≠ wanted then
      modify fun state => { state with status }
    else
      execute body fuel
      if ← endRound fuel then runLoop wanted test body (← get).status fuel

def runForEach (name : String) (values : List String) (body : ShellCommand) (fuel : Nat) :
    Shell Unit := do
  match fuel, values with
  | 0, _ | _, [] => return
  | fuel + 1, value :: rest =>
    assignChecked name value
    execute body fuel
    if ← endRound fuel then runForEach name rest body fuel

/-- Whether one of some patterns is that of a text. -/
def matchesAny (patterns : List (List WordPart)) (text : String) (fuel : Nat) : Shell Bool := do
  match fuel, patterns with
  | 0, _ | _, [] => return false
  | fuel + 1, pattern :: rest =>
    if patternMatches (← expandPattern pattern fuel) text.toList then return true
    matchesAny rest text fuel

def runBranches (subject : String) (branches : List (List (List WordPart) × ShellCommand))
    (fuel : Nat) : Shell Unit := do
  match fuel, branches with
  | 0, _ => return
  | _, [] => modify fun state => { state with status := 0 }
  | fuel + 1, (patterns, body) :: rest =>
    if ← matchesAny patterns subject fuel then
      modify fun state => { state with status := 0 }
      execute body fuel
    else runBranches subject rest fuel

def assignAll (assignments : List (String × List WordPart)) (fuel : Nat) : Shell Unit := do
  match fuel, assignments with
  | 0, _ | _, [] => return
  | fuel + 1, (name, value) :: rest =>
    let text ← expandText value fuel
    if ← isRunning then
      assignChecked name text
      assignAll rest fuel

/-- Ends the shell after a failure, if that is wanted. -/
def checkFailure (fuel : Nat) : Shell Unit := do
  match fuel with
  | 0 => return
  | _ + 1 =>
    let state ← get
    if state.options.contains 'e' ∧ !state.guarded ∧ state.status ≠ 0 ∧ state.flow = .running then
      set { state with flow := .exited }

def execute (command : ShellCommand) (fuel : Nat) : Shell Unit := do
  match fuel with
  | 0 => return
  | fuel + 1 =>
    if !(← isRunning) then return
    match command with
    | .nothing => return
    | .sequence first second =>
      execute first fuel
      execute second fuel
    | .both first second =>
      runGuarded first fuel
      if (← get).status = 0 then execute second fuel
    | .either first second =>
      runGuarded first fuel
      if (← get).status ≠ 0 then execute second fuel
    | .negation command =>
      runGuarded command fuel
      modify fun state => { state with status := if state.status = 0 then 1 else 0 }
    | .subshell command =>
      runApart command fuel
      checkFailure fuel
    | .background command =>
      runApart command fuel
      modify fun state => { state with status := 0 }
    | .pipeline commands =>
      runPipeline commands none fuel
      checkFailure fuel
    | .conditional test body otherwise =>
      runGuarded test fuel
      if ← isRunning then
        if (← get).status = 0 then execute body fuel
        else
          modify fun state => { state with status := 0 }
          execute otherwise fuel
    | .loop wanted test body => runLoop wanted test body 0 fuel
    | .forEach name words body =>
      let values ← match words with
        | some words => expandWords words fuel
        | none => pure (← get).arguments
      modify fun state => { state with status := 0 }
      if ← isRunning then runForEach name values body fuel
    | .choice subject branches =>
      let text ← expandText subject fuel
      if ← isRunning then runBranches text branches fuel
    | .define name body =>
      modify fun state => { state with
        functions := (name, body) :: state.functions.filter (·.1 ≠ name)
        status := 0 }
    | .redirected command [] => execute command fuel
    | .redirected command redirections =>
      let outer ← get
      if ← redirect redirections fuel then execute command fuel
      else modify fun state => { state with status := 2 }
      modify fun state => { state with descriptors := outer.descriptors }
    | .basic assignments words redirections =>
      let outer ← get
      let fields ← expandWords words fuel
      if !(← isRunning) then return
      if fields.isEmpty then
        if !(words ++ assignments.map Prod.snd).any runsCommands then
          modify fun state => { state with status := 0 }
        if ← redirect redirections fuel then assignAll assignments fuel
        else modify fun state => { state with status := 2 }
      else
        let name := fields.headD ""
        let lasting := specialCommands.contains name
        let redirected ← redirect redirections fuel
        if !redirected then
          modify fun state => { state with
            status := 2
            flow := if lasting ∧ state.flow = .running then .exited else state.flow }
        else
          assignAll assignments fuel
          if ← isRunning then
            let names := assignments.map Prod.fst
            if !lasting then modify fun state => { state with exported := names ++ state.exported }
            if (← get).options.contains 'x' then
              complain (((← get).valueOf? "PS4").getD "+ " ++ String.intercalate " " fields)
            runWords fields fuel
            if !lasting ∧ !names.isEmpty then
              modify fun state =>
                let state := { state with exported := outer.exported }
                names.foldl (fun state name =>
                  match outer.valueOf? name with
                  | some value => state.assign name value
                  | none => state.unset name) state
      let keeps := fields = ["exec"]
      if !keeps then modify fun state => { state with descriptors := outer.descriptors }
      checkFailure fuel

/-- Runs a program in a place of its own, without what only the shell knows. -/
def runProgramNamed (name : String) (arguments : List String) (fuel : Nat) : Shell Unit := do
  match fuel with
  | 0 => return
  | fuel + 1 =>
    let finish (status : Nat) : Shell Unit := modify fun state => { state with status }
    let base := lastPart name
    let inPath := !name.toList.contains '/'
    let inSystem := !inPath && systemFolders.contains (firstParts name)
    if inPath ∨ inSystem then
      if runnerNames.contains base then runRunner base arguments fuel
      else match (utility? base).or (programTwin? base) with
        | some program => finish (← program arguments)
        | none =>
          complainShell (name ++ ": not found")
          finish 127
    else
      match (← get).find name with
      | .file _ _ | .directory _ =>
        complainShell (name ++ ": Permission denied")
        finish 126
      | _ =>
        complainShell (name ++ ": not found")
        finish 127

/-- Runs a program whose arguments name another one. -/
def runRunner (name : String) (arguments : List String) (fuel : Nat) : Shell Unit := do
  match fuel with
  | 0 => return
  | fuel + 1 =>
    match name with
    | "sh" | "dash" | "bash" => runInner name arguments [] fuel
    | "env" =>
      let isEmpty := arguments.head? = some "-i" || arguments.head? = some "-"
      let arguments := if isEmpty then arguments.drop 1 else arguments
      let outer ← get
      if isEmpty then set { outer with exported := [] }
      runEnvironment arguments fuel
      modify fun state => { state with exported := outer.exported, bindings := outer.bindings }
    | "xargs" =>
      let text ← takeInput
      match arguments with
      | "-I" :: mark :: words =>
        runEachLine mark words (bareLines text) fuel
      | arguments =>
        let arguments := arguments.dropWhile fun word => word = "-r" || word = "-0"
        let splitWords := (words (text.map fun c => if c = Char.ofNat 0 then ' ' else c))
        let given := splitWords.map String.ofList
        match arguments with
        | "-n" :: count :: words =>
          runChunks (max 1 ((count.toNat?).getD 1)) words given fuel
        | [] => runProgramNamed "echo" given fuel
        | program :: rest => runProgramNamed program (rest ++ given) fuel
      modify fun state => { state with
        status := if state.status = 0 ∨ 126 ≤ state.status then state.status else 123 }
    | "timeout" =>
      match arguments with
      | _ :: program :: rest => runProgramNamed program rest fuel
      | _ => modify fun state => { state with status := 125 }
    | _ =>
      match arguments with
      | program :: rest => runProgramNamed program rest fuel
      | [] => modify fun state => { state with status := 125 }

/-- Runs a program for each line, which stands in place of a mark. -/
def runEachLine (mark : String) (words : List String) (lines : List (List Char)) (fuel : Nat) :
    Shell Unit := do
  match fuel, lines with
  | 0, _ | _, [] => return
  | fuel + 1, line :: rest =>
    let filled := words.map fun word => String.ofList (replaceAll mark.toList line word.toList)
    match filled with
    | program :: others => runProgramNamed program others fuel
    | [] => pure ()
    runEachLine mark words rest fuel

/-- Runs a program with a few arguments at a time. -/
def runChunks (count : Nat) (words given : List String) (fuel : Nat) : Shell Unit := do
  match fuel, given with
  | 0, _ | _, [] => return
  | fuel + 1, given =>
    match words with
    | program :: others => runProgramNamed program (others ++ given.take count) fuel
    | [] => runProgramNamed "echo" (given.take count) fuel
    runChunks count words (given.drop count) fuel

/-- Sets variables for a program, and runs it. -/
def runEnvironment (arguments : List String) (fuel : Nat) : Shell Unit := do
  match fuel, arguments with
  | 0, _ => return
  | _, [] =>
    let status ← environmentProgram []
    modify fun state => { state with status }
  | fuel + 1, "-u" :: name :: rest =>
    modify fun state => state.unset name
    runEnvironment rest fuel
  | fuel + 1, word :: rest =>
    match splitAssignment word with
    | (name, some value) =>
      modify fun state =>
        let state := state.assign name value
        { state with exported := name :: state.exported }
      runEnvironment rest fuel
    | (_, none) => runProgramNamed word rest fuel

/-- Another shell, with its options in front of its arguments. -/
def runInner (name : String) (arguments : List String) (options : List Char) (fuel : Nat) :
    Shell Unit := do
  match fuel with
  | 0 => return
  | fuel + 1 =>
    let start (script name : String) (arguments : List String) : Shell Unit := do
      let outer ← get
      let inner := outer.forProgram name arguments
      set { inner with options := options.filter (· ≠ 'c') }
      runScript script.toList fuel
      sayFarewell fuel
      modify outer.afterApart
    match arguments with
    | word :: rest =>
      match word.toList with
      | '-' :: letter :: letters =>
        runInner name rest (options ++ (letter :: letters).filter (· ≠ '-')) fuel
      | _ =>
        if options.contains 'c' then start word (rest.headD name) (rest.drop 1)
        else if options.contains 's' then do
          let text ← takeInput
          start (String.ofList text) name (word :: rest)
        else match (← get).read word with
          | .ok text => start text word rest
          | .error error =>
            complainShell ("0: cannot open " ++ word ++ ": " ++ error.text)
            modify fun state => { state with status := 2 }
    | [] =>
      if options.contains 'c' then
        complainShell "-c requires an argument"
        modify fun state => { state with status := 2 }
      else
        let text ← takeInput
        start (String.ofList text) name []

/-- Runs a command that is given by its fields. -/
def runWords (fields : List String) (fuel : Nat) : Shell Unit := do
  match fuel, fields with
  | 0, _ | _, [] => return
  | fuel + 1, name :: arguments =>
    let finish (status : Nat) : Shell Unit := modify fun state => { state with status }
    let state ← get
    match name, state.functions.lookup name with
    | "eval", _ =>
      finish 0
      runScript (String.intercalate " " arguments).toList fuel
    | "exec", _ =>
      if !arguments.isEmpty then
        runProgramNamed (arguments.headD "") (arguments.drop 1) fuel
        modify fun state => { state with
          flow := if state.flow = .running then .exited else state.flow
          farewell := "" }
    | ".", _ =>
      let path := arguments.headD ""
      match state.read path with
      | .ok text =>
        if path.toList.contains '/' then
          finish 0
          runScript text.toList fuel
          modify fun state => { state with
            flow := if state.flow = .returned then .running else state.flow }
        else abandon (".: " ++ path ++ ": not found")
      | .error _ => abandon (".: cannot open " ++ path ++ ": No such file")
    | "command", _ =>
      match arguments with
      | [] => finish 0
      | "-v" :: names | "-V" :: names =>
        let found := names.filter fun name =>
          (builtin? name).isSome || isProgram name || specialCommands.contains name
            || (state.functions.lookup name).isSome
        found.forM fun name => say ((if (builtin? name).isSome
          || specialCommands.contains name || (state.functions.lookup name).isSome then name
          else programPath name) ++ "\n")
        finish (if found.length = names.length then 0 else 127)
      | "-p" :: rest => runWords ("command" :: rest) fuel
      | rest =>
        modify fun state => { state with functions := [] }
        runWords rest fuel
        modify fun inner => { inner with functions := state.functions }
    | "type", none | "which", none =>
      let found := arguments.filter fun name => (builtin? name).isSome || isProgram name
      found.forM fun item =>
        if name = "which" then say (programPath item ++ "\n")
        else if (builtin? item).isSome then say (item ++ " is a shell builtin\n")
        else say (item ++ " is " ++ programPath item ++ "\n")
      finish (if found.length = arguments.length then 0 else if name = "type" then 127 else 1)
    | name, function =>
      match (if specialCommands.contains name then none else function), builtin? name with
      | some body, _ =>
        set { state with arguments, saved := [] }
        execute body fuel
        modify fun inner =>
          let restored := inner.saved.reverse.foldl (fun state (name, value) =>
            match value with
            | some value => state.assign name value
            | none => state.unset name) inner
          { restored with
            arguments := state.arguments
            saved := state.saved
            flow := if inner.flow = .returned then .running else inner.flow }
      | none, some builtin => finish (← builtin arguments)
      | none, none => runProgramNamed name arguments fuel

/-- Runs the commands of a text line by line. -/
def runScript (text : List Char) (fuel : Nat) : Shell Unit := do
  match fuel with
  | 0 => return
  | fuel + 1 =>
    if !(← isRunning) then return
    match readLine? text with
    | .error message => abandon ("Syntax error: " ++ message)
    | .ok none => return
    | .ok (some (command, rest)) =>
      execute command fuel
      runScript rest fuel

end

end HeaderBindings
