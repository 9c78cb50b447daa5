import HeaderBindings.Shell.Filter

/-!
Scripts that edit a text line by line. Each command can be kept to some lines by addresses; the
line that is edited is printed at the end of the script, unless that is left to the script.
-/

namespace HeaderBindings

inductive LineAddress where
  | number (line : Nat)
  | stepped (first step : Nat)
  | last
  | matching (regex : Regex) (ignoring : Bool)
  /-- As many lines more. -/
  | further (count : Nat)

/-- A part of a replacement; group nought is all that was found. -/
inductive ReplacementPart where
  | char (c : Char)
  | group (number : Nat)
  deriving DecidableEq, Repr

/-- Where the text of a command goes. -/
inductive TextPlace where
  | before
  | behind
  | instead
  deriving DecidableEq, Repr

inductive EditAction where
  | substitute (regex : Regex) (ignoring : Bool) (replacement : List ReplacementPart)
      (first : Nat) (all prints : Bool)
  | exchange (old new : List Char)
  | text (place : TextPlace) (text : List Char)
  | readFile (path : String)
  | branch (ifChanged : Bool) (label : String)
  | label (name : String)
  | opening
  | closing
  /-- A command of one letter. -/
  | letter (c : Char)
  | quit (prints : Bool) (status : Nat)

structure EditCommand where
  first : Option LineAddress
  second : Option LineAddress
  negated : Bool
  action : EditAction

abbrev EditReader := StateT (List Char) Option

/-- The characters up to a delimiter, which a backslash quotes, without it. -/
def splitDelimited (delimiter : Char) : List Char → Option (List Char × List Char)
  | [] => none
  | '\\' :: c :: rest =>
    (splitDelimited delimiter rest).map fun (inner, left) =>
      if c = delimiter then (c :: inner, left) else ('\\' :: c :: inner, left)
  | c :: rest =>
    if c = delimiter then some ([], rest)
    else (splitDelimited delimiter rest).map fun (inner, left) => (c :: inner, left)

def skipEditGap : EditReader Unit :=
  modify (List.dropWhile fun c => c = ' ' || c = '\t')

def readEditNumber : EditReader Nat := do
  let (number, rest) := readCount (← get)
  set rest
  return number

/-- A regular expression behind its delimiter, with the flag for letters of either case. -/
def readEditRegex (extended : Bool) (delimiter : Char) : EditReader LineAddress := do
  let (inner, rest) ← splitDelimited delimiter (← get)
  let ignoring := rest.head? = some 'I'
  set (if ignoring then rest.drop 1 else rest)
  return .matching (.read extended (String.ofList inner)) ignoring

def readAddress? (extended : Bool) : EditReader (Option LineAddress) := do
  match ← get with
  | '$' :: rest =>
    set rest
    return some .last
  | '/' :: rest =>
    set rest
    return some (← readEditRegex extended '/')
  | '\\' :: c :: rest =>
    set rest
    return some (← readEditRegex extended c)
  | '+' :: rest =>
    set rest
    return some (.further (← readEditNumber))
  | c :: _ =>
    if !c.isDigit then return none
    let first ← readEditNumber
    match ← get with
    | '~' :: rest =>
      set rest
      return some (.stepped first (← readEditNumber))
    | _ => return some (.number first)
  | [] => return none

def readReplacement (text : List Char) : List ReplacementPart :=
  match text with
  | [] => []
  | '\\' :: c :: rest =>
    let part : ReplacementPart := if c.isDigit then .group (c.toNat - '0'.toNat)
      else match c with
        | 'n' => .char '\n'
        | 't' => .char '\t'
        | c => .char c
    part :: readReplacement rest
  | '&' :: rest => .group 0 :: readReplacement rest
  | c :: rest => .char c :: readReplacement rest

/-- The text of a command, up to the end of a line that no backslash continues. -/
def splitEditText : List Char → List Char × List Char
  | [] => ([], [])
  | '\\' :: c :: rest =>
    let (inner, left) := splitEditText rest
    (c :: inner, left)
  | '\n' :: rest => ([], rest)
  | c :: rest =>
    let (inner, left) := splitEditText rest
    (c :: inner, left)

def readSubstitution (extended : Bool) : EditReader EditAction := do
  match ← get with
  | [] => failure
  | delimiter :: rest =>
    let (old, rest) ← splitDelimited delimiter rest
    let (new, rest) ← splitDelimited delimiter rest
    let flags := rest.takeWhile fun c => c.isDigit || "gpiIe".toList.contains c
    set (rest.drop flags.length)
    let (number, _) := readCount (flags.dropWhile (!Char.isDigit ·))
    let ignoring := flags.contains 'i' || flags.contains 'I'
    return .substitute (.read extended (String.ofList old)) ignoring (readReplacement new)
      (max number 1) (flags.contains 'g') (flags.contains 'p')

def readAction (extended : Bool) : EditReader EditAction := do
  match ← get with
  | [] => failure
  | c :: rest =>
    set rest
    let word : EditReader String := do
      skipEditGap
      let text ← get
      let word := text.takeWhile fun c => c ≠ ';' && c ≠ '\n' && c ≠ '\x7d'
      set (text.drop word.length)
      return (String.ofList word).trimAscii.toString
    match c with
    | 's' => readSubstitution extended
    | 'y' =>
      match ← get with
      | [] => failure
      | delimiter :: rest =>
        let (old, rest) ← splitDelimited delimiter rest
        let (new, rest) ← splitDelimited delimiter rest
        set rest
        return .exchange (charSet (String.ofList old)) (charSet (String.ofList new))
    | 'a' | 'i' | 'c' =>
      skipEditGap
      let text ← get
      let text := match text with
        | '\\' :: rest =>
          match rest.dropWhile (· = ' ') with
          | '\n' :: rest => rest
          | rest => rest
        | text => text
      let (inner, left) := splitEditText text
      set left
      let place := if c = 'a' then TextPlace.behind else if c = 'i' then .before else .instead
      return .text place (inner ++ ['\n'])
    | 'r' => return .readFile (← word)
    | 'b' => return .branch false (← word)
    | 't' => return .branch true (← word)
    | ':' => return .label (← word)
    | '\x7b' => return .opening
    | '\x7d' => return .closing
    | 'q' | 'Q' =>
      skipEditGap
      return .quit (c = 'q') (← readEditNumber)
    | c => if "dDpPnNhHgGx=lz".toList.contains c then return .letter c else failure

/-- The commands of a script. -/
def readEdits (extended : Bool) (fuel : Nat) : EditReader (List EditCommand) := do
  match fuel with
  | 0 => return []
  | fuel + 1 =>
    modify (List.dropWhile fun c => c = ' ' || c = '\t' || c = '\n' || c = ';')
    match ← get with
    | [] => return []
    | '#' :: rest =>
      set (rest.dropWhile (· ≠ '\n'))
      readEdits extended fuel
    | _ =>
      let first ← readAddress? extended
      skipEditGap
      let second ← match first, (← get) with
        | some _, ',' :: rest => do
          set rest
          skipEditGap
          match ← readAddress? extended with
          | some second => pure (some second)
          | none => failure
        | _, _ => pure none
      skipEditGap
      let negated ← match ← get with
        | '!' :: rest => do
          set rest
          skipEditGap
          pure true
        | _ => pure false
      let action ← readAction extended
      skipEditGap
      match action, (← get) with
      | .opening, _ | .text _ _, _ | _, [] | _, ';' :: _ | _, '\n' :: _ | _, '\x7d' :: _
      | _, '#' :: _ => pure ()
      | _, _ => failure
      return ⟨first, second, negated, action⟩ :: (← readEdits extended fuel)

/-- A script that is carried out. -/
structure EditState where
  ahead : List (List Char)
  number : Nat
  line : List Char
  hold : List Char
  /-- What is printed, last piece first. -/
  printed : List (List Char)
  /-- What is printed behind the line. -/
  behind : List Char
  changed : Bool
  /-- The commands whose ranges are open, with the lines where they end if that is known. -/
  started : List (Nat × Option Nat)
  status : Option Nat

def LineAddress.fits (address : LineAddress) (state : EditState) : Bool :=
  match address with
  | .number line => state.number = line
  | .stepped first step =>
    if step = 0 then state.number = first
    else first ≤ state.number && (state.number - first) % step = 0
  | .last => state.ahead.isEmpty
  | .matching regex ignoring => (regex.find? ignoring state.line 0).isSome
  | .further _ => false

/-- Whether a command is meant for the line, and which ranges are open then. -/
def EditCommand.applies (command : EditCommand) (place : Nat) (state : EditState) :
    Bool × List (Nat × Option Nat) :=
  let others := state.started.filter (·.1 ≠ place)
  let (applies, ranges) := match command.first, command.second with
    | none, _ => (true, state.started)
    | some first, none => (first.fits state, state.started)
    | some first, some second =>
      match state.started.lookup place with
      | some (some last) =>
        if state.number < last then (true, state.started)
        else (state.number = last, others)
      | some none => (true, if second.fits state then others else state.started)
      | none =>
        if !first.fits state then (false, state.started)
        else match second with
          | .number last =>
            (true, if last ≤ state.number then others else (place, some last) :: others)
          | .further count =>
            (true, if count = 0 then others else (place, some (state.number + count)) :: others)
          | _ => (true, (place, none) :: others)
  (applies != command.negated, ranges)

/-- The text that replaces a match. -/
def fillReplacement (parts : List ReplacementPart) (line : List Char) (start stop : Nat)
    (captures : Captures) : List Char :=
  parts.flatMap fun part =>
    match part with
    | .char c => [c]
    | .group 0 => (line.drop start).take (stop - start)
    | .group number =>
      match captures.lookup number with
      | some (start, stop) => (line.drop start).take (stop - start)
      | none => []

/-- A line with its matches from a place on replaced, and whether any was. -/
def substituteIn (regex : Regex) (ignoring : Bool) (parts : List ReplacementPart) (all : Bool)
    (skipped : Nat) (line : List Char) (start : Nat) (justMatched : Bool) (fuel : Nat) :
    List Char × Bool :=
  match fuel with
  | 0 => (line.drop start, false)
  | fuel + 1 =>
    match regex.find? ignoring line start with
    | none => (line.drop start, false)
    | some (first, stop, captures) =>
      let before := (line.drop start).take (first - start)
      let next := (line.drop stop).take (if first = stop then 1 else 0)
      let onward := if first = stop then stop + 1 else stop
      let again (skipped : Nat) : List Char × Bool :=
        if line.length < onward then ([], false)
        else substituteIn regex ignoring parts all skipped line onward (first ≠ stop) fuel
      if first = stop ∧ first = start ∧ justMatched then
        let (rest, changed) := again skipped
        (before ++ next ++ rest, changed)
      else if 0 < skipped then
        let kept := (line.drop first).take (stop - first)
        let (rest, changed) := again (skipped - 1)
        (before ++ kept ++ next ++ rest, changed)
      else
        let new := fillReplacement parts line first stop captures
        if all then (before ++ new ++ next ++ (again 0).1, true)
        else (before ++ new ++ line.drop stop, true)

def EditState.print (state : EditState) (text : List Char) : EditState :=
  { state with printed := text :: state.printed }

/-- Ends the work on a line. -/
def EditState.finishLine (state : EditState) (silent : Bool) : EditState :=
  let state := if silent then state else state.print (state.line ++ ['\n'])
  { (state.print state.behind) with behind := [] }

/-- Goes on with the next line. -/
def EditState.advance (state : EditState) : EditState :=
  { state with
    ahead := state.ahead.drop 1
    number := state.number + 1
    line := state.ahead.headD [] }

/-- The place behind the closing brace that belongs to the brace before a place. -/
def placeBehindGroup (commands : List EditCommand) (depth place : Nat) : Nat :=
  match commands with
  | [] => place
  | command :: rest =>
    match command.action with
    | .opening => placeBehindGroup rest (depth + 1) (place + 1)
    | .closing => if depth = 0 then place + 1 else placeBehindGroup rest (depth - 1) (place + 1)
    | _ => placeBehindGroup rest depth (place + 1)

/-- Where a script goes on at a label; without a name that is its end. -/
def placeOfLabel (commands : List EditCommand) (name : String) : Nat :=
  (commands.findIdx? fun command =>
    match command.action with
    | .label label => name ≠ "" && label = name
    | _ => false).getD commands.length

/-- Carries out a script from a place on, for all lines. -/
def runEdits (silent : Bool) (files : String → List Char) (commands : List EditCommand)
    (place : Nat) (state : EditState) (fuel : Nat) : EditState :=
  match fuel with
  | 0 => state
  | fuel + 1 =>
    let go (place : Nat) (state : EditState) : EditState :=
      runEdits silent files commands place state fuel
    let nextLine (state : EditState) : EditState :=
      if state.ahead.isEmpty then state else go 0 { state.advance with changed := false }
    match commands[place]? with
    | none => nextLine (state.finishLine silent)
    | some command =>
      let (applies, ranges) := command.applies place state
      let state := { state with started := ranges }
      if !applies then
        match command.action with
        | .opening => go (placeBehindGroup (commands.drop (place + 1)) 0 (place + 1)) state
        | _ => go (place + 1) state
      else
        let after := place + 1
        let firstEnd := state.line.takeWhile (· ≠ '\n')
        match command.action with
        | .substitute regex ignoring parts first all prints =>
          let (line, changed) := substituteIn regex ignoring parts all (first - 1) state.line 0
            false (2 * state.line.length + 4)
          let state := { state with
            line := if changed then line else state.line
            changed := state.changed || changed }
          go after (if changed ∧ prints then state.print (state.line ++ ['\n']) else state)
        | .exchange old new =>
          go after { state with line := state.line.map (exchangeChar false old new) }
        | .text .before text => go after (state.print text)
        | .text .behind text => go after { state with behind := state.behind ++ text }
        | .text .instead text =>
          let within := command.second.isSome && !command.negated &&
            (ranges.lookup place).isSome && !state.ahead.isEmpty
          nextLine (if within then state else state.print text)
        | .readFile path => go after { state with behind := state.behind ++ files path }
        | .branch ifChanged label =>
          if ifChanged ∧ !state.changed then go after state
          else go (placeOfLabel commands label) { state with
            changed := if ifChanged then false else state.changed }
        | .label _ | .opening | .closing => go after state
        | .quit prints status =>
          { (if prints then state.finishLine silent else state) with status := some status }
        | .letter c =>
          match c with
          | 'd' => nextLine { (state.print state.behind) with behind := [] }
          | 'D' =>
            if state.line.contains '\n' then
              let state := { (state.print state.behind) with behind := [] }
              go 0 { state with line := state.line.drop (firstEnd.length + 1) }
            else nextLine { (state.print state.behind) with behind := [] }
          | 'p' => go after (state.print (state.line ++ ['\n']))
          | 'P' => go after (state.print (firstEnd ++ ['\n']))
          | 'n' =>
            if state.ahead.isEmpty then state.finishLine silent
            else go after (state.finishLine silent).advance
          | 'N' =>
            if state.ahead.isEmpty then state.finishLine silent
            else
              let line := state.line
              let state := state.advance
              go after { state with line := line ++ '\n' :: state.line }
          | 'h' => go after { state with hold := state.line }
          | 'H' => go after { state with hold := state.hold ++ '\n' :: state.line }
          | 'g' => go after { state with line := state.hold }
          | 'G' => go after { state with line := state.line ++ '\n' :: state.hold }
          | 'x' => go after { state with line := state.hold, hold := state.line }
          | 'z' => go after { state with line := [] }
          | '=' => go after (state.print ((toString state.number).toList ++ ['\n']))
          | _ => go after (state.print (state.line ++ ['$', '\n']))

/-- A text edited by a script, with the status that the script ends with. -/
def editText (silent extended : Bool) (script : String) (files : String → List Char)
    (text : List Char) : Option (List Char × Nat) := do
  let (commands, _) ← (readEdits extended (script.length + 1)).run script.toList
  let lines := bareLines text
  if lines.isEmpty then return ([], 0)
  let start : EditState := ⟨lines, 0, [], [], [], [], false, [], none⟩
  let fuel := (lines.length + 4) * (commands.length + 4) * 16
  let final := runEdits silent files commands 0 start.advance fuel
  let output := final.printed.reverse.flatten
  let whole := text.getLast? = some '\n' || final.status.isSome && !final.ahead.isEmpty
  return (if whole then output else output.dropLast, final.status.getD 0)

end HeaderBindings
