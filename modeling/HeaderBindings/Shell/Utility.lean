import HeaderBindings.Shell.Format
import HeaderBindings.Shell.State
import HeaderBindings.Shell.StreamEdit

/-!
The programs that every system has for files and for streams of text, as far as they run no other
programs. What a program gives back is its status.
-/

namespace HeaderBindings

/-- The arguments of a program: options, which can stand anywhere, and operands. -/
structure Invocation where
  options : List (Char × String)
  operands : List String

def Invocation.has (invocation : Invocation) (option : Char) : Bool :=
  invocation.options.any (·.1 = option)

/-- The last value of an option. -/
def Invocation.value? (invocation : Invocation) (option : Char) : Option String :=
  (invocation.options.reverse.lookup option)

/-- How the options of a program are written: the letters alone, the letters with values, and the
long names of letters. -/
structure OptionForm where
  plain : String
  valued : String
  long : List (String × Char)

/-- The options that one word holds behind its dash, and whether the last one needs the next word;
an unknown letter is an error. -/
def OptionForm.letters (form : OptionForm) : List Char → Except Char (List (Char × String) × Bool)
  | [] => .ok ([], false)
  | c :: rest =>
    if form.valued.toList.contains c then
      if rest.isEmpty then .ok ([(c, "")], true) else .ok ([(c, String.ofList rest)], false)
    else if form.plain.toList.contains c then
      (form.letters rest).map fun (options, open_) => ((c, "") :: options, open_)
    else .error c

def OptionForm.read (form : OptionForm) (fuel : Nat) (words : List String) :
    Except String Invocation :=
  match fuel, words with
  | 0, _ | _, [] => .ok ⟨[], []⟩
  | fuel + 1, word :: rest =>
    let add (options : List (Char × String)) (operands : List String) (left : List String) :
        Except String Invocation :=
      (form.read fuel left).map fun found =>
        ⟨options ++ found.options, operands ++ found.operands⟩
    match word.toList with
    | ['-', '-'] => .ok ⟨[], rest⟩
    | '-' :: '-' :: name =>
      let key := String.ofList (name.takeWhile (· ≠ '='))
      let value := name.drop (key.length + 1)
      match form.long.lookup key with
      | none => .error ("unrecognized option '" ++ word ++ "'")
      | some letter =>
        if form.valued.toList.contains letter ∧ !name.contains '=' then
          match rest with
          | value :: rest => add [(letter, value)] [] rest
          | [] => .error ("option '" ++ word ++ "' requires an argument")
        else add [(letter, String.ofList value)] [] rest
    | '-' :: c :: letters =>
      match form.letters (c :: letters) with
      | .error c => .error ("invalid option -- '" ++ String.singleton c ++ "'")
      | .ok (options, false) => add options [] rest
      | .ok (options, true) =>
        match rest with
        | value :: rest =>
          add (options.dropLast ++ (options.getLast?.toList.map fun option => (option.1, value)))
            [] rest
        | [] => .error ("option requires an argument -- '" ++ String.ofList (letters.drop
            (letters.length - 1)) ++ "'")
    | _ => add [] [word] rest

/-- Runs a program with its options, or gives the status for a wrong use. -/
def withOptions (name : String) (form : OptionForm) (wrong : Nat) (words : List String)
    (run : Invocation → Shell Nat) : Shell Nat := do
  match form.read (words.length + 1) words with
  | .ok invocation => run invocation
  | .error message =>
    complain (name ++ ": " ++ message)
    return wrong

def sayChars (text : List Char) : Shell Unit := say (String.ofList text)

/-- What is left of the standard input. -/
def takeInput : Shell (List Char) := modifyGet fun state =>
  let (text, state) := state.takeAll 0
  (text.toList, state)

/-- The text of a file, or of the standard input for a dash. -/
def readOperand? (name path : String) : Shell (Option (List Char)) := do
  if path = "-" ∨ (← get).descriptor? path = some 0 then return some (← takeInput)
  match (← get).read path with
  | .ok text => return some text.toList
  | .error error =>
    complain (name ++ ": " ++ path ++ ": " ++ error.text)
    return none

/-- The texts of files with their names; without any it is the standard input. -/
def readOperands (name : String) (paths : List String) : Shell (List (String × List Char) × Nat) := do
  let paths := if paths.isEmpty then ["-"] else paths
  let texts ← paths.filterMapM fun path => do
    return (← readOperand? name path).map fun text => (path, text)
  return (texts, if texts.length = paths.length then 0 else 1)

/-- A program that makes one text of all its inputs. -/
def filterOperands (name : String) (paths : List String) (filter : List Char → List Char) :
    Shell Nat := do
  let (texts, status) ← readOperands name paths
  sayChars (filter (texts.flatMap Prod.snd))
  return status

/-- Writes a file, or complains. -/
def writeOperand (name path : String) (text : List Char) : Shell Nat := do
  match (← get).write path (String.ofList text) with
  | .ok state =>
    set state
    return 0
  | .error error =>
    complain (name ++ ": " ++ path ++ ": " ++ error.text)
    return 1

/-- The first status that is no success. -/
def worst (statuses : List Nat) : Nat := (statuses.find? (· ≠ 0)).getD 0

/-! ### Parts of texts -/

/-- A text with the marks that show its lines, its ends, its tabs and its empty lines. -/
def showMarks (invocation : Invocation) (text : List Char) : List Char :=
  let has (options : String) : Bool := options.toList.any invocation.has
  let lines := endedLines text
  let lines := if has "s" then
      (lineRuns (fun a b => a = ['\n'] && b = ['\n']) lines).map Prod.fst
    else lines
  let (_, shown) := lines.foldl (fun (number, shown) line =>
    let counted := has "n" && !has "b" || has "b" && line ≠ ['\n']
    let digits := (toString number).toList
    let mark := if counted then List.replicate (6 - digits.length) ' ' ++ digits ++ ['\t'] else []
    let body := if has "AtT" then
        line.flatMap fun c => if c = '\t' then ['^', 'I'] else [c]
      else line
    let body := if has "AeE" && body.getLast? = some '\n' then body.dropLast ++ ['$', '\n'] else body
    (if counted then number + 1 else number, shown ++ mark ++ body)) (1, [])
  shown

def catProgram (words : List String) : Shell Nat :=
  let long := [("number", 'n'), ("show-ends", 'E'), ("show-all", 'A'), ("squeeze-blank", 's')]
  withOptions "cat" ⟨"AbeEnstTuv", "", long⟩ 1 words fun invocation =>
    filterOperands "cat" invocation.operands (showMarks invocation)

/-- A count with the sign in front of it, if there is one. -/
def signedCount? (text : String) : Option (Char × Nat) :=
  match text.toList with
  | '+' :: digits => (String.ofList digits).toNat?.map fun n => ('+', n)
  | '-' :: digits => (String.ofList digits).toNat?.map fun n => ('-', n)
  | digits => (String.ofList digits).toNat?.map fun n => (' ', n)

/-- The first word may be a count behind a dash. -/
def oldCount (words : List String) : List String :=
  match words with
  | word :: rest =>
    match word.toList with
    | '-' :: c :: digits =>
      if (c :: digits).all Char.isDigit then "-n" :: String.ofList (c :: digits) :: rest
      else words
    | _ => words
  | [] => []

def shareProgram (name : String) (share : Char × Nat → Share) (words : List String) : Shell Nat :=
  let long := [("lines", 'n'), ("bytes", 'c'), ("quiet", 'q'), ("silent", 'q'), ("verbose", 'v')]
  withOptions name ⟨"qvz", "nc", long⟩ 1 (oldCount words) fun invocation => do
    let bytes := invocation.value? 'c'
    match signedCount? (bytes.or (invocation.value? 'n') |>.getD "10") with
    | none =>
      complain (name ++ ": invalid number of lines")
      return 1
    | some count =>
      let (texts, status) ← readOperands name invocation.operands
      let titled := invocation.has 'v' ||
        (1 < invocation.operands.length && !invocation.has 'q')
      texts.zipIdx.forM fun ((path, text), index) => do
        if titled then
          let path := if path = "-" then "standard input" else path
          say ((if index = 0 then "" else "\n") ++ "==> " ++ path ++ " <==\n")
        sayChars (pickShare (share count) bytes.isNone text)
      return status

/-! ### Counts and orders -/

/-- How many lines, words and bytes a text has. -/
def textCounts (text : List Char) : List Nat :=
  [text.count '\n', (words text).length, text.length]

def countProgram (arguments : List String) : Shell Nat :=
  let long := [("lines", 'l'), ("words", 'w'), ("bytes", 'c'), ("chars", 'm')]
  withOptions "wc" ⟨"lwcm", "", long⟩ 1 arguments fun invocation => do
    let asked := [invocation.has 'l', invocation.has 'w', invocation.has 'c' || invocation.has 'm']
    let asked := if asked.all (!·) then [true, true, true] else asked
    let (texts, status) ← readOperands "wc" invocation.operands
    let rows := texts.map fun (path, text) => (path, textCounts text)
    let total := rows.foldl (fun sums row => List.zipWith (· + ·) sums row.2) [0, 0, 0]
    let rows := if 1 < invocation.operands.length then rows ++ [("total", total)] else rows
    let single := rows.length = 1 && asked.count true = 1
    let size := if invocation.operands.isEmpty || invocation.operands.contains "-" then 7
      else (toString (total.getD 2 0)).length
    rows.forM fun (path, counts) => do
      let numbers := (counts.zip asked).filterMap fun (count, wanted) =>
        if wanted then
          let digits := toString count
          let gap := if single then 0 else size - digits.length
          some (String.ofList (List.replicate gap ' ') ++ digits)
        else none
      let title := if invocation.operands.isEmpty then "" else " " ++ path
      say (String.intercalate " " numbers ++ title ++ "\n")
    return status

/-- The key of an order: fields, with letters that say how they are compared. -/
def readSortKey (text : String) : (Nat × Option Nat) × List Char :=
  let pieces := splitAtChar ',' text.toList
  let first := (readCount (pieces.headD [])).1
  let last := match pieces with
    | _ :: second :: _ => some (readCount second).1
    | _ => none
  ((max first 1, last), text.toList.filter Char.isAlpha)

def sortProgram (arguments : List String) : Shell Nat :=
  let long := [("reverse", 'r'), ("numeric-sort", 'n'), ("unique", 'u'), ("key", 'k'),
    ("field-separator", 't'), ("output", 'o'), ("ignore-case", 'f'), ("stable", 's')]
  withOptions "sort" ⟨"rnufbsgdiV", "kto", long⟩ 2 arguments fun invocation => do
    let key := (invocation.value? 'k').map readSortKey
    let has (c : Char) : Bool := invocation.has c || key.any fun key => key.2.contains c
    let order : LineOrder := ⟨has 'n', has 'f', has 'r',
      (invocation.value? 't').bind fun text => text.toList.head?, key.map Prod.fst⟩
    let (texts, status) ← readOperands "sort" invocation.operands
    if status ≠ 0 then return 2
    let sorted := endLines (order.sort (invocation.has 'u')
      (texts.flatMap fun (_, text) => bareLines text))
    match invocation.value? 'o' with
    | none =>
      sayChars sorted
      return 0
    | some path =>
      match (← get).write path (String.ofList sorted) with
      | .ok state =>
        set state
        return 0
      | .error _ => return 2

def uniqueProgram (arguments : List String) : Shell Nat :=
  let long := [("count", 'c'), ("repeated", 'd'), ("unique", 'u'), ("ignore-case", 'i')]
  withOptions "uniq" ⟨"cdui", "", long⟩ 1 arguments fun invocation =>
    filterOperands "uniq" (invocation.operands.take 1) fun text =>
      let same (a b : List Char) : Bool :=
        if invocation.has 'i' then a.map Char.toLower = b.map Char.toLower else a = b
      let runs := (lineRuns same (bareLines text)).filter fun run =>
        (!invocation.has 'd' || 1 < run.2) && (!invocation.has 'u' || run.2 = 1)
      endLines (runs.map fun (line, count) =>
        if invocation.has 'c' then
          let digits := (toString count).toList
          List.replicate (7 - digits.length) ' ' ++ digits ++ ' ' :: line
        else line)

/-! ### Parts of lines -/

def cutProgram (arguments : List String) : Shell Nat :=
  let long := [("delimiter", 'd'), ("fields", 'f'), ("characters", 'c'), ("bytes", 'b'),
    ("only-delimited", 's'), ("complement", 'C'), ("output-delimiter", 'O')]
  withOptions "cut" ⟨"snC", "dfcbO", long⟩ 1 arguments fun invocation => do
    let separator := ((invocation.value? 'd').bind fun text => text.toList.head?).getD '\t'
    let joint := ((invocation.value? 'O').map String.toList).getD [separator]
    let byChars := (invocation.value? 'c').or (invocation.value? 'b')
    match (byChars.or (invocation.value? 'f')).bind readPlaces? with
    | none =>
      complain "cut: you must specify a list of bytes, characters, or fields"
      return 1
    | some places =>
      filterOperands "cut" invocation.operands fun text =>
        endLines ((bareLines text).filterMap fun line =>
          if byChars.isSome then some (choosePlaces places (invocation.has 'C') line)
          else if invocation.has 's' ∧ !line.contains separator then none
          else some (cutFields places (invocation.has 'C') separator joint line))

def exchangeProgram (arguments : List String) : Shell Nat :=
  let long := [("delete", 'd'), ("squeeze-repeats", 's'), ("complement", 'c')]
  withOptions "tr" ⟨"dscCt", "", long⟩ 1 arguments fun invocation => do
    let complement := invocation.has 'c' || invocation.has 'C'
    let member (text : String) (c : Char) : Bool := (charSet text).contains c != complement
    match invocation.operands, invocation.has 'd', invocation.has 's' with
    | [first], true, false =>
      sayChars ((← takeInput).filter (!member first ·))
      return 0
    | [first], false, true =>
      sayChars (squeezeRuns (member first) (← takeInput))
      return 0
    | [first, second], true, true =>
      sayChars (squeezeRuns (charSet second).contains ((← takeInput).filter (!member first ·)))
      return 0
    | [first, second], false, squeezing =>
      let text := (← takeInput).map (exchangeChar complement (charSet first) (charSet second))
      sayChars (if squeezing then squeezeRuns (charSet second).contains text else text)
      return 0
    | _, _, _ =>
      complain "tr: missing operand"
      return 1

/-- Lines of several texts side by side. -/
def pasteColumns (joint : Char) (columns : List (List (List Char))) (fuel : Nat) :
    List (List Char) :=
  match fuel with
  | 0 => []
  | fuel + 1 =>
    if columns.all List.isEmpty then []
    else joinWith [joint] (columns.map fun column => column.headD []) ::
      pasteColumns joint (columns.map (List.drop 1)) fuel

def pasteProgram (arguments : List String) : Shell Nat :=
  withOptions "paste" ⟨"s", "d", [("serial", 's'), ("delimiters", 'd')]⟩ 1 arguments
    fun invocation => do
      let joint := ((invocation.value? 'd').bind fun text =>
        (charSet text).head?).getD '\t'
      let (texts, status) ← readOperands "paste" invocation.operands
      let columns := texts.map fun (_, text) => bareLines text
      let lines := if invocation.has 's' then columns.map (joinWith [joint])
        else pasteColumns joint columns (columns.flatten.length + 1)
      sayChars (endLines lines)
      return status

/-! ### Searches and scripts -/

def searchProgram (name : String) (kind : Char) (arguments : List String) : Shell Nat :=
  let long := [("invert-match", 'v'), ("ignore-case", 'i'), ("count", 'c'), ("quiet", 'q'),
    ("only-matching", 'o'), ("line-number", 'n'), ("fixed-strings", 'F'),
    ("extended-regexp", 'E'), ("word-regexp", 'w'), ("line-regexp", 'x'), ("regexp", 'e'),
    ("files-with-matches", 'l'), ("no-filename", 'h'), ("with-filename", 'H'), ("color", 'a')]
  withOptions name ⟨"EFGPvincloqhHswxa", "efmAB", long⟩ 2 arguments fun invocation => do
    let given := (invocation.options.filter (·.1 = 'e')).map Prod.snd
    let (patterns, paths) := if given.isEmpty then
        (invocation.operands.take 1, invocation.operands.drop 1)
      else (given, invocation.operands)
    if patterns.isEmpty then
      complain ("Usage: " ++ name ++ " [OPTION]... PATTERNS [FILE]...")
      return 2
    let has := invocation.has
    let patterns := patterns.flatMap fun pattern => splitAtChar '\n' pattern.toList
    let choices := patterns.map fun pattern =>
      let pattern := String.ofList pattern
      if has 'F' ∨ kind = 'F' then Regex.ofText pattern
      else .read (has 'E' || has 'P' || kind = 'E') pattern
    let search : LineSearch := ⟨choices, has 'i', has 'x', has 'w', has 'v'⟩
    let most := (invocation.value? 'm').bind String.toNat?
    let before := ((invocation.value? 'B').bind String.toNat?).getD 0
    let behind := ((invocation.value? 'A').bind String.toNat?).getD 0
    let (texts, status) ← readOperands name paths
    let titled := has 'H' || (1 < paths.length && !has 'h')
    let counts ← texts.mapM fun (path, text) => do
      let title := if titled then path ++ ":" else ""
      let lines := (bareLines text).zipIdx
      let found := lines.filter fun (line, _) => search.accepts line
      let found := match most with
        | some most => found.take most
        | none => found
      if has 'q' then pure ()
      else if has 'l' then if !found.isEmpty then say (path ++ "\n")
      else if has 'c' then say (title ++ toString found.length ++ "\n")
      else
        let near := lines.filter fun (_, index) =>
          found.any fun (_, place) => place ≤ index + before && index ≤ place + behind
        near.forM fun (line, index) => do
          let mark := if has 'n' then toString (index + 1) ++ ":" else ""
          let shown := if has 'o' then search.stretches line 0 (line.length + 2) else [line]
          shown.forM fun piece => say (title ++ mark ++ String.ofList piece ++ "\n")
      return found.length
    let any := counts.any (0 < ·)
    return if status ≠ 0 ∧ !(any && has 'q') then 2 else if any then 0 else 1

def editProgram (arguments : List String) : Shell Nat :=
  let asksInPlace (word : String) : Bool := word.startsWith "-i" || word.startsWith "--in-place"
  let inPlace := arguments.any asksInPlace
  let arguments := arguments.filter (!asksInPlace ·)
  let long := [("quiet", 'n'), ("silent", 'n'), ("expression", 'e'), ("regexp-extended", 'E'),
    ("file", 'f'), ("separate", 's'), ("unbuffered", 'u')]
  withOptions "sed" ⟨"nErsuz", "ef", long⟩ 1 arguments fun invocation => do
    let given ← invocation.options.filterMapM fun (letter, value) => do
      match letter with
      | 'e' => return some value
      | 'f' => return (← readOperand? "sed" value).map String.ofList
      | _ => return none
    let (scripts, paths) := if given.isEmpty then
        (invocation.operands.take 1, invocation.operands.drop 1)
      else (given, invocation.operands)
    if scripts.isEmpty then
      complain "Usage: sed [OPTION]... \x7bscript-only-if-no-other-script\x7d [input-file]..."
      return 1
    let script := String.intercalate "\n" scripts
    let (texts, status) ← readOperands "sed" paths
    let state ← get
    let files (path : String) : List Char :=
      match state.read path with
      | .ok text => text.toList
      | .error _ => []
    let extended := invocation.has 'E' || invocation.has 'r'
    let edit (text : List Char) : Option (List Char × Nat) :=
      editText (invocation.has 'n') extended script files text
    if inPlace then
      let statuses ← texts.mapM fun (path, text) => do
        match edit text with
        | some (text, _) => writeOperand "sed" path text
        | none => return 1
      return worst (statuses ++ [if status ≠ 0 then 2 else 0])
    match edit (texts.flatMap Prod.snd) with
    | none =>
      complain "sed: -e expression #1: unknown command"
      return 1
    | some (text, code) =>
      sayChars text
      return if code ≠ 0 then code else if status ≠ 0 then 2 else 0

/-! ### Files -/

/-- The part of a path behind its last slash, other slashes at its end left out. -/
def lastPart (path : String) : String :=
  let named := (path.toList.reverse.dropWhile (· = '/')).reverse
  if named.isEmpty then (if path = "" then "" else "/")
  else String.ofList (named.reverse.takeWhile (· ≠ '/')).reverse

/-- The part of a path before its last part. -/
def firstParts (path : String) : String :=
  let named := (path.toList.reverse.dropWhile (· = '/')).reverse
  let front := (named.reverse.dropWhile (· ≠ '/')).reverse
  let shortened := (front.reverse.dropWhile (· = '/')).reverse
  if !shortened.isEmpty then String.ofList shortened
  else if front.isEmpty ∧ !(named.isEmpty ∧ path ≠ "") then "." else "/"

def teeProgram (arguments : List String) : Shell Nat :=
  withOptions "tee" ⟨"ai", "", [("append", 'a')]⟩ 1 arguments fun invocation => do
    let text ← takeInput
    sayChars text
    let statuses ← invocation.operands.mapM fun path => do
      let old := match (← get).read path with
        | .ok old => if invocation.has 'a' then old.toList else []
        | .error _ => []
      writeOperand "tee" path (old ++ text)
    return worst statuses

def touchProgram (arguments : List String) : Shell Nat :=
  withOptions "touch" ⟨"acm", "rdt", []⟩ 1 arguments fun invocation => do
    let statuses ← invocation.operands.mapM fun path => do
      match (← get).find path with
      | .missing => writeOperand "touch" path []
      | _ => return 0
    return worst statuses

/-- The path of a file that is put to a place, which may be a directory. -/
def targetPath (state : ShellState) (source target : String) : String :=
  match state.find target with
  | .directory _ => target ++ "/" ++ lastPart source
  | _ => target

def removePath (path : String) : Shell Unit := modify fun state =>
  match state.find path with
  | .file place _ | .directory place => { state with tree := state.tree.remove place }
  | _ => state

def moveProgram (name : String) (removing : Bool) (arguments : List String) : Shell Nat :=
  withOptions name ⟨"afinprRTvu", "t", [("recursive", 'r'), ("force", 'f')]⟩ 1 arguments
    fun invocation => do
      match invocation.operands.reverse with
      | target :: first :: others =>
        let statuses ← (first :: others).reverse.mapM fun source => do
          match (← get).read source with
          | .error error =>
            complain (name ++ ": cannot stat '" ++ source ++ "': " ++ error.text)
            return 1
          | .ok text =>
            let target := targetPath (← get) source target
            let status ← writeOperand name target text.toList
            if removing ∧ status = 0 then removePath source
            return status
        return worst statuses
      | _ =>
        complain (name ++ ": missing file operand")
        return 1

def removeProgram (arguments : List String) : Shell Nat :=
  withOptions "rm" ⟨"rRfidv", "", [("recursive", 'r'), ("force", 'f')]⟩ 1 arguments
    fun invocation => do
      let statuses ← invocation.operands.mapM fun path => do
        match (← get).find path with
        | .file _ _ =>
          removePath path
          return 0
        | .directory _ =>
          if invocation.has 'r' ∨ invocation.has 'R' then
            removePath path
            return 0
          complain ("rm: cannot remove '" ++ path ++ "': Is a directory")
          return 1
        | other =>
          if invocation.has 'f' then return 0
          complain ("rm: cannot remove '" ++ path ++ "': " ++ other.error.text)
          return 1
      if invocation.operands.isEmpty ∧ !invocation.has 'f' then
        complain "rm: missing operand"
        return 1
      return worst statuses

/-- Makes a directory in one that is there. -/
def makeDirectoryAt (path : String) : Shell Nat := do
  let state ← get
  match state.find path with
  | .directory _ | .file _ _ =>
    complain ("mkdir: cannot create directory '" ++ path ++ "': File exists")
    return 1
  | other =>
    match state.find (firstParts path) with
    | .directory place =>
      let part := (textOfBytes (lastPart path)).toList
      set { state with tree := state.tree.makeDirectory (place ++ [part]) }
      return 0
    | _ =>
      complain ("mkdir: cannot create directory '" ++ path ++ "': " ++ other.error.text)
      return 1

/-- The starts of a path up to each of its parts. -/
def pathStarts (path : String) : List String :=
  let parts := splitAtChar '/' path.toList
  ((List.range parts.length).map fun count =>
    String.ofList (joinWith ['/'] (parts.take (count + 1)))).filter (· ≠ "")

def makeDirectoryProgram (arguments : List String) : Shell Nat :=
  withOptions "mkdir" ⟨"pv", "m", [("parents", 'p')]⟩ 1 arguments fun invocation => do
    let statuses ← invocation.operands.mapM fun path => do
      if invocation.has 'p' then
        let statuses ← (pathStarts path).mapM fun start => do
          match (← get).find start with
          | .directory _ => return 0
          | _ => makeDirectoryAt start
        return worst statuses
      else makeDirectoryAt path
    if invocation.operands.isEmpty then return 1
    return worst statuses

def removeDirectoryProgram (arguments : List String) : Shell Nat :=
  withOptions "rmdir" ⟨"pv", "", []⟩ 1 arguments fun invocation => do
    let statuses ← invocation.operands.mapM fun path => do
      match (← get).find path with
      | .directory place =>
        if (← get).tree.names place = [] then
          removePath path
          return 0
        complain ("rmdir: failed to remove '" ++ path ++ "': Directory not empty")
        return 1
      | other =>
        complain ("rmdir: failed to remove '" ++ path ++ "': " ++ other.error.text)
        return 1
    return worst statuses

def listProgram (arguments : List String) : Shell Nat :=
  withOptions "ls" ⟨"1aACdFhrtUp", "", [("all", 'a'), ("directory", 'd')]⟩ 2 arguments
    fun invocation => do
      let paths := if invocation.operands.isEmpty then ["."] else invocation.operands
      let order (names : List String) : List String :=
        let sorted := names.mergeSort fun a b => a ≤ b
        if invocation.has 'r' then sorted.reverse else sorted
      let state ← get
      let (found, missed) := (order paths).partition fun path =>
        match state.find path with
        | .file _ _ | .directory _ => true
        | _ => false
      missed.forM fun path => complain ("ls: cannot access '" ++ path ++ "': " ++
        (state.find path).error.text)
      let (folders, files) := found.partition fun path =>
        match state.find path with
        | .directory _ => !invocation.has 'd'
        | _ => false
      files.forM fun path => say (path ++ "\n")
      folders.zipIdx.forM fun (path, index) => do
        if 1 < paths.length then
          say ((if index = 0 && files.isEmpty then "" else "\n") ++ path ++ ":\n")
        if let .directory place := state.find path then
          let names := (state.tree.names place).map bytesOfText
          let names := names.filter fun name =>
            invocation.has 'a' || invocation.has 'A' || name.toList.head? ≠ some '.'
          let names := if invocation.has 'a' then "." :: ".." :: names else names
          (order names).forM fun name => say (name ++ "\n")
      return if missed.isEmpty then 0 else 2

/-- Which files a search among files finds. -/
structure FileSearch where
  name : Option (List PatternPart)
  wantsFolders : Option Bool
  depth : Nat

/-- The tests of a search among files. -/
def FileSearch.read? (search : FileSearch) (fuel : Nat) (words : List String) :
    Option FileSearch :=
  match fuel, words with
  | 0, _ => none
  | _, [] => some search
  | fuel + 1, "-name" :: pattern :: rest =>
    let parts := patternOf (pattern.toList.map fun c => (c, false))
    { search with name := some parts }.read? fuel rest
  | fuel + 1, "-type" :: kind :: rest =>
    { search with wantsFolders := some (kind = "d") }.read? fuel rest
  | fuel + 1, "-maxdepth" :: depth :: rest =>
    { search with depth := depth.toNat?.getD 0 }.read? fuel rest
  | fuel + 1, "-print" :: rest => search.read? fuel rest
  | _, _ => none

/-- The paths that are found at a path and below it. -/
def FileSearch.paths (search : FileSearch) (state : ShellState) (path : String) (depth fuel : Nat) :
    List String :=
  match fuel with
  | 0 => []
  | fuel + 1 =>
    let found := state.find path
    let (isFolder, names) := match found with
      | .directory place => (true, (state.tree.names place).map bytesOfText)
      | _ => (false, [])
    let accepts := (search.name.all fun parts => patternMatches parts (lastPart path).toList)
      && search.wantsFolders.all (· = isFolder)
    let below := if depth < search.depth then
        names.flatMap fun name => search.paths state (path ++ "/" ++ name) (depth + 1) fuel
      else []
    (if accepts then [path] else []) ++ below

def findProgram (arguments : List String) : Shell Nat := do
  let paths := arguments.takeWhile fun word => !word.startsWith "-"
  let search : FileSearch := ⟨none, none, 1000⟩
  match search.read? (arguments.length + 1) (arguments.drop paths.length) with
  | none =>
    complain "find: unknown predicate"
    return 1
  | some search =>
    let paths := if paths.isEmpty then ["."] else paths
    let statuses ← paths.mapM fun path => do
      let state ← get
      match state.find path with
      | .file _ _ | .directory _ =>
        (search.paths state path 0 100).forM fun path => say (path ++ "\n")
        return 0
      | other =>
        complain ("find: '" ++ path ++ "': " ++ other.error.text)
        return 1
    return worst statuses

/-! ### Words -/

def numberLinesProgram (arguments : List String) : Shell Nat :=
  withOptions "nl" ⟨"", "bwsn", []⟩ 1 arguments fun invocation =>
    filterOperands "nl" invocation.operands fun text =>
      let counted := (bareLines text).foldl (fun (number, shown) line =>
        if line.isEmpty ∧ invocation.value? 'b' ≠ some "a" then
          (number, shown ++ List.replicate 7 ' ' ++ ['\n'])
        else
          let digits := (toString number).toList
          let gap := List.replicate (6 - digits.length) ' '
          (number + 1, shown ++ gap ++ digits ++ ['\t'] ++ line ++ ['\n'])) (1, [])
      counted.2

/-- As many lines as anything that reads them can want. -/
def repeatProgram (arguments : List String) : Shell Nat := do
  let line := (if arguments.isEmpty then "y" else String.intercalate " " arguments) ++ "\n"
  say (String.join (List.replicate 2000 line))
  return 141

def sequenceProgram (arguments : List String) : Shell Nat := do
  let (options, numbers) := match arguments with
    | "-s" :: joint :: rest => ([("s", joint)], rest)
    | "-w" :: rest => ([("w", "")], rest)
    | rest => ([], rest)
  let joint := (options.lookup "s").getD "\n"
  match numbers.mapM signedInteger? with
  | some values =>
    let (first, step, last) : Int × Int × Int := match values with
      | [last] => (1, 1, last)
      | [first, last] => (first, 1, last)
      | [first, step, last] => (first, step, last)
      | _ => (1, 1, 0)
    if step = 0 ∨ values.isEmpty then return 1
    let count := ((last - first).fdiv step + 1).toNat
    let items := (List.range count).map fun (index : Nat) => toString (first + step * index)
    let width := (items.map String.length).foldl max 0
    let items := if (options.lookup "w").isSome then
        items.map fun item =>
          String.ofList (List.replicate (width - item.length) '0' ++ item.toList)
      else items
    if !items.isEmpty then say (String.intercalate joint items ++ "\n")
    return 0
  | none =>
    complain "seq: invalid floating point argument"
    return 1

def baseNameProgram (arguments : List String) : Shell Nat := do
  let (path, ending) := match arguments with
    | [path] => (path, "")
    | [path, ending] => (path, ending)
    | _ => ("", "")
  if arguments.isEmpty ∨ 2 < arguments.length then return 1
  let name := lastPart path
  let shown := if name.endsWith ending ∧ name ≠ ending then
      String.ofList (name.toList.take (name.length - ending.length))
    else name
  say (shown ++ "\n")
  return 0

def directoryNameProgram (arguments : List String) : Shell Nat := do
  if arguments.isEmpty then return 1
  arguments.forM fun path => say (firstParts path ++ "\n")
  return 0

def sixBitProgram (arguments : List String) : Shell Nat :=
  let long := [("decode", 'd'), ("wrap", 'w'), ("ignore-garbage", 'i')]
  withOptions "base64" ⟨"di", "w", long⟩ 1 arguments fun invocation =>
    filterOperands "base64" (invocation.operands.take 1) fun text =>
      if invocation.has 'd' then readSixBits (text.filterMap sixBits?)
      else
        let digits := writeSixBits text
        let width := ((invocation.value? 'w').bind String.toNat?).getD 76
        let count := if width = 0 then 1 else (digits.length + width - 1) / width
        let lines := (List.range count).map fun index =>
          (digits.drop (index * width)).take (if width = 0 then digits.length else width)
        if width = 0 then digits else endLines lines

def exprProgram (arguments : List String) : Shell Nat := do
  let answer : Except String String := match arguments with
    | [text] => .ok text
    | ["length", text] => .ok (toString text.length)
    | [first, sign, second] =>
      match signedInteger? first, signedInteger? second with
      | some a, some b =>
        (combine (if sign = "=" then "==" else sign) a b).map toString
      | _, _ =>
        match sign with
        | "=" => .ok (if first = second then "1" else "0")
        | "!=" => .ok (if first = second then "0" else "1")
        | _ => .error "non-integer argument"
    | _ => .error "syntax error"
  match answer with
  | .ok text =>
    say (text ++ "\n")
    return if text = "" ∨ text = "0" then 1 else 0
  | .error message =>
    complain ("expr: " ++ message)
    return 2

def compareProgram (name : String) (arguments : List String) : Shell Nat := do
  let paths := arguments.filter fun word => !word.startsWith "-" || word = "-"
  match paths with
  | [first, second] =>
    match ← readOperand? name first, ← readOperand? name second with
    | some a, some b =>
      if a = b then return 0
      if !arguments.contains "-s" then
        say ("Files " ++ first ++ " and " ++ second ++ " differ\n")
      return 1
    | _, _ => return 2
  | _ => return 2

def environmentProgram (arguments : List String) : Shell Nat := do
  let state ← get
  match arguments with
  | [] =>
    state.exported.forM fun name => do
      if let some value := state.valueOf? name then say (name ++ "=" ++ value ++ "\n")
    return 0
  | names =>
    let found := names.filterMap fun name =>
      if state.exported.contains name then state.valueOf? name else none
    found.forM fun value => say (value ++ "\n")
    return if found.length = names.length then 0 else 1

/-- The programs by their names. -/
def utility? (name : String) : Option (List String → Shell Nat) :=
  match name with
  | "cat" => some catProgram
  | "head" => some (shareProgram "head" fun (sign, count) =>
      if sign = '-' then .allButLast count else .first count)
  | "tail" => some (shareProgram "tail" fun (sign, count) =>
      if sign = '+' then .since count else .last count)
  | "tac" => some fun paths => filterOperands "tac" paths reverseLines
  | "rev" => some fun paths => filterOperands "rev" paths mirrorLines
  | "wc" => some countProgram
  | "sort" => some sortProgram
  | "uniq" => some uniqueProgram
  | "cut" => some cutProgram
  | "tr" => some exchangeProgram
  | "paste" => some pasteProgram
  | "grep" => some (searchProgram "grep" 'G')
  | "egrep" => some (searchProgram "egrep" 'E')
  | "fgrep" => some (searchProgram "fgrep" 'F')
  | "sed" => some editProgram
  | "tee" => some teeProgram
  | "touch" => some touchProgram
  | "cp" => some (moveProgram "cp" false)
  | "mv" => some (moveProgram "mv" true)
  | "rm" => some removeProgram
  | "mkdir" => some makeDirectoryProgram
  | "rmdir" => some removeDirectoryProgram
  | "ls" => some listProgram
  | "seq" => some sequenceProgram
  | "basename" => some baseNameProgram
  | "dirname" => some directoryNameProgram
  | "base64" => some sixBitProgram
  | "expr" => some exprProgram
  | "cmp" | "diff" => some (compareProgram name)
  | "find" => some findProgram
  | "nl" => some numberLinesProgram
  | "yes" => some repeatProgram
  | "printenv" => some environmentProgram
  | "sync" | "sleep" | "chmod" => some fun _ => return 0
  | _ => none

end HeaderBindings
