import HeaderBindings.C.Condition
import HeaderBindings.C.Packing
import HeaderBindings.C.SearchPath

/-!
A translation unit after preprocessing: its tokens, every inclusion that they come from, and what
there was to complain about. The headers are included one after the other by an opening text that
belongs to no file. A file goes by the name under which it was included first, and a header that
is not found is passed over.
-/

namespace HeaderBindings

structure Inclusion where
  name : String
  text : String

structure Source where
  language : Language
  tokens : List Token
  inclusions : List Inclusion
  diagnostics : List Diagnostic

/-- A group of lines that is read or skipped as a condition says. -/
structure Conditional where
  /-- Whether the lines around the conditional are read. -/
  outside : Bool
  /-- Whether one of its groups was read already. -/
  taken : Bool
  /-- Whether the present group is read. -/
  reading : Bool

/-- A file that is being read. -/
structure OpenFile where
  inclusion : Nat
  directory : String
  /-- The search directory that the file was found in. -/
  foundIn : Option Nat
  place : FilePlace
  /-- Whether nothing but the macros of the file counts. -/
  macrosOnly : Bool
  conditionals : List Conditional

structure SourceState where
  scope : MacroScope
  inclusions : List Inclusion
  openFiles : List OpenFile
  /-- Files that are not read again, because they say so or because they were imported. -/
  once : List FilePlace
  /-- The files that were included, with their names. -/
  names : List (FilePlace × String)
  diagnostics : List Diagnostic
  depthReached : Bool
  packing : Packing
  policy : WarningPolicy
  savedPolicies : List WarningPolicy
  /-- What directives had said about names whose macros were saved, the last one first. -/
  savedMacros : List (String × Option (Option Macro))

structure SourceSettings where
  tree : FileTree
  search : SearchPath

def SourceState.reading (state : SourceState) : Bool :=
  match state.openFiles with
  | file :: _ =>
    match file.conditionals with
    | conditional :: _ => conditional.reading
    | [] => true
  | [] => true

def SourceState.setConditionals (state : SourceState)
    (change : List Conditional → List Conditional) : SourceState :=
  match state.openFiles with
  | file :: files =>
    { state with openFiles := { file with conditionals := change file.conditionals } :: files }
  | [] => state

def SourceState.report (state : SourceState) (severity : Severity) (place : Option Place)
    (message : String) : SourceState :=
  { state with diagnostics := addDiagnostic state.diagnostics ⟨place, severity, message⟩ }

/-- A warning that a header asks for. -/
def SourceState.warn (state : SourceState) (group : WarningGroup) (place : Place)
    (message : String) : SourceState :=
  match state.policy.severity? group with
  | some severity =>
    state.report severity (some place) (message ++ " [-W" ++ group.name ++ "]")
  | none => state

/-! Finding an included file. -/

structure FoundFile where
  name : String
  place : FilePlace
  text : String
  foundIn : Option Nat

def joinPath (directory name : String) : String :=
  if directory.endsWith "/" then directory ++ name else directory ++ "/" ++ name

def findAt (tree : FileTree) (path : String) (foundIn : Option Nat) : Option FoundFile :=
  match tree.find path with
  | .file place text => some ⟨path, place, text, foundIn⟩
  | _ => none

/-- Looks through search directories; the first of them has the number `index`. -/
def searchFrom (tree : FileTree) (index : Nat) (name : String) :
    List SearchEntry → Option FoundFile
  | [] => none
  | entry :: rest =>
    match findAt tree (joinPath entry.path name) (some index) with
    | some found => some found
    | none => searchFrom tree (index + 1) name rest

/-- The first search directory that has a certain file under a name. -/
def searchPlace (tree : FileTree) (place : FilePlace) (index : Nat) (name : String) :
    List SearchEntry → Option Nat
  | [] => none
  | entry :: rest =>
    match findAt tree (joinPath entry.path name) none with
    | some found =>
      if found.place = place then some index else searchPlace tree place (index + 1) name rest
    | none => searchPlace tree place (index + 1) name rest

/-- A quoted name is looked for next to the including file first. To go on where that file was
found itself means the directories after its own. -/
def SourceState.findFile (state : SourceState) (settings : SourceSettings) (goesOn angled : Bool)
    (name : String) : Option FoundFile :=
  let tree := settings.tree
  let all := settings.search.all
  let first := if angled then settings.search.quoted.length else 0
  let lookFrom (index : Nat) : Option FoundFile := searchFrom tree index name (all.drop index)
  if name.startsWith "/" then findAt tree name none
  else match state.openFiles with
    | [] => none
    | file :: outer =>
      if goesOn && !outer.isEmpty then
        match file.foundIn.or (searchPlace tree file.place first name (all.drop first)) with
        | some index => lookFrom (index + 1)
        | none => lookFrom first
      else
        let beside := if angled then none else findAt tree (joinPath file.directory name) none
        match beside with
        | some found => some found
        | none => lookFrom first

/-- A name without the signs at its ends. -/
def trimSigns (name : String) : String :=
  let trim (chars : List Char) : List Char := chars.dropWhile fun c => !c.isAlphanum
  String.ofList (trim (trim name.toList).reverse).reverse

/-- Looks for a file, and then for one that may have been meant instead. -/
def SourceState.resolveFile (state : SourceState) (settings : SourceSettings)
    (goesOn angled : Bool) (name : String) : Except String FoundFile × Option String :=
  let quote (text : String) : String := "'" ++ text ++ "'"
  let look (angled : Bool) (name : String) : Option FoundFile :=
    state.findFile settings goesOn angled name
  match look angled name with
  | some found => (.ok found, none)
  | none =>
    match (if angled then look false name else none) with
    | some found =>
      (.ok found,
        some (quote name ++ " file not found with <angled> include; use \"quotes\" instead"))
    | none =>
      let meant := trimSigns name
      match (if meant = "" then none else look angled meant) with
      | some found => (.ok found, some (quote name ++ " file not found, did you mean "
          ++ quote meant ++ "?"))
      | none => (.error (quote name ++ " file not found"), none)

/-- Opens a file that was found: its tokens come next, then the mark of its end. -/
def SourceState.enter (state : SourceState) (found : FoundFile) (macrosOnly : Bool) :
    SourceState × List StreamItem :=
  let name := (state.names.lookup found.place).getD found.name
  let inclusion := state.inclusions.length
  let folder := String.ofList (directoryOf name.toList)
  let file : OpenFile :=
    { inclusion, directory := if folder = "" then "." else folder, foundIn := found.foundIn
      place := found.place, macrosOnly, conditionals := [] }
  ({ state with
      inclusions := state.inclusions ++ [⟨name, found.text⟩]
      scope := { state.scope with
        files := state.scope.files ++ [(name, state.openFiles.length)] }
      names := if (state.names.lookup found.place).isSome then state.names
        else state.names ++ [(found.place, found.name)]
      openFiles := file :: state.openFiles },
    (lexFile state.scope.language found.text.toList).map
      (fun lexeme => .token (lexeme.token inclusion)) ++ [.fileEnd])

def maximalDepth : Nat := 199

/-- What a directive of inclusion asks for. -/
structure InclusionKind where
  /-- Whether the search goes on behind the place of the present file. -/
  goesOn : Bool
  /-- Whether a file that was included before is passed over, now and later. -/
  imports : Bool
  macrosOnly : Bool

/-- Carries out an inclusion. -/
def SourceState.include (state : SourceState) (settings : SourceSettings) (kind : InclusionKind)
    (at? : Option Place) (angled : Bool) (name : String) : SourceState × List StreamItem :=
  if state.openFiles.length = maximalDepth then
    ({ state.report .fatal at? "#include nested too deeply" with depthReached := true }, [])
  else
    let (found, complaint) := state.resolveFile settings kind.goesOn angled name
    let state := match complaint with
      | some message => state.report .error at? message
      | none => state
    match found with
    | .error message => (state.report .fatal at? message, [])
    | .ok file =>
      let known := (state.names.lookup file.place).isSome
      let spared := state.once.contains file.place || (kind.imports && known)
      let state := if kind.imports then { state with once := file.place :: state.once } else state
      if state.depthReached || spared then (state, [])
      else state.enter file kind.macrosOnly

/-! Directives. -/

def SourceState.includes (state : SourceState) (settings : SourceSettings) : IncludeQuery :=
  fun goesOn angled name => (state.findFile settings goesOn angled name).isSome

/-- Enters a group whose condition is asked for only where lines are read. -/
def SourceState.openGroup (state : SourceState) (holds : Bool) : SourceState :=
  let outside := state.reading
  state.setConditionals (⟨outside, holds, outside && holds⟩ :: ·)

/-- Goes on to another group of the innermost conditional. -/
def SourceState.nextGroup (state : SourceState) (holds : Bool) : SourceState :=
  state.setConditionals fun
    | conditional :: rest =>
      { conditional with
        taken := conditional.taken || holds
        reading := conditional.outside && !conditional.taken && holds } :: rest
    | [] => []

def SourceState.closeGroup (state : SourceState) : SourceState :=
  state.setConditionals (·.drop 1)

/-- Whether a further group of the innermost conditional may still be read. -/
def SourceState.mayReadGroup (state : SourceState) : Bool :=
  match state.openFiles with
  | file :: _ =>
    match file.conditionals with
    | conditional :: _ => conditional.outside && !conditional.taken
    | [] => false
  | [] => false

/-- The state behind a condition, and whether it holds. -/
def SourceState.condition (state : SourceState) (settings : SourceSettings)
    (tokens : List Token) : SourceState × Bool :=
  let (scope, holds) := conditionHolds state.scope (state.includes settings) tokens
  ({ state with scope }, holds)

def messageText (tokens : List Token) : String :=
  match tokens with
  | token :: _ => String.ofList (token.text.toList.dropWhile (· = ' '))
  | [] => ""

def SourceState.includeLine (state : SourceState) (settings : SourceSettings)
    (kind : InclusionKind) (tokens : List Token) : SourceState × List StreamItem :=
  let (state, named) := match includedName? tokens with
    | some found => (state, some found)
    | none =>
      let (scope, tokens) := state.scope.expand tokens
      ({ state with scope }, includedName? tokens)
  match named with
  | none => (state, [])
  | some (angled, name) =>
    let fromOpening := state.openFiles.length = 1
    let at? := if fromOpening then none else tokens.head?.map (·.used.start)
    state.include settings kind at? angled name

/-- The inside of parentheses around all tokens. -/
def insideParentheses? (tokens : List Token) : Option (List Token) :=
  match tokens with
  | first :: rest =>
    if first.isSign "(" && rest.getLast?.any (·.isSign ")") then some rest.dropLast else none
  | [] => none

/-- The characters of neighbouring string literals. -/
def joinedText? (tokens : List Token) : Option String :=
  if !tokens.isEmpty && tokens.all fun token => token.kind = .string then
    some (String.ofList (tokens.flatMap fun token =>
      (splitQuoted '"' token.text).2.map fun unit => Char.ofNat unit.value))
  else none

/-- Saves the macro of a name, or takes the saved one back. -/
def SourceState.moveMacro (state : SourceState) (saves : Bool) (name : String) : SourceState :=
  if saves then
    { state with savedMacros := (name, state.scope.changes.lookup name) :: state.savedMacros }
  else match state.savedMacros.lookup name with
    | none => state
    | some saved =>
      let others := state.scope.changes.filter (·.1 ≠ name)
      let changes := match saved with
        | some definition => (name, definition) :: others
        | none => others
      { state with
        scope := { state.scope with changes }
        savedMacros := state.savedMacros.eraseP (·.1 = name) }

/-- A pragma about warnings. -/
def SourceState.treatWarnings (state : SourceState) (tokens : List Token) : SourceState :=
  match tokens with
  | [word] =>
    if word.text = "push" then { state with savedPolicies := state.policy :: state.savedPolicies }
    else if word.text = "pop" then
      match state.savedPolicies with
      | policy :: rest => { state with policy, savedPolicies := rest }
      | [] => state
    else state
  | word :: strings =>
    match Severity.ofWord? word.text, joinedText? strings with
    | some severity, some name =>
      if name.startsWith "-W" then
        let group := String.ofList (name.toList.drop 2)
        { state with policy := state.policy.change group fun treatment =>
            { treatment with severity } }
      else state
    | _, _ => state
  | [] => state

/-- Carries out a pragma; `at?` is where its messages stand when that is not at their words. -/
def SourceState.pragma (state : SourceState) (at? : Option Place) (tokens : List Token) :
    SourceState :=
  let message (word : Token) (isError : Bool) (tokens : List Token) : SourceState :=
    let (scope, tokens) := state.scope.expand tokens
    let state := { state with scope }
    let place := at?.getD word.used.start
    match joinedText? ((insideParentheses? tokens).getD tokens) with
    | some text =>
      if isError then state.report .error (some place) text
      else state.warn .messages place text
    | none => state
  match tokens with
  | [] => state
  | word :: rest =>
    match word.text, rest with
    | "once", _ =>
      match state.openFiles with
      | file :: _ => { state with once := file.place :: state.once }
      | [] => state
    | "pack", rest =>
      let (scope, rest) := state.scope.expand rest
      let state := { state with scope }
      match insideParentheses? rest with
      | some inner => { state with packing := state.packing.apply inner }
      | none => state
    | "align", rest => { state with packing := state.packing.align rest }
    | "options", align :: rest =>
      if align.text = "align" then { state with packing := state.packing.align rest } else state
    | "push_macro", rest | "pop_macro", rest =>
      match (insideParentheses? rest).bind joinedText? with
      | some name => state.moveMacro (word.text = "push_macro") name
      | none => state
    | "message", rest => message word false rest
    | "GCC", second :: rest | "clang", second :: rest =>
      if second.text = "diagnostic" then state.treatWarnings rest
      else if word.text = "GCC" && second.text = "warning" then message second false rest
      else if word.text = "GCC" && second.text = "error" then message second true rest
      else state
    | _, _ => state

/-- The pragma in a string literal. -/
def pragmaTokens (language : Language) (literal : Token) : List Token :=
  let inner := ((literal.spelling.toList.dropWhile (· ≠ '"')).drop 1).dropLast
  (lexText language .undirected (unescape inner)).map fun lexeme =>
    { lexeme.token literal.used.start.inclusion with used := literal.used }
where
  unescape : List Char → List Char
    | [] => []
    | '\\' :: '"' :: rest => '"' :: unescape rest
    | '\\' :: '\\' :: rest => '\\' :: unescape rest
    | c :: rest => c :: unescape rest

/-- Carries out a line directive: from the next line on the lines have other numbers. -/
def SourceState.renumber (state : SourceState) (tokens : List Token) : SourceState :=
  match tokens with
  | number :: name =>
    match (number.text.toList.filter (· ≠ '\'')).all Char.isDigit, state.openFiles with
    | true, file :: _ =>
      let digits := number.text.toList.filter Char.isDigit
      let mark : LineMark :=
        { inclusion := file.inclusion, behind := number.line
          number := digitsValue 10 digits, name := joinedText? (name.take 1) }
      { state with scope := { state.scope with lineMarks := mark :: state.scope.lineMarks } }
    | _, _ => state
  | [] => state

/-- Carries out a directive in lines that are read. -/
def SourceState.directive (state : SourceState) (settings : SourceSettings) (name : Token)
    (tokens : List Token) : SourceState × List StreamItem :=
  let named (tokens : List Token) : Bool :=
    tokens.head?.any fun token => state.scope.isDefined token.text
  match name.text with
  | "define" =>
    match tokens with
    | defined :: rest =>
      ({ state with scope := state.scope.define defined.text (.ofDefinition rest) }, [])
    | [] => (state, [])
  | "undef" =>
    match tokens with
    | defined :: _ => ({ state with scope := state.scope.undefine defined.text }, [])
    | [] => (state, [])
  | "include" => state.includeLine settings ⟨false, false, false⟩ tokens
  | "import" => state.includeLine settings ⟨false, true, false⟩ tokens
  | "include_next" => state.includeLine settings ⟨true, false, false⟩ tokens
  | "__include_macros" => state.includeLine settings ⟨false, false, true⟩ tokens
  | "if" =>
    let (state, holds) := state.condition settings tokens
    (state.openGroup holds, [])
  | "ifdef" => (state.openGroup (named tokens), [])
  | "ifndef" => (state.openGroup (!named tokens), [])
  | "elif" =>
    if state.mayReadGroup then
      let (state, holds) := state.condition settings tokens
      (state.nextGroup holds, [])
    else (state.nextGroup false, [])
  | "elifdef" => (state.nextGroup (named tokens), [])
  | "elifndef" => (state.nextGroup (!named tokens), [])
  | "else" => (state.nextGroup true, [])
  | "endif" => (state.closeGroup, [])
  | "pragma" => (state.pragma none tokens, [])
  | "line" =>
    let (scope, tokens) := state.scope.expand tokens
    (({ state with scope } : SourceState).renumber tokens, [])
  | "error" => (state.report .error (some name.used.start) (messageText tokens), [])
  | "warning" => (state.warn .announced name.used.start (messageText tokens), [])
  | _ =>
    if name.kind = .number then (state.renumber (name :: tokens), []) else (state, [])

/-- In skipped lines only the directives of conditionals count. -/
def SourceState.skippedDirective (state : SourceState) (settings : SourceSettings) (name : Token)
    (tokens : List Token) : SourceState :=
  match name.text with
  | "if" | "ifdef" | "ifndef" => state.openGroup false
  | "elif" | "elifdef" | "elifndef" | "else" | "endif" =>
    (state.directive settings name tokens).1
  | _ => state

/-- The tokens up to the end of the line, and what follows. -/
def takeLine (line : List Token) : List StreamItem → List Token × List StreamItem
  | .token token :: items =>
    if token.startsLine then (line.reverse, .token token :: items)
    else takeLine (token :: line) items
  | items => (line.reverse, items)

def SourceState.runLine (state : SourceState) (settings : SourceSettings) (line : List Token) :
    SourceState × List StreamItem :=
  match line with
  | name :: tokens =>
    if state.reading then state.directive settings name tokens
    else (state.skippedDirective settings name tokens, [])
  | [] => (state, [])

def Token.startsDirective (token : Token) : Bool :=
  token.origin = .file && token.startsLine && token.isSign "#"

/-- Directives that are passed over between the arguments of a macro. -/
def barredInArguments : List String :=
  ["include", "import", "include_next", "__include_macros", "pragma"]

/-- Carries out the directives between the arguments of a call, which starts with the parenthesis
in front; what is left of the items up to its end is held in reverse. -/
def clearArguments (settings : SourceSettings) (state : SourceState) (depth : Nat)
    (found : List StreamItem) (items : List StreamItem) (fuel : Nat) :
    SourceState × List StreamItem :=
  match fuel, items with
  | fuel + 1, .token token :: items =>
    if token.startsDirective then
      let (line, items) := takeLine [] items
      let barred := line.head?.any fun name => barredInArguments.contains name.text
      let state := if barred then state else (state.runLine settings line).1
      clearArguments settings state depth found items fuel
    else if !state.reading then clearArguments settings state depth found items fuel
    else
      let found := .token token :: found
      if token.isSign "(" then clearArguments settings state (depth + 1) found items fuel
      else if token.isSign ")" && depth ≤ 1 then (state, found.reverse ++ items)
      else
        let depth := if token.isSign ")" then depth - 1 else depth
        clearArguments settings state depth found items fuel
  | _, items => (state, found.reverse ++ items)

/-- Whether a token is the name of a macro with arguments, whose call follows. -/
def SourceState.startsCall (state : SourceState) (token : Token) (items : List StreamItem) :
    Bool :=
  match items with
  | .token bracket :: _ =>
    bracket.isSign "(" && token.isName && !token.spent.contains token.text
      && match state.scope.meaning? token.text with
        | some (.replaced definition) => definition.takesArguments
        | _ => false
  | _ => false

/-- A pragma in the midst of other tokens, with what follows it. -/
def SourceState.operatorPragma? (state : SourceState) (token : Token) (items : List StreamItem) :
    Option (SourceState × List StreamItem) :=
  if token.isName && token.text = "_Pragma" then
    match state.scope.meaning? token.text, items with
    | some .builtIn, .token bracket :: items =>
      match (if bracket.isSign "(" then collectArguments (some 0) 0 [] [] items else none) with
      | some ([inner], _, items) =>
        let (scope, inner) := state.scope.expand inner
        let state := { state with scope }
        match inner with
        | [literal] =>
          some (state.pragma (some token.used.start) (pragmaTokens scope.language literal), items)
        | _ => some (state, items)
      | _ => none
    | _, _ => none
  else none

/-- Whether the tokens at some point count. -/
def SourceState.keepsTokens (state : SourceState) : Bool :=
  !state.openFiles.any OpenFile.macrosOnly

/-- Reads a stream to its end; the tokens found so far are held in reverse. -/
def readStream (settings : SourceSettings) (state : SourceState) (found : List Token)
    (items : List StreamItem) (fuel : Nat) : SourceState × List Token :=
  match fuel, items with
  | 0, _ => (state, found)
  | _, [] => (state, found)
  | fuel + 1, .fileEnd :: items =>
    readStream settings { state with openFiles := state.openFiles.drop 1 } found items fuel
  | fuel + 1, .token token :: items =>
    if token.startsDirective then
      let (line, items) := takeLine [] items
      let (state, included) := state.runLine settings line
      readStream settings state found (included ++ items) fuel
    else if !state.reading then readStream settings state found items fuel
    else
      let (state, items) := if state.startsCall token items then
          clearArguments settings state 0 [] items fuel
        else (state, items)
      match state.operatorPragma? token items with
      | some (state, items) => readStream settings state found items fuel
      | none =>
        match expandOnce state.scope token items fuel with
        | some (scope, items) => readStream settings { state with scope } found items fuel
        | none =>
          let found := if state.keepsTokens then
              { token with packing := state.packing.limit } :: found
            else found
          readStream settings state found items fuel

/-- Preprocesses all headers that the options include. -/
def Source.read (tree : FileTree) (options : List CompilerOption) : Source :=
  let text := openingText options
  let language := languageOf options
  let target := targetOf options
  let choices := macroChoicesOf options
  let settings : SourceSettings := ⟨tree, .ofOptions tree options⟩
  let scope : MacroScope :=
    { language, target, blocks := choices.blocks, given := givenMacros target language choices
      changes := [], counter := 0, files := [(openingName, 0)], lineMarks := [] }
  let state : SourceState :=
    { scope, inclusions := [⟨openingName, text⟩], openFiles := [⟨0, ".", none, [], false, []⟩]
      once := [], names := [], diagnostics := [], depthReached := false
      packing := .ofStart target.packing, policy := warningPolicyOf options
      savedPolicies := [], savedMacros := [] }
  let items := (lexFile language text.toList).map fun lexeme => StreamItem.token (lexeme.token 0)
  let (state, found) := readStream settings state [] items expansionFuel
  ⟨language, found.reverse, state.inclusions, state.diagnostics⟩

/-- The names of the files that were included, one for each inclusion. -/
def Source.includedFiles (source : Source) : List String :=
  (source.inclusions.drop 1).map (·.name)

end HeaderBindings
