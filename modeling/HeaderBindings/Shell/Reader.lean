import HeaderBindings.Shell.Command

/-!
Reading the commands of a shell. Reserved words count only where a command can start, and blanks,
comments and continued lines only between words.
-/

namespace HeaderBindings

/-- What is ahead, or the text of a syntax error. -/
abbrev ShellReader := StateT (List Char) (Except String)

/-- The text without the blanks and comments at its start, and without newlines if so wanted. -/
def dropBlanks (newlines comment : Bool) (text : List Char) : List Char :=
  match comment, text with
  | _, [] => []
  | _, '\n' :: rest => if newlines then dropBlanks newlines false rest else '\n' :: rest
  | true, _ :: rest => dropBlanks newlines true rest
  | false, ' ' :: rest | false, '\t' :: rest => dropBlanks newlines false rest
  | false, '#' :: rest => dropBlanks newlines true rest
  | false, '\\' :: '\n' :: rest => dropBlanks newlines false rest
  | false, text => text

/-- Characters that end a word. -/
def endsShellWord (c : Char) : Bool := " \t\n;&|<>()".toList.contains c

def isVariableStart (c : Char) : Bool := c.isAlpha || c = '_'

def isVariableChar (c : Char) : Bool := c.isAlphanum || c = '_'

/-- The name at the start of a text, if there is one, with what follows. -/
def takeName? (text : List Char) : Option (String × List Char) :=
  if text.head?.any isVariableStart then
    some (String.ofList (text.takeWhile isVariableChar), text.dropWhile isVariableChar)
  else none

def isShellName (text : String) : Bool :=
  text.toList.head?.any isVariableStart && text.toList.all isVariableChar

/-- The next word as it is written, up to the first character that can end it. -/
def writtenWord (text : List Char) : String := String.ofList (text.takeWhile (!endsShellWord ·))

/-- Reserved words that end a list of commands. -/
def closingWords : List String := ["then", "else", "elif", "fi", "do", "done", "esac", "\x7d"]

def skipGap (newlines : Bool) : ShellReader Unit := modify (dropBlanks newlines false)

def unexpected (text : List Char) : String :=
  match text with
  | [] => "end of file unexpected"
  | '\n' :: _ => "newline unexpected"
  | text =>
    let word := writtenWord text
    let shown := if word = "" then String.ofList (text.take 1) else word
    "\"" ++ shown ++ "\" unexpected"

def failUnexpected {α : Type} : ShellReader α := do throw (unexpected (← get))

/-- Reads a reserved word. -/
def expectWord (word : String) : ShellReader Unit := do
  skipGap true
  let text ← get
  if writtenWord text = word then set (text.drop word.length)
  else failUnexpected

/-- Takes the next character if it is the one that is meant. -/
def takeChar (c : Char) : ShellReader Bool := do
  match ← get with
  | d :: rest => if c = d then set rest; pure true else pure false
  | [] => pure false

def expectChar (c : Char) : ShellReader Unit := do
  skipGap false
  unless ← takeChar c do failUnexpected

/-- Where the parts of a word end. -/
inductive WordEnding where
  | word
  | quote
  /-- The closing brace of a parameter. -/
  | brace (quoted : Bool)
  /-- Two closing parentheses, behind those that close inner ones. -/
  | formula (depth : Nat)
  | text

def WordEnding.quoted (ending : WordEnding) : Bool :=
  match ending with
  | .word | .brace false => false
  | _ => true

/-- What is behind the end of a word, if it is reached. -/
def WordEnding.reached? (ending : WordEnding) (text : List Char) : Option (List Char) :=
  match ending, text with
  | .word, [] | .text, [] => some []
  | .word, c :: rest => if endsShellWord c then some (c :: rest) else none
  | .quote, '"' :: rest => some rest
  | .brace _, '\x7d' :: rest => some rest
  | .formula 0, ')' :: ')' :: rest => some rest
  | _, _ => none

def WordEnding.missing (ending : WordEnding) : String :=
  match ending with
  | .quote => "Unterminated quoted string"
  | .brace _ => "Missing '\x7d'"
  | .formula _ => "Missing '))'"
  | _ => "end of file unexpected"

/-- The characters that a backslash quotes. -/
def WordEnding.escapes (ending : WordEnding) (c : Char) : Bool :=
  match ending with
  | .word | .brace false => true
  | .text => "$\\\x60\n".toList.contains c
  | _ => "$\"\\\x60\n".toList.contains c

def WordEnding.after (ending : WordEnding) (c : Char) : WordEnding :=
  match ending, c with
  | .formula depth, '(' => .formula (depth + 1)
  | .formula depth, ')' => .formula (depth - 1)
  | ending, _ => ending

/-- The use of a parameter that is written behind its name. -/
def readUse? (text : List Char) : Option (ParameterUse × List Char) :=
  match text with
  | ':' :: '-' :: rest => some (.default true, rest)
  | '-' :: rest => some (.default false, rest)
  | ':' :: '=' :: rest => some (.assign true, rest)
  | '=' :: rest => some (.assign false, rest)
  | ':' :: '?' :: rest => some (.demand true, rest)
  | '?' :: rest => some (.demand false, rest)
  | ':' :: '+' :: rest => some (.replace true, rest)
  | '+' :: rest => some (.replace false, rest)
  | '#' :: '#' :: rest => some (.trimStart true, rest)
  | '#' :: rest => some (.trimStart false, rest)
  | '%' :: '%' :: rest => some (.trimEnd true, rest)
  | '%' :: rest => some (.trimEnd false, rest)
  | _ => none

/-- A name, a number or a sign that stands for a parameter. -/
def takeParameter? (inBraces : Bool) (text : List Char) : Option (String × List Char) :=
  match takeName? text, text with
  | some found, _ => some found
  | none, c :: rest =>
    if c.isDigit ∧ inBraces then
      some (String.ofList (text.takeWhile Char.isDigit), text.dropWhile Char.isDigit)
    else if c.isDigit ∨ "@*#?$!-".toList.contains c then some (String.singleton c, rest)
    else none
  | none, [] => none

/-- The text between backquotes, with its inner backslashes resolved, and what follows. -/
def splitBackquoted (quoted : Bool) : List Char → Option (List Char × List Char)
  | [] => none
  | '\x60' :: rest => some ([], rest)
  | '\\' :: c :: rest =>
    (splitBackquoted quoted rest).map fun (inner, left) =>
      if c = '\x60' ∨ c = '\\' ∨ c = '$' ∨ (quoted ∧ c = '"') then (c :: inner, left)
      else ('\\' :: c :: inner, left)
  | c :: rest => (splitBackquoted quoted rest).map fun (inner, left) => (c :: inner, left)

/-- The lines of a text up to one that ends it, without the tabs at their starts if so wanted, and
what follows that line. -/
def splitHereText (ending : List Char) (stripTabs : Bool) (text : List Char) (fuel : Nat) :
    List Char × List Char :=
  match fuel, text with
  | 0, _ | _, [] => ([], [])
  | fuel + 1, text =>
    let line := text.takeWhile (· ≠ '\n')
    let rest := (text.dropWhile (· ≠ '\n')).drop 1
    let line := if stripTabs then line.dropWhile (· = '\t') else line
    if line = ending then ([], rest)
    else
      let (body, left) := splitHereText ending stripTabs rest fuel
      (line ++ '\n' :: body, left)

/-- The text of a word in which nothing is expanded, and whether some of it is quoted. -/
def unexpandedText (parts : List WordPart) : List Char × Bool :=
  parts.foldl (fun (text, quoted) part =>
    match part with
    | .text more q => (text ++ more, quoted || q)
    | .quotes => (text, true)
    | _ => (text, quoted)) ([], false)

/-- The operator of a redirection, its usual descriptor, and whether its text loses its tabs. -/
def readRedirector? (text : List Char) :
    Option (RedirectionKind × Nat × Bool × List Char) :=
  match text with
  | '<' :: '<' :: '-' :: rest => some (.hereText, 0, true, rest)
  | '<' :: '<' :: rest => some (.hereText, 0, false, rest)
  | '<' :: '&' :: rest => some (.copy, 0, false, rest)
  | '<' :: '>' :: rest => some (.inputOutput, 0, false, rest)
  | '<' :: rest => some (.input, 0, false, rest)
  | '>' :: '>' :: rest => some (.append, 1, false, rest)
  | '>' :: '&' :: rest => some (.copy, 1, false, rest)
  | '>' :: '|' :: rest => some (.output, 1, false, rest)
  | '>' :: rest => some (.output, 1, false, rest)
  | _ => none

/-- The assignment that a text starts with: its name, and the text of its value. -/
def takeAssignment? (text : List Char) : Option (String × List Char) :=
  match takeName? text with
  | some (name, '=' :: rest) => some (name, rest)
  | _ => none

def asSequence (first second : ShellCommand) : ShellCommand :=
  match second with
  | .nothing => first
  | second => .sequence first second

/-- Whether a list of commands ends here. -/
def listEnds (text : List Char) : Bool :=
  match text with
  | [] | ')' :: _ | ';' :: ';' :: _ => true
  | text => closingWords.contains (writtenWord text)

mutual

def readParts (ending : WordEnding) (fuel : Nat) : ShellReader (List WordPart) := do
  match fuel with
  | 0 => throw "too long"
  | fuel + 1 =>
    let text ← get
    if let some rest := ending.reached? text then
      set rest
      return []
    match text with
    | [] => throw ending.missing
    | '\\' :: c :: rest =>
      set rest
      let part := if !ending.escapes c then WordPart.text ['\\', c] true
        else if c = '\n' then .text [] ending.quoted
        else .text [c] true
      return part :: (← readParts ending fuel)
    | '$' :: rest =>
      set rest
      let part ← readExpansion ending.quoted fuel
      return part :: (← readParts ending fuel)
    | '\x60' :: rest =>
      match splitBackquoted ending.quoted rest with
      | none => throw "EOF in backquote substitution"
      | some (inner, left) =>
        set inner
        let command ← readList true fuel
        unless (← get).isEmpty do failUnexpected
        set left
        return .output command ending.quoted :: (← readParts ending fuel)
    | c :: rest =>
      set rest
      match ending, c with
      | .word, '\'' | .brace false, '\'' =>
        let inner := rest.takeWhile (· ≠ '\'')
        unless inner.length < rest.length do throw "Unterminated quoted string"
        set (rest.drop (inner.length + 1))
        return .text inner true :: (← readParts ending fuel)
      | .word, '"' | .brace _, '"' =>
        let inner ← readParts .quote fuel
        let inner := match inner with
          | [.parameter "@" use word quoted] => [.parameter "@" use word quoted]
          | inner => .quotes :: inner
        return inner ++ (← readParts ending fuel)
      | ending, c => return .text [c] ending.quoted :: (← readParts (ending.after c) fuel)

/-- What stands behind a dollar sign. -/
def readExpansion (quoted : Bool) (fuel : Nat) : ShellReader WordPart := do
  match fuel with
  | 0 => throw "too long"
  | fuel + 1 =>
    match ← get with
    | '(' :: '(' :: rest =>
      set rest
      return .arithmetic (← readParts (.formula 0) fuel) quoted
    | '(' :: rest =>
      set rest
      let command ← readList true fuel
      expectChar ')'
      return .output command quoted
    | '\x7b' :: '#' :: '\x7d' :: rest =>
      set rest
      return .parameter "#" .value [] quoted
    | '\x7b' :: '#' :: rest =>
      match takeParameter? true rest with
      | some (name, '\x7d' :: left) =>
        set left
        return .parameter name .length [] quoted
      | _ => throw "Bad substitution"
    | '\x7b' :: rest =>
      match takeParameter? true rest with
      | some (name, '\x7d' :: left) =>
        set left
        return .parameter name .value [] quoted
      | some (name, left) =>
        match readUse? left with
        | some (use, left) =>
          set left
          let isTrim := match use with
            | .trimStart _ | .trimEnd _ => true
            | _ => false
          return .parameter name use (← readParts (.brace (quoted && !isTrim)) fuel) quoted
        | none => throw "Bad substitution"
      | none => throw "Bad substitution"
    | text =>
      match takeParameter? false text with
      | some (name, rest) =>
        set rest
        return .parameter name .value [] quoted
      | none => return .text ['$'] quoted

def readRedirection? (fuel : Nat) : ShellReader (Option Redirection) := do
  match fuel with
  | 0 => throw "too long"
  | fuel + 1 =>
    let text ← get
    let digits := text.takeWhile Char.isDigit
    match readRedirector? (text.drop digits.length) with
    | none => return none
    | some (kind, usual, stripTabs, rest) =>
      set rest
      skipGap false
      if (WordEnding.reached? .word (← get)).isSome then failUnexpected
      let target ← readParts .word fuel
      let descriptor := (String.ofList digits).toNat?.getD usual
      if kind ≠ .hereText then return some (.mk descriptor kind target)
      let (ending, quoted) := unexpandedText target
      let text ← get
      let line := text.takeWhile (· ≠ '\n')
      let (body, left) :=
        splitHereText ending stripTabs ((text.drop line.length).drop 1) (text.length + 1)
      let body ← if quoted then pure [.text body true] else do
        set body
        readParts .text fuel
      set (line ++ '\n' :: left)
      return some (.mk descriptor .hereText body)

def readRedirections (fuel : Nat) : ShellReader (List Redirection) := do
  match fuel with
  | 0 => throw "too long"
  | fuel + 1 =>
    skipGap false
    match ← readRedirection? fuel with
    | none => return []
    | some redirection => return redirection :: (← readRedirections fuel)

/-- A command of words, behind those that were read. -/
def readBasic (assignments : List (String × List WordPart)) (words : List (List WordPart))
    (redirections : List Redirection) (fuel : Nat) : ShellReader ShellCommand := do
  match fuel with
  | 0 => throw "too long"
  | fuel + 1 =>
    skipGap false
    if let some redirection ← readRedirection? fuel then
      return ← readBasic assignments words (redirections ++ [redirection]) fuel
    let text ← get
    if (WordEnding.reached? .word text).isSome then
      match words, text with
      | [[.text name false]], '(' :: _ | [.text name false :: _], '(' :: _ =>
        let name := match words with
          | [parts] => String.ofList (unexpandedText parts).1
          | _ => String.ofList name
        unless isShellName name ∧ assignments.isEmpty ∧ redirections.isEmpty do failUnexpected
        expectChar '('
        expectChar ')'
        skipGap true
        return .define name (← readCommand fuel)
      | _, '(' :: _ => failUnexpected
      | _, _ =>
        if assignments.isEmpty ∧ words.isEmpty ∧ redirections.isEmpty then failUnexpected
        return .basic assignments words redirections
    match words, takeAssignment? text with
    | [], some (name, rest) =>
      set rest
      let value ← readParts .word fuel
      readBasic (assignments ++ [(name, value)]) [] redirections fuel
    | _, _ =>
      let word ← readParts .word fuel
      readBasic assignments (words ++ [word]) redirections fuel

/-- Words up to the end of a command. -/
def readWords (fuel : Nat) : ShellReader (List (List WordPart)) := do
  match fuel with
  | 0 => throw "too long"
  | fuel + 1 =>
    skipGap false
    if (WordEnding.reached? .word (← get)).isSome then return []
    let word ← readParts .word fuel
    return word :: (← readWords fuel)

/-- The patterns of a branch up to the parenthesis behind them. -/
def readPatterns (fuel : Nat) : ShellReader (List (List WordPart)) := do
  match fuel with
  | 0 => throw "too long"
  | fuel + 1 =>
    skipGap false
    let pattern ← readParts .word fuel
    skipGap false
    if ← takeChar '|' then return pattern :: (← readPatterns fuel)
    expectChar ')'
    return [pattern]

def readBranches (fuel : Nat) : ShellReader (List (List (List WordPart) × ShellCommand)) := do
  match fuel with
  | 0 => throw "too long"
  | fuel + 1 =>
    skipGap true
    if writtenWord (← get) = "esac" then
      expectWord "esac"
      return []
    let _ ← takeChar '('
    let patterns ← readPatterns fuel
    let body ← readList true fuel
    skipGap true
    match ← get with
    | ';' :: ';' :: rest =>
      set rest
      return (patterns, body) :: (← readBranches fuel)
    | _ =>
      expectWord "esac"
      return [(patterns, body)]

/-- What follows the condition of an `if`. -/
def readConditional (fuel : Nat) : ShellReader ShellCommand := do
  match fuel with
  | 0 => throw "too long"
  | fuel + 1 =>
    let test ← readList true fuel
    expectWord "then"
    let body ← readList true fuel
    skipGap true
    match writtenWord (← get) with
    | "elif" =>
      expectWord "elif"
      return .conditional test body (← readConditional fuel)
    | "else" =>
      expectWord "else"
      let otherwise ← readList true fuel
      expectWord "fi"
      return .conditional test body otherwise
    | _ =>
      expectWord "fi"
      return .conditional test body .nothing

def readCommand (fuel : Nat) : ShellReader ShellCommand := do
  match fuel with
  | 0 => throw "too long"
  | fuel + 1 =>
    skipGap false
    let text ← get
    if let '(' :: rest := text then
      set rest
      let body ← readList true fuel
      skipGap true
      expectChar ')'
      return .redirected (.subshell body) (← readRedirections fuel)
    let word := writtenWord text
    let behind := text.drop word.length
    match word with
    | "\x7b" =>
      set behind
      let body ← readList true fuel
      expectWord "\x7d"
      return .redirected body (← readRedirections fuel)
    | "if" =>
      set behind
      let body ← readConditional fuel
      return .redirected body (← readRedirections fuel)
    | "while" | "until" =>
      set behind
      let test ← readList true fuel
      expectWord "do"
      let body ← readList true fuel
      expectWord "done"
      return .redirected (.loop (word = "while") test body) (← readRedirections fuel)
    | "for" =>
      set behind
      skipGap false
      let text ← get
      let name := writtenWord text
      unless isShellName name do throw "Bad for loop variable"
      set (text.drop name.length)
      skipGap true
      let words ← if writtenWord (← get) = "in" then do
          expectWord "in"
          pure (some (← readWords fuel))
        else pure none
      skipGap false
      let _ ← takeChar ';'
      expectWord "do"
      let body ← readList true fuel
      expectWord "done"
      return .redirected (.forEach name words body) (← readRedirections fuel)
    | "case" =>
      set behind
      skipGap false
      let subject ← readParts .word fuel
      expectWord "in"
      let branches ← readBranches fuel
      return .redirected (.choice subject branches) (← readRedirections fuel)
    | word =>
      if closingWords.contains word then failUnexpected
      readBasic [] [] [] fuel

/-- The commands behind the first of a pipeline. -/
def readPipes (fuel : Nat) : ShellReader (List ShellCommand) := do
  match fuel with
  | 0 => throw "too long"
  | fuel + 1 =>
    skipGap false
    match ← get with
    | '|' :: '|' :: _ => return []
    | '|' :: rest =>
      set rest
      skipGap true
      let command ← readCommand fuel
      return command :: (← readPipes fuel)
    | _ => return []

def readPipeline (fuel : Nat) : ShellReader ShellCommand := do
  match fuel with
  | 0 => throw "too long"
  | fuel + 1 =>
    skipGap false
    let text ← get
    if writtenWord text = "!" then
      set (text.drop 1)
      return .negation (← readPipeline fuel)
    let first ← readCommand fuel
    match ← readPipes fuel with
    | [] => return first
    | others => return .pipeline (first :: others)

/-- What hangs on the pipelines that were read. -/
def readLinks (first : ShellCommand) (fuel : Nat) : ShellReader ShellCommand := do
  match fuel with
  | 0 => throw "too long"
  | fuel + 1 =>
    skipGap false
    match ← get with
    | '&' :: '&' :: rest =>
      set rest
      skipGap true
      readLinks (.both first (← readPipeline fuel)) fuel
    | '|' :: '|' :: rest =>
      set rest
      skipGap true
      readLinks (.either first (← readPipeline fuel)) fuel
    | _ => return first

/-- Commands up to what ends their list; only those of one line if so wanted. -/
def readList (lines : Bool) (fuel : Nat) : ShellReader ShellCommand := do
  match fuel with
  | 0 => throw "too long"
  | fuel + 1 =>
    skipGap lines
    let text ← get
    if listEnds text ∨ text.head? = some '\n' then return .nothing
    let first ← readLinks (← readPipeline fuel) fuel
    skipGap false
    match ← get with
    | ';' :: ';' :: _ => return first
    | ';' :: rest =>
      set rest
      return asSequence first (← readList lines fuel)
    | '&' :: rest =>
      set rest
      return asSequence (.background first) (← readList lines fuel)
    | '\n' :: _ => if lines then return asSequence first (← readList lines fuel) else return first
    | _ => return first

end

/-- The commands of the first line that holds some, with all lines that they reach into, and what
follows. There are none where only blanks are left. -/
def readLine? (text : List Char) : Except String (Option (ShellCommand × List Char)) :=
  match dropBlanks true false text with
  | [] => .ok none
  | text => do
    let (command, left) ← (readList false (8 * text.length + 64)).run text
    match left with
    | [] => return some (command, [])
    | '\n' :: rest => return some (command, rest)
    | other => throw (unexpected other)

end HeaderBindings
