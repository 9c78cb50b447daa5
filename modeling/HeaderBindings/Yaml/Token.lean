import HeaderBindings.Yaml.ScalarText

/-!
A YAML text as tokens. Blocks are opened and closed by indentation. A node on one line may turn out
to be a key when a colon follows it; the token that marks it as a key is then put in front of it.
-/

namespace HeaderBindings

structure TagName where
  handle : Option String
  suffix : String
  deriving DecidableEq, Repr

inductive YamlToken where
  | versionDirective (major : Nat)
  | tagDirective (handle replacement : String)
  | otherDirective
  | documentStart
  | documentEnd
  | blockSequenceStart
  | blockMappingStart
  | blockEnd
  | flowSequenceStart
  | flowSequenceEnd
  | flowMappingStart
  | flowMappingEnd
  | flowEntry
  | blockEntry
  | key
  | value
  | alias (name : String)
  | anchor (name : String)
  | tag (name : TagName)
  | scalar (text : String) (plain : Bool)
  /-- What cannot be read, though the text may be YAML up to here. -/
  | fault (fault : YamlFault)
  | streamEnd
  deriving DecidableEq, Repr

/-- A node that may turn out to be a key. -/
structure PossibleKey where
  level : Nat
  /-- The number of tokens in front of the node. -/
  position : Nat
  /-- Nothing but a key can stand here. -/
  required : Bool
  index : Nat
  line : Nat
  column : Nat

structure TokenState where
  cursor : Cursor
  tokens : List YamlToken
  flowLevel : Nat
  indent : Int
  indents : List Int
  mayStartKey : Bool
  possibleKeys : List PossibleKey

namespace TokenState

/-- Adds a token; the last one comes first. -/
def add (state : TokenState) (token : YamlToken) : TokenState :=
  { state with tokens := token :: state.tokens }

/-- Puts a token in front of all but the first `position`. -/
def insert (state : TokenState) (position : Nat) (token : YamlToken) : TokenState :=
  let later := state.tokens.length - position
  { state with tokens := state.tokens.take later ++ token :: state.tokens.drop later }

def advance (state : TokenState) (count : Nat) : TokenState :=
  { state with cursor := state.cursor.skip count }

/-! Possible keys. -/

/-- A key must end on its line, and within so many characters. -/
def longestKey : Nat := 1024

def isStale (state : TokenState) (key : PossibleKey) : Bool :=
  key.line ≠ state.cursor.line || longestKey < state.cursor.index - key.index

/-- Gives up the keys that went too far; a required one may not. -/
def dropStaleKeys (state : TokenState) : Option TokenState :=
  if state.possibleKeys.any fun key => state.isStale key && key.required then none
  else some { state with possibleKeys := state.possibleKeys.filter (!state.isStale ·) }

/-- Gives up the key of the present level. -/
def dropKey (state : TokenState) : Option TokenState :=
  if state.possibleKeys.any fun key => key.level = state.flowLevel && key.required then none
  else some
    { state with possibleKeys := state.possibleKeys.filter (·.level ≠ state.flowLevel) }

/-- Notes that a key may start here. -/
def noteKey (state : TokenState) : Option TokenState :=
  if !state.mayStartKey then some state
  else do
    let state ← state.dropKey
    let cursor := state.cursor
    let key : PossibleKey :=
      { level := state.flowLevel, position := state.tokens.length
        required := state.flowLevel = 0 && state.indent = cursor.column
        index := cursor.index, line := cursor.line, column := cursor.column }
    return { state with possibleKeys := key :: state.possibleKeys }

/-! Indentation. -/

def closeBlocksFrom (state : TokenState) (column : Int) (indents : List Int) : TokenState :=
  if column < state.indent then
    match indents with
    | [] => state
    | indent :: rest =>
      closeBlocksFrom ({ state with indent, indents := rest }.add .blockEnd) column rest
  else state

/-- Closes the blocks that are indented further than a column. -/
def closeBlocks (state : TokenState) (column : Int) : TokenState :=
  if state.flowLevel ≠ 0 then state else state.closeBlocksFrom column state.indents

/-- Opens a block at a column if it is not open yet; the token is inserted at a position. -/
def openBlock (state : TokenState) (column : Nat) (position : Nat) (token : YamlToken) :
    TokenState :=
  if state.flowLevel = 0 ∧ state.indent < column then
    { state with indents := state.indent :: state.indents, indent := column }.insert position token
  else state

/-! Parts of tokens. -/

def isNameChar (c : Char) : Bool := c.isAlphanum || c = '-' || c = '_'

def isUriChar (c : Char) : Bool :=
  c.isAlphanum || "-;/?:@&=+$,_.!~*'()[]%".toList.contains c

/-- The bytes that are given by percent signs, as text. -/
def percentBytes (found : List UInt8) (cursor : Cursor) (fuel : Nat) :
    Option (List UInt8 × Cursor) :=
  match fuel with
  | 0 => none
  | fuel + 1 =>
    if cursor.peek ≠ '%' then some (found, cursor)
    else do
      let (value, cursor) ← readHexDigits 2 cursor.step
      percentBytes (found ++ [value.toUInt8]) cursor fuel

def uriText (found : List Char) (cursor : Cursor) (fuel : Nat) : Option (String × Cursor) :=
  match fuel with
  | 0 => none
  | fuel + 1 =>
    if cursor.peek = '%' then do
      let (bytes, cursor) ← percentBytes [] cursor fuel
      let text ← String.fromUTF8? (ByteArray.mk bytes.toArray)
      uriText (found ++ text.toList) cursor fuel
    else
      let (text, cursor) := cursor.span fun c => isUriChar c && c ≠ '%'
      let found := found ++ text
      if text.isEmpty then
        if found.isEmpty then none else some (String.ofList found, cursor)
      else uriText found cursor fuel

/-- An exclamation mark, or a name between two of them. -/
def tagHandle (cursor : Cursor) : Option (String × Cursor) :=
  if cursor.peek ≠ '!' then none
  else if cursor.peekAt 1 = ' ' then some ("!", cursor.step)
  else
    let (name, cursor) := cursor.step.span isNameChar
    if cursor.peek ≠ '!' then none
    else some (String.ofList ('!' :: name ++ ['!']), cursor.step)

def readTag (cursor : Cursor) : Option (TagName × Cursor) := do
  let fuel := cursor.ahead.length + 2
  let (name, cursor) ←
    if cursor.peekAt 1 = '<' then do
      let (suffix, cursor) ← uriText [] (cursor.skip 2) fuel
      if cursor.peek ≠ '>' then none
      pure (TagName.mk none suffix, cursor.step)
    else if endsToken (cursor.peekAt 1) then pure (TagName.mk none "!", cursor.step)
    else
      let word := (cursor.ahead.drop 1).takeWhile (!endsWord ·)
      if word.contains '!' then do
        let (handle, cursor) ← tagHandle cursor
        let (suffix, cursor) ← uriText [] cursor fuel
        pure (TagName.mk (some handle) suffix, cursor)
      else do
        let (suffix, cursor) ← uriText [] cursor.step fuel
        pure (TagName.mk (some "!") suffix, cursor)
  if endsWord cursor.peek then some (name, cursor) else none

/-- The name of an anchor or alias. -/
def readName (cursor : Cursor) : Option (String × Cursor) :=
  let (name, cursor) := cursor.step.span isNameChar
  let following := cursor.peek
  if name.isEmpty then none
  else if endsToken following || "?:,]\x7d%@\x60".toList.contains following then
    some (String.ofList name, cursor)
  else none

def readDigitRun (cursor : Cursor) : Option (Nat × Cursor) :=
  let (digits, cursor) := cursor.span Char.isDigit
  if digits.isEmpty then none
  else some (digits.foldl (fun n c => 10 * n + (c.toNat - '0'.toNat)) 0, cursor)

def readDirective (cursor : Cursor) : Option (YamlToken × Cursor) := do
  let fuel := cursor.ahead.length + 2
  let (name, cursor) := cursor.step.span isNameChar
  if name.isEmpty || !endsWord cursor.peek then none
  let (token, cursor) ←
    if name = "YAML".toList then do
      let (major, cursor) ← readDigitRun cursor.skipSpaces
      if cursor.peek ≠ '.' then none
      let (_, cursor) ← readDigitRun cursor.step
      if !endsWord cursor.peek then none
      pure (YamlToken.versionDirective major, cursor)
    else if name = "TAG".toList then do
      let (handle, cursor) ← tagHandle cursor.skipSpaces
      if cursor.peek ≠ ' ' then none
      let (replacement, cursor) ← uriText [] cursor.skipSpaces fuel
      if !endsWord cursor.peek then none
      pure (YamlToken.tagDirective handle replacement, cursor)
    else pure (YamlToken.otherDirective, cursor.skipWhile (!endsLine ·))
  let cursor ← cursor.restOfLine
  return (token, cursor)

/-! Single tokens. -/

/-- Passes blanks, comments and line breaks. -/
def passGaps (state : TokenState) (fuel : Nat) : TokenState :=
  match fuel with
  | 0 => state
  | fuel + 1 =>
    let cursor := state.cursor.skipSpaces.skipComment
    if isLineBreak cursor.peek then
      passGaps { state with
        cursor := cursor.lineBreak.2, mayStartKey := state.mayStartKey || state.flowLevel = 0 } fuel
    else { state with cursor }

def passStart (state : TokenState) : TokenState :=
  if state.cursor.index = 0 ∧ state.cursor.peek.toNat = 0xFEFF then state.advance 1 else state

/-- A directive or a mark of a document closes all blocks. -/
def closeAll (state : TokenState) : Option TokenState := do
  let state ← (state.closeBlocks (-1)).dropKey
  return { state with mayStartKey := false }

def openFlow (state : TokenState) (token : YamlToken) : Option TokenState := do
  let state ← state.noteKey
  return ({ state with flowLevel := state.flowLevel + 1, mayStartKey := true }.add token).advance 1

def closeFlow (state : TokenState) (token : YamlToken) : Option TokenState := do
  let state ← state.dropKey
  return ({ state with flowLevel := state.flowLevel - 1, mayStartKey := false }.add token).advance 1

def takeFlowEntry (state : TokenState) : Option TokenState := do
  let state ← state.dropKey
  return ({ state with mayStartKey := true }.add .flowEntry).advance 1

/-- Opens a block for an entry that starts here. -/
def startEntry (state : TokenState) (block : YamlToken) : Option TokenState :=
  if state.flowLevel = 0 ∧ !state.mayStartKey then none
  else some (state.openBlock state.cursor.column state.tokens.length block)

def takeBlockEntry (state : TokenState) : Option TokenState := do
  let state ← (← state.startEntry .blockSequenceStart).dropKey
  return ({ state with mayStartKey := true }.add .blockEntry).advance 1

def takeKey (state : TokenState) : Option TokenState := do
  let state ← (← state.startEntry .blockMappingStart).dropKey
  return ({ state with mayStartKey := state.flowLevel = 0 }.add .key).advance 1

def takeValue (state : TokenState) : Option TokenState := do
  match state.possibleKeys.find? (·.level = state.flowLevel) with
  | some key =>
    let state := { state with
      possibleKeys := state.possibleKeys.filter (·.level ≠ state.flowLevel), mayStartKey := false }
    let state := (state.insert key.position .key).openBlock key.column key.position
      .blockMappingStart
    return (state.add .value).advance 1
  | none =>
    let state ← (← state.startEntry .blockMappingStart).dropKey
    return ({ state with mayStartKey := state.flowLevel = 0 }.add .value).advance 1

/-- Adds the token of a node that may be a key. -/
def takeNode (state : TokenState) (read : Cursor → Option (YamlToken × Cursor)) :
    Option TokenState := do
  let state ← state.noteKey
  let (token, cursor) ← read state.cursor
  return { state with cursor, mayStartKey := false }.add token

def takePlain (state : TokenState) : Option TokenState := do
  let state ← state.noteKey
  let fuel := state.cursor.ahead.length + 1
  let (text, cursor, lineStart) :=
    plainScalar (state.flowLevel ≠ 0) (state.indent + 1) [] [] false state.cursor fuel
  return { state with cursor, mayStartKey := lineStart }.add (.scalar (String.ofList text) true)

def takeBlockScalar (state : TokenState) (folded : Bool) : Option TokenState := do
  let state ← state.dropKey
  let (text, cursor) ← blockText folded state.indent state.cursor.step
  return { state with cursor, mayStartKey := true }.add (.scalar (String.ofList text) false)

def takeQuoted (state : TokenState) : Except YamlFault TokenState := do
  let state ← orMalformed state.noteKey
  let cursor := state.cursor
  let (text, cursor) ← quotedText cursor.peek [] cursor.step (cursor.ahead.length + 1)
  return { state with cursor, mayStartKey := false }.add (.scalar (String.ofList text) false)

def startsPlain (state : TokenState) : Bool :=
  let c := state.cursor.peek
  (!endsToken c && !("-?:,[]\x7b\x7d#&*!|>'\"%@\x60".toList.contains c))
    || (!endsToken (state.cursor.peekAt 1)
      && (c = '-' || (state.flowLevel = 0 && (c = '?' || c = ':'))))

/-- Takes the next token, if it has no quotes. -/
def takeUnquoted (state : TokenState) : Option TokenState :=
  let cursor := state.cursor
  let c := cursor.peek
  let inFlow := state.flowLevel ≠ 0
  let gapFollows := endsToken (cursor.peekAt 1)
  if c = '%' ∧ cursor.column = 0 then do
    let state ← state.closeAll
    let (token, cursor) ← readDirective cursor
    return { state with cursor }.add token
  else if cursor.column = 0 ∧ cursor.atSigns '-' then
    state.closeAll.map fun state => (state.add .documentStart).advance 3
  else if cursor.column = 0 ∧ cursor.atSigns '.' then
    state.closeAll.map fun state => (state.add .documentEnd).advance 3
  else match c with
    | '[' => state.openFlow .flowSequenceStart
    | '\x7b' => state.openFlow .flowMappingStart
    | ']' => state.closeFlow .flowSequenceEnd
    | '\x7d' => state.closeFlow .flowMappingEnd
    | ',' => state.takeFlowEntry
    | '*' => state.takeNode fun cursor =>
      (readName cursor).map fun (name, cursor) => (.alias name, cursor)
    | '&' => state.takeNode fun cursor =>
      (readName cursor).map fun (name, cursor) => (.anchor name, cursor)
    | '!' => state.takeNode fun cursor =>
      (readTag cursor).map fun (name, cursor) => (.tag name, cursor)
    | _ =>
      if c = '-' ∧ gapFollows then state.takeBlockEntry
      else if c = '?' ∧ (inFlow ∨ gapFollows) then state.takeKey
      else if c = ':' ∧ (inFlow ∨ gapFollows) then state.takeValue
      else if c = '|' ∧ !inFlow then state.takeBlockScalar false
      else if c = '>' ∧ !inFlow then state.takeBlockScalar true
      else if state.startsPlain then state.takePlain
      else none

def takeToken (state : TokenState) : Except YamlFault TokenState :=
  if state.cursor.peek = '\'' ∨ state.cursor.peek = '"' then state.takeQuoted
  else orMalformed state.takeUnquoted

def finish (state : TokenState) : Option (List YamlToken) := do
  let state ← state.closeAll
  return (state.add .streamEnd).tokens.reverse

/-- How many tokens are handed on before another one is read. One that may turn out to be a key is
held back, with all behind it. -/
def handedOn (state : TokenState) : Nat :=
  (state.possibleKeys.filter (!state.isStale ·)).foldl (fun least key => min least key.position)
    state.tokens.length

def stopAt (state : TokenState) (fault : YamlFault) : List YamlToken :=
  state.tokens.reverse.take state.handedOn ++ [.fault fault]

def run (state : TokenState) (fuel : Nat) : Option (List YamlToken) :=
  match fuel with
  | 0 => none
  | fuel + 1 => do
    let next ← (state.passStart.passGaps (state.cursor.ahead.length + 1)).dropStaleKeys
    let next := next.closeBlocks next.cursor.column
    if next.cursor.ahead.isEmpty then next.finish
    else match next.takeToken with
      | .ok next => run next fuel
      | .error .malformed => none
      | .error fault => some (state.stopAt fault)

end TokenState

/-- Characters that a YAML text may hold as they are. -/
def isYamlChar (c : Char) : Bool :=
  let n := c.toNat
  n = 9 || n = 10 || n = 13 || (0x20 ≤ n && n ≤ 0x7E) || n = 0x85 || (0xA0 ≤ n && n ≤ 0xFFFD)
    || 0x10000 ≤ n

/-- The tokens of a text, up to one that cannot be read; a text that is no YAML has none. -/
def yamlTokens (text : List Char) : Option (List YamlToken) :=
  if !text.all isYamlChar then none
  else
    let state : TokenState :=
      { cursor := .ofText text, tokens := [], flowLevel := 0, indent := -1, indents := []
        mayStartKey := true, possibleKeys := [] }
    state.run (text.length + 2)

end HeaderBindings
