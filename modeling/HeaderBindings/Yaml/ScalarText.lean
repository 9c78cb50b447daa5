import HeaderBindings.Text.Digit
import HeaderBindings.Yaml.Cursor
import HeaderBindings.Yaml.Fault

/-!
Reading the texts of scalars. In quotes and in plain scalars a single line break is a space and
further ones are kept. A block scalar is as far indented as its first line with text, unless a digit
says otherwise.
-/

namespace HeaderBindings

/-! Quoted scalars. -/

/-- Line breaks with blanks around them; no document may start or end here. -/
def quotedBreaks (found : List Char) (cursor : Cursor) (fuel : Nat) :
    Option (List Char × Cursor) :=
  match fuel with
  | 0 => none
  | fuel + 1 =>
    if cursor.atDocumentMark then none
    else
      let cursor := cursor.skipWhile fun c => c = ' ' || c = '\t'
      if isLineBreak cursor.peek then
        let (lineBreak, cursor) := cursor.lineBreak
        quotedBreaks (found ++ lineBreak) cursor fuel
      else some (found, cursor)

/-- What a break and the breaks behind it read as. -/
def foldBreaks (lineBreak breaks : List Char) : List Char :=
  (if lineBreak ≠ ['\n'] then lineBreak else if breaks.isEmpty then [' '] else []) ++ breaks

def quotedGap (cursor : Cursor) (fuel : Nat) : Option (List Char × Cursor) :=
  let (blanks, cursor) := cursor.span fun c => c = ' ' || c = '\t'
  if cursor.peek = nul then none
  else if isLineBreak cursor.peek then do
    let (lineBreak, cursor) := cursor.lineBreak
    let (breaks, cursor) ← quotedBreaks [] cursor fuel
    return (foldBreaks lineBreak breaks, cursor)
  else some (blanks, cursor)

/-- Escapes of one letter. -/
def plainEscape? (c : Char) : Option Char :=
  match c with
  | '0' => some nul
  | 'a' => some (Char.ofNat 0x07)
  | 'b' => some (Char.ofNat 0x08)
  | 't' | '\t' => some '\t'
  | 'n' => some '\n'
  | 'v' => some (Char.ofNat 0x0B)
  | 'f' => some (Char.ofNat 0x0C)
  | 'r' => some '\r'
  | 'e' => some (Char.ofNat 0x1B)
  | ' ' => some ' '
  | '"' => some '"'
  | '\\' => some '\\'
  | '/' => some '/'
  | 'N' => some (Char.ofNat 0x85)
  | '_' => some (Char.ofNat 0xA0)
  | 'L' => some (Char.ofNat 0x2028)
  | 'P' => some (Char.ofNat 0x2029)
  | _ => none

/-- How many hexadecimal digits an escape has. -/
def escapeDigits? (c : Char) : Option Nat :=
  match c with
  | 'x' => some 2
  | 'u' => some 4
  | 'U' => some 8
  | _ => none

/-- Reads exactly so many hexadecimal digits. -/
def readHexDigits (count : Nat) (cursor : Cursor) : Option (Nat × Cursor) := do
  let digits := cursor.ahead.take count
  if digits.length < count then none
  let values ← digits.mapM hexValue?
  return (values.foldl (fun n value => 16 * n + value) 0, cursor.skip count)

/-- What is read; where there is nothing, the text is no YAML. -/
def orMalformed {α : Type} (found : Option α) : Except YamlFault α :=
  found.getDM (throw .malformed)

/-- The character with a number. -/
def characterOf (code : Nat) : Except YamlFault Char :=
  if code.isValidChar then .ok (Char.ofNat code)
  else if 0x10FFFF < code then .error (.noCharacter code)
  else .error .halfPair

/-- What follows a backslash. -/
def readEscape (cursor : Cursor) (fuel : Nat) : Except YamlFault (List Char × Cursor) :=
  match plainEscape? cursor.peek with
  | some c => .ok ([c], cursor.step)
  | none =>
    match escapeDigits? cursor.peek with
    | some count => do
      let (code, cursor) ← orMalformed (readHexDigits count cursor.step)
      return ([← characterOf code], cursor)
    | none =>
      if isLineBreak cursor.peek then orMalformed (quotedBreaks [] cursor.lineBreak.2 fuel)
      else .error .malformed

/-- The text up to the closing quote, which is taken. -/
def quotedText (quote : Char) (found : List Char) (cursor : Cursor) (fuel : Nat) :
    Except YamlFault (List Char × Cursor) :=
  match fuel with
  | 0 => .error .malformed
  | fuel + 1 =>
    let c := cursor.peek
    if c = quote then
      if quote = '\'' ∧ cursor.peekAt 1 = '\'' then
        quotedText quote ('\'' :: found) (cursor.skip 2) fuel
      else .ok (found.reverse, cursor.step)
    else if c = '\\' ∧ quote = '"' then do
      let (text, cursor) ← readEscape cursor.step fuel
      quotedText quote (text.reverse ++ found) cursor fuel
    else if endsToken c then do
      let (gap, cursor) ← orMalformed (quotedGap cursor fuel)
      quotedText quote (gap.reverse ++ found) cursor fuel
    else quotedText quote (c :: found) cursor.step fuel

/-! Plain scalars. -/

def flowSigns : List Char := [',', '[', ']', '\x7b', '\x7d']

/-- Whether a plain scalar stops in front of a character. -/
def stopsPlain (inFlow : Bool) (c following : Char) : Bool :=
  endsToken c
    || (c = ':' && (endsToken following || (inFlow && flowSigns.contains following)))
    || (inFlow && (c = '?' || flowSigns.contains c))

def plainWord (inFlow : Bool) : List Char → List Char
  | [] => []
  | c :: rest =>
    if stopsPlain inFlow c (rest.head?.getD nul) then [] else c :: plainWord inFlow rest

/-- Breaks and spaces inside a plain scalar; none where a document starts or ends. -/
def plainBreaks (found : List Char) (cursor : Cursor) (fuel : Nat) :
    Option (List Char) × Cursor :=
  match fuel with
  | 0 => (none, cursor)
  | fuel + 1 =>
    if cursor.peek = ' ' then plainBreaks found cursor.step fuel
    else if isLineBreak cursor.peek then
      let (lineBreak, cursor) := cursor.lineBreak
      if cursor.atDocumentMark then (none, cursor)
      else plainBreaks (found ++ lineBreak) cursor fuel
    else (some found, cursor)

/-- The gap between two words of a plain scalar, and whether a line ended in it. -/
def plainGap (cursor : Cursor) (fuel : Nat) : List Char × Cursor × Bool :=
  let (blanks, cursor) := cursor.span (· = ' ')
  if isLineBreak cursor.peek then
    let (lineBreak, cursor) := cursor.lineBreak
    if cursor.atDocumentMark then ([], cursor, true)
    else match plainBreaks [] cursor fuel with
      | (some breaks, cursor) => (foldBreaks lineBreak breaks, cursor, true)
      | (none, cursor) => ([], cursor, true)
  else (blanks, cursor, false)

/-- The words of a plain scalar with the gaps between them, and whether the reading stopped at the
start of a line. -/
def plainScalar (inFlow : Bool) (indent : Int) (found gap : List Char) (lineStart : Bool)
    (cursor : Cursor) (fuel : Nat) : List Char × Cursor × Bool :=
  match fuel with
  | 0 => (found, cursor, lineStart)
  | fuel + 1 =>
    let word := if cursor.peek = '#' then [] else plainWord inFlow cursor.ahead
    if word.isEmpty then (found, cursor, lineStart)
    else
      let found := found ++ gap ++ word
      let (gap, cursor, lineStart) := plainGap (cursor.skip word.length) (fuel + 1)
      if gap.isEmpty || cursor.peek = '#' || (!inFlow && decide ((cursor.column : Int) < indent))
      then (found, cursor, lineStart)
      else plainScalar inFlow indent found gap lineStart cursor fuel

/-! Block scalars. -/

/-- How the breaks at the end of a block scalar are kept. -/
inductive Chomping where
  | strip
  | clip
  | keep
  deriving DecidableEq, Repr

def readChomping (cursor : Cursor) : Option Chomping × Cursor :=
  match cursor.peek with
  | '+' => (some .keep, cursor.step)
  | '-' => (some .strip, cursor.step)
  | _ => (none, cursor)

/-- A digit for the indentation; nought is refused. -/
def readIndent (cursor : Cursor) : Option (Option Nat × Cursor) :=
  let c := cursor.peek
  if c = '0' then none
  else if c.isDigit then some (some (c.toNat - '0'.toNat), cursor.step)
  else some (none, cursor)

/-- The signs behind the indicator of a block scalar, in either order. -/
def blockHeader (cursor : Cursor) : Option (Chomping × Option Nat × Cursor) := do
  let (early, cursor) := readChomping cursor
  let (indent, cursor) ← readIndent cursor
  let (late, cursor) := if early.isNone && indent.isSome then readChomping cursor
    else (none, cursor)
  if endsWord cursor.peek then some ((early.or late).getD .clip, indent, cursor) else none

/-- The blank lines in front of a block scalar, and the widest indentation in them. -/
def blockIndentation (found : List Char) (widest : Nat) (cursor : Cursor) (fuel : Nat) :
    List Char × Nat × Cursor :=
  match fuel with
  | 0 => (found, widest, cursor)
  | fuel + 1 =>
    if cursor.peek = ' ' then
      let cursor := cursor.step
      blockIndentation found (max widest cursor.column) cursor fuel
    else if isLineBreak cursor.peek then
      let (lineBreak, cursor) := cursor.lineBreak
      blockIndentation (found ++ lineBreak) widest cursor fuel
    else (found, widest, cursor)

/-- Passes spaces up to a column. -/
def skipIndent (indent : Nat) (cursor : Cursor) : Cursor :=
  let spaces := (cursor.ahead.takeWhile (· = ' ')).length
  cursor.skip (min spaces (indent - cursor.column))

def blockBreaks (indent : Nat) (found : List Char) (cursor : Cursor) (fuel : Nat) :
    List Char × Cursor :=
  match fuel with
  | 0 => (found, cursor)
  | fuel + 1 =>
    let cursor := skipIndent indent cursor
    if isLineBreak cursor.peek then
      let (lineBreak, cursor) := cursor.lineBreak
      blockBreaks indent (found ++ lineBreak) cursor fuel
    else (found, cursor)

def isBlankChar (c : Char) : Bool := c = ' ' || c = '\t'

/-- The lines of a block scalar; `breaks` are those in front of the next line. -/
def blockLines (folded : Bool) (chomping : Chomping) (indent : Nat) (found breaks : List Char)
    (cursor : Cursor) (fuel : Nat) : List Char × Cursor :=
  match fuel with
  | 0 => (found, cursor)
  | fuel + 1 =>
    if cursor.column ≠ indent ∨ cursor.peek = nul then
      (found ++ if chomping = .keep then breaks else [], cursor)
    else
      let startsWithText := !isBlankChar cursor.peek
      let (line, cursor) := cursor.span (!endsLine ·)
      let found := found ++ breaks ++ line
      let (lineBreak, cursor) := cursor.lineBreak
      let (breaks, cursor) := blockBreaks indent [] cursor (fuel + 1)
      if cursor.column = indent ∧ cursor.peek ≠ nul then
        let joint :=
          if folded ∧ lineBreak = ['\n'] ∧ startsWithText ∧ !isBlankChar cursor.peek then
            if breaks.isEmpty then [' '] else []
          else lineBreak
        blockLines folded chomping indent (found ++ joint) breaks cursor fuel
      else
        (found ++ (if chomping = .strip then [] else lineBreak)
          ++ (if chomping = .keep then breaks else []), cursor)

/-- A block scalar behind its indicator, in a block that is indented by `parent`. -/
def blockText (folded : Bool) (parent : Int) (cursor : Cursor) :
    Option (List Char × Cursor) := do
  let fuel := cursor.ahead.length + 1
  let (chomping, asked, cursor) ← blockHeader cursor
  let cursor ← cursor.restOfLine
  let least := (max (parent + 1) 1).toNat
  match asked with
  | some width =>
    let indent := least + width - 1
    let (breaks, cursor) := blockBreaks indent [] cursor fuel
    return blockLines folded chomping indent [] breaks cursor fuel
  | none =>
    let (breaks, widest, cursor) := blockIndentation [] 0 cursor fuel
    return blockLines folded chomping (max least widest) [] breaks cursor fuel

end HeaderBindings
