import HeaderBindings.C.Glyph
import HeaderBindings.C.Language
import HeaderBindings.Text.Digit

/-!
Lexemes: the words, numbers, strings, signs and comments of a C source file, each with its place.
An unfinished string or character constant is one unknown lexeme up to the end of its line. In a
directive line, the name of an included file and the text of a message are lexemes of their own.
A name may hold characters that are written as numbers.
-/

namespace HeaderBindings

inductive LexemeKind where
  | identifier
  | number
  | character
  | string
  | punctuator
  | comment
  | headerName
  | message
  | unknown
  deriving DecidableEq, Repr

structure Lexeme where
  kind : LexemeKind
  glyphs : List Glyph
  start : Nat
  line : Nat
  startsLine : Bool
  spaced : Bool

def Lexeme.stop (lexeme : Lexeme) : Nat := lexeme.start + sizeOfGlyphs lexeme.glyphs

/-- The characters of a lexeme without the escaped line ends in it. -/
def Lexeme.spelling (lexeme : Lexeme) : String := String.ofList (plainText lexeme.glyphs)

/-- The lexeme exactly as the file has it. -/
def Lexeme.written (lexeme : Lexeme) : String := String.ofList (writtenText lexeme.glyphs)

/-- White space that is not ASCII. -/
def isWideBlank (c : Char) : Bool :=
  [0x85, 0xA0, 0x1680, 0x180E, 0x2028, 0x2029, 0x202F, 0x205F, 0x3000].contains c.toNat
    || (0x2000 ≤ c.toNat && c.toNat ≤ 0x200A)

def isNameStart (c : Char) : Bool :=
  c.isAlpha || c = '_' || c = '$' || (128 ≤ c.toNat && !isWideBlank c)

def isNameChar (c : Char) : Bool := isNameStart c || c.isDigit

/-- The number of a character behind a backslash, and how long it is written. -/
def characterNumber? (text : List Char) : Option (Nat × Nat) :=
  let exactly (count : Nat) (rest : List Char) : Option (Nat × Nat) :=
    let digits := (rest.take count).takeWhile fun c => (hexValue? c).isSome
    if digits.length = count then some (digitsValue 16 digits, count + 1) else none
  match text with
  | 'u' :: '\x7b' :: rest =>
    let digits := rest.takeWhile fun c => (hexValue? c).isSome
    match digits, rest.drop digits.length with
    | _ :: _, '\x7d' :: _ => some (digitsValue 16 digits, digits.length + 3)
    | _, _ => none
  | 'u' :: rest => exactly 4 rest
  | 'U' :: rest => exactly 8 rest
  | _ => none

/-- A character of a name that is written as its number. -/
def numberedCharacter? (text : List Char) : Option (Char × Nat) :=
  match characterNumber? text with
  | some (number, length) =>
    let c := Char.ofNat number
    if c.toNat = number ∧ 0xA0 ≤ number ∧ !isWideBlank c then some (c, length) else none
  | none => none

/-- The length of a name; `skip` glyphs in front belong to a character that was read already. -/
def nameLength (skip : Nat) : List Glyph → Nat
  | [] => 0
  | g :: rest =>
    match skip with
    | skip + 1 => nameLength skip rest + 1
    | 0 =>
      if isNameChar g.char then nameLength 0 rest + 1
      else if g.char = '\\' then
        match numberedCharacter? (plainText (rest.take 12)) with
        | some (_, length) => nameLength length rest + 1
        | none => 0
      else 0

/-- The characters of a name. -/
def nameText (skip : Nat) : List Char → List Char
  | [] => []
  | c :: rest =>
    match skip with
    | skip + 1 => nameText skip rest
    | 0 =>
      match (if c = '\\' then numberedCharacter? (rest.take 12) else none) with
      | some (numbered, length) => numbered :: nameText length rest
      | none => c :: nameText 0 rest

def startsName (ahead : List Glyph) : Bool :=
  match ahead with
  | g :: rest =>
    isNameStart g.char
      || (g.char = '\\' && (numberedCharacter? (plainText (rest.take 12))).isSome)
  | [] => false

/-- A lexeme as it counts: a name with its characters. -/
def Lexeme.text (lexeme : Lexeme) : String :=
  if lexeme.kind = .identifier then String.ofList (nameText 0 (plainText lexeme.glyphs))
  else lexeme.spelling

/-- A number goes on through letters, digits, points, signs that follow an exponent letter, and
apostrophes between digits where the dialect has them. -/
def numberLength (separators : Bool) (skip : Nat) : List Glyph → Nat
  | [] => 0
  | g :: rest =>
    match skip with
    | skip + 1 => numberLength separators skip rest + 1
    | 0 =>
      let follower := (rest.head?.map Glyph.char).getD ' '
      if "eEpP".toList.contains g.char && (follower = '+' || follower = '-') then
        numberLength separators 1 rest + 1
      else if isNameChar g.char || g.char = '.' then numberLength separators 0 rest + 1
      else if separators && g.char = '\'' && (follower.isAlphanum || follower = '_') then
        numberLength separators 1 rest + 1
      else 0

/-- The length of a quoted text up to its closing quote, when that is on the same line. -/
def quotedLength (quote : Char) : List Glyph → Option Nat
  | [] => none
  | [g] => if g.char = quote then some 1 else none
  | g :: h :: rest =>
    if isLineEnd g.char then none
    else if g.char = quote then some 1
    else if g.char = '\\' then (quotedLength quote rest).map (· + 2)
    else (quotedLength quote (h :: rest)).map (· + 1)

/-- The length of a text up to a closing character on the same line, that character included. -/
def enclosedLength (close : Char) : List Glyph → Option Nat
  | [] => none
  | g :: rest =>
    if isLineEnd g.char then none
    else if g.char = close then some 1
    else (enclosedLength close rest).map (· + 1)

def lineLength : List Glyph → Nat
  | [] => 0
  | g :: rest => if isLineEnd g.char then 0 else lineLength rest + 1

/-- The length of a block comment's text and its end; without an end the whole rest counts. -/
def blockCommentLength : List Glyph → Nat
  | [] => 0
  | [_] => 1
  | g :: h :: rest =>
    if g.char = '*' ∧ h.char = '/' then 2 else blockCommentLength (h :: rest) + 1

def plainPunctuators : List (List Char) :=
  ["...", "<<=", ">>=", "->", "++", "--", "<<", ">>", "<=", ">=", "==", "!=", "&&", "||",
    "*=", "/=", "%=", "+=", "-=", "&=", "^=", "|=", "##"].map String.toList

/-- Signs that stand for others. -/
def digraphs : List (List Char) := ["%:%:", "<:", ":>", "<%", "%>", "%:"].map String.toList

def punctuators (language : Language) : List (List Char) :=
  (if language.digraphs then digraphs else []) ++ plainPunctuators

def punctuatorLength (language : Language) (ahead : List Glyph) : Nat :=
  let near := plainText (ahead.take 4)
  match (punctuators language).find? fun sign => sign.isPrefixOf near with
  | some sign => sign.length
  | none => 1

/-- What the line has shown so far of a directive; a text that is searched for comments is read
without regard to directives. -/
inductive LineContext where
  | undirected
  | ordinary
  | directive
  | inclusion
  | announcement
  | condition
  /-- In a condition, behind a word that asks for a file. -/
  | query
  deriving DecidableEq, Repr

def LineContext.nextLine : LineContext → LineContext
  | .undirected => .undirected
  | _ => .ordinary

def quotedKind (kind : LexemeKind) (lead : Nat) (quote : Char) (ahead : List Glyph) :
    LexemeKind × Nat :=
  match quotedLength quote (ahead.drop (lead + 1)) with
  | some length => (kind, lead + 1 + length)
  | none => (.unknown, lineLength ahead)

/-- Letters in front of a string that belong to it. -/
def stringMarks (language : Language) : List (List Char) :=
  if language.unicodeLiterals then [['u', '8'], ['L'], ['u'], ['U']] else [['L']]

/-- Letters in front of a character constant that belong to it. -/
def characterMarks (language : Language) : List (List Char) :=
  (if language.byteCharacters then [['u', '8']] else [])
    ++ if language.unicodeLiterals then [['L'], ['u'], ['U']] else [['L']]

def nameOrQuoted (language : Language) (ahead : List Glyph) : LexemeKind × Nat :=
  let length := nameLength 0 ahead
  let name := plainText (ahead.take length)
  match (ahead.drop length).head?.map Glyph.char with
  | some '"' =>
    if (stringMarks language).contains name then quotedKind .string length '"' ahead
    else (.identifier, length)
  | some '\'' =>
    if (characterMarks language).contains name then quotedKind .character length '\'' ahead
    else (.identifier, length)
  | _ => (.identifier, length)

def slashLexeme (language : Language) (ahead : List Glyph) : LexemeKind × Nat :=
  match ahead with
  | _ :: h :: rest =>
    let starred := (rest.head?.map Glyph.char) = some '*'
    if h.char = '/' && (language.lineComments || !starred) then (.comment, lineLength ahead)
    else if h.char = '*' then (.comment, 2 + blockCommentLength rest)
    else (.punctuator, punctuatorLength language ahead)
  | _ => (.punctuator, 1)

def ordinaryLexeme (language : Language) (ahead : List Glyph) : LexemeKind × Nat :=
  match ahead with
  | [] => (.unknown, 0)
  | g :: rest =>
    if startsName ahead then nameOrQuoted language ahead
    else if g.char.isDigit then (.number, numberLength language.digitSeparators 0 ahead)
    else if g.char = '.' && (rest.head?.any fun h => h.char.isDigit) then
      (.number, numberLength language.digitSeparators 0 ahead)
    else if g.char = '"' then quotedKind .string 0 '"' ahead
    else if g.char = '\'' then quotedKind .character 0 '\'' ahead
    else if g.char = '/' then slashLexeme language ahead
    else (.punctuator, punctuatorLength language ahead)

def scanLexeme (language : Language) (context : LineContext) (ahead : List Glyph) :
    LexemeKind × Nat :=
  let ordinary := ordinaryLexeme language ahead
  match context, ahead with
  | .announcement, _ => (.message, lineLength ahead)
  | .inclusion, g :: rest =>
    if ordinary.1 = .comment then ordinary
    else
      let close := if g.char = '<' then some '>' else if g.char = '"' then some '"' else none
      match close.bind fun close => enclosedLength close rest with
      | some length => (.headerName, length + 1)
      | none => ordinary
  | _, _ => ordinary

/-- The context behind the first word of a directive. -/
def LineContext.ofDirective (name : String) : LineContext :=
  if ["include", "include_next", "import"].contains name then .inclusion
  else if ["error", "warning"].contains name then .announcement
  else if ["if", "elif"].contains name then .condition
  else .ordinary

/-- The context that a lexeme leaves on its line. -/
def LineContext.after (context : LineContext) (startsLine : Bool) (kind : LexemeKind)
    (text : List Char) : LineContext :=
  if kind = .comment ∨ context = .undirected then context
  else if startsLine then
    if text = ['#'] ∨ text = ['%', ':'] then .directive else .ordinary
  else match context with
    | .directive => .ofDirective (String.ofList text)
    | .condition =>
      if ["__has_include", "__has_include_next"].contains (String.ofList text) then .query
      else .condition
    | .query => if text = ['('] then .inclusion else .condition
    | .inclusion => .condition
    | _ => .ordinary

/-- A place in a file, with what is known there and what lies ahead. -/
structure LexPoint where
  language : Language
  offset : Nat
  line : Nat
  startsLine : Bool
  spaced : Bool
  context : LineContext
  ahead : List Glyph

def lineEndsIn : List Char → Nat
  | [] => 0
  | '\r' :: '\n' :: rest => lineEndsIn rest + 1
  | c :: rest => if isLineEnd c then lineEndsIn rest + 1 else lineEndsIn rest

/-- Moves over white space. -/
def skipBlanks (point : LexPoint) : List Glyph → LexPoint
  | [] => { point with ahead := [] }
  | g :: rest =>
    let offset := point.offset + g.size
    if isLineEnd g.char then
      let halves := g.char = '\r' ∧ (rest.head?.map Glyph.char) = some '\n'
      let lines := lineEndsIn g.written - (if halves then 1 else 0)
      skipBlanks ⟨point.language, offset, point.line + lines, true, true,
        point.context.nextLine, rest⟩ rest
    else if isSpaceInLine g.char || g.char.toNat = 0
        || (isWideBlank g.char && point.context ≠ .undirected) then
      let line := point.line + lineEndsIn g.written
      skipBlanks { point with offset, line, spaced := true, ahead := rest } rest
    else { point with ahead := g :: rest }

theorem skipBlanks_length (point : LexPoint) (ahead : List Glyph) :
    (skipBlanks point ahead).ahead.length ≤ ahead.length := by
  induction ahead generalizing point with
  | nil => simp [skipBlanks]
  | cons g rest ih =>
    unfold skipBlanks
    simp only
    split
    · exact Nat.le_succ_of_le (ih _)
    · split
      · exact Nat.le_succ_of_le (ih _)
      · exact Nat.le_refl _

/-- White space in front of a lexeme is passed over, but it belongs to the text of a message. -/
def LexPoint.skip (point : LexPoint) : LexPoint :=
  let message := point.context = .announcement
    && point.ahead.head?.any fun g => !isLineEnd g.char
  if message then point else skipBlanks point point.ahead

theorem LexPoint.skip_length (point : LexPoint) :
    point.skip.ahead.length ≤ point.ahead.length := by
  unfold LexPoint.skip
  simp only
  split
  · exact Nat.le_refl _
  · exact skipBlanks_length point point.ahead

/-- The lexeme at a point where no white space lies ahead, and the point after it. -/
def LexPoint.take (point : LexPoint) : Lexeme × LexPoint :=
  let (kind, length) := scanLexeme point.language point.context point.ahead
  let count := max 1 length
  let taken := point.ahead.take count
  let lexeme : Lexeme := ⟨kind, taken, point.offset, point.line, point.startsLine, point.spaced⟩
  (lexeme,
    { language := point.language
      offset := lexeme.stop
      line := point.line + lineEndsIn (writtenText taken)
      startsLine := point.startsLine && kind = .comment
      spaced := kind = .comment
      context := point.context.after point.startsLine kind (plainText taken)
      ahead := point.ahead.drop count })

def LexPoint.next? (point : LexPoint) : Option (Lexeme × LexPoint) :=
  if point.skip.ahead.isEmpty then none else some point.skip.take

theorem LexPoint.next?_length {point after : LexPoint} {lexeme : Lexeme}
    (h : point.next? = some (lexeme, after)) : after.ahead.length < point.ahead.length := by
  unfold LexPoint.next? at h
  split at h
  · cases h
  · next some_ahead =>
    have pos : 0 < point.skip.ahead.length := by
      cases e : point.skip.ahead with
      | nil => simp [e] at some_ahead
      | cons _ _ => simp
    have bound := point.skip_length
    simp only [Option.some.injEq, LexPoint.take, Prod.mk.injEq] at h
    rw [← h.2]
    simp only [List.length_drop]
    omega

/-- The byte order mark at the start of a file belongs to no lexeme. -/
def fileStart (language : Language) (context : LineContext) (text : List Char) : LexPoint :=
  match glyphs language.trigraphs text with
  | g :: rest =>
    if g.char.toNat = 0xFEFF then ⟨language, g.size, 1, true, false, context, rest⟩
    else ⟨language, 0, 1, true, false, context, g :: rest⟩
  | [] => ⟨language, 0, 1, true, false, context, []⟩

/-- A point inside a file, from which directives are not told apart. -/
def filePoint (language : Language) (text : List Char) (offset : Nat) : LexPoint :=
  if offset = 0 then fileStart language .undirected text
  else ⟨language, offset, 1, false, false, .undirected,
    glyphsAfter offset (glyphs language.trigraphs text)⟩

/-- The lexemes from a point on, put in front of those already found, in reverse. -/
def lexemesInto (found : List Lexeme) (point : LexPoint) : List Lexeme :=
  match _h : point.next? with
  | none => found
  | some (lexeme, after) => lexemesInto (lexeme :: found) after
termination_by point.ahead.length
decreasing_by exact LexPoint.next?_length _h

/-- All lexemes of a text but its comments; a comment counts as white space. -/
def lexText (language : Language) (context : LineContext) (text : List Char) : List Lexeme :=
  ((lexemesInto [] (fileStart language context text)).filter (·.kind ≠ .comment)).reverse

def lexFile (language : Language) (text : List Char) : List Lexeme :=
  lexText language .ordinary text

end HeaderBindings
