/-!
A point in a YAML text, with its line and its column. There is a NUL behind the end of the text, and
none inside.
-/

namespace HeaderBindings

structure Cursor where
  ahead : List Char
  index : Nat
  line : Nat
  column : Nat

def Cursor.ofText (text : List Char) : Cursor := ⟨text, 0, 0, 0⟩

def nul : Char := Char.ofNat 0

def isLineBreak (c : Char) : Bool :=
  c = '\n' || c.toNat = 0x85 || c.toNat = 0x2028 || c.toNat = 0x2029

/-- A line break or the end of the text. -/
def endsLine (c : Char) : Bool := c = nul || isLineBreak c

/-- A space, a line break or the end. -/
def endsWord (c : Char) : Bool := c = ' ' || endsLine c

/-- Like the end of a word, or a tab. -/
def endsToken (c : Char) : Bool := c = '\t' || endsWord c

namespace Cursor

def peekAt (cursor : Cursor) (distance : Nat) : Char := (cursor.ahead[distance]?).getD nul

def peek (cursor : Cursor) : Char := cursor.peekAt 0

/-- A byte order mark takes no column. -/
def step (cursor : Cursor) : Cursor :=
  match cursor.ahead with
  | [] => cursor
  | c :: rest =>
    if isLineBreak c then ⟨rest, cursor.index + 1, cursor.line + 1, 0⟩
    else
      let width := if c.toNat = 0xFEFF then 0 else 1
      ⟨rest, cursor.index + 1, cursor.line, cursor.column + width⟩

def skip : Nat → Cursor → Cursor
  | 0, cursor => cursor
  | count + 1, cursor => skip count cursor.step

/-- Takes the characters in front of the first that does not qualify. -/
def span (qualifies : Char → Bool) (cursor : Cursor) : List Char × Cursor :=
  let taken := cursor.ahead.takeWhile qualifies
  (taken, skip taken.length cursor)

def skipWhile (qualifies : Char → Bool) (cursor : Cursor) : Cursor := (cursor.span qualifies).2

def skipSpaces (cursor : Cursor) : Cursor := cursor.skipWhile (· = ' ')

/-- Takes a line break if there is one. Most kinds of breaks read as a newline. -/
def lineBreak (cursor : Cursor) : List Char × Cursor :=
  let c := cursor.peek
  if !isLineBreak c then ([], cursor)
  else if c = '\n' ∨ c.toNat = 0x85 then (['\n'], cursor.step)
  else ([c], cursor.step)

/-- Whether three equal signs and a gap are ahead. -/
def atSigns (sign : Char) (cursor : Cursor) : Bool :=
  cursor.peek = sign && cursor.peekAt 1 = sign && cursor.peekAt 2 = sign
    && endsToken (cursor.peekAt 3)

/-- Whether a mark of a document's start or end is ahead; it counts at the start of a line. -/
def atDocumentMark (cursor : Cursor) : Bool := cursor.atSigns '-' || cursor.atSigns '.'

def skipComment (cursor : Cursor) : Cursor :=
  if cursor.peek = '#' then cursor.skipWhile (!endsLine ·) else cursor

/-- Passes what may stand at the end of a line behind an indicator, with the break. -/
def restOfLine (cursor : Cursor) : Option Cursor :=
  let cursor := cursor.skipSpaces.skipComment
  if endsLine cursor.peek then some cursor.lineBreak.2 else none

end Cursor

end HeaderBindings
