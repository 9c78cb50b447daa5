import HeaderBindings.Yaml.Plain

/-!
Strings as YAML scalars. A string is written plainly where it would be read back as itself, else in
single quotes, and in double quotes where it has characters that need an escape. Long lines are
folded at a space behind column 80.
-/

namespace HeaderBindings

inductive ScalarStyle where
  | plain
  | single
  | double
  deriving DecidableEq, Repr

/-! Which style a string takes. -/

/-- Characters that only an escape can stand for. -/
def needsEscape (c : Char) : Bool := c ≠ '\n' && !(' ' ≤ c && c ≤ '~')

/-- What may follow an indicator for it to count: a space, a break, or nothing. -/
def isGapOrEnd : List Char → Bool
  | [] => true
  | c :: _ => c = ' ' || c = '\n'

def leadingIndicators : List Char :=
  "#,[]\x7b\x7d&*!|>'\"%@\x60".toList

/-- A colon before a gap, or a hash behind one. -/
def hasInnerIndicator (before : Char) : List Char → Bool
  | [] => false
  | c :: rest =>
    (c = ':' && isGapOrEnd rest) || (c = '#' && (before = ' ' || before = '\n'))
      || hasInnerIndicator c rest

def hasIndicator (text : List Char) : Bool :=
  match text with
  | [] => false
  | c :: rest =>
    ['-', '-', '-'].isPrefixOf text || ['.', '.', '.'].isPrefixOf text
      || leadingIndicators.contains c
      || ((c = '?' || c = ':' || c = '-') && isGapOrEnd rest)
      || hasInnerIndicator c rest

/-- A space next to a line break. -/
def hasSpaceAtBreak : List Char → Bool
  | ' ' :: '\n' :: _ => true
  | '\n' :: ' ' :: _ => true
  | _ :: rest => hasSpaceAtBreak rest
  | [] => false

def scalarStyle (text : String) : ScalarStyle :=
  let chars := text.toList
  if chars.any needsEscape || hasSpaceAtBreak chars then .double
  else if chars.contains '\n' || chars.head? = some ' ' || chars.getLast? = some ' '
      || hasIndicator chars || plainKind text ≠ .string then .single
  else .plain

/-! Writing. -/

def bestWidth : Nat := 80

def padding (width : Nat) : List Char := List.replicate width ' '

/-- How the lines of a scalar are laid out. -/
structure ScalarLayout where
  /-- Where further lines start. -/
  indent : Nat
  /-- Whether long lines may be broken. -/
  folds : Bool

/-- Whether a line that has reached a column is broken at the next space. -/
def ScalarLayout.breaksAt (layout : ScalarLayout) (column : Nat) : Bool :=
  layout.folds && bestWidth < column

/-- A plain scalar from a column on. -/
def plainFrom (layout : ScalarLayout) (column : Nat) (spaced : Bool) : List Char → List Char
  | [] => []
  | ' ' :: rest =>
    if !spaced && layout.breaksAt column && rest.head? ≠ some ' ' then
      '\n' :: padding layout.indent ++ plainFrom layout layout.indent true rest
    else ' ' :: plainFrom layout (column + 1) true rest
  | c :: rest => c :: plainFrom layout (column + 1) false rest

/-- The inside of single quotes. A break is written as a blank line. -/
def singleFrom (layout : ScalarLayout) (column : Nat) (first spaced broken : Bool) :
    List Char → List Char
  | [] => if broken then padding layout.indent else []
  | ' ' :: rest =>
    if !first && !spaced && layout.breaksAt column && rest ≠ [] && rest.head? ≠ some ' ' then
      '\n' :: padding layout.indent ++ singleFrom layout layout.indent false true broken rest
    else ' ' :: singleFrom layout (column + 1) false true broken rest
  | '\n' :: rest =>
    (if broken then ['\n'] else ['\n', '\n']) ++ singleFrom layout 0 false spaced true rest
  | c :: rest =>
    let written := if c = '\'' then ['\'', '\''] else [c]
    let start := if broken then layout.indent else column
    (if broken then padding layout.indent else []) ++ written
      ++ singleFrom layout (start + written.length) false false false rest

def hexDigits (width n : Nat) : List Char :=
  let digits := (Nat.toDigits 16 n).map Char.toUpper
  List.replicate (width - digits.length) '0' ++ digits

/-- The escape that stands for a character in double quotes. -/
def escapeOf (c : Char) : List Char :=
  '\\' :: match c.toNat with
    | 0x00 => ['0']
    | 0x07 => ['a']
    | 0x08 => ['b']
    | 0x09 => ['t']
    | 0x0A => ['n']
    | 0x0B => ['v']
    | 0x0C => ['f']
    | 0x0D => ['r']
    | 0x1B => ['e']
    | 0x22 => ['"']
    | 0x5C => ['\\']
    | 0x85 => ['N']
    | 0xA0 => ['_']
    | 0x2028 => ['L']
    | 0x2029 => ['P']
    | n =>
      if n ≤ 0xFF then 'x' :: hexDigits 2 n
      else if n ≤ 0xFFFF then 'u' :: hexDigits 4 n
      else 'U' :: hexDigits 8 n

/-- The inside of double quotes. A space that starts a folded line is escaped. -/
def doubleFrom (layout : ScalarLayout) (column : Nat) (first spaced : Bool) :
    List Char → List Char
  | [] => []
  | ' ' :: rest =>
    if !first && !spaced && layout.breaksAt column && rest ≠ [] then
      let mark := if rest.head? = some ' ' then ['\\'] else []
      '\n' :: padding layout.indent ++ mark
        ++ doubleFrom layout (layout.indent + mark.length) false true rest
    else ' ' :: doubleFrom layout (column + 1) false true rest
  | c :: rest =>
    let written := if needsEscape c || c = '\n' || c = '"' || c = '\\' then escapeOf c else [c]
    written ++ doubleFrom layout (column + written.length) false false rest

/-- A string as a scalar that starts at a column. -/
def writeString (layout : ScalarLayout) (column : Nat) (text : String) : List Char :=
  match scalarStyle text with
  | .plain => plainFrom layout column false text.toList
  | .single => '\'' :: singleFrom layout (column + 1) true false false text.toList ++ ['\'']
  | .double => '"' :: doubleFrom layout (column + 1) true false text.toList ++ ['"']

end HeaderBindings
