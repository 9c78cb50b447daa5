import HeaderBindings.C.BasicType
import HeaderBindings.C.Lexeme

/-!
Number, character and string literals: what their digits, suffixes and escapes say.
-/

namespace HeaderBindings

def isDigitOf (base : Nat) (c : Char) : Bool := (hexValue? c).any (· < base)

/-- What the letters behind the digits of an integer say. -/
structure LiteralSuffix where
  unsignedSuffix : Bool
  longs : Nat
  /-- Whether the type has no more bits than the value needs. -/
  bitPrecise : Bool
  imaginary : Bool
  deriving DecidableEq, Repr

def LiteralSuffix.none : LiteralSuffix := ⟨false, 0, false, false⟩

/-- Reads the letters of a suffix, each kind once and in any order. -/
def LiteralSuffix.read? (found : LiteralSuffix) : List Char → Option LiteralSuffix
  | [] => some found
  | 'l' :: 'l' :: rest | 'L' :: 'L' :: rest =>
    if found.longs = 0 then read? { found with longs := 2 } rest else .none
  | 'w' :: 'b' :: rest | 'W' :: 'B' :: rest =>
    if found.bitPrecise then .none else read? { found with bitPrecise := true } rest
  | c :: rest =>
    match c with
    | 'l' | 'L' => if found.longs = 0 then read? { found with longs := 1 } rest else .none
    | 'u' | 'U' =>
      if found.unsignedSuffix then .none else read? { found with unsignedSuffix := true } rest
    | 'i' | 'I' | 'j' | 'J' =>
      if found.imaginary then .none else read? { found with imaginary := true } rest
    | _ => .none

/-- A literal's digits and what its suffix says. -/
structure IntegerLiteral where
  value : Nat
  decimal : Bool
  suffix : LiteralSuffix
  deriving DecidableEq, Repr

/-- The base of a number, its digits and what follows them. -/
def splitLiteral (text : List Char) : Nat × List Char × List Char :=
  let cut (base : Nat) (body : List Char) : Nat × List Char × List Char :=
    (base, body.takeWhile (isDigitOf base), body.dropWhile (isDigitOf base))
  match text with
  | '0' :: x :: rest =>
    if x = 'x' ∨ x = 'X' then cut 16 rest
    else if x = 'b' ∨ x = 'B' then cut 2 rest
    else cut 8 text
  | _ => cut 10 text

/-- Reads an integer literal; a floating literal is none, and neither is an imaginary number. -/
def readInteger? (text : String) : Option IntegerLiteral :=
  match splitLiteral (text.toList.filter (· ≠ '\'')) with
  | (base, digits, suffix) =>
    if digits.isEmpty then none
    else match LiteralSuffix.none.read? suffix with
      | some found =>
        if found.imaginary then none else some ⟨digitsValue base digits, base = 10, found⟩
      | none => none

/-- A floating literal: the value is `digits * base ^ power`. -/
structure FloatingLiteral where
  digits : Nat
  base : Nat
  power : Int
  type : BasicType
  imaginary : Bool
  deriving DecidableEq, Repr

/-- The type that the letters behind a floating number ask for, and whether it is imaginary. -/
def floatingSuffix? (suffix : List Char) : Option (BasicType × Bool) :=
  let letters := suffix.filter fun c => !(['i', 'I', 'j', 'J'].contains c)
  let type? : Option BasicType := match String.ofList letters with
    | "" => some .double
    | "f" | "F" => some .float
    | "l" | "L" => some .longDouble
    | "q" | "Q" => some .float128
    | "f16" | "F16" => some .float16
    | _ => none
  type?.map fun type => (type, letters.length < suffix.length)

/-- Reads a floating literal: digits with a point, and an exponent behind a letter. The digits in
base 16 have an exponent in base 2. -/
def readFloating? (text : String) : Option FloatingLiteral :=
  let all := text.toList.filter (· ≠ '\'')
  let isHex := match all with
    | '0' :: x :: _ => x = 'x' || x = 'X'
    | _ => false
  let base := if isHex then 16 else 10
  let body := if isHex then all.drop 2 else all
  let whole := body.takeWhile (isDigitOf base)
  let behind := body.dropWhile (isDigitOf base)
  let (part, behind) : List Char × List Char := match behind with
    | '.' :: rest => (rest.takeWhile (isDigitOf base), rest.dropWhile (isDigitOf base))
    | _ => ([], behind)
  let marks : List Char := if isHex then ['p', 'P'] else ['e', 'E']
  let (exponent, suffix) : Int × List Char := match behind with
    | mark :: rest =>
      if marks.contains mark then
        let negative := rest.head? = some '-'
        let rest := rest.dropWhile fun c => c = '+' || c = '-'
        let value : Int := digitsValue 10 (rest.takeWhile (isDigitOf 10))
        (if negative then -value else value, rest.dropWhile (isDigitOf 10))
      else (0, behind)
    | [] => (0, [])
  let shift : Int := if isHex then 4 * part.length else part.length
  let isFloating := all.contains '.' || marks.any (body.contains ·)
  if !isFloating || whole.isEmpty && part.isEmpty then none
  else (floatingSuffix? suffix).map fun (type, imaginary) =>
    ⟨digitsValue base (whole ++ part), if isHex then 2 else 10, exponent - shift, type, imaginary⟩

/-- The number that a floating literal stands for in a format. -/
def FloatingLiteral.value (format : FloatFormat) (literal : FloatingLiteral) : BinaryFloat :=
  if literal.base = 10 then .ofDecimal format false literal.digits literal.power
  else if literal.digits = 0 ∨ literal.power < -100000 then .zero format
  else if 100000 < literal.power then .infinity false
  else
    let (numerator, denominator) := BinaryFloat.ratio literal.digits literal.power
    .ofRatio format false numerator denominator

/-- The types that a literal can have, the smallest first. -/
def IntegerLiteral.candidates (literal : IntegerLiteral) : List BasicType :=
  let all : List (BasicType × BasicType) :=
    [(.int, .unsigned), (.long, .unsignedLong), (.longLong, .unsignedLongLong)]
  (all.drop literal.suffix.longs).flatMap fun pair =>
    if literal.suffix.unsignedSuffix then [pair.2]
    else if literal.decimal then [pair.1]
    else [pair.1, pair.2]

def IntegerLiteral.type (target : Target) (literal : IntegerLiteral) : BasicType :=
  if literal.suffix.bitPrecise then
    let bits := if literal.value = 0 then 1 else literal.value.log2 + 1
    if literal.suffix.unsignedSuffix then .bitInteger bits false
    else .bitInteger (bits + 1) true
  else (literal.candidates.find? (·.holds target literal.value)).getD .unsignedLongLong

/-- An element between quotes: a character, or the number of a unit that an escape gives. -/
inductive LiteralUnit where
  | character (c : Char)
  | code (value : Nat)
  deriving Repr

def simpleLiteralEscape (c : Char) : Nat :=
  match c with
  | 'n' => 10
  | 't' => 9
  | 'r' => 13
  | 'a' => 7
  | 'b' => 8
  | 'f' => 12
  | 'v' => 11
  | 'e' | 'E' => 27
  | other => other.toNat

/-- What stands behind a backslash, and how long it is. -/
def readLiteralEscape (text : List Char) : LiteralUnit × Nat :=
  let braced (base : Nat) (rest : List Char) : LiteralUnit × Nat :=
    let digits := rest.takeWhile (isDigitOf base)
    (.code (digitsValue base digits), digits.length + 3)
  match text with
  | [] => (.code 92, 0)
  | 'x' :: '\x7b' :: rest => braced 16 rest
  | 'o' :: '\x7b' :: rest => braced 8 rest
  | 'x' :: rest =>
    let digits := rest.takeWhile (isDigitOf 16)
    (.code (digitsValue 16 digits), digits.length + 1)
  | c :: rest =>
    if isDigitOf 8 c then
      let digits := (rest.take 2).takeWhile (isDigitOf 8)
      (.code (digitsValue 8 (c :: digits)), digits.length + 1)
    else match characterNumber? (c :: rest) with
      | some (number, length) => (.character (Char.ofNat number), length)
      | none => (.code (simpleLiteralEscape c), 1)

/-- The elements between quotes; `skip` characters in front belong to an escape that was read. -/
def literalUnits (skip : Nat) : List Char → List LiteralUnit
  | [] => []
  | c :: rest =>
    match skip with
    | skip + 1 => literalUnits skip rest
    | 0 =>
      if c = '\\' then
        let (unit, length) := readLiteralEscape rest
        unit :: literalUnits length rest
      else .character c :: literalUnits 0 rest

/-- What the letters in front of a literal say about the type of its elements. -/
inductive LiteralEncoding where
  | plain
  | utf8
  | utf16
  | utf32
  | wide
  deriving DecidableEq, Repr

/-- The encoding of a literal and the elements between its quotes. -/
def splitQuoted (quote : Char) (text : String) : LiteralEncoding × List LiteralUnit :=
  let letters := text.toList.takeWhile (· ≠ quote)
  let inner := ((text.toList.dropWhile (· ≠ quote)).drop 1).dropLast
  let encoding := match String.ofList letters with
    | "u8" => .utf8
    | "u" => .utf16
    | "U" => .utf32
    | "L" => .wide
    | _ => .plain
  (encoding, literalUnits 0 inner)

/-- The type of the elements of a string. -/
def LiteralEncoding.elementType (target : Target) : LiteralEncoding → BasicType
  | .plain | .utf8 => .char
  | .utf16 => .unsignedShort
  | .utf32 => .unsigned
  | .wide => target.wideType

/-- The elements of a string that a unit stands for. -/
def LiteralUnit.elements (target : Target) (encoding : LiteralEncoding) : LiteralUnit → List Nat
  | .code value => [value]
  | .character c =>
    match (encoding.elementType target).width target with
    | 8 => (String.singleton c).toUTF8.toList.map UInt8.toNat
    | 16 =>
      let code := c.toNat
      if code < 0x10000 then [code]
      else [0xD800 + (code - 0x10000) / 0x400, 0xDC00 + (code - 0x10000) % 0x400]
    | _ => [c.toNat]

/-- The type of the elements of neighbouring string literals, and the elements themselves. A literal
with letters in front gives its encoding to all. -/
def readStrings (target : Target) (texts : List String) : BasicType × List Nat :=
  let parts := texts.map (splitQuoted '"')
  let encoding := ((parts.map Prod.fst).find? (· ≠ .plain)).getD .plain
  (encoding.elementType target,
    parts.flatMap fun part => part.2.flatMap (LiteralUnit.elements target encoding))

/-- The value of a unit by itself. -/
def LiteralUnit.value : LiteralUnit → Nat
  | .code value => value
  | .character c => c.toNat

/-- The value of a character constant with its quotes, and the type of its characters. Several
characters fill an `int` from the left, and a single one has the sign of `char`. -/
def readCharacter (target : Target) (text : String) : Int × BasicType :=
  let (encoding, units) := splitQuoted '\'' text
  let last : Nat := (units.getLast?.map LiteralUnit.value).getD 0
  match encoding with
  | .plain =>
    match units with
    | [unit] => (BasicType.wrapValue target .char unit.value, .int)
    | units =>
      let value : Nat := units.foldl (fun sum unit => sum * 256 + unit.value % 256) 0
      (BasicType.wrapValue target .int value, .int)
  | .utf8 => (last, .unsignedChar)
  | other => (BasicType.wrapValue target (other.elementType target) last, other.elementType target)

end HeaderBindings
