import HeaderBindings.Number.Binary64
import HeaderBindings.Text.Blank
import HeaderBindings.Text.Digit

/-!
Numbers as people write them: blanks around, a sign, and digits of any script.
-/

namespace HeaderBindings

/-- Why a text is no integer. -/
inductive NumeralFault where
  | malformed
  /-- More decimal digits than are worked out. -/
  | tooLong (digits : Nat)
  deriving DecidableEq, Repr

def maxDecimalDigits : Nat := 4300

/-- A text with its digits, and its blanks outside ASCII, brought to ASCII. -/
def asciiNumeral (text : List Char) : List Char :=
  text.map fun c =>
    if c.toNat < 128 then c
    else if isBlank c then ' '
    else match decimalValue? c with
      | some value => Char.ofNat ('0'.toNat + value)
      | none => '?'

def isNumeralBlank (c : Char) : Bool := c = ' ' || (9 ≤ c.toNat && c.toNat ≤ 13)

/-- A text without the blanks at its ends. -/
def trimNumeral (text : List Char) : List Char :=
  ((text.dropWhile isNumeralBlank).reverse.dropWhile isNumeralBlank).reverse

def dropSign : List Char → List Char
  | '-' :: rest => rest
  | '+' :: rest => rest
  | text => text

def isNegative (text : List Char) : Bool := text.head? = some '-'

/-- The value of a digit in bases up to 36. -/
def digitIn? (base : Nat) (c : Char) : Option Nat :=
  let value := if c.isDigit then c.toNat - '0'.toNat
    else if 'a' ≤ c ∧ c ≤ 'z' then c.toNat - 'a'.toNat + 10
    else if 'A' ≤ c ∧ c ≤ 'Z' then c.toNat - 'A'.toNat + 10
    else base
  if value < base then some value else none

def numeralValue (base : Nat) (digits : List Char) : Nat :=
  digits.foldl (fun n c => base * n + (digitIn? base c).getD 0) 0

/-- Drops the mark of a base, a nought and a letter. -/
def dropBaseMark (base : Nat) : List Char → List Char
  | '0' :: c :: rest =>
    let marks := if base = 16 then ['x', 'X'] else if base = 8 then ['o', 'O']
      else if base = 2 then ['b', 'B'] else []
    if marks.contains c then rest else '0' :: c :: rest
  | text => text

/-- An integer in a base. -/
def readIntegral (base : Nat) (text : List Char) : Except NumeralFault Int :=
  let text := trimNumeral (asciiNumeral text)
  let unsigned := dropBaseMark base (dropSign text)
  let isDigit (c : Char) : Bool := (digitIn? base c).isSome
  let digits := unsigned.takeWhile isDigit
  if base = 10 ∧ maxDecimalDigits < digits.length then .error (.tooLong digits.length)
  else if digits.isEmpty ∨ digits.length ≠ unsigned.length then .error .malformed
  else
    let magnitude := numeralValue base digits
    .ok (if isNegative text then -(magnitude : Int) else magnitude)

def infinityNames : List (List Char) := ["inf", "infinity"].map String.toList

/-- Digits with an optional point, and an optional exponent. -/
def readPositional (text : List Char) : Option Binary64 :=
  let whole := text.takeWhile Char.isDigit
  let rest := text.dropWhile Char.isDigit
  let (fraction, rest) := match rest with
    | '.' :: rest => (rest.takeWhile Char.isDigit, rest.dropWhile Char.isDigit)
    | _ => ([], rest)
  let number (power : Int) : Option Binary64 :=
    if whole.isEmpty && fraction.isEmpty then none
    else some (.ofDecimal false (numeralValue 10 (whole ++ fraction)) (power - fraction.length))
  match rest with
  | [] => number 0
  | mark :: power =>
    let digits := dropSign power
    if (mark = 'e' ∨ mark = 'E') ∧ digits ≠ [] ∧ digits.all Char.isDigit then
      let magnitude := numeralValue 10 digits
      number (if isNegative power then -(magnitude : Int) else magnitude)
    else none

/-- A number with a point or an exponent, or a name of one that is not finite. -/
def readReal (text : List Char) : Option Binary64 :=
  let text := trimNumeral (asciiNumeral text)
  let unsigned := dropSign text
  let lower := unsigned.map Char.toLower
  let magnitude :=
    if infinityNames.contains lower then some (.infinity false)
    else if lower = "nan".toList then some .nan
    else readPositional unsigned
  magnitude.map fun number => if isNegative text then number.negate else number

end HeaderBindings
