import HeaderBindings.Number.Numeral
import HeaderBindings.Yaml.Value

/-!
What a plain scalar of YAML 1.1 stands for. Only a few texts are anything but a string: words for
truth and for nothing, numbers in several bases and in groups of sixty, dates, and two signs.
-/

namespace HeaderBindings

inductive PlainKind where
  | string
  | null
  | boolean (value : Bool)
  | integer
  | float
  | timestamp
  | merge
  | value
  deriving DecidableEq, Repr

def nullWords : List String := ["", "~", "null", "Null", "NULL"]

def trueWords : List String :=
  ["yes", "Yes", "YES", "true", "True", "TRUE", "on", "On", "ON"]

def falseWords : List String :=
  ["no", "No", "NO", "false", "False", "FALSE", "off", "Off", "OFF"]

/-! Forms of numbers. -/

def isDigitOrLine (c : Char) : Bool := c.isDigit || c = '_'

def isHexOrLine (c : Char) : Bool :=
  isDigitOrLine c || ('a' ≤ c && c ≤ 'f') || ('A' ≤ c && c ≤ 'F')

/-- A part of a number in groups of sixty, behind its colon. -/
def isSixty : List Char → Bool
  | [c] => c.isDigit
  | [c, d] => '0' ≤ c && c ≤ '5' && d.isDigit
  | _ => false

/-- At least one further group of sixty. -/
def areSixties (groups : List (List Char)) : Bool := !groups.isEmpty && groups.all isSixty

/-- An integer without its sign. -/
def isUnsignedInteger (text : List Char) : Bool :=
  match text with
  | '0' :: 'b' :: digits =>
    !digits.isEmpty && digits.all fun c => c = '0' || c = '1' || c = '_'
  | '0' :: 'x' :: digits => !digits.isEmpty && digits.all isHexOrLine
  | '0' :: digits => digits.all fun c => ('0' ≤ c && c ≤ '7') || c = '_'
  | c :: digits =>
    c.isDigit && match splitAtChar ':' digits with
      | [] => false
      | [digits] => digits.all isDigitOrLine
      | digits :: groups => digits.all isDigitOrLine && areSixties groups
  | [] => false

def isExponent : List Char → Bool
  | [] => true
  | mark :: sign :: digits =>
    (mark = 'e' || mark = 'E') && (sign = '-' || sign = '+') && !digits.isEmpty
      && digits.all Char.isDigit
  | _ => false

/-- Digits behind a point, and an exponent. -/
def isFraction (text : List Char) : Bool := isExponent (text.dropWhile isDigitOrLine)

/-- Digits, a point, digits and an exponent; or groups of sixty, the last one with a point. -/
def isPointed (text : List Char) : Bool :=
  match text with
  | c :: _ =>
    c.isDigit && match splitAtChar '.' text with
      | [whole, fraction] =>
        match splitAtChar ':' whole with
        | [digits] => digits.all isDigitOrLine && isFraction fraction
        | digits :: groups =>
          digits.all isDigitOrLine && areSixties groups && fraction.all isDigitOrLine
        | [] => false
      | _ => false
  | [] => false

def infinityWords : List (List Char) := [".inf", ".Inf", ".INF"].map String.toList

def nanWords : List (List Char) := [".nan", ".NaN", ".NAN"].map String.toList

def isFloat (text : List Char) : Bool :=
  isPointed (dropSign text) || infinityWords.contains (dropSign text) || nanWords.contains text
    || match text with
      | '.' :: c :: fraction => c.isDigit && isFraction fraction
      | _ => false

/-! Dates. -/

/-- Takes between `least` and `most` digits off the front. -/
def takeDigits (least most : Nat) (text : List Char) : Option (Nat × List Char) :=
  let digits := (text.take most).takeWhile Char.isDigit
  if digits.length < least then none
  else some (digits.foldl (fun n c => 10 * n + (c.toNat - '0'.toNat)) 0, text.drop digits.length)

def takeSign (sign : Char) : List Char → Option (List Char)
  | c :: rest => if c = sign then some rest else none
  | [] => none

def isGap (c : Char) : Bool := c = ' ' || c = '\t'

/-- Reads a zone; no text is no zone. -/
def readZone (text : List Char) : Option (Option Int) :=
  match text.dropWhile isGap with
  | [] => if text = [] then some none else none
  | ['Z'] => some (some 0)
  | sign :: rest => do
    if sign ≠ '-' ∧ sign ≠ '+' then none
    let (hours, rest) ← takeDigits 1 2 rest
    let minutes ← match rest with
      | [] => pure 0
      | _ => do
        let (minutes, rest) ← takeDigits 2 2 (← takeSign ':' rest)
        if rest.isEmpty then pure minutes else none
    let total : Int := hours * 60 + minutes
    return some (if sign = '-' then -total else total)

/-- The microseconds that a fraction of a second starts with. -/
def microseconds (digits : List Char) : Nat :=
  (digits.take 6 ++ List.replicate (6 - digits.length) '0').foldl
    (fun n c => 10 * n + (c.toNat - '0'.toNat)) 0

/-- A date, with or without a time of the day. -/
inductive Timestamp where
  | date (value : Date)
  | moment (value : Moment)
  deriving DecidableEq, Repr

/-- Reads a date or a moment, whether there is one of that kind or not. -/
def readTimestamp (text : List Char) : Option Timestamp := do
  let (year, rest) ← takeDigits 4 4 text
  let rest ← takeSign '-' rest
  let (month, rest) ← takeDigits 1 2 rest
  let rest ← takeSign '-' rest
  let (day, rest) ← takeDigits 1 2 rest
  let date : Date := ⟨year, month, day⟩
  match rest with
  | [] => some (.date date)
  | c :: _ =>
    let rest ← if c = 'T' ∨ c = 't' then some (rest.drop 1)
      else if isGap c then some (rest.dropWhile isGap) else none
    let (hour, rest) ← takeDigits 1 2 rest
    let rest ← takeSign ':' rest
    let (minute, rest) ← takeDigits 2 2 rest
    let rest ← takeSign ':' rest
    let (second, rest) ← takeDigits 2 2 rest
    let (fraction, rest) := match rest with
      | '.' :: rest => (rest.takeWhile Char.isDigit, rest.dropWhile Char.isDigit)
      | _ => ([], rest)
    let zone ← readZone rest
    return .moment ⟨date, hour, minute, second, microseconds fraction, zone⟩

/-- Whether a text is read as a date or a moment by itself. A date alone needs two digits for the
month and the day. -/
def isTimestamp (text : List Char) : Bool :=
  match readTimestamp text with
  | some (.date _) => text.length = 10
  | some (.moment _) => true
  | none => false

/-- A text without the end of a line behind it. -/
def withoutFinalBreak (text : List Char) : List Char :=
  if text.getLast? = some '\n' then text.dropLast else text

/-- What a text stands for. The end of a line behind it does not count, unless it is all there
is. -/
def plainKind (text : String) : PlainKind :=
  let chars := if text = "\n" then text.toList else withoutFinalBreak text.toList
  let word := String.ofList chars
  if nullWords.contains word then .null
  else if trueWords.contains word then .boolean true
  else if falseWords.contains word then .boolean false
  else if isFloat chars then .float
  else if isUnsignedInteger (dropSign chars) then .integer
  else if word = "<<" then .merge
  else if word = "=" then .value
  else if isTimestamp chars then .timestamp
  else .string

end HeaderBindings
