import HeaderBindings.Shell.Arithmetic

/-!
Texts that a shell prints by a format. Backslashes stand for characters; a conversion takes the
next argument, and the format is used again until none is left.
-/

namespace HeaderBindings

def isOctal (c : Char) : Bool := '0' ≤ c && c ≤ '7'

/-- The character that some octal digits at the start of a text give, and what follows them. -/
def takeOctal (most : Nat) (text : List Char) : Char × List Char :=
  let digits := (text.take most).takeWhile isOctal
  (Char.ofNat (digitsValue 8 digits % 256), text.drop digits.length)

/-- The character that is meant behind a backslash; without one the backslash is itself. -/
def takeEscape (text : List Char) : Char × List Char :=
  match text with
  | 'a' :: rest => (Char.ofNat 7, rest)
  | 'b' :: rest => (Char.ofNat 8, rest)
  | 'f' :: rest => (Char.ofNat 12, rest)
  | 'n' :: rest => ('\n', rest)
  | 'r' :: rest => ('\r', rest)
  | 't' :: rest => ('\t', rest)
  | 'v' :: rest => (Char.ofNat 11, rest)
  | '\\' :: rest => ('\\', rest)
  | '"' :: rest => ('"', rest)
  | text => if text.head?.any isOctal then takeOctal 3 text else ('\\', text)

/-- A text with its escapes resolved, and whether an escape ends all output. -/
def resolveEscapes (text : List Char) (fuel : Nat) : List Char × Bool :=
  let (first, rest, ends) : List Char × List Char × Bool := match text with
    | '\\' :: 'c' :: _ => ([], [], true)
    | '\\' :: '0' :: rest =>
      let (c, rest) := takeOctal 3 rest
      ([c], rest, false)
    | '\\' :: rest =>
      let (c, rest) := takeEscape rest
      ([c], rest, false)
    | c :: rest => ([c], rest, false)
    | [] => ([], [], true)
  match fuel with
  | 0 => ([], false)
  | fuel + 1 =>
    if ends then ([], !text.isEmpty)
    else
      let (others, ends) := resolveEscapes rest fuel
      (first ++ others, ends)

/-- How a conversion fills its place. -/
structure FormatField where
  flags : List Char
  width : Int
  precision : Option Nat

/-- A format that is being used: what is printed, the arguments that are left, whether any was
asked for, and what was wrong. -/
structure FormatState where
  output : List Char
  left : List String
  asked : Bool
  stopped : Bool
  complaints : List String

abbrev FormatWriter := StateM FormatState

def nextArgument : FormatWriter (Option String) := modifyGet fun state =>
  (state.left.head?, { state with left := state.left.drop 1, asked := true })

def writeText (text : List Char) : FormatWriter Unit :=
  modify fun state => { state with output := state.output ++ text }

def warnFormat (text : String) : FormatWriter Unit :=
  modify fun state => { state with complaints := state.complaints ++ [text] }

/-- The longest integer at the start of a text, and whether it is all of it. -/
def integerAtStart (text : List Char) : Int × Bool × Bool :=
  let (factor, digits) := match text.dropWhile fun c => c = ' ' || ('\t' ≤ c && c ≤ '\r') with
    | '-' :: rest => ((-1 : Int), rest)
    | '+' :: rest => (1, rest)
    | rest => (1, rest)
  match takeInteger? digits with
  | some (value, rest) => (factor * value, true, rest.isEmpty)
  | none => (0, false, text.isEmpty)

def nextInteger : FormatWriter Int := do
  match ← nextArgument with
  | none => return 0
  | some text =>
    match text.toList with
    | '\'' :: c :: _ | '"' :: c :: _ => return c.toNat
    | chars =>
      let (value, found, whole) := integerAtStart chars
      if !whole then
        warnFormat (text ++ if found then ": not completely converted"
          else ": expected numeric value")
      return value

def FormatField.pad (field : FormatField) (filler : Char) (text : List Char) : List Char :=
  let gap := List.replicate (field.width.natAbs - text.length) filler
  if field.width < 0 ∨ field.flags.contains '-' then text ++ gap else gap ++ text

/-- An integer with its sign or base in front of its digits. -/
def FormatField.integer (field : FormatField) (sign digits : String) : List Char :=
  let least := field.precision.getD 1
  let digits := if field.precision = some 0 ∧ digits = "0" then [] else digits.toList
  let digits := List.replicate (least - digits.length) '0' ++ digits
  let leftBound := field.width < 0 || field.flags.contains '-'
  if field.flags.contains '0' ∧ field.precision.isNone ∧ !leftBound then
    let gap := field.width.natAbs - sign.length - digits.length
    sign.toList ++ List.replicate gap '0' ++ digits
  else field.pad ' ' (sign.toList ++ digits)

/-- The text of one conversion. -/
def writeConversion (field : FormatField) (conversion : Char) : FormatWriter Unit := do
  let base (n : Nat) (mark : String) : FormatWriter Unit := do
    let value := bitsOf (clampInteger (← nextInteger))
    let sign := if field.flags.contains '#' ∧ value ≠ 0 then mark else ""
    let digits := String.ofList (Nat.toDigits n value)
    let digits := if conversion = 'X' then digits.toUpper else digits
    writeText (field.integer sign digits)
  match conversion with
  | 's' =>
    let text := ((← nextArgument).getD "").toList
    writeText (field.pad ' ' (match field.precision with
      | some most => text.take most
      | none => text))
  | 'c' => writeText (field.pad ' ' ((((← nextArgument).getD "").toList).take 1))
  | 'b' =>
    let text := ((← nextArgument).getD "").toList
    let (text, stops) := resolveEscapes text (text.length + 1)
    writeText (field.pad ' ' text)
    if stops then modify fun state => { state with stopped := true }
  | 'd' | 'i' =>
    let value := clampInteger (← nextInteger)
    let sign := if value < 0 then "-" else if field.flags.contains '+' then "+"
      else if field.flags.contains ' ' then " " else ""
    writeText (field.integer sign (toString value.natAbs))
  | 'u' => base 10 ""
  | 'o' => base 8 "0"
  | 'x' => base 16 "0x"
  | 'X' => base 16 "0X"
  | _ =>
    warnFormat ("%" ++ String.singleton conversion ++ ": invalid directive")
    modify fun state => { state with stopped := true }

/-- A number in a format, or that of the next argument for a star. -/
def takeFieldNumber (text : List Char) : FormatWriter (Option Int × List Char) := do
  match text with
  | '*' :: rest => return (some (← nextInteger), rest)
  | text =>
    let digits := text.takeWhile Char.isDigit
    if digits.isEmpty then return (none, text)
    else return (some (digitsValue 10 digits), text.drop digits.length)

def writeFormat (format : List Char) (fuel : Nat) : FormatWriter Unit := do
  match fuel, format with
  | 0, _ | _, [] => return
  | fuel + 1, '\\' :: rest =>
    let (c, rest) := takeEscape rest
    writeText [c]
    writeFormat rest fuel
  | fuel + 1, '%' :: '%' :: rest =>
    writeText ['%']
    writeFormat rest fuel
  | fuel + 1, '%' :: rest =>
    let flags := rest.takeWhile fun c => "#-+ 0".toList.contains c
    let (width, rest) ← takeFieldNumber (rest.drop flags.length)
    let (precision, rest) ← match rest with
      | '.' :: rest => do
        let (digits, rest) ← takeFieldNumber rest
        pure (some (digits.getD 0).toNat, rest)
      | rest => pure (none, rest)
    writeConversion ⟨flags, width.getD 0, precision⟩ (rest.head?.getD '%')
    if !(← get).stopped then writeFormat (rest.drop 1) fuel
  | fuel + 1, c :: rest =>
    writeText [c]
    writeFormat rest fuel

/-- Uses a format as long as it takes arguments. -/
def repeatFormat (format : List Char) (fuel : Nat) : FormatWriter Unit := do
  match fuel with
  | 0 => return
  | fuel + 1 =>
    modify fun state => { state with asked := false }
    writeFormat format (format.length + 1)
    let state ← get
    if !state.stopped ∧ state.asked ∧ !state.left.isEmpty then repeatFormat format fuel

/-- What is printed by a format, and what was wrong with it. -/
def printFormat (format : String) (arguments : List String) : String × List String :=
  let (_, final) := (repeatFormat format.toList (arguments.length + 1)).run
    ⟨[], arguments, false, false, []⟩
  (String.ofList final.output, final.complaints)

end HeaderBindings
