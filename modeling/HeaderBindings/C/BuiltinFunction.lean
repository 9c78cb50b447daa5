import HeaderBindings.C.Expression

/-!
The functions that a compiler knows by itself, as far as the type or the value of a call can be told
from its arguments. The names start with `__builtin_`, or they are those of library functions.
-/

namespace HeaderBindings

/-! Bits. -/

def countOnes (value : Nat) : Nat := (List.range (value.log2 + 1)).countP value.testBit

/-- How many noughts stand behind the last one. -/
def trailingNoughts (width value : Nat) : Nat :=
  ((List.range width).find? value.testBit).getD width

def leadingNoughts (width value : Nat) : Nat := if value = 0 then width else width - 1 - value.log2

def reverseBits (width value : Nat) : Nat :=
  (List.range width).foldl
    (fun bits i => if value.testBit i then bits + Nat.pow 2 (width - 1 - i) else bits) 0

def reverseBytes (width value : Nat) : Nat :=
  (List.range (width / 8)).foldl
    (fun bits i => bits + value / Nat.pow 256 i % 256 * Nat.pow 256 (width / 8 - 1 - i)) 0

def rotateLeft (width value amount : Nat) : Nat :=
  let amount := amount % width
  value * Nat.pow 2 amount % Nat.pow 2 width + value / Nat.pow 2 (width - amount)

/-- The type with a name's ending, among those of one sign. -/
def suffixType (ending : String) (signed : Bool) : Option BasicType :=
  match ending with
  | "" => some (if signed then .int else .unsigned)
  | "l" => some (if signed then .long else .unsignedLong)
  | "ll" => some (if signed then .longLong else .unsignedLongLong)
  | "s" => some (if signed then .short else .unsignedShort)
  | _ => none

def unsignedOfWidth (width : String) : Option BasicType :=
  match width with
  | "8" => some .unsignedChar
  | "16" => some .unsignedShort
  | "32" => some .unsigned
  | "64" => some .unsignedLong
  | _ => none

/-- The rest of a name behind its start. -/
def nameBehind? (start name : String) : Option String :=
  if name.startsWith start then some (String.ofList (name.toList.drop start.length)) else none

/-- The name with its end cut off by the ending of a floating type, which follows. -/
def floatSuffix (names : List String) (name : String) : Option (String × BasicType) :=
  names.findSome? fun base =>
    match nameBehind? base name with
    | some "" => some (base, .double)
    | some "f" => some (base, .float)
    | some "l" => some (base, .longDouble)
    | some "f128" => some (base, .float128)
    | some "f16" => some (base, .float16)
    | _ => none

/-- A count that is asked of the bits of an integer. -/
def bitCount? (context : TypeContext) (name : String) (argument : Expression) :
    Option Expression := do
  let width (type : BasicType) : Nat := type.width context.target
  let counted (start : String) (signed : Bool) (count : BasicType → Int → Option Int) :
      Option Expression := do
    let type ← suffixType (← nameBehind? start name) signed
    let value : Option ConstantValue := do
      match ← argument.operand.scalar? context type with
      | .integer value => return .integer (← count type value)
      | .floating _ => failure
    return { Expression.unknown (.basic .int) with
      value, constancy := if value.isSome then .constant else .never }
  (counted "clz" false fun type value =>
      if value = 0 then none else some (leadingNoughts (width type) value.toNat))
    <|> (counted "ctz" false fun type value =>
      if value = 0 then none else some (trailingNoughts (width type) value.toNat))
    <|> (counted "popcount" false fun _ value => some (countOnes value.toNat))
    <|> (counted "parity" false fun _ value => some (countOnes value.toNat % 2 : Nat))
    <|> (counted "ffs" true fun type value =>
      if value = 0 then some 0
      else
        let bits := (value % Int.pow 2 (width type)).toNat
        some (trailingNoughts (width type) bits + 1 : Nat))
    <|> (counted "clrsb" true fun type value =>
      let bits := (if value < 0 then -value - 1 else value).toNat
      some (leadingNoughts (width type) bits - 1 : Nat))

/-- Bits of an integer in another order. -/
def bitOrder? (context : TypeContext) (name : String) (arguments : List Expression) :
    Option Expression := do
  let amount : Nat := ((arguments[1]?.bind Expression.integer?).map Int.toNat).getD 0
  let moved (start : String) (move : Nat → Nat → Nat) : Option Expression := do
    let type ← unsignedOfWidth (← nameBehind? start name)
    let value : Option ConstantValue := do
      match ← (← arguments.head?).operand.scalar? context type with
      | .integer value => return .integer (move (type.width context.target) value.toNat)
      | .floating _ => failure
    return { Expression.unknown (.basic type) with
      value, constancy := if value.isSome then .constant else .never }
  moved "bswap" reverseBytes
    <|> moved "bitreverse" reverseBits
    <|> (moved "rotateleft" fun width value => rotateLeft width value amount)
    <|> (moved "rotateright" fun width value =>
      rotateLeft width value (width - amount % width))

/-! Floating numbers. -/

/-- The floating number of an argument, with the type that it has. -/
def floatArgument? (context : TypeContext) (argument : Expression) :
    Option (BasicType × BinaryFloat) := do
  let argument := argument.operand
  let type ← argument.type.arithmetic? context.tags
  match ← argument.scalar? context type with
  | .floating value => return (type, value)
  | .integer value => return (.double, floatOfInteger .binary64 value)

def BinaryFloat.isNegative : BinaryFloat → Bool
  | .nan => false
  | .infinity negative | .finite negative _ _ => negative

def BinaryFloat.withSign (negative : Bool) : BinaryFloat → BinaryFloat
  | .nan => .nan
  | .infinity _ => .infinity negative
  | .finite _ mantissa exponent => .finite negative mantissa exponent

def BinaryFloat.isFinite : BinaryFloat → Bool
  | .finite _ _ _ => true
  | _ => false

/-- Whether a number has a mantissa of full length. -/
def BinaryFloat.isNormal (format : FloatFormat) : BinaryFloat → Bool
  | .finite _ mantissa _ => Nat.pow 2 (format.mantissaBits - 1) ≤ mantissa
  | _ => false

/-- A floating number that a function makes of others. -/
def floatResult? (context : TypeContext) (name : String) (arguments : List Expression) :
    Option Expression := do
  let names := ["nans", "nan", "inf", "huge_val", "fabs", "copysign", "fmax", "fmin", "floor",
    "ceil", "trunc", "sqrt"]
  let (base, type) ← floatSuffix names name
  let format := type.format context.target
  let number (index : Nat) : Option BinaryFloat := do
    return (← floatArgument? context (← arguments[index]?)).2.convert format
  let value : Option BinaryFloat := match base with
    | "nan" | "nans" => some .nan
    | "inf" | "huge_val" => some (.infinity false)
    | "fabs" => (number 0).map (·.withSign false)
    | "copysign" => do return (← number 0).withSign (← number 1).isNegative
    | "fmax" => do
      let a ← number 0
      let b ← number 1
      return if a.compare? b = some .lt ∨ a = .nan then b else a
    | "fmin" => do
      let a ← number 0
      let b ← number 1
      return if a.compare? b = some .gt ∨ a = .nan then b else a
    | _ => none
  return .ofValue (.basic type) (value.map .floating)

/-- A question about a floating number. -/
def floatQuestion? (context : TypeContext) (name : String) (arguments : List Expression) :
    Option Expression :=
  let answer (question : BasicType → BinaryFloat → Int) : Option Expression :=
    let value : Option Int := do
      let (type, number) ← floatArgument? context (← arguments.getLast?)
      return question type number
    some { Expression.unknown (.basic .int) with
      value := value.map .integer, constancy := if value.isSome then .constant else .never }
  let truth (question : BasicType → BinaryFloat → Bool) : Option Expression :=
    answer fun type number => if question type number then 1 else 0
  match name with
  | "isnan" => truth fun _ number => number = .nan
  | "isinf" => truth fun _ number => number ≠ .nan && !number.isFinite
  | "isinf_sign" =>
    answer fun _ number =>
      if number = .nan ∨ number.isFinite then 0 else if number.isNegative then -1 else 1
  | "isfinite" | "finite" => truth fun _ number => number.isFinite
  | "isnormal" => truth fun type number => number.isNormal (type.format context.target)
  | "iszero" => truth fun _ number => number.isZero
  | "signbit" | "signbitf" | "signbitl" => truth fun _ number => number.isNegative
  | "fpclassify" =>
    answer fun type number =>
      let chosen := match number with
        | .nan => 0
        | .infinity _ => 1
        | finite =>
          if finite.isZero then 4
          else if finite.isNormal (type.format context.target) then 2 else 3
      ((arguments[chosen]?).bind Expression.integer?).getD 0
  | _ => none

/-! Strings. -/

/-- The characters that an address leads to, up to nought or some count. -/
def textAt? (context : TypeContext) (count : Nat) (argument : Expression) :
    Option (List Int) := do
  let argument := argument.operand
  let place ← argument.address? context
  let storage ← place.storage
  let step := argument.step context
  let rec readFrom (offset : Int) (found : List Int) : Nat → Option (List Int)
    | 0 => some found.reverse
    | count + 1 =>
      match storage.read? offset false with
      | some (.integer 0) => some found.reverse
      | some (.integer value) => readFrom (offset + step) (value :: found) count
      | _ => none
  readFrom place.offset [] count

/-- How two texts compare: less than nought, nought or more. -/
def compareTexts : List Int → List Int → Int
  | [], [] => 0
  | [], _ :: _ => -1
  | _ :: _, [] => 1
  | a :: rest, b :: others =>
    let x := a % 256
    let y := b % 256
    if x < y then -1 else if y < x then 1 else compareTexts rest others

/-- No text is longer than this. -/
def textLimit : Nat := 65536

def textResult? (context : TypeContext) (name : String) (arguments : List Expression) :
    Option Expression :=
  let counted (type : BasicType) (value : Option Int) : Option Expression :=
    some { Expression.unknown (.basic type) with
      value := value.map .integer, constancy := if value.isSome then .constant else .never }
  let text (count index : Nat) : Option (List Int) :=
    arguments[index]?.bind (textAt? context count)
  let limit : Nat := ((arguments[2]?.bind Expression.integer?).map Int.toNat).getD textLimit
  let compared (count : Nat) : Option Int := do
    return compareTexts (← text count 0) (← text count 1)
  match name with
  | "strlen" | "wcslen" =>
    counted context.target.sizeType ((text textLimit 0).map fun found => (found.length : Int))
  | "strcmp" | "wcscmp" => counted .int (compared textLimit)
  | "strncmp" | "wcsncmp" | "memcmp" | "bcmp" | "wmemcmp" => counted .int (compared limit)
  | _ => none

/-! Questions about arguments. -/

/-- Whether the compiler knows the value of an argument. An address is known if it is a number or
the start of a string. -/
def Expression.isKnown (context : TypeContext) (e : Expression) : Bool :=
  let e := e.operand
  match e.value with
  | some (.scalar _) => true
  | some (.address place) =>
    match place.storage with
    | none => true
    | some storage => storage.name.startsWith "\"" && place.offset = 0
  | none => (e.type.arithmetic? context.tags).isSome && e.integer?.isSome

/-- The number of the class that a type belongs to. -/
def typeClass (context : TypeContext) (e : Expression) : Int :=
  let e := e.operand
  match e.type.arithmetic? context.tags, e.type.inside with
  | some type, _ => if type.isFloating then 8 else 1
  | none, .basic .void => 0
  | none, .complex _ => 9
  | none, _ =>
    if e.type.isUnion context.tags then 13
    else if e.type.isRecord context.tags then 12
    else 5

/-- Whether objects of a size are changed without a lock. -/
def isLockFree (target : Target) (size : Int) : Bool :=
  [1, 2, 4, 8].contains size && decide (size * 8 ≤ (target.wordWidth : Int))

def questionResult? (context : TypeContext) (name : String) (arguments : List Expression) :
    Option Expression :=
  let known (type : BasicType) (value : Int) : Option Expression :=
    some (.ofInteger type value)
  match name, arguments with
  | "constant_p", [argument] =>
    some { Expression.ofInteger .int (if argument.isKnown context then 1 else 0) with
      mark := .constantQuestion }
  | "classify_type", [argument] => known .int (typeClass context argument)
  | "expect", argument :: _ | "expect_with_probability", argument :: _ =>
    let converted := Expression.cast context (.basic .long) argument
    some { converted with
      constancy := if converted.integer?.isSome then .constant else .never }
  | "abs", [argument] | "labs", [argument] | "llabs", [argument] =>
    let type : BasicType := if name = "abs" then .int else if name = "labs" then .long
      else .longLong
    let value := (Expression.cast context (.basic type) argument).integer?
    some { Expression.unknown (.basic type) with
      value := value.map fun value => .integer (type.wrapValue context.target value.natAbs)
      constancy := if value.isSome then .constant else .never }
  | "is_aligned", [argument, alignment] =>
    match argument.integer?, alignment.integer? with
    | some value, some unit => known .bool (if value % unit = 0 then 1 else 0)
    | _, _ => some (.unknown (.basic .bool))
  | "align_up", [argument, alignment] | "align_down", [argument, alignment] =>
    match argument.operand.integer?, alignment.integer? with
    | some value, some unit =>
      let moved := if name = "align_up" then value + unit - 1 else value
      some { argument.operand with
        value := some (.integer (moved / unit * unit)), constancy := .constant }
    | _, _ => some (.unknown argument.operand.type)
  | "complex", a :: _ =>
    some (.unknown (.complex (.basic ((a.operand.type.arithmetic? context.tags).getD .double))))
  | "object_size", _ | "dynamic_object_size", _ =>
    some (.unknown (.basic context.target.sizeType))
  | _, _ => none

/-- The type of a call that is known by its name alone. -/
def resultType (target : Target) (name : String) : CType :=
  let bytes := CType.pointer (.basic .void)
  if ["alloca", "memcpy", "memmove", "memset", "memchr", "mempcpy", "frame_address",
      "return_address", "assume_aligned", "extract_return_addr", "malloc", "calloc",
      "realloc"].contains name then bytes
  else if ["strcpy", "strncpy", "strcat", "strncat", "strchr", "strrchr", "strstr",
      "strpbrk", "strdup", "FILE", "FUNCTION"].contains name then .pointer (.basic .char)
  else if ["unreachable", "trap", "prefetch", "va_start", "va_end", "va_copy",
      "abort", "free"].contains name then .basic .void
  else if ["LINE", "COLUMN"].contains name then .basic .unsigned
  else if ["strspn", "strcspn"].contains name then .basic target.sizeType
  else if ["add_overflow", "sub_overflow", "mul_overflow"].contains name then .basic .bool
  else .basic .int

/-- The arguments of library functions that may be known although no call of them is built in. -/
def libraryNames : List String :=
  ["strlen", "wcslen", "strcmp", "strncmp", "memcmp", "bcmp", "wcscmp", "wcsncmp", "wmemcmp",
    "abs", "labs", "llabs", "ffs", "ffsl", "ffsll", "fabs", "fabsf", "fabsl"]

/-- A call of a function that is known by itself. -/
def builtinCall (context : TypeContext) (name : String) (arguments : List Expression) :
    Expression :=
  let base := (nameBehind? "__builtin_" name).getD name
  let found :=
    (arguments.head?.bind (bitCount? context base))
      <|> bitOrder? context base arguments
      <|> questionResult? context base arguments
      <|> textResult? context base arguments
      <|> floatQuestion? context base arguments
      <|> floatResult? context base arguments
  found.getD (.unknown (resultType context.target base))

/-- A call of one of the functions on values that are shared. -/
def atomicCall? (context : TypeContext) (name : String) (arguments : List Expression) :
    Option Expression :=
  if name = "__atomic_always_lock_free" || name = "__atomic_is_lock_free" then
    match arguments.head?.bind Expression.integer? with
    | some size =>
      some (.ofInteger .bool (if isLockFree context.target size then 1 else 0))
    | none => some (.unknown (.basic .bool))
  else none

end HeaderBindings
