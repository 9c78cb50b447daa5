import HeaderBindings.C.Target
import HeaderBindings.Number.BinaryFloat

/-!
The arithmetic types of C, with the widths in bits that the target gives them.
-/

namespace HeaderBindings

inductive BasicType where
  | void
  | bool
  | char
  | signedChar
  | unsignedChar
  | short
  | unsignedShort
  | int
  | unsigned
  | long
  | unsignedLong
  | longLong
  | unsignedLongLong
  | int128
  | unsigned128
  /-- An integer with a number of bits of its own. -/
  | bitInteger (width : Nat) (signed : Bool)
  /-- A number of half size that is only stored. -/
  | half
  | float16
  | bfloat16
  | float
  | double
  | longDouble
  | float128
  | nullPointer
  deriving DecidableEq, Repr

/-- How many bits hold a value. -/
def BasicType.width (target : Target) : BasicType → Nat
  | .void | .bool | .char | .signedChar | .unsignedChar => 8
  | .short | .unsignedShort | .half | .float16 | .bfloat16 => 16
  | .int | .unsigned | .float => 32
  | .long | .unsignedLong => target.longWidth
  | .longLong | .unsignedLongLong | .double => 64
  | .int128 | .unsigned128 | .float128 => 128
  | .bitInteger width _ => width
  | .longDouble =>
    match target.longDouble with
    | .double => 64
    | .extended => if target.wordWidth = 32 then 96 else 128
    | .quadruple => 128
  | .nullPointer => target.wordWidth

/-- The least power of two that is not below a number. -/
def powerOfTwoFrom (number : Nat) : Nat :=
  if number ≤ 1 then 1 else Nat.pow 2 ((number - 1).log2 + 1)

/-- The first multiple of a unit that is not below a number. -/
def roundUp (value unit : Nat) : Nat := if unit = 0 then value else (value + unit - 1) / unit * unit

/-- The alignment of a value, in bits. -/
def BasicType.alignment (target : Target) (type : BasicType) : Nat :=
  match type with
  | .longLong | .unsignedLongLong | .double | .longDouble =>
    if target.machine = .i386 ∧ target.system ≠ .windows then 32 else type.width target
  | .bitInteger width _ =>
    let most := if target.machine = .i386 ∧ target.system ≠ .windows then 32 else 64
    min (max (powerOfTwoFrom width) 8) most
  | _ => type.width target

/-- How many bits a value takes in memory. -/
def BasicType.size (target : Target) (type : BasicType) : Nat :=
  roundUp (type.width target) (type.alignment target)

/-- The alignment that a variable of the type gets, in bits. -/
def BasicType.preferredAlignment (target : Target) (type : BasicType) : Nat :=
  match type with
  | .longLong | .unsignedLongLong | .double => 64
  | _ => type.alignment target

/-- The type of a wide character. -/
def Target.wideType (target : Target) : BasicType :=
  if target.shortWide then .unsignedShort
  else if (target.machine = .arm ∨ target.machine = .aarch64) ∧ target.system ≠ .darwin then
    .unsigned
  else .int

def BasicType.isSigned (target : Target) : BasicType → Bool
  | .char => target.charSigned
  | .signedChar | .short | .int | .long | .longLong | .int128 => true
  | .bitInteger _ signed => signed
  | _ => false

def BasicType.isFloating : BasicType → Bool
  | .half | .float16 | .bfloat16 | .float | .double | .longDouble | .float128 => true
  | _ => false

def BasicType.isInteger : BasicType → Bool
  | .void | .nullPointer => false
  | other => !other.isFloating

/-- The numbers that a floating type has. -/
def BasicType.format (target : Target) : BasicType → FloatFormat
  | .half | .float16 => .binary16
  | .bfloat16 => .ofLimits 8 128
  | .float => .binary32
  | .longDouble =>
    match target.longDouble with
    | .double => .binary64
    | .extended => .extended80
    | .quadruple => .binary128
  | .float128 => .binary128
  | _ => .binary64

/-- The place of a type among those of its width. -/
def BasicType.order : BasicType → Nat
  | .bitInteger _ _ => 0
  | .bool => 1
  | .char | .signedChar | .unsignedChar => 2
  | .short | .unsignedShort => 3
  | .int | .unsigned => 4
  | .long | .unsignedLong => 5
  | .longLong | .unsignedLongLong => 6
  | _ => 7

/-- Conversion rank of an integer type: the wider one is higher. -/
def BasicType.rank (target : Target) (type : BasicType) : Nat :=
  8 * type.width target + type.order

/-- Conversion rank of a floating type. -/
def BasicType.floatRank : BasicType → Nat
  | .bfloat16 => 1
  | .half | .float16 => 2
  | .float => 3
  | .double => 4
  | .longDouble => 5
  | .float128 => 6
  | _ => 0

def BasicType.toUnsigned : BasicType → BasicType
  | .char | .signedChar => .unsignedChar
  | .short => .unsignedShort
  | .int => .unsigned
  | .long => .unsignedLong
  | .longLong => .unsignedLongLong
  | .int128 => .unsigned128
  | .bitInteger width _ => .bitInteger width false
  | other => other

/-- The type that a small number has in an expression. -/
def BasicType.promote (type : BasicType) : BasicType :=
  match type with
  | .bool | .char | .signedChar | .unsignedChar | .short | .unsignedShort => .int
  | .half => .float
  | other => other

/-- The type of 64 bits that the target prefers. -/
def Target.wideInteger (target : Target) : BasicType :=
  if target.longWidth = 64 then .long else .longLong

/-- The type of the distance between two addresses. -/
def Target.distanceType (target : Target) : BasicType :=
  if target.wordWidth = 64 then target.wideInteger else .int

/-- The type of a size. -/
def Target.sizeType (target : Target) : BasicType := target.distanceType.toUnsigned

/-- Whether a type can hold a value. -/
def BasicType.holds (target : Target) (type : BasicType) (value : Int) : Bool :=
  let width := type.width target
  if type = .bool then value = 0 || value = 1
  else if type.isSigned target then
    decide (-Int.pow 2 (width - 1) ≤ value) && decide (value < Int.pow 2 (width - 1))
  else decide (0 ≤ value) && decide (value < Int.pow 2 width)

/-- The value that a type keeps of an integer. -/
def BasicType.wrapValue (target : Target) (type : BasicType) (value : Int) : Int :=
  if type = .bool then (if value = 0 then 0 else 1)
  else
    let modulus := Nat.pow 2 (type.width target)
    if type.isSigned target then value.bmod modulus else value % modulus

/-- The value of an integer type that is nearest to an integer. -/
def BasicType.clampValue (target : Target) (type : BasicType) (value : Int) : Int :=
  let width := type.width target
  let (least, most) : Int × Int :=
    if type = .bool then (0, 1)
    else if type.isSigned target then (-Int.pow 2 (width - 1), Int.pow 2 (width - 1) - 1)
    else (0, Int.pow 2 width - 1)
  max least (min most value)

/-- The common type of two integers in an operation. -/
def BasicType.commonInteger (target : Target) (left right : BasicType) : BasicType :=
  if left = right then left
  else if left.isSigned target = right.isSigned target then
    if left.rank target < right.rank target then right else left
  else
    let signedSide := if left.isSigned target then left else right
    let otherSide := if left.isSigned target then right else left
    if signedSide.rank target ≤ otherSide.rank target then otherSide
    else if otherSide.width target < signedSide.width target then signedSide
    else signedSide.toUnsigned

/-- The common type of the two sides of an arithmetic operation. -/
def BasicType.common (target : Target) (left right : BasicType) : BasicType :=
  let left := left.promote
  let right := right.promote
  if left.isFloating || right.isFloating then
    if left.floatRank < right.floatRank then right else left
  else left.commonInteger target right

end HeaderBindings
