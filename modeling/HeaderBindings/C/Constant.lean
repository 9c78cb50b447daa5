import HeaderBindings.C.Layout
import HeaderBindings.C.Literal

/-!
Values that are known before a program runs, with the operators on them. An integer wraps in its
type, a floating number is rounded in its type, and an address is a distance from the start of some
object, or from nought.
-/

namespace HeaderBindings

inductive Scalar where
  | integer (value : Int)
  | floating (value : BinaryFloat)
  deriving DecidableEq, Repr

/-- An object that addresses lead to. What it holds is listed by places in bytes; elsewhere it
holds nought. -/
structure Storage where
  name : String
  contents : Option (List (Nat × Option Scalar))
  deriving DecidableEq, Repr

structure Address where
  storage : Option Storage
  offset : Int
  deriving DecidableEq, Repr

inductive ConstantValue where
  | scalar (value : Scalar)
  | address (place : Address)
  deriving DecidableEq, Repr

def ConstantValue.integer (value : Int) : ConstantValue := .scalar (.integer value)

def ConstantValue.floating (value : BinaryFloat) : ConstantValue := .scalar (.floating value)

def ConstantValue.truth (holds : Bool) : ConstantValue := .integer (if holds then 1 else 0)

def ConstantValue.integer? : ConstantValue → Option Int
  | .scalar (.integer value) => some value
  | _ => none

/-- Whether a value is other than nought. -/
def ConstantValue.isTrue : ConstantValue → Bool
  | .scalar (.integer value) => value ≠ 0
  | .scalar (.floating value) => !value.isZero
  | .address place => place.storage.isSome || place.offset ≠ 0

/-- An integer of some type. -/
structure Quantity where
  value : Int
  type : BasicType
  deriving DecidableEq, Repr

def IntegerLiteral.quantity (target : Target) (literal : IntegerLiteral) : Quantity :=
  ⟨literal.value, literal.type target⟩

inductive UnaryOperator where
  | plus
  | minus
  | complement
  | not
  deriving DecidableEq, Repr

inductive BinaryOperator where
  | times
  | divide
  | remainder
  | plus
  | minus
  | shiftLeft
  | shiftRight
  | less
  | lessOrEqual
  | greater
  | greaterOrEqual
  | equal
  | notEqual
  | bitAnd
  | bitXor
  | bitOr
  | and
  | or
  deriving DecidableEq, Repr

def BinaryOperator.ofText? : String → Option BinaryOperator
  | "*" => some .times
  | "/" => some .divide
  | "%" => some .remainder
  | "+" => some .plus
  | "-" => some .minus
  | "<<" => some .shiftLeft
  | ">>" => some .shiftRight
  | "<" => some .less
  | "<=" => some .lessOrEqual
  | ">" => some .greater
  | ">=" => some .greaterOrEqual
  | "==" => some .equal
  | "!=" => some .notEqual
  | "&" => some .bitAnd
  | "^" => some .bitXor
  | "|" => some .bitOr
  | "&&" => some .and
  | "||" => some .or
  | _ => none

/-- How tightly an operator binds. -/
def BinaryOperator.level : BinaryOperator → Nat
  | .times | .divide | .remainder => 10
  | .plus | .minus => 9
  | .shiftLeft | .shiftRight => 8
  | .less | .lessOrEqual | .greater | .greaterOrEqual => 7
  | .equal | .notEqual => 6
  | .bitAnd => 5
  | .bitXor => 4
  | .bitOr => 3
  | .and => 2
  | .or => 1

def BinaryOperator.isShift : BinaryOperator → Bool
  | .shiftLeft | .shiftRight => true
  | _ => false

def BinaryOperator.isComparison : BinaryOperator → Bool
  | .less | .lessOrEqual | .greater | .greaterOrEqual | .equal | .notEqual => true
  | _ => false

def BinaryOperator.isLogical : BinaryOperator → Bool
  | .and | .or => true
  | _ => false

def BinaryOperator.isDivision : BinaryOperator → Bool
  | .divide | .remainder => true
  | _ => false

/-- What a comparison says of an order. -/
def BinaryOperator.accepts (operator : BinaryOperator) (order : Ordering) : Bool :=
  match operator with
  | .less => order = .lt
  | .lessOrEqual => order ≠ .gt
  | .greater => order = .gt
  | .greaterOrEqual => order ≠ .lt
  | .equal => order = .eq
  | .notEqual => order ≠ .eq
  | _ => false

/-! Conversions. -/

/-- The integer of a type that a floating number becomes; what does not fit becomes the nearest
one. -/
def integerOfFloat (target : Target) (type : BasicType) (value : BinaryFloat) : Int :=
  if type = .bool then (if value.isZero then 0 else 1)
  else match value with
    | .nan => 0
    | .infinity negative => type.clampValue target (if negative then -Int.pow 2 1024 else Int.pow 2 1024)
    | finite => type.clampValue target (finite.truncate?.getD 0)

/-- Whether the part of a floating number in front of the point fits a type. -/
def floatFits (target : Target) (type : BasicType) (value : BinaryFloat) : Bool :=
  type = .bool || value.truncate?.any (type.holds target)

def floatOfInteger (format : FloatFormat) (value : Int) : BinaryFloat :=
  .ofRatio format (value < 0) value.natAbs 1

def Scalar.convert (target : Target) (type : BasicType) : Scalar → Scalar
  | .integer value =>
    if type.isFloating then .floating (floatOfInteger (type.format target) value)
    else .integer (type.wrapValue target value)
  | .floating value =>
    if type.isFloating then .floating (value.convert (type.format target))
    else .integer (integerOfFloat target type value)

/-- A value as one of an arithmetic type; an address that does not start at nought is none. -/
def ConstantValue.convert? (target : Target) (type : BasicType) (value : ConstantValue) :
    Option ConstantValue :=
  match value with
  | .scalar number => some (.scalar (number.convert target type))
  | .address place =>
    if type = .bool then some (.truth value.isTrue)
    else if place.storage.isNone && type.isInteger then
      some (.integer (type.wrapValue target place.offset))
    else none

/-- A value as an address. -/
def ConstantValue.toAddress? (target : Target) : ConstantValue → Option Address
  | .scalar (.integer value) => some ⟨none, value % Int.pow 2 target.wordWidth⟩
  | .scalar (.floating _) => none
  | .address place => some place

/-! Operators. -/

/-- The bits of two values of one type, combined. -/
def bitwise (target : Target) (type : BasicType) (combine : Nat → Nat → Nat) (a b : Int) : Int :=
  let modulus := Int.pow 2 (type.width target)
  type.wrapValue target (combine (a % modulus).toNat (b % modulus).toNat)

/-- A value shifted to the left, by no more than the width allows. A shift by less than nought goes
the other way. -/
def shiftValue (target : Target) (type : BasicType) (value amount : Int) : Int :=
  let most : Int := type.width target - 1
  if 0 ≤ amount then type.wrapValue target (value * Int.pow 2 (min amount most).toNat)
  else value.fdiv (Int.pow 2 (min (-amount) most).toNat)

/-- An operation on two integers of one type; there is no quotient by nought. -/
def integerOperation (target : Target) (type : BasicType) (operator : BinaryOperator)
    (a b : Int) : Option Int :=
  let result (value : Int) : Option Int := some (type.wrapValue target value)
  match operator with
  | .times => result (a * b)
  | .divide => if b = 0 then none else result (a.tdiv b)
  | .remainder => if b = 0 then none else result (a.tmod b)
  | .plus => result (a + b)
  | .minus => result (a - b)
  | .bitAnd => some (bitwise target type Nat.land a b)
  | .bitXor => some (bitwise target type Nat.xor a b)
  | .bitOr => some (bitwise target type Nat.lor a b)
  | .shiftLeft => some (shiftValue target type a b)
  | .shiftRight => some (shiftValue target type a (-b))
  | .and => some (if a ≠ 0 ∧ b ≠ 0 then 1 else 0)
  | .or => some (if a ≠ 0 ∨ b ≠ 0 then 1 else 0)
  | comparison => some (if comparison.accepts (compare a b) then 1 else 0)

/-- An operation on two floating numbers of one format. -/
def floatingOperation (format : FloatFormat) (operator : BinaryOperator) (a b : BinaryFloat) :
    Option Scalar :=
  match operator with
  | .times => some (.floating (.multiply format a b))
  | .divide => some (.floating (.divide format a b))
  | .plus => some (.floating (.add format a b))
  | .minus => some (.floating (.add format a b.negate))
  | other =>
    if other.isComparison then
      let holds : Bool := match a.compare? b with
        | some order => other.accepts order
        | none => other = .notEqual
      some (.integer (if holds then 1 else 0))
    else none

/-- An operation on two scalars that were converted to one type. -/
def scalarOperation (target : Target) (type : BasicType) (operator : BinaryOperator)
    (left right : Scalar) : Option Scalar :=
  match left, right with
  | .integer a, .integer b => (integerOperation target type operator a b).map .integer
  | .floating a, .floating b => floatingOperation (type.format target) operator a b
  | _, _ => none

def scalarUnary (target : Target) (type : BasicType) (operator : UnaryOperator) :
    Scalar → Option Scalar
  | .integer value =>
    match operator with
    | .plus => some (.integer value)
    | .minus => some (.integer (type.wrapValue target (-value)))
    | .complement => some (.integer (type.wrapValue target (-value - 1)))
    | .not => some (.integer (if value = 0 then 1 else 0))
  | .floating value =>
    match operator with
    | .plus => some (.floating value)
    | .minus => some (.floating value.negate)
    | .not => some (.integer (if value.isZero then 1 else 0))
    | .complement => none

/-- How two addresses compare, as far as that can be told. -/
def Address.compare? (operator : BinaryOperator) (left right : Address) : Option Bool :=
  if left.storage.map Storage.name = right.storage.map Storage.name then
    some (operator.accepts (compare left.offset right.offset))
  else if operator = .equal then some false
  else if operator = .notEqual then some true
  else none

/-- What an object holds at a place. -/
def Storage.read? (storage : Storage) (offset : Int) (isFloating : Bool) : Option Scalar :=
  match storage.contents with
  | none => none
  | some contents =>
    if offset < 0 then none
    else match contents.find? fun entry => entry.1 = offset.toNat with
      | some (_, value) => value
      | none => some (if isFloating then .floating (.zero .binary64) else .integer 0)

end HeaderBindings
