import HeaderBindings.Number.BinaryFloat

/-!
Floating-point numbers of 64 bits: mantissas have at most 53 bits.
-/

namespace HeaderBindings

abbrev Binary64 := BinaryFloat

namespace Binary64

def mantissaBits : Nat := FloatFormat.binary64.mantissaBits

def minExponent : Int := FloatFormat.binary64.minExponent

def zero : Binary64 := BinaryFloat.zero .binary64

/-- The number nearest to a fraction. -/
def ofRatio (negative : Bool) (numerator denominator : Nat) : Binary64 :=
  BinaryFloat.ofRatio .binary64 negative numerator denominator

/-- The number nearest to `digits * 10 ^ power`. -/
def ofDecimal (negative : Bool) (digits : Nat) (power : Int) : Binary64 :=
  BinaryFloat.ofDecimal .binary64 negative digits power

def negate (number : Binary64) : Binary64 := BinaryFloat.negate number

def add (a b : Binary64) : Binary64 := BinaryFloat.add .binary64 a b

def multiply (a b : Binary64) : Binary64 := BinaryFloat.multiply .binary64 a b

def isZero (number : Binary64) : Bool := BinaryFloat.isZero number

/-- The exact value of a finite number, as a fraction. -/
def signedRatio (negative : Bool) (mantissa : Nat) (exponent : Int) : Int × Nat :=
  BinaryFloat.signedRatio negative mantissa exponent

/-- Whether a number is a given fraction. -/
def isRatio (number : Binary64) (numerator : Int) (denominator : Nat) : Bool :=
  BinaryFloat.isRatio numerator denominator number

end Binary64

end HeaderBindings
