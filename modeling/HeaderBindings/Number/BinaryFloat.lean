/-!
Binary floating-point numbers in exact form: a finite number is a sign, a mantissa and a power of
two. A format says how long mantissas are and how far exponents go. Every operation is the exact
result, rounded to the nearest number of the format, and to the even one of two that are equally
near.
-/

namespace HeaderBindings

inductive BinaryFloat where
  | nan
  | infinity (negative : Bool)
  | finite (negative : Bool) (mantissa : Nat) (exponent : Int)
  deriving DecidableEq, Repr

/-- How long mantissas are, and how far the exponents of their last bits go. -/
structure FloatFormat where
  mantissaBits : Nat
  minExponent : Int
  maxExponent : Int
  deriving DecidableEq, Repr

namespace FloatFormat

/-- A format by the length of its mantissas and the greatest power of two it stays below. -/
def ofLimits (mantissaBits : Nat) (limit : Int) : FloatFormat :=
  ⟨mantissaBits, 3 - limit - mantissaBits, limit - mantissaBits⟩

def binary16 : FloatFormat := ofLimits 11 16

def binary32 : FloatFormat := ofLimits 24 128

def binary64 : FloatFormat := ofLimits 53 1024

def extended80 : FloatFormat := ofLimits 64 16384

def binary128 : FloatFormat := ofLimits 113 16384

end FloatFormat

/-- The integer nearest to a fraction, the even one of two. -/
def roundRatio (numerator denominator : Nat) : Nat :=
  let quotient := numerator / denominator
  let twice := 2 * (numerator % denominator)
  if denominator < twice ∨ (twice = denominator ∧ quotient % 2 = 1) then quotient + 1 else quotient

/-- A fraction divided by a power of two. -/
def unscale (numerator denominator : Nat) (exponent : Int) : Nat × Nat :=
  if 0 ≤ exponent then (numerator, denominator * Nat.pow 2 exponent.toNat)
  else (numerator * Nat.pow 2 (-exponent).toNat, denominator)

namespace BinaryFloat

def zero (format : FloatFormat) : BinaryFloat := .finite false 0 format.minExponent

/-- The exponent for which a fraction has a mantissa of full length, or the least one. -/
def exponentOf (format : FloatFormat) (numerator denominator : Nat) : Int :=
  let guess : Int := (numerator.log2 : Int) - denominator.log2 - format.mantissaBits
  let low := max guess format.minExponent
  let (scaled, unit) := unscale numerator denominator low
  if scaled / unit < Nat.pow 2 format.mantissaBits then low else low + 1

/-- The number nearest to a fraction. -/
def ofRatio (format : FloatFormat) (negative : Bool) (numerator denominator : Nat) :
    BinaryFloat :=
  let exponent := exponentOf format numerator denominator
  let (scaled, unit) := unscale numerator denominator exponent
  let mantissa := roundRatio scaled unit
  let (mantissa, exponent) :=
    if mantissa = Nat.pow 2 format.mantissaBits then
      (Nat.pow 2 (format.mantissaBits - 1), exponent + 1)
    else (mantissa, exponent)
  if format.maxExponent < exponent then .infinity negative else .finite negative mantissa exponent

/-- The number nearest to `digits * 10 ^ power`. A power that is out of all bounds is not worked
out. -/
def ofDecimal (format : FloatFormat) (negative : Bool) (digits : Nat) (power : Int) :
    BinaryFloat :=
  let magnitude : Int := digits.log2 / 4 + power
  let bound := (format.maxExponent + format.mantissaBits) / 2
  if digits = 0 ∨ magnitude < -bound then .finite negative 0 format.minExponent
  else if bound < magnitude then .infinity negative
  else if 0 ≤ power then ofRatio format negative (digits * Nat.pow 10 power.toNat) 1
  else ofRatio format negative digits (Nat.pow 10 (-power).toNat)

def negate : BinaryFloat → BinaryFloat
  | .nan => .nan
  | .infinity negative => .infinity !negative
  | .finite negative mantissa exponent => .finite (!negative) mantissa exponent

/-- The absolute value of a finite number, as a fraction. -/
def ratio (mantissa : Nat) (exponent : Int) : Nat × Nat :=
  if 0 ≤ exponent then (mantissa * Nat.pow 2 exponent.toNat, 1)
  else (mantissa, Nat.pow 2 (-exponent).toNat)

/-- A fraction whose sign is that of its numerator, as a number; nought is positive. -/
def ofSignedRatio (format : FloatFormat) (numerator : Int) (denominator : Nat) : BinaryFloat :=
  ofRatio format (numerator < 0) numerator.natAbs denominator

/-- The exact value of a finite number, as a fraction. -/
def signedRatio (negative : Bool) (mantissa : Nat) (exponent : Int) : Int × Nat :=
  let (numerator, denominator) := ratio mantissa exponent
  (if negative then -(numerator : Int) else numerator, denominator)

/-- The sum; of two noughts it is negative only if both are. -/
def add (format : FloatFormat) : BinaryFloat → BinaryFloat → BinaryFloat
  | .finite s 0 e, .finite s' 0 _ => .finite (s && s') 0 e
  | .finite s m e, .finite s' m' e' =>
    let (a, b) := signedRatio s m e
    let (c, d) := signedRatio s' m' e'
    ofSignedRatio format (a * d + c * b) (b * d)
  | .nan, _ | _, .nan => .nan
  | .infinity s, .infinity s' => if s = s' then .infinity s else .nan
  | .infinity s, .finite _ _ _ | .finite _ _ _, .infinity s => .infinity s

def isZero : BinaryFloat → Bool
  | .finite _ 0 _ => true
  | _ => false

def multiply (format : FloatFormat) : BinaryFloat → BinaryFloat → BinaryFloat
  | .finite s m e, .finite s' m' e' =>
    let (a, b) := ratio m e
    let (c, d) := ratio m' e'
    ofRatio format (s != s') (a * c) (b * d)
  | .nan, _ | _, .nan => .nan
  | .infinity s, .infinity s' => .infinity (s != s')
  | .infinity s, .finite s' m _ | .finite s m _, .infinity s' =>
    if m = 0 then .nan else .infinity (s != s')

def divide (format : FloatFormat) : BinaryFloat → BinaryFloat → BinaryFloat
  | .finite s m e, .finite s' m' e' =>
    if m' = 0 then (if m = 0 then .nan else .infinity (s != s'))
    else
      let (a, b) := ratio m e
      let (c, d) := ratio m' e'
      ofRatio format (s != s') (a * d) (b * c)
  | .nan, _ | _, .nan => .nan
  | .infinity _, .infinity _ => .nan
  | .infinity s, .finite s' _ _ => .infinity (s != s')
  | .finite s _ _, .infinity s' => .finite (s != s') 0 format.minExponent

/-- The number of another format that is nearest. -/
def convert (format : FloatFormat) : BinaryFloat → BinaryFloat
  | .finite s m e =>
    let (a, b) := ratio m e
    ofRatio format s a b
  | other => other

/-- How two numbers compare, when neither is no number. -/
def compare? : BinaryFloat → BinaryFloat → Option Ordering
  | .nan, _ | _, .nan => none
  | .infinity s, .infinity s' =>
    some (if s = s' then .eq else if s then .lt else .gt)
  | .infinity s, .finite _ _ _ => some (if s then .lt else .gt)
  | .finite _ _ _, .infinity s => some (if s then .gt else .lt)
  | .finite s m e, .finite s' m' e' =>
    let (a, b) := signedRatio s m e
    let (c, d) := signedRatio s' m' e'
    some (compare (a * d) (c * b))

/-- The integer between nought and a finite number that is nearest to the number. -/
def truncate? : BinaryFloat → Option Int
  | .finite s m e =>
    let (a, b) := ratio m e
    some (if s then -((a / b : Nat) : Int) else (a / b : Nat))
  | _ => none

/-- Whether a number is a given fraction. -/
def isRatio (numerator : Int) (denominator : Nat) : BinaryFloat → Bool
  | .finite s m e =>
    let (a, b) := signedRatio s m e
    a * denominator = numerator * b
  | _ => false

end BinaryFloat

end HeaderBindings
