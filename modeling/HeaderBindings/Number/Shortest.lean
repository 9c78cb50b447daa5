import HeaderBindings.Number.Binary64

/-!
The shortest decimal that reads back as a number, and of those the nearest. For one digit after the
other, the two neighbours of the number on the decimal grid are tried, in exact arithmetic.
-/

namespace HeaderBindings

structure Decimal where
  digits : Nat
  power : Int
  deriving DecidableEq, Repr

def decimalLength (n : Nat) : Nat := (Nat.repr n).length

namespace Binary64

/-- The power of ten of the first digit of a fraction. -/
def leadingPower (numerator denominator : Nat) : Int :=
  let guess : Int := (decimalLength numerator : Int) - decimalLength denominator
  let reaches : Bool :=
    if 0 ≤ guess then denominator * Nat.pow 10 guess.toNat ≤ numerator
    else denominator ≤ numerator * Nat.pow 10 (-guess).toNat
  if reaches then guess else guess - 1

/-- What rounds to a number: the numbers between two fractions over one denominator. -/
structure RoundingInterval where
  low : Nat
  value : Nat
  high : Nat
  denominator : Nat
  closed : Bool

def roundingInterval (mantissa : Nat) (exponent : Int) : RoundingInterval :=
  let scale (n : Nat) : Nat := if 2 ≤ exponent then n * Nat.pow 2 (exponent - 2).toNat else n
  let denominator := if 2 ≤ exponent then 1 else Nat.pow 2 (2 - exponent).toNat
  let isPower := mantissa = Nat.pow 2 (mantissaBits - 1) ∧ minExponent < exponent
  { low := scale (4 * mantissa - if isPower then 1 else 2)
    value := scale (4 * mantissa)
    high := scale (4 * mantissa + 2)
    denominator
    closed := mantissa % 2 = 0 }

/-- Whether a decimal lies in the interval; both sides are brought to whole numbers. -/
def RoundingInterval.holds (interval : RoundingInterval) (decimal : Decimal) : Bool :=
  let up := Nat.pow 10 decimal.power.toNat
  let down := Nat.pow 10 (-decimal.power).toNat
  let point := decimal.digits * up * interval.denominator
  if interval.closed then interval.low * down ≤ point ∧ point ≤ interval.high * down
  else interval.low * down < point ∧ point < interval.high * down

/-- The nearer of the two neighbours with so many digits, if it reads back. -/
def neighbour? (interval : RoundingInterval) (lead : Int) (length : Nat) : Option Decimal :=
  let power := lead - length + 1
  let numerator := interval.value * Nat.pow 10 (-power).toNat
  let unit := interval.denominator * Nat.pow 10 power.toNat
  let below : Decimal := ⟨numerator / unit, power⟩
  let above : Decimal := ⟨numerator / unit + 1, power⟩
  let nearest : Decimal := ⟨roundRatio numerator unit, power⟩
  if interval.holds nearest then some nearest
  else if interval.holds below then some below
  else if interval.holds above then some above
  else none

/-- The shortest decimal of a number other than nought; 17 digits always do. -/
def shortest (mantissa : Nat) (exponent : Int) : Decimal :=
  let interval := roundingInterval mantissa exponent
  let lead := leadingPower interval.value interval.denominator
  (((List.range 17).map (· + 1)).findSome? (neighbour? interval lead)).getD ⟨mantissa, exponent⟩

end Binary64

/-- Removes the zeros at the end of the digits. -/
def Decimal.trim (decimal : Decimal) (fuel : Nat) : Decimal :=
  match fuel with
  | 0 => decimal
  | fuel + 1 =>
    if decimal.digits ≠ 0 ∧ decimal.digits % 10 = 0 then
      Decimal.trim ⟨decimal.digits / 10, decimal.power + 1⟩ fuel
    else decimal

/-- A number in the shortest form. Between `0.0001` and `10 ^ 16` it is written out, with at least
one digit behind the point; otherwise its exponent has a sign and at least two digits. -/
def Decimal.text (decimal : Decimal) : String :=
  let decimal := decimal.trim 20
  let digits := Nat.repr decimal.digits
  let lead : Int := digits.length - 1 + decimal.power
  if -4 ≤ lead ∧ lead < 16 then
    if 0 ≤ decimal.power then
      digits ++ String.ofList (List.replicate decimal.power.toNat '0') ++ ".0"
    else if 0 ≤ lead then
      String.ofList (digits.toList.take (lead.toNat + 1)) ++ "."
        ++ String.ofList (digits.toList.drop (lead.toNat + 1))
    else "0." ++ String.ofList (List.replicate (-lead - 1).toNat '0') ++ digits
  else
    let fraction := String.ofList (digits.toList.drop 1)
    let exponent := Nat.repr lead.natAbs
    String.ofList (digits.toList.take 1) ++ (if fraction = "" then "" else "." ++ fraction) ++ "e"
      ++ (if lead < 0 then "-" else "+") ++ (if exponent.length < 2 then "0" else "") ++ exponent

def Binary64.text : Binary64 → String
  | .nan => "nan"
  | .infinity negative => if negative then "-inf" else "inf"
  | .finite negative mantissa exponent =>
    (if negative then "-" else "")
      ++ if mantissa = 0 then "0.0" else (Binary64.shortest mantissa exponent).text

end HeaderBindings
