import HeaderBindings.Text.Blank
import HeaderBindings.Text.Hidden

/-!
Texts and bytes as literals in quotes. Single quotes are used unless double ones save escapes, and
what is not printed is shown by its number.
-/

namespace HeaderBindings

def lowerHex (width n : Nat) : List Char :=
  let digits := Nat.toDigits 16 n
  List.replicate (width - digits.length) '0' ++ digits

def literalChar (quote c : Char) : List Char :=
  if c = quote ∨ c = '\\' then ['\\', c]
  else if c = '\n' then ['\\', 'n']
  else if c = '\r' then ['\\', 'r']
  else if c = '\t' then ['\\', 't']
  else if !isHidden c then [c]
  else if c.toNat < 0x100 then '\\' :: 'x' :: lowerHex 2 c.toNat
  else if c.toNat < 0x10000 then '\\' :: 'u' :: lowerHex 4 c.toNat
  else '\\' :: 'U' :: lowerHex 8 c.toNat

/-- A string in single quotes, or in double ones where that saves escapes. -/
def literalString (text : List Char) : List Char :=
  let quote := if text.contains '\'' && !text.contains '"' then '"' else '\''
  quote :: text.flatMap (literalChar quote) ++ [quote]

def literalOf (text : String) : String := String.ofList (literalString text.toList)

def literalByte (quote : Char) (n : Nat) : List Char :=
  if 128 ≤ n then '\\' :: 'x' :: lowerHex 2 n else literalChar quote (Char.ofNat n)

def literalBytes (values : List Nat) : List Char :=
  let has (c : Char) : Bool := values.contains c.toNat
  let quote := if has '\'' && !has '"' then '"' else '\''
  'b' :: quote :: values.flatMap (literalByte quote) ++ [quote]

end HeaderBindings
