import HeaderBindings.Text.Literal
import HeaderBindings.Text.Blank

/-!
Why a YAML text has no value. A text that is not YAML, or that builds what cannot be built, is
malformed; a scalar whose tag promises something else is a fault of its own, and so is an escape that
stands for no character.
-/

namespace HeaderBindings

/-- A part of a moment that is out of its bounds. -/
inductive MomentFault where
  | year (value : Nat)
  | month
  | day
  | hour
  | minute
  | second
  /-- A distance to universal time of a day or more, in minutes. -/
  | zone (minutes : Int)
  deriving DecidableEq, Repr

inductive YamlFault where
  | malformed
  /-- An escape for a number that is beyond all characters. -/
  | noCharacter (code : Nat)
  /-- An escape for half of a pair of numbers that make one character. What such halves would do in a
  value is left out, as no text here can hold them. -/
  | halfPair
  /-- A number without a character. -/
  | emptyNumber
  | notInteger (base : Nat) (text : String)
  | tooManyDigits (digits : Nat)
  | notReal (text : String)
  /-- More groups of sixty than a number with a point can have. -/
  | tooManyGroups
  | notBoolean (word : String)
  | notTimestamp
  /-- A moment that is taken from inside of a mapping. -/
  | mappedTimestamp
  | moment (fault : MomentFault)
  /-- A number that has more digits than are written out. -/
  | unwritable
  deriving DecidableEq, Repr

def numbersText (numbers : List Nat) : List Char :=
  joinWith ", ".toList (numbers.map fun n => (Nat.repr n).toList)

/-- A duration of whole minutes, as days and seconds. -/
def durationLiteral (minutes : Int) : List Char :=
  let days := minutes.fdiv (24 * 60)
  let seconds := minutes.fmod (24 * 60) * 60
  "datetime.timedelta(".toList
    ++ joinWith ", ".toList
      ((if days = 0 then [] else [("days=" ++ toString days).toList])
        ++ (if seconds = 0 then [] else [("seconds=" ++ toString seconds).toList]))
    ++ [')']

def MomentFault.message : MomentFault → String
  | .year value => "year " ++ toString value ++ " is out of range"
  | .month => "month must be in 1..12"
  | .day => "day is out of range for month"
  | .hour => "hour must be in 0..23"
  | .minute => "minute must be in 0..59"
  | .second => "second must be in 0..59"
  | .zone minutes =>
    "offset must be a timedelta strictly between -timedelta(hours=24) and timedelta(hours=24), not "
      ++ String.ofList (durationLiteral minutes) ++ "."

/-- The message of a fault. Of a text that is no integer only the start is shown. -/
def YamlFault.message : YamlFault → String
  | .malformed => ""
  | .noCharacter code =>
    if code < 0x80000000 then "chr() arg not in range(0x110000)"
    else "Python int too large to convert to C int"
  | .halfPair => "surrogates not allowed"
  | .emptyNumber => "string index out of range"
  | .notInteger base text =>
    "invalid literal for int() with base " ++ toString base ++ ": "
      ++ String.ofList ((literalString text.toList).take 200)
  | .tooManyDigits digits =>
    "Exceeds the limit (4300 digits) for integer string conversion: value has " ++ toString digits
      ++ " digits; use sys.set_int_max_str_digits() to increase the limit"
  | .notReal text => "could not convert string to float: " ++ literalOf text
  | .tooManyGroups => "int too large to convert to float"
  | .notBoolean word => literalOf word
  | .notTimestamp => "'NoneType' object has no attribute 'groupdict'"
  | .mappedTimestamp => "expected string or bytes-like object, got 'list'"
  | .moment fault => fault.message
  | .unwritable =>
    "Exceeds the limit (4300 digits) for integer string conversion; use"
      ++ " sys.set_int_max_str_digits() to increase the limit"

end HeaderBindings
