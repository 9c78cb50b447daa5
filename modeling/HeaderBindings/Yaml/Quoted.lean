import HeaderBindings.Yaml.Fault
import HeaderBindings.Yaml.Writer

/-!
Values as messages quote them: a string as it is, and any other value as a literal. Inside a
collection strings are literals too.
-/

namespace HeaderBindings

def Date.literal (date : Date) : List Char :=
  "datetime.date(".toList ++ numbersText [date.year, date.month, date.day] ++ [')']

def zoneLiteral (minutes : Int) : List Char :=
  if minutes = 0 then "datetime.timezone.utc".toList
  else "datetime.timezone(".toList ++ durationLiteral minutes ++ [')']

def Moment.literal (moment : Moment) : List Char :=
  let small :=
    if moment.microsecond ≠ 0 then [moment.second, moment.microsecond]
    else if moment.second ≠ 0 then [moment.second] else []
  "datetime.datetime(".toList
    ++ numbersText ([moment.date.year, moment.date.month, moment.date.day, moment.hour,
      moment.minute] ++ small)
    ++ (match moment.zone with
      | some minutes => ", tzinfo=".toList ++ zoneLiteral minutes
      | none => [])
    ++ [')']

mutual

def Yaml.literal : Yaml → List Char
  | .null => "None".toList
  | .boolean value => (if value then "True" else "False").toList
  | .integer value => (toString value).toList
  | .float value => value.text.toList
  | .string text => literalString text.toList
  | .date value => value.literal
  | .moment value => value.literal
  | .bytes values => literalBytes values
  | .list items => '[' :: joinWith ", ".toList (literalItems items) ++ [']']
  | .mapping entries => '\x7b' :: joinWith ", ".toList (literalEntries entries) ++ ['\x7d']
  | .set [] => "set()".toList
  | .set members => '\x7b' :: joinWith ", ".toList (literalItems members) ++ ['\x7d']
  | .pair first second => '(' :: first.literal ++ ", ".toList ++ second.literal ++ [')']
  | .shared _ value => value.literal
  | .again _ isList => (if isList then "[...]" else "\x7b...\x7d").toList

def literalItems : List Yaml → List (List Char)
  | [] => []
  | item :: items => item.literal :: literalItems items

def literalEntries : List (Yaml × Yaml) → List (List Char)
  | [] => []
  | (key, value) :: entries =>
    (key.literal ++ ": ".toList ++ value.literal) :: literalEntries entries

end

/-- A value as a message shows it. -/
def Yaml.quoted : Yaml → String
  | .string text => text
  | .date value => value.text
  | .moment value => value.text
  | .shared _ value => value.quoted
  | other => String.ofList other.literal

mutual

/-- Whether a value can be shown at all: no number in it has too many digits. -/
def Yaml.isWritable : Yaml → Bool
  | .integer value => value.natAbs < Nat.pow 10 maxDecimalDigits
  | .list items => areWritable items
  | .mapping entries => areWritableEntries entries
  | .set members => areWritable members
  | .pair first second => first.isWritable && second.isWritable
  | .shared _ value => value.isWritable
  | _ => true

def areWritable : List Yaml → Bool
  | [] => true
  | value :: values => value.isWritable && areWritable values

def areWritableEntries : List (Yaml × Yaml) → Bool
  | [] => true
  | (key, value) :: entries => key.isWritable && value.isWritable && areWritableEntries entries

end

/-- Whether a value counts as given: nothing, nought and what is empty do not. -/
def Yaml.isGiven : Yaml → Bool
  | .null => false
  | .boolean value => value
  | .integer value => value ≠ 0
  | .float value => !value.isZero
  | .string text => text ≠ ""
  | .date _ => true
  | .moment _ => true
  | .bytes values => !values.isEmpty
  | .list items => !items.isEmpty
  | .mapping entries => !entries.isEmpty
  | .set members => !members.isEmpty
  | .pair _ _ => true
  | .shared _ value => value.isGiven
  | .again _ _ => true

end HeaderBindings
