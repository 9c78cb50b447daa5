import HeaderBindings.Yaml.Quoted

/-!
The kinds of values, as messages name them.
-/

namespace HeaderBindings

def Yaml.kindName : Yaml → String
  | .null => "NoneType"
  | .boolean _ => "bool"
  | .integer _ => "int"
  | .float _ => "float"
  | .string _ => "str"
  | .date _ => "datetime.date"
  | .moment _ => "datetime.datetime"
  | .bytes _ => "bytes"
  | .list _ => "list"
  | .mapping _ => "dict"
  | .set _ => "set"
  | .pair _ _ => "tuple"
  | .shared _ value => value.kindName
  | .again _ isList => if isList then "list" else "dict"

/-- The kind without the family it belongs to. -/
def Yaml.shortKindName (value : Yaml) : String :=
  match value.content with
  | .date _ => "date"
  | .moment _ => "datetime"
  | other => other.kindName

/-- The kind of a collection, unless it is one of fixed members. -/
def Yaml.collectionKind? : Yaml → Option String
  | .list _ => some "list"
  | .mapping _ => some "dict"
  | .set _ => some "set"
  | .pair first second => first.collectionKind?.or second.collectionKind?
  | .shared _ value => value.collectionKind?
  | .again _ isList => some (if isList then "list" else "dict")
  | _ => none

/-- The exact value of a number or a truth value, as a fraction. -/
def Yaml.ratio? : Yaml → Option (Int × Nat)
  | .boolean value => some (if value then 1 else 0, 1)
  | .integer value => some (value, 1)
  | .float (.finite negative mantissa exponent) =>
    some (Binary64.signedRatio negative mantissa exponent)
  | .float (.infinity negative) => some (if negative then -1 else 1, 0)
  | _ => none

/-- Whether a number is smaller than another one. -/
def smallerRatio (first second : Int × Nat) : Bool :=
  match first, second with
  | (a, 0), (b, 0) => a < b
  | (a, 0), (_, _) => a < 0
  | (_, _), (b, 0) => 0 < b
  | (a, b), (c, d) => a * d < c * b

end HeaderBindings
