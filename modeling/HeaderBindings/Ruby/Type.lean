import HeaderBindings.Artifact

/-!
Foreign types and labels as Ruby source. A struct is passed by value under its class name; enums
and callbacks go by the symbol under which their own block declares them.
-/

namespace HeaderBindings

def Artifact.name : Artifact → String
  | .enumeration name _ => name
  | .struct name _ => name
  | .callback name _ => name
  | .function name _ _ _ => name

/-- The symbol or class by which a type of the binding refers to an artifact. -/
def Artifact.reference (prefixes : List String) : Artifact → String
  | .struct name _ => typeIdentifier prefixes name ++ ".by_value"
  | artifact => ":" ++ memberIdentifier prefixes artifact.name

/-- What documentation calls a value of the artifact's type. -/
def Artifact.label (prefixes : List String) : Artifact → String
  | .callback _ _ => "Callback"
  | artifact => typeIdentifier prefixes artifact.name

def ForeignType.render (prefixes : List String) : ForeignType → String
  | .integer name _ _ => ":" ++ name
  | .floating name _ => ":" ++ name
  | .void => ":void"
  | .pointer => ":pointer"
  | .string => ":string"
  | .array element length => "[" ++ element.render prefixes ++ ", " ++ toString length ++ "]"
  | .reference artifact => artifact.reference prefixes

end HeaderBindings
