import HeaderBindings.Name

/-!
What a binding is made of. Each bound declaration gives one artifact, and a foreign type says how
a value of a C type crosses the border. A reference carries the artifact it stands for.
-/

namespace HeaderBindings

mutual

/-- How a value is passed: widths are in bits, and strings are pointers to `char`. -/
inductive ForeignType where
  | integer (name : String) (signed : Bool) (width : Int)
  | floating (name : String) (width : Int)
  | void
  | pointer
  | string
  | array (element : ForeignType) (length : Int)
  | reference (artifact : Artifact)

structure Field where
  name : String
  type : ForeignType

/-- The label is the type as documentation shows it. -/
structure Parameter where
  name : String
  type : ForeignType
  label : String

structure Signature where
  parameters : List Parameter
  result : ForeignType
  resultLabel : String

inductive Artifact where
  | enumeration (name : String) (constants : List (String × Option String))
  | struct (name : String) (fields : List Field)
  | callback (name : String) (signature : Signature)
  | function (name : String) (signature : Signature) (comment : String) (variadic : Bool)

end

end HeaderBindings
