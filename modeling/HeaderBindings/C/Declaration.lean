import HeaderBindings.C.Token
import HeaderBindings.C.Type

/-!
The declarations of a translation unit at file scope, in order. A struct, union or enum that is
defined or mentioned for the first time inside another declaration is a declaration of its own and
comes before it.
-/

namespace HeaderBindings

inductive DeclarationBody where
  /-- A tag; a declaration without a body lists no constants. -/
  | tag (id : Nat) (constants : List Enumerator)
  | function (type : CType) (defined : Bool)
  /-- A name for a type; the count is that of the attributes written with it. -/
  | typeName (type : CType) (attributes : Nat)
  | other

structure Declaration where
  name : String
  /-- Where the name stands as a reader of the source sees it. -/
  place : Place
  start : Mark
  stop : Mark
  body : DeclarationBody

/-- The name that a declaration is known by. -/
def Declaration.spelling (tags : TagTable) (declaration : Declaration) : String :=
  match declaration.body with
  | .tag id _ => (tags[id]?.map Tag.spelling).getD ""
  | _ => declaration.name

end HeaderBindings
