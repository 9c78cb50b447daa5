import HeaderBindings.C.BasicType

/-!
C types as they are written. A spelling keeps the type that it stands for: a name, parentheses, a
qualifier. A struct, union or enum is a number in the table of tags.
-/

namespace HeaderBindings

inductive ArrayBound where
  | fixed (count : Int)
  /-- A bound that can be worked out, although it is no constant expression. -/
  | foldable (count : Int)
  | unspecified
  | variable
  deriving DecidableEq, Repr

inductive ParameterStyle where
  | fixed
  | variadic
  | unprototyped
  deriving DecidableEq, Repr

structure Qualifiers where
  isConst : Bool
  isVolatile : Bool
  isRestrict : Bool
  deriving DecidableEq, Repr

def Qualifiers.none : Qualifiers := ⟨false, false, false⟩

def Qualifiers.union (a b : Qualifiers) : Qualifiers :=
  ⟨a.isConst || b.isConst, a.isVolatile || b.isVolatile, a.isRestrict || b.isRestrict⟩

/-- What a written type can have around the type that it stands for. -/
inductive Spelling where
  | alias (name : String)
  | paren
  | typeofType
  | typeofValue
  | qualified (qualifiers : Qualifiers)
  /-- An attribute that belongs to the type itself, such as one about null pointers. -/
  | attributed
  /-- The alignment of the values of a type name, in bytes. -/
  | aligned (bytes : Nat)
  deriving DecidableEq, Repr

mutual

inductive CType where
  | basic (type : BasicType)
  | pointer (target : CType)
  | block (target : CType)
  | array (element : CType) (bound : ArrayBound)
  | function (result : CType) (parameters : List CParameter) (style : ParameterStyle)
  /-- A tag, and whether this is where its body stands. -/
  | tag (id : Nat) (here : Bool)
  | spelled (spelling : Spelling) (meaning : CType)
  | complex (inner : CType)
  | atomic (inner : CType)
  /-- Several values of one type; the flag tells the two ways of asking for them apart. -/
  | vector (extended : Bool) (element : CType) (count : Nat)

structure CParameter where
  name : String
  type : CType

end

instance : Inhabited CType := ⟨.basic .int⟩

inductive TagKind where
  | struct
  | union
  | enumeration
  deriving DecidableEq, Repr

/-- What the source has for the value of an enum constant: nothing, an expression, a literal's text,
or a literal that stands in no file. -/
inductive ConstantText where
  | none
  | expression
  | literal (text : String)
  | unspelled
  deriving DecidableEq, Repr

structure Enumerator where
  name : String
  value : Int
  text : ConstantText
  deriving DecidableEq, Repr

structure CField where
  name : String
  type : CType
  /-- The width of a bit field. -/
  bits : Option Nat
  /-- An unnamed struct or union whose members count as members of the outer one. -/
  implicit : Bool
  /-- Alignment asked for in the source, in bytes. -/
  aligned : Option Nat
  packed : Bool

def CField.unnamed (type : CType) : CField := ⟨"", type, none, false, none, false⟩

/-- Where a record's fields are: its size and alignment in bytes, and the places of its fields in
bits. -/
structure RecordLayout where
  size : Nat
  alignment : Nat
  offsets : List Nat
  deriving DecidableEq, Repr

inductive TagBody where
  | incomplete
  | record (fields : List CField) (layout : RecordLayout)
  | enumeration (constants : List Enumerator) (type : BasicType)

structure Tag where
  kind : TagKind
  name : Option String
  /-- The type name that an unnamed tag goes by. -/
  aliasName : Option String
  body : TagBody

abbrev TagTable := List Tag

def Tag.spelling (tag : Tag) : String := (tag.name.or tag.aliasName).getD ""

/-- Whether a tag counts as unnamed; a union counts as named by its type name. -/
def Tag.isAnonymous (tag : Tag) : Bool :=
  tag.name.isNone && (tag.aliasName.isNone || tag.kind ≠ .union)

mutual

/-- The type that a written type stands for, without qualifiers. -/
def CType.canonical : CType → CType
  | .basic type => .basic type
  | .pointer target => .pointer target.canonical
  | .block target => .block target.canonical
  | .array element bound => .array element.canonical bound
  | .function result parameters style =>
    .function result.canonical (canonicalParameters parameters) style
  | .tag id _ => .tag id false
  | .spelled _ meaning => meaning.canonical
  | .complex inner => .complex inner.canonical
  | .atomic inner => .atomic inner.canonical
  | .vector extended element count => .vector extended element.canonical count

def canonicalParameters : List CParameter → List CParameter
  | [] => []
  | ⟨_, type⟩ :: rest => ⟨"", type.canonical⟩ :: canonicalParameters rest

end

/-- Removes the spellings around a type; the types inside stay as written, unless the spelling asks
for the type of something else. -/
def CType.peel : CType → CType
  | .spelled .typeofType meaning => meaning.canonical
  | .spelled .typeofValue meaning => meaning.canonical
  | .spelled _ meaning => meaning.peel
  | other => other

/-- The type inside all spellings. -/
def CType.inside : CType → CType
  | .spelled _ meaning => meaning.inside
  | other => other

/-- Whether one of the spellings around a type is an attribute. -/
def CType.hasAttribute : CType → Bool
  | .spelled spelling meaning => spelling = .attributed || meaning.hasAttribute
  | _ => false

/-- Whether a spelling leaves no trace when a type is looked at. -/
def Spelling.isUnseen : Spelling → Bool
  | .paren | .qualified _ | .attributed | .aligned _ => true
  | .alias _ | .typeofType | .typeofValue => false

/-- A type as it shows: without qualifiers and parentheses around it, and without a name that hides
an attribute. -/
def CType.shown : CType → CType
  | .spelled spelling meaning =>
    if spelling.isUnseen || meaning.hasAttribute then meaning.shown else .spelled spelling meaning
  | other => other

/-- What stands inside a written type: a tag's body, the mention of a name, a parameter, or an
expression. -/
inductive TypeChild where
  | definition (tag : Nat)
  | mention
  | parameter (parameter : CParameter)
  | expression

def CType.children : CType → List TypeChild
  | .basic _ | .complex _ | .vector _ _ _ => []
  | .pointer target => target.children
  | .block target => target.children
  | .array element bound => element.children ++ if bound = .unspecified then [] else [.expression]
  | .function result parameters _ => result.children ++ parameters.map .parameter
  | .tag id here => [if here then .definition id else .mention]
  | .spelled (.alias _) _ => [.mention]
  | .spelled .typeofValue _ => [.expression]
  | .spelled _ meaning => meaning.children
  | .atomic inner => inner.children

/-- The name of the declaration that a type refers to. -/
def CType.declaredName (tags : TagTable) : CType → String
  | .spelled (.alias name) _ => name
  | .tag id _ => (tags[id]?.map Tag.spelling).getD ""
  | _ => ""

/-- Whether a declarator with this type ends with its type and not with its name. -/
def CType.endsDeclarator : CType → Bool
  | .pointer target => target.endsDeclarator
  | .block target => target.endsDeclarator
  | .array _ _ | .function _ _ _ => true
  | .spelled .paren _ => true
  | .spelled (.qualified _) meaning => meaning.endsDeclarator
  | _ => false

/-- A type with qualifiers on it. -/
def CType.qualify (qualifiers : Qualifiers) (type : CType) : CType :=
  if qualifiers = .none then type else .spelled (.qualified qualifiers) type

/-- The qualifiers of the values of a type; an array has those of its elements. -/
def CType.qualifiers : CType → Qualifiers
  | .spelled (.qualified qualifiers) meaning => qualifiers.union meaning.qualifiers
  | .spelled _ meaning => meaning.qualifiers
  | .array element _ => element.qualifiers
  | _ => .none

/-- A type without the qualifiers on it; the types inside keep theirs. -/
def CType.unqualified : CType → CType
  | .spelled spelling meaning =>
    if meaning.qualifiers = .none then
      match spelling with
      | .qualified _ => meaning
      | _ => .spelled spelling meaning
    else meaning.unqualified
  | other => other

/-- A bound that can be worked out, worked out: what a declaration at file scope does with the
arrays behind its name. -/
def CType.folded : CType → CType
  | .pointer target => .pointer target.folded
  | .array element (.foldable count) => .array element.folded (.fixed count)
  | .array element bound => .array element.folded bound
  | .spelled .paren meaning => .spelled .paren meaning.folded
  | .spelled (.qualified qualifiers) meaning => .spelled (.qualified qualifiers) meaning.folded
  | other => other

/-- The type that a parameter of a type has in the function: an array or a function becomes a
pointer. -/
def CType.adjusted (type : CType) : CType :=
  match type.inside with
  | .array element _ => .pointer element
  | .function result parameters style => .pointer (.function result parameters style)
  | _ => type

def CType.isFunction (type : CType) : Bool :=
  match type.inside with
  | .function _ _ _ => true
  | _ => false

def CType.isArray (type : CType) : Bool :=
  match type.inside with
  | .array _ _ => true
  | _ => false

def CType.isRecord (tags : TagTable) (type : CType) : Bool :=
  match type.canonical with
  | .tag id _ => tags[id]?.any fun tag => tag.kind ≠ .enumeration
  | _ => false

def CType.isUnion (tags : TagTable) (type : CType) : Bool :=
  match type.canonical with
  | .tag id _ => tags[id]?.any fun tag => tag.kind = .union
  | _ => false

/-- The arithmetic type that a type converts to. -/
def CType.arithmetic? (tags : TagTable) (type : CType) : Option BasicType :=
  match type.inside with
  | .basic .void | .basic .nullPointer => none
  | .basic type => some type
  | .atomic inner =>
    match inner.inside with
    | .basic .void => none
    | .basic type => some type
    | _ => none
  | .tag id _ =>
    match tags[id]?.map Tag.body with
    | some (.enumeration _ type) => some type
    | _ => none
  | _ => none

/-- The type that a pointer leads to. -/
def CType.pointee? (type : CType) : Option CType :=
  match type.inside with
  | .pointer target => some target
  | .block target => some target
  | .atomic inner =>
    match inner.inside with
    | .pointer target => some target
    | _ => none
  | _ => none

/-- The result of calling a function or a pointer to one. -/
def CType.callResult : CType → CType
  | .function result _ _ => result
  | .pointer target => target.callResult
  | .block target => target.callResult
  | .spelled _ meaning => meaning.callResult
  | other => other

end HeaderBindings
