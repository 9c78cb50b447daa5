import HeaderBindings.C.Feature
import HeaderBindings.C.Macro
import HeaderBindings.C.Type

/-!
Attributes with their arguments. Only a few of them change a type; others matter because a type name
or a constant keeps them as its own.
-/

namespace HeaderBindings

def openSigns : List String := ["(", "[", "\x7b"]

def closeSigns : List String := [")", "]", "\x7d"]

def Token.opens (token : Token) : Bool :=
  token.kind = .punctuator && openSigns.contains token.text

def Token.closes (token : Token) : Bool :=
  token.kind = .punctuator && closeSigns.contains token.text

structure Attribute where
  name : String
  arguments : List Token

/-- An attribute from its tokens; a name can have that of a vendor in front. -/
def attributeOf : List Token → List Attribute
  | [] => []
  | vendor :: first :: second :: name :: rest =>
    if first.isSign ":" && second.isSign ":" then
      [⟨bareName name.text, (rest.drop 1).dropLast⟩]
    else [⟨bareName vendor.text, (second :: name :: rest).dropLast⟩]
  | name :: rest => [⟨bareName name.text, (rest.drop 1).dropLast⟩]

/-- The attributes of a list, cut at the commas outside brackets. -/
def attributesIn (current : List Token) (depth : Nat) : List Token → List Attribute
  | [] => attributeOf current.reverse
  | token :: rest =>
    if depth = 0 ∧ token.isSign "," then attributeOf current.reverse ++ attributesIn [] 0 rest
    else if token.opens then attributesIn (token :: current) (depth + 1) rest
    else if token.closes then attributesIn (token :: current) (depth - 1) rest
    else attributesIn (token :: current) depth rest

def Attribute.isPacked (found : Attribute) : Bool := found.name = "packed"

/-- Attributes that any declaration keeps. -/
def commonAttributes : List String :=
  ["deprecated", "unavailable", "availability", "annotate", "unused", "maybe_unused",
    "external_source_symbol", "swift_name", "swift_attr", "swift_async_name", "suppress", "const",
    "pure", "may_alias"]

/-- Attributes that a type name keeps as its own. -/
def typeNameAttributes : List String :=
  ["aligned", "warn_unused_result", "nodiscard", "mode", "nodebug", "capability",
    "shared_capability", "swift_newtype", "swift_wrapper", "swift_bridged_typedef", "btf_decl_tag",
    "objc_bridge", "objc_bridge_mutable", "objc_bridge_related", "preferred_name"]

/-- Attributes that the name of a pointer to a function keeps besides. -/
def functionNameAttributes : List String :=
  ["format", "format_arg", "nonnull", "alloc_size", "alloc_align", "argument_with_type_tag",
    "pointer_with_type_tag"]

def Attribute.staysWithTypeName (isFunction : Bool) (found : Attribute) : Bool :=
  commonAttributes.contains found.name || typeNameAttributes.contains found.name
    || isFunction && functionNameAttributes.contains found.name

/-- Whether a constant of an enum keeps an attribute. -/
def Attribute.staysWithConstant (found : Attribute) : Bool :=
  commonAttributes.contains found.name

/-- Attributes that say how a function is called; they belong to its type. -/
def callingAttributes : List String :=
  ["cdecl", "stdcall", "fastcall", "thiscall", "vectorcall", "regcall", "pascal", "ms_abi",
    "sysv_abi", "pcs", "preserve_most", "preserve_all", "swiftcall", "swiftasynccall",
    "intel_ocl_bicc", "aarch64_vector_pcs"]

/-- Puts an attribute about calls around the function inside a type. -/
def CType.withCallingAttribute : CType → CType
  | .function result parameters style =>
    .spelled .attributed (.function result parameters style)
  | .pointer target => .pointer target.withCallingAttribute
  | .block target => .block target.withCallingAttribute
  | .array element bound => .array element.withCallingAttribute bound
  | .spelled (.alias name) meaning => .spelled .attributed (.spelled (.alias name) meaning)
  | .spelled spelling meaning => .spelled spelling meaning.withCallingAttribute
  | other => other

/-- The integer type of a width. -/
def integerOfWidth? (target : Target) (signed : Bool) (width : Nat) : Option BasicType :=
  let types : List BasicType :=
    if signed then [.signedChar, .short, .int, .long, .longLong, .int128]
    else [.unsignedChar, .unsignedShort, .unsigned, .unsignedLong, .unsignedLongLong,
      .unsigned128]
  types.find? fun type => type.width target = width

/-- The width that the name of a machine mode stands for. -/
def modeWidth? (target : Target) (mode : String) : Option Nat :=
  match mode with
  | "byte" => some 8
  | "word" | "pointer" | "unwind_word" | "libgcc_cmp_return" | "libgcc_shift_count" =>
    some target.wordWidth
  | "QI" => some 8
  | "HI" | "HF" => some 16
  | "SI" | "SF" => some 32
  | "DI" | "DF" => some 64
  | "XF" => some 96
  | "TI" | "TF" | "KF" => some 128
  | _ => none

def floatOfWidth? (target : Target) (width : Nat) : Option BasicType :=
  match width with
  | 16 => some .float16
  | 32 => some .float
  | 64 => some .double
  | 96 => some .longDouble
  | 128 => some (if target.longDouble = .quadruple then .longDouble else .float128)
  | _ => none

/-- The type that a machine mode makes of a type. -/
def CType.withMode (target : Target) (tags : TagTable) (mode : String) (type : CType) : CType :=
  let changed (type : BasicType) : Option BasicType := do
    let width ← modeWidth? target mode
    if type.isFloating then floatOfWidth? target width
    else integerOfWidth? target (type.isSigned target) width
  match type.inside with
  | .complex inner =>
    let whole := String.ofList (mode.toList.map fun c => if c = 'C' then 'F' else c)
    match (inner.arithmetic? tags).bind fun _ => (modeWidth? target whole).bind
        (floatOfWidth? target) with
    | some found => .complex (.basic found)
    | none => type
  | _ =>
    match (type.arithmetic? tags).bind changed with
    | some found => (CType.basic found).qualify type.qualifiers
    | none => type

end HeaderBindings
