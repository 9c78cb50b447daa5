import HeaderBindings.Binding.Harvest
import HeaderBindings.Binding.Resolve
import HeaderBindings.C.Declaration
import HeaderBindings.File.Path

/-!
The pass over the declarations of a translation unit. Declarations outside the scope are passed
over without a trace. Every other one moves the end behind which the next comment is looked for,
even when its name is on the blacklist, and may give an artifact.
-/

namespace HeaderBindings

/-- What the pass works on, and which of it is wanted. -/
structure PassContext where
  source : Source
  target : Target
  tags : TagTable
  /-- The files in scope, in normal form. -/
  files : List String
  blacklist : List String
  prefixes : List String
  /-- The kind of a prefix that is no string; no name can be stripped then. -/
  oddPrefix : Option String

inductive PassWarning where
  | hasBody (function : String)
  | noPrototype (function : String)
  deriving DecidableEq, Repr

inductive PassError where
  | unsupported (kind : UnsupportedKind)
  /-- A type whose kind cannot even be asked for. -/
  | unknownKind
  /-- An enum constant whose literal stands in no file. -/
  | unspelledLiteral
  /-- A function declared by the name of its type. -/
  | namedFunctionType
  /-- A function declared by the type of something else. -/
  | copiedFunctionType
  /-- A label that needs a name to be stripped, where a prefix is no string. -/
  | oddPrefix (kind : String)
  deriving DecidableEq, Repr

structure PassState where
  declared : Declared
  previousEnd : Option Mark
  warnings : List (Place × PassWarning)

def PassState.start : PassState := ⟨.empty, none, []⟩

def PassContext.resolve (context : PassContext) (symbols : SymbolTable) (type : CType) :
    Except PassError Resolved :=
  match type.resolve context.target context.tags symbols context.prefixes, context.oddPrefix with
  | .ok resolved, some kind => if resolved.named then .error (.oddPrefix kind) else .ok resolved
  | .ok resolved, none => .ok resolved
  | .error (.unsupported kind), _ => .error (.unsupported kind)
  | .error .unknownKind, _ => .error .unknownKind

/-! Artifacts. -/

/-- The text that gives an enum constant its value. A literal that does not start with a digit is
written as its value. -/
def Enumerator.constant (enumerator : Enumerator) : Except PassError (String × Option String) :=
  match enumerator.text with
  | .none | .expression => .ok (enumerator.name, none)
  | .literal text =>
    if text.toList.head?.any Char.isDigit then .ok (enumerator.name, some text)
    else .ok (enumerator.name, some (toString enumerator.value))
  | .unspelled => .error .unspelledLiteral

def enumerationOf (name : String) (constants : List Enumerator) : Except PassError Artifact := do
  return .enumeration name (← constants.mapM Enumerator.constant)

/-- The fields stay in the order of the source, which is that of the memory. -/
def PassContext.structOf (context : PassContext) (symbols : SymbolTable) (name : String)
    (fields : List CField) : Except PassError Artifact := do
  let fields ← (fields.filter (!·.implicit)).mapM fun field => do
    let resolved ← context.resolve symbols field.type
    return Field.mk field.name resolved.type
  return .struct name fields

def PassContext.parameter (context : PassContext) (symbols : SymbolTable)
    (parameter : CParameter) : Except PassError Parameter := do
  let resolved ← context.resolve symbols parameter.type
  return ⟨parameter.name, resolved.type, resolved.label⟩

/-- The parameters among the parts of a declaration. -/
def parametersAmong (children : List TypeChild) : List CParameter :=
  children.filterMap fun
    | .parameter parameter => some parameter
    | _ => none

def PassContext.signature (context : PassContext) (symbols : SymbolTable) (result : CType)
    (parameters : List CParameter) : Except PassError Signature := do
  let result ← context.resolve symbols result
  let parameters ← parameters.mapM (context.parameter symbols)
  return ⟨parameters, result.type, result.label⟩

/-- The result of the function that a type points to. -/
def CType.callbackResult? (type : CType) : Option CType :=
  match type.shown.peel with
  | .pointer target =>
    match target.inside with
    | .function result _ _ => some result
    | _ => none
  | _ => none

/-- Whether the kind of a type, or of what it points to, cannot be asked for. -/
def CType.hasUnknownKind (type : CType) : Bool :=
  match type.canonical with
  | .basic .float16 => true
  | .pointer (.basic .float16) => true
  | _ => false

def Tag.fields (tag : Tag) : List CField :=
  match tag.body with
  | .record fields _ => fields
  | _ => []

def Tag.constants (tag : Tag) : List Enumerator :=
  match tag.body with
  | .enumeration constants _ => constants
  | _ => []

/-- The tag that a type name is defined with, if that is all there is to it. -/
def PassContext.definedTag (context : PassContext) (type : CType) (attributes : Nat) :
    Option Tag :=
  match type.children, attributes with
  | [.definition id], 0 => context.tags[id]?
  | _, _ => none

/-- A type name for a pointer to a function declares a callback; one for anything else declares
nothing. -/
def PassContext.callback (context : PassContext) (declared : Declared) (name : String)
    (type : CType) : Except PassError Declared :=
  if type.hasUnknownKind then .error .unknownKind
  else match type.callbackResult? with
    | some result => do
      let signature ← context.signature declared.symbols result (parametersAmong type.children)
      return declared.declare (.callback name signature) []
    | none => .ok declared

/-- What a type name brings about: a struct, an enum, a callback, or nothing. A tag that has a name
of its own stays an alias of the struct, and an enum with a name was declared before. -/
def PassContext.typeName (context : PassContext) (declared : Declared) (name : String)
    (type : CType) (attributes : Nat) : Except PassError Declared :=
  match context.definedTag type attributes with
  | some tag =>
    if tag.kind = .struct ∧ type.isRecord context.tags then do
      let struct ← context.structOf declared.symbols name tag.fields
      return declared.declare struct (if tag.isAnonymous then [] else [tag.spelling])
    else if tag.kind = .enumeration ∧ tag.isAnonymous then do
      let enumeration ← enumerationOf name tag.constants
      return declared.declare enumeration []
    else context.callback declared name type
  | none => context.callback declared name type

def PassContext.function (context : PassContext) (declared : Declared) (name comment : String)
    (type : CType) : Except PassError Declared := do
  match type.shown with
  | .function result _ style =>
    let signature ←
      context.signature declared.symbols result (parametersAmong type.children)
    return declared.append (.function name signature comment (style = .variadic))
  | .spelled (.alias _) _ => .error .namedFunctionType
  | _ => .error .copiedFunctionType

/-! Declarations. -/

def PassContext.isInScope (context : PassContext) (declaration : Declaration) : Bool :=
  context.files.contains
    (String.ofList (normalizePath (context.source.fileName declaration.place).toList))

def PassContext.isBlacklisted (context : PassContext) (declaration : Declaration) : Bool :=
  context.blacklist.contains (declaration.spelling context.tags)

/-- A function with a body is left out, and one without a prototype is doubtful. -/
def Declaration.warning? (declaration : Declaration) : Option PassWarning :=
  match declaration.body with
  | .function _ true => some (.hasBody declaration.name)
  | .function type false =>
    match type.shown with
    | .function _ _ .unprototyped => some (.noPrototype declaration.name)
    | _ => none
  | _ => none

/-- What a declaration in scope adds. -/
def PassContext.bind (context : PassContext) (declared : Declared) (previous : Option Mark)
    (declaration : Declaration) : Except PassError Declared :=
  match declaration.body with
  | .tag id constants =>
    match context.tags[id]? with
    | some tag =>
      if tag.kind = .enumeration ∧ !tag.isAnonymous then do
        let enumeration ← enumerationOf tag.spelling constants
        return declared.declare enumeration []
      else .ok declared
    | none => .ok declared
  | .function _ true => .ok declared
  | .function type false =>
    let comment := context.source.harvest previous declaration.start
    context.function declared declaration.name comment type
  | .typeName type attributes => context.typeName declared declaration.name type attributes
  | .other => .ok declared

/-- One declaration in scope. The end moves and the warning is given even if the declaration cannot
be bound. -/
def PassContext.visit (context : PassContext) (state : PassState) (declaration : Declaration) :
    PassState × Option PassError :=
  let moved := { state with previousEnd := some declaration.stop }
  if context.isBlacklisted declaration then (moved, none)
  else
    let warned := { moved with
      warnings := state.warnings ++ declaration.warning?.toList.map (declaration.place, ·) }
    match context.bind state.declared state.previousEnd declaration with
    | .ok declared => ({ warned with declared }, none)
    | .error error => (warned, some error)

/-- A pass: the state behind each declaration that was bound or left out, the state at the end, and
what stopped the pass. -/
structure PassRun where
  steps : List PassState
  final : PassState
  error : Option PassError

def PassContext.run (context : PassContext) (state : PassState) : List Declaration → PassRun
  | [] => ⟨[], state, none⟩
  | declaration :: rest =>
    if context.isInScope declaration then
      match context.visit state declaration with
      | (next, none) =>
        let run := context.run next rest
        { run with steps := next :: run.steps }
      | (next, some error) => ⟨[], next, some error⟩
    else context.run state rest

/-! Wording. -/

def UnsupportedKind.text : UnsupportedKind → String
  | .record => "RECORD"
  | .incompleteArray => "INCOMPLETEARRAY"
  | .variableArray => "VARIABLEARRAY"
  | .functionPrototype => "FUNCTIONPROTO"
  | .functionWithoutPrototype => "FUNCTIONNOPROTO"
  | .complex => "COMPLEX"
  | .int128 => "INT128"
  | .unsigned128 => "UINT128"
  | .half => "HALF"
  | .float128 => "FLOAT128"
  | .atomic => "ATOMIC"
  | .vector => "VECTOR"
  | .extendedVector => "EXTVECTOR"
  | .block => "BLOCKPOINTER"
  | .nullPointer => "NULLPTR"
  | .unexposed => "UNEXPOSED"
  | .invalid => "INVALID"

def PassError.message : PassError → String
  | .unsupported kind => "No translation for values of type TypeKind." ++ kind.text
  | .unknownKind => "Unknown template argument kind 32"
  | .unspelledLiteral => "generator raised StopIteration"
  | .namedFunctionType => "parse_function_decl: TypeKind.ELABORATED"
  | .copiedFunctionType => "parse_function_decl: TypeKind.UNEXPOSED"
  | .oddPrefix kind => oddPrefixMessage kind

def PassWarning.message : PassWarning → String
  | .hasBody function => "`" ++ function ++ "` is a function definition and will be ignored."
  | .noPrototype function =>
    "`" ++ function ++ "` defines a function with no parameters, consider specifying `void`."

/-- The warnings of a pass as they are printed. -/
def PassState.warningLines (source : Source) (state : PassState) : List String :=
  state.warnings.map fun (place, warning) =>
    "h2ffi diagnostic: " ++ source.positionText place ++ ": Warning: " ++ warning.message

end HeaderBindings
