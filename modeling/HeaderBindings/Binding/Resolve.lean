import HeaderBindings.C.Type
import HeaderBindings.Symbols

/-!
C types as foreign types. A type that goes by the name of a known artifact refers to it, whatever
it stands for. Any other type is judged by what it stands for; what a pointer leads to only shows
in the label.
-/

namespace HeaderBindings

/-- Kinds of C types that have no foreign type. -/
inductive UnsupportedKind where
  | record
  | incompleteArray
  | variableArray
  | functionPrototype
  | functionWithoutPrototype
  | complex
  | int128
  | unsigned128
  | half
  | float128
  | atomic
  | vector
  | extendedVector
  | block
  | nullPointer
  /-- A kind that cannot be told apart from others. -/
  | unexposed
  | invalid
  deriving DecidableEq, Repr

/-- Why a type has no foreign type. -/
inductive ResolveError where
  | unsupported (kind : UnsupportedKind)
  /-- A type whose kind cannot even be asked for. -/
  | unknownKind
  deriving DecidableEq, Repr

/-- A type with what documentation calls it. -/
structure Resolved where
  type : ForeignType
  label : String
  /-- Whether the label holds a name without its prefix. -/
  named : Bool

def BasicType.resolve (target : Target) (type : BasicType) : Except ResolveError Resolved :=
  let integer (name : String) (signed : Bool) : Except ResolveError Resolved :=
    .ok ⟨.integer name signed (type.width target), "Integer", false⟩
  let floating (name : String) : Except ResolveError Resolved :=
    .ok ⟨.floating name (type.width target), "Float", false⟩
  let unsupported (kind : UnsupportedKind) : Except ResolveError Resolved :=
    .error (.unsupported kind)
  match type with
  | .void => .ok ⟨.void, "nil", false⟩
  | .bool => .ok ⟨.integer "bool" false (type.width target), "Boolean", false⟩
  | .char => if target.charSigned then integer "char" true else integer "uchar" false
  | .signedChar => integer "char" true
  | .unsignedChar => integer "uchar" false
  | .short => integer "short" true
  | .unsignedShort => integer "ushort" false
  | .int => integer "int" true
  | .unsigned => integer "uint" false
  | .long => integer "long" true
  | .unsignedLong => integer "ulong" false
  | .longLong => integer "long_long" true
  | .unsignedLongLong => integer "ulong_long" false
  | .float => floating "float"
  | .double => floating "double"
  | .longDouble => floating "long_double"
  | .int128 => unsupported .int128
  | .unsigned128 => unsupported .unsigned128
  | .half => unsupported .half
  | .float128 => unsupported .float128
  | .bitInteger _ _ | .bfloat16 => unsupported .unexposed
  | .nullPointer => unsupported .nullPointer
  | .float16 => .error .unknownKind

/-- How many pointers and arrays a type has one inside the other. -/
def CType.depth : CType → Nat
  | .basic _ | .tag _ _ | .function _ _ _ => 0
  | .pointer target => target.depth + 1
  | .block target => target.depth + 1
  | .array element _ => element.depth + 1
  | .spelled _ meaning => meaning.depth
  | .complex inner => inner.depth
  | .atomic inner => inner.depth
  | .vector _ element _ => element.depth

theorem CType.depth_canonical : (type : CType) → type.canonical.depth = type.depth
  | .basic _ | .tag _ _ | .function _ _ _ => by simp [canonical, depth]
  | .pointer target => by simp [canonical, depth, depth_canonical target]
  | .block target => by simp [canonical, depth, depth_canonical target]
  | .array element _ => by simp [canonical, depth, depth_canonical element]
  | .spelled _ meaning => by simp [canonical, depth, depth_canonical meaning]
  | .complex inner => by simp [canonical, depth, depth_canonical inner]
  | .atomic inner => by simp [canonical, depth, depth_canonical inner]
  | .vector _ element _ => by simp [canonical, depth, depth_canonical element]

theorem CType.depth_peel (type : CType) : type.peel.depth = type.depth := by
  induction type using CType.peel.induct with
  | case1 meaning => simp [peel, depth, depth_canonical]
  | case2 meaning => simp [peel, depth, depth_canonical]
  | case3 spelling meaning h1 h2 ih => rw [peel.eq_3 _ _ h1 h2, ih, depth]
  | case4 other h1 h2 h3 => rw [peel.eq_4 _ h1 h2 h3]

theorem CType.depth_shown (type : CType) : type.shown.depth = type.depth := by
  induction type using CType.shown.induct with
  | case1 spelling meaning hidden ih => rw [shown, if_pos hidden, ih, depth]
  | case2 spelling meaning hidden => rw [shown, if_neg hidden]
  | case3 other h => rw [shown.eq_2 _ h]

/-- What a type refers to by name. -/
def SymbolTable.find? (symbols : SymbolTable) (name : String) : Option Artifact :=
  if name = "" then none else symbols.lookup name

/-- Whether an artifact is labelled by its name. -/
def Artifact.hasNamedLabel : Artifact → Bool
  | .callback _ _ => false
  | _ => true

def Resolved.ofArtifact (prefixes : List String) (artifact : Artifact) : Resolved :=
  ⟨.reference artifact, artifact.label prefixes, artifact.hasNamedLabel⟩

/-- The name of what a pointer leads to; a tag without a name has none. -/
def CType.targetName (tags : TagTable) (type : CType) : String :=
  match type.shown with
  | .tag id here =>
    if tags[id]?.any Tag.isAnonymous then "" else CType.declaredName tags (.tag id here)
  | other => other.declaredName tags

/-- A pointer that goes by `name`, with the type it leads to. -/
def resolvePointer (tags : TagTable) (symbols : SymbolTable) (prefixes : List String)
    (name : String) (target : CType) : Except ResolveError Resolved :=
  match target.canonical with
  | .basic .char => .ok ⟨.string, "String", false⟩
  | .basic .float16 => .error .unknownKind
  | _ =>
    let targetName := target.targetName tags
    match symbols.find? targetName with
    | some artifact =>
      .ok ⟨.pointer, "FFI::Pointer of " ++ artifact.label prefixes, artifact.hasNamedLabel⟩
    | none =>
      if targetName ≠ "" then .ok ⟨.pointer, "FFI::Pointer to " ++ targetName, false⟩
      else if name ≠ "" then
        .ok ⟨.pointer, "FFI::Pointer of " ++ typeIdentifier prefixes name, true⟩
      else .ok ⟨.pointer, "FFI::Pointer", false⟩

/-- A struct, union or enum that is known by its tag only. -/
def resolveTag (target : Target) (tags : TagTable) (symbols : SymbolTable)
    (prefixes : List String) (id : Nat) : Except ResolveError Resolved :=
  match tags[id]? with
  | none => .error (.unsupported .invalid)
  | some tag =>
    match symbols.find? tag.spelling with
    | some artifact => .ok (.ofArtifact prefixes artifact)
    | none =>
      match tag.kind, tag.body with
      | .enumeration, .enumeration _ type => type.resolve target
      | .enumeration, _ => .error (.unsupported .invalid)
      | _, _ => .error (.unsupported .record)

/-- The foreign type and the label of a C type. -/
def CType.resolve (target : Target) (tags : TagTable) (symbols : SymbolTable)
    (prefixes : List String) (type : CType) : Except ResolveError Resolved :=
  let unsupported (kind : UnsupportedKind) : Except ResolveError Resolved :=
    .error (.unsupported kind)
  let name := type.shown.declaredName tags
  match symbols.find? name with
  | some artifact => .ok (.ofArtifact prefixes artifact)
  | none =>
    match _h : type.shown.peel with
    | .basic arithmetic => arithmetic.resolve target
    | .pointer inner => resolvePointer tags symbols prefixes name inner
    | .block _ => unsupported .block
    | .array element (.fixed count) => do
      let element ← element.resolve target tags symbols prefixes
      return ⟨.array element.type count, "Array<" ++ element.label ++ ">", element.named⟩
    | .array _ .unspecified => unsupported .incompleteArray
    | .array _ (.foldable _) | .array _ .variable => unsupported .variableArray
    | .tag id _ => resolveTag target tags symbols prefixes id
    | .function _ _ .unprototyped => unsupported .functionWithoutPrototype
    | .function _ _ _ => unsupported .functionPrototype
    | .complex _ => unsupported .complex
    | .atomic _ => unsupported .atomic
    | .vector extended _ _ => unsupported (if extended then .extendedVector else .vector)
    | .spelled _ _ => unsupported .invalid
termination_by type.depth
decreasing_by
  have := type.shown.depth_peel
  rw [CType.depth_shown] at this
  simp only [_h, CType.depth] at this
  omega

end HeaderBindings
