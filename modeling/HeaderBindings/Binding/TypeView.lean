import HeaderBindings.Binding.Resolve

/-!
Types with their spellings taken off one by one. Whoever asks for a type of some kind turns the type
until it is of that kind: a tag or type name as it is written becomes the bare name, a bare type name
the type that it was given, and every other type what it stands for. The types inside stay as they are
written for as long as names are all that there is around them.
-/

namespace HeaderBindings

/-- The kind that a type shows as. -/
inductive TypeKind where
  | arithmetic (type : BasicType)
  | pointer
  | constantArray
  | enumeration
  /-- A tag or a type name as it stands in the source. -/
  | elaborated
  | typeName
  /-- A kind of type that has no foreign type. -/
  | unsupported (kind : UnsupportedKind)
  deriving DecidableEq, Repr

/-- The kind of an arithmetic type, if it can be asked for. -/
def BasicType.kind? : BasicType → Option TypeKind
  | .int128 => some (.unsupported .int128)
  | .unsigned128 => some (.unsupported .unsigned128)
  | .half => some (.unsupported .half)
  | .float128 => some (.unsupported .float128)
  | .bitInteger _ _ | .bfloat16 => some (.unsupported .unexposed)
  | .nullPointer => some (.unsupported .nullPointer)
  | .float16 => none
  | type => some (.arithmetic type)

/-- The kind of a type without spellings around it; a spelling that is no name is not exposed. -/
def CType.kind? (tags : TagTable) : CType → Option TypeKind
  | .basic type => type.kind?
  | .pointer _ => some .pointer
  | .block _ => some (.unsupported .block)
  | .array _ (.fixed _) => some .constantArray
  | .array _ .unspecified => some (.unsupported .incompleteArray)
  | .array _ (.foldable _) | .array _ .variable => some (.unsupported .variableArray)
  | .function _ _ .unprototyped => some (.unsupported .functionWithoutPrototype)
  | .function _ _ _ => some (.unsupported .functionPrototype)
  | .tag id _ =>
    if tags[id]?.any fun tag => tag.kind = .enumeration then some .enumeration
    else some (.unsupported .record)
  | .complex _ => some (.unsupported .complex)
  | .atomic _ => some (.unsupported .atomic)
  | .vector extended _ _ => some (.unsupported (if extended then .extendedVector else .vector))
  | .spelled _ _ => some (.unsupported .unexposed)

/-- A type on the way to what it stands for. -/
inductive TypeView where
  /-- A type as it stands in the source. -/
  | written (type : CType)
  /-- A type name by itself, with the type that it was given. -/
  | named (name : String) (meaning : CType)
  /-- What a type stands for. -/
  | meant (type : CType)

namespace TypeView

/-- The type that is seen. -/
def type : TypeView → CType
  | written type => type.shown
  | named name meaning => .spelled (.alias name) meaning
  | meant type => type.canonical

def kind? (tags : TagTable) : TypeView → Option TypeKind
  | written type =>
    match type.shown with
    | .spelled (.alias _) _ | .tag _ _ => some .elaborated
    | shown => shown.kind? tags
  | named _ _ => some .typeName
  | meant type => type.canonical.kind? tags

/-- One spelling less. A tag stands for itself, and so does a type that has no spelling left. -/
def turn : TypeView → TypeView
  | written type =>
    match type.shown with
    | .spelled (.alias name) meaning => named name meaning
    | shown => meant shown
  | named _ meaning => written meaning
  | meant type => meant type

/-- One round of the search for a type of a kind: it ends the search, with an error if the kind of the
type cannot be asked for, or gives the type to go on with. -/
def round (tags : TagTable) (kind : TypeKind) (view : TypeView) :
    Except ResolveError TypeView ⊕ TypeView :=
  match view.kind? tags with
  | none => .inl (.error .unknownKind)
  | some own => if own = kind then .inl (.ok view) else .inr view.turn

end TypeView

end HeaderBindings
