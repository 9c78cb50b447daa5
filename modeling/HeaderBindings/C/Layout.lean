import HeaderBindings.C.Type

/-!
Sizes and alignments in bytes. A struct's fields follow each other, each at the next multiple of
its alignment, and bit fields share the units of their type. The members of a union all start at
nought.
-/

namespace HeaderBindings

/-- The largest atomic values that are rounded up to a power of two, in bytes. -/
def Target.atomicLimit (target : Target) : Nat :=
  match target.machine with
  | .i386 | .arm => 8
  | _ => 16

/-- The alignment that is asked for without a number, in bytes. -/
def Target.greatestAlignment (target : Target) : Nat :=
  if target.machine = .arm then 8 else 16

/-- The size and the alignment of a type; a type that is not complete has none. -/
def CType.layout (target : Target) (tags : TagTable) : CType → Option (Nat × Nat)
  | .basic type => some (type.size target / 8, type.alignment target / 8)
  | .pointer _ => some (target.wordWidth / 8, target.wordWidth / 8)
  | .block _ => some (target.wordWidth / 8, target.wordWidth / 8)
  | .array element bound => do
    let (size, alignment) ← element.layout target tags
    match bound with
    | .fixed count => return (roundUp (size * count.toNat) alignment, alignment)
    | .unspecified => return (0, alignment)
    | .foldable _ | .variable => none
  | .function _ _ _ => some (1, 4)
  | .tag id _ =>
    match tags[id]?.map Tag.body with
    | some (.record _ layout) => some (layout.size, layout.alignment)
    | some (.enumeration _ type) => some (type.size target / 8, type.alignment target / 8)
    | _ => none
  | .spelled (.aligned bytes) meaning =>
    (meaning.layout target tags).map fun found => (found.1, bytes)
  | .spelled _ meaning => meaning.layout target tags
  | .complex inner => (inner.layout target tags).map fun found => (2 * found.1, found.2)
  | .atomic inner =>
    (inner.layout target tags).map fun (size, alignment) =>
      if size = 0 then (1, alignment)
      else if size ≤ target.atomicLimit then (powerOfTwoFrom size, powerOfTwoFrom size)
      else (size, alignment)
  | .vector _ element count =>
    (element.layout target tags).map fun found =>
      let size := powerOfTwoFrom (found.1 * count)
      (size, size)

def CType.size? (target : Target) (tags : TagTable) (type : CType) : Option Nat :=
  (type.layout target tags).map (·.1)

def CType.alignment? (target : Target) (tags : TagTable) (type : CType) : Option Nat :=
  (type.layout target tags).map (·.2)

/-- The elements of arrays of arrays. -/
def CType.baseElement : CType → CType
  | .array element _ => element.baseElement
  | .spelled _ meaning => meaning.baseElement
  | other => other

/-- Whether the alignment of a type is that of a name for it. -/
def CType.alignedByName : CType → Bool
  | .spelled (.aligned _) _ => true
  | .spelled _ meaning => meaning.alignedByName
  | .array element _ => element.alignedByName
  | _ => false

/-- The alignment that a variable of a type gets. -/
def CType.preferredAlignment? (target : Target) (tags : TagTable) (type : CType) : Option Nat :=
  (type.alignment? target tags).map fun alignment =>
    if type.alignedByName then alignment
    else
      let base := match type.baseElement with
        | .complex inner => inner
        | other => other
      match base.arithmetic? tags with
      | some arithmetic => max alignment (arithmetic.preferredAlignment target / 8)
      | none => alignment

/-- What a record asks of its fields. -/
structure RecordRules where
  kind : TagKind
  packed : Bool
  /-- The largest alignment that fields have, in bytes. -/
  limit : Option Nat
  /-- The alignment that the record has at least. -/
  aligned : Option Nat

/-- How far a record is filled, in bits, its alignment in bytes, and where its fields are. -/
structure RecordExtent where
  bits : Nat
  alignment : Nat
  offsets : List Nat

def atMost (limit : Option Nat) (value : Nat) : Nat := (limit.map (min value)).getD value

/-- The alignment of a field in a record, in bytes. -/
def CField.alignmentIn (rules : RecordRules) (field : CField) (natural : Nat) : Nat :=
  let own := if rules.packed || field.packed then 1 else natural
  atMost rules.limit (max own (field.aligned.getD 1))

/-- The alignment of a bit field, in bytes. The limit does not touch one without a width. -/
def CField.bitAlignmentIn (rules : RecordRules) (field : CField) (width natural : Nat) : Nat :=
  let own := if (rules.packed || field.packed) && width ≠ 0 then 1 else natural
  let asked := max own (field.aligned.getD 1)
  if width = 0 then asked else atMost rules.limit asked

/-- Whether unnamed bit fields count for the alignment of their record. -/
def Target.alignsUnnamed (target : Target) : Bool :=
  target.machine = .aarch64 || target.machine = .arm

/-- Where a bit field of some width starts, behind so many bits. -/
def bitFieldStart (rules : RecordRules) (field : CField) (bits width unit alignment : Nat) : Nat :=
  let step := 8 * alignment
  if width = 0 then roundUp bits step
  else if rules.limit.isNone && unit < bits % step + width then roundUp bits step
  else match field.aligned with
    | some asked =>
      if rules.limit.all fun limit => asked ≤ limit then roundUp bits (8 * asked) else bits
    | none => bits

/-- Adds a field at the end of a struct, or over the fields of a union. -/
def RecordExtent.add (target : Target) (tags : TagTable) (rules : RecordRules)
    (extent : RecordExtent) (field : CField) : RecordExtent :=
  let (size, natural) := (field.type.layout target tags).getD (0, 1)
  let behind := if rules.kind = .union then 0 else extent.bits
  match field.bits with
  | none =>
    let alignment := field.alignmentIn rules natural
    let start := roundUp behind (8 * alignment)
    ⟨max extent.bits (start + 8 * size), max extent.alignment alignment, extent.offsets ++ [start]⟩
  | some width =>
    let alignment := field.bitAlignmentIn rules width natural
    let start := bitFieldStart rules field behind width (8 * size) alignment
    let counted := if field.name = "" && !target.alignsUnnamed then 1 else alignment
    ⟨max extent.bits (start + width), max extent.alignment counted, extent.offsets ++ [start]⟩

/-- Places the fields of a record in their order. -/
def recordLayout (target : Target) (tags : TagTable) (rules : RecordRules)
    (fields : List CField) : RecordLayout :=
  let start : RecordExtent := ⟨0, rules.aligned.getD 1, []⟩
  let extent := fields.foldl (RecordExtent.add target tags rules) start
  ⟨roundUp ((extent.bits + 7) / 8) extent.alignment, extent.alignment, extent.offsets⟩

/-- A member of a record: what it is, where it is in bits, and how wide it is when it is a bit
field. -/
structure Member where
  field : CField
  offset : Nat

/-- A member by its name, looked for in the unnamed members too. -/
def findMember? (tags : TagTable) (name : String) (fuel : Nat) (type : CType) : Option Member :=
  match fuel with
  | 0 => none
  | fuel + 1 =>
    match type.canonical with
    | .tag id _ =>
      match tags[id]?.map Tag.body with
      | some (.record fields layout) =>
        (fields.zip layout.offsets).findSome? fun (field, offset) =>
          if field.implicit then
            (findMember? tags name fuel field.type).map fun found =>
              { found with offset := found.offset + offset }
          else if field.name = name then some ⟨field, offset⟩
          else none
      | _ => none
    | .atomic inner => findMember? tags name fuel inner
    | _ => none

def CType.member? (tags : TagTable) (name : String) (type : CType) : Option Member :=
  findMember? tags name (2 * tags.length + 2) type

/-- The types that an enum can have, the preferred one first. -/
def enumerationTypes (negative short : Bool) : List BasicType :=
  (if short then (if negative then [.signedChar, .short] else [.unsignedChar, .unsignedShort])
    else [])
    ++ if negative then [.int, .long, .longLong]
      else [.unsigned, .unsignedLong, .unsignedLongLong]

/-- The integer type of an enum: the first that holds all values of its constants. -/
def enumerationType (target : Target) (packed : Bool) (values : List Int) : BasicType :=
  let negative := values.any (· < 0)
  let types := enumerationTypes negative (target.shortEnums || packed)
  (types.find? fun type => values.all fun value => type.holds target value).getD
    (if negative then .longLong else .unsignedLongLong)

end HeaderBindings
