import HeaderBindings.C.Expression

/-!
What an initializer puts into an object. The values of a list go to the parts of the object in
their order, and a list may leave out the inner braces. A designator says where to go on.
-/

namespace HeaderBindings

inductive Designator where
  | field (name : String)
  | elements (first last : Int)

inductive Initializer where
  | value (expression : Expression)
  | list (items : List (List Designator × Initializer))

abbrev InitialItem := List Designator × Initializer

/-- What is known of the contents of an object, later values first, and what a list still holds. -/
structure FilledObject where
  contents : List (Nat × Option Scalar)
  rest : List InitialItem
  /-- How many elements of an array were reached. -/
  count : Nat

/-- The fields that a list of values goes to, with their places in bits. -/
def CType.initialFields (tags : TagTable) (type : CType) : List (CField × Nat) :=
  match type.canonical with
  | .tag id _ =>
    match tags[id]?.map Tag.body with
    | some (.record fields layout) =>
      (fields.zip layout.offsets).filter fun entry => entry.1.implicit || entry.1.name ≠ ""
    | _ => []
  | _ => []

/-- A part of an object: its type, its place in bytes, and whether it is a bit field. -/
structure Part where
  type : CType
  offset : Nat
  isBits : Bool

/-- The part of an object with some number; a union has the part that was asked for and no next
one. -/
def CType.part? (context : TypeContext) (type : CType) (asked : Bool) (index : Nat) :
    Option Part :=
  let repeated (element : CType) (count : Option Int) : Option Part :=
    if count.all fun count => (index : Int) < count then
      let size := (element.size? context.target context.tags).getD 0
      some ⟨element, index * size, false⟩
    else none
  match type.inside with
  | .array element (.fixed count) => repeated element (some count)
  | .array element _ => repeated element none
  | .vector _ element count => repeated element (some count)
  | _ =>
    if type.isUnion context.tags && !asked && index ≠ 0 then none
    else ((type.initialFields context.tags)[index]?).map fun (field, offset) =>
      ⟨field.type, offset / 8, field.bits.isSome⟩

/-- Where a designator leads: the number of a part, and whether the part holds the named field
further inside. -/
def CType.findPart? (tags : TagTable) (type : CType) : Designator → Option (Nat × Bool)
  | .elements first _ => some (first.toNat, false)
  | .field name =>
    let fields := type.initialFields tags
    match fields.findIdx? fun entry => !entry.1.implicit && entry.1.name = name with
    | some index => some (index, false)
    | none =>
      (fields.findIdx? fun entry =>
        entry.1.implicit && (entry.1.type.member? tags name).isSome).map (·, true)

/-- The characters of a string that starts an array of characters. -/
def Expression.stringContents? (context : TypeContext) (type : CType) (e : Expression) :
    Option (List (Nat × Option Scalar)) := do
  let storage ← (← e.place).storage
  match type.inside, e.type.inside with
  | .array element _, .array own _ =>
    let a ← element.arithmetic? context.tags
    let b ← own.arithmetic? context.tags
    if a.isInteger && a.width context.target = b.width context.target then storage.contents
    else failure
  | _, _ => failure

/-- The number of elements of an array that a string has. -/
def Expression.stringLength (e : Expression) : Nat :=
  match e.type.inside with
  | .array _ (.fixed count) => count.toNat
  | _ => 0

/-- Whether a type has parts that a list goes to one by one. -/
def CType.hasParts (tags : TagTable) (type : CType) : Bool :=
  type.isRecord tags || match type.inside with
    | .array _ _ | .vector _ _ _ => true
    | _ => false

def moveContents (offset : Nat) (contents : List (Nat × Option Scalar)) :
    List (Nat × Option Scalar) :=
  contents.map fun entry => (entry.1 + offset, entry.2)

/-- What a value leaves in a part that has no parts itself. -/
def scalarContents (context : TypeContext) (part : Part) (e : Expression) :
    List (Nat × Option Scalar) :=
  let scalar := match part.type.arithmetic? context.tags with
    | some arithmetic => if part.isBits then none else e.operand.scalar? context arithmetic
    | none => none
  [(part.offset, scalar)]

/-- The contents of an object that is copied. -/
def copiedContents (e : Expression) : List (Nat × Option Scalar) :=
  match e.place with
  | some ⟨some storage, offset⟩ =>
    (storage.contents.getD []).filterMap fun entry =>
      if offset.toNat ≤ entry.1 then some (entry.1 - offset.toNat, entry.2) else none
  | _ => []

mutual

/-- Fills the parts of an object from number `index` on. Where the braces around them were left out,
only the first value may have a designator. -/
def fillParts (context : TypeContext) (type : CType) (index : Nat) (inner first : Bool)
    (items : List InitialItem) (fuel : Nat) : FilledObject :=
  match fuel, items with
  | 0, _ | _, [] => ⟨[], [], index⟩
  | fuel + 1, (designators, initial) :: later =>
    if inner && !first && !designators.isEmpty then ⟨[], items, index⟩
    else
      let asked := !designators.isEmpty
      let (index, designators, last) := match designators with
        | [] => (index, [], index)
        | designator :: rest =>
          match type.findPart? context.tags designator with
          | some (found, deeper) =>
            let last := match designator with
              | .elements _ last => last.toNat
              | .field _ => found
            (found, if deeper then designator :: rest else rest, last)
          | none => (index, rest, index)
      match type.part? context asked index with
      | none => ⟨[], items, index⟩
      | some part =>
        let filled := fillPart context part ((designators, initial) :: later) fuel
        let copies := (List.range (min (last - index) 4096)).flatMap fun step =>
          match type.part? context asked (index + step + 1) with
          | some next => moveContents next.offset filled.contents
          | none => []
        let next := fillParts context type (last + 1) inner false filled.rest fuel
        ⟨next.contents ++ copies ++ moveContents part.offset filled.contents, next.rest,
          max (last + 1) next.count⟩

/-- Fills one part from the front of a list; the contents are counted from the part's start. -/
def fillPart (context : TypeContext) (part : Part) (items : List InitialItem) (fuel : Nat) :
    FilledObject :=
  match fuel, items with
  | 0, _ | _, [] => ⟨[], [], 0⟩
  | fuel + 1, (designators, initial) :: later =>
    if !designators.isEmpty then fillParts context part.type 0 true true items fuel
    else match initial with
      | .list inner =>
        let filled := fillBraces context part.type inner fuel
        ⟨filled.contents, later, filled.count⟩
      | .value e =>
        if !part.type.hasParts context.tags then
          ⟨scalarContents context { part with offset := 0 } e, later, 1⟩
        else match e.stringContents? context part.type with
          | some contents => ⟨contents, later, e.stringLength⟩
          | none =>
            if e.type.isRecord context.tags && part.type.isRecord context.tags
                && e.type.unqualified.isCompatible context.tags part.type.unqualified then
              ⟨copiedContents e, later, 1⟩
            else fillParts context part.type 0 true true items fuel

/-- Fills an object from a list with its braces. -/
def fillBraces (context : TypeContext) (type : CType) (items : List InitialItem) (fuel : Nat) :
    FilledObject :=
  match fuel with
  | 0 => ⟨[], [], 0⟩
  | fuel + 1 =>
    if !type.hasParts context.tags then fillPart context ⟨type, 0, false⟩ (items.take 1) fuel
    else match items with
      | [([], .value e)] =>
        match e.stringContents? context type with
        | some contents => ⟨contents, [], e.stringLength⟩
        | none => fillParts context type 0 false true items fuel
      | _ => fillParts context type 0 false true items fuel

end

mutual

/-- How many values an initializer has, inner ones included. -/
def Initializer.count : Initializer → Nat
  | .value _ => 1
  | .list items => countItems items + 1

def countItems : List InitialItem → Nat
  | [] => 0
  | (designators, initial) :: rest => designators.length + initial.count + countItems rest + 1

end

/-- What an initializer leaves in an object of a type, and how many elements it reaches. -/
def Initializer.fill (context : TypeContext) (type : CType) (initial : Initializer) : FilledObject :=
  let fuel := (typeDepth + 4) * (initial.count + 2)
  fillPart context ⟨type, 0, false⟩ [([], initial)] fuel

/-- An array type with the number of its elements, where that was left open. -/
def CType.completed (count : Nat) : CType → CType
  | .array element .unspecified => .array element (.fixed count)
  | .spelled spelling meaning =>
    match meaning.inside with
    | .array _ .unspecified =>
      match spelling with
      | .alias _ => meaning.completed count
      | _ => .spelled spelling (meaning.completed count)
    | _ => .spelled spelling meaning
  | other => other

end HeaderBindings
