import HeaderBindings.C.BuiltinFunction
import HeaderBindings.C.Reader

/-!
The grammar of C declarations: type specifiers, tags with their bodies, declarators, lists of
parameters, initializers and expressions. Every part takes its tokens from the front of what lies
ahead; the fuel bounds how deeply the parts are nested.
-/

namespace HeaderBindings

/-- What stands in front of the declarators of a declaration. -/
structure Specifiers where
  words : List String
  /-- The width behind a word for integers of any width. -/
  bits : Option Nat
  /-- A type that is no group of arithmetic words. -/
  named : Option CType
  qualifiers : Qualifiers
  attributed : Bool
  isAtomic : Bool
  isTypedef : Bool
  /-- Whether the type comes from the initializer. -/
  inferred : Bool
  /-- Whether a name that is no type was taken for one. -/
  broken : Bool
  attributes : List Attribute

def Specifiers.start : Specifiers :=
  ⟨[], none, none, .none, false, false, false, false, false, []⟩

def Specifiers.hasType (found : Specifiers) : Bool :=
  found.named.isSome || !found.words.isEmpty || found.bits.isSome || found.inferred || found.broken

/-- The type in front of the declarators. -/
def Specifiers.type (found : Specifiers) : CType :=
  let core := if found.broken then .basic .int
    else found.named.getD (typeOfWords found.bits found.words)
  let core := if found.attributed then .spelled .attributed core else core
  let core := if found.isAtomic then .atomic core else core
  core.qualify found.qualifiers

/-- The marks behind the star of a pointer. -/
structure PointerMarks where
  qualifiers : Qualifiers
  isAtomic : Bool
  attributed : Bool

/-- A pointer type with marks. -/
def PointerMarks.mark (marks : PointerMarks) (pointer : CType) : CType :=
  let core := if marks.attributed then .spelled .attributed pointer else pointer
  let core := if marks.isAtomic then .atomic core else core
  core.qualify marks.qualifiers

/-- A declarator: its name, what it makes of the type in front of it, and the list of parameters
next to the name. -/
structure Declarator where
  name : Option Token
  shape : CType → CType
  /-- Whether nothing but parentheses was added so far. -/
  plain : Bool
  list : Option Nat
  /-- The attributes behind the name. -/
  attributes : List Attribute
  /-- The last token that is no attribute. -/
  stop : Option Token

def Declarator.abstract : Declarator := ⟨none, id, true, none, [], none⟩

/-- What stands behind a name: what it makes of a type, the first list of parameters, attributes
and the last token. -/
structure DeclaratorSuffix where
  shape : CType → CType
  plain : Bool
  list : Option Nat
  attributes : List Attribute
  stop : Option Token

/-- The wrapped-up meaning of a group of pointers, suffixes and parentheses. -/
def Declarator.wrap (declarator : Declarator) (change : CType → CType) (plain : Bool)
    (list : Option Nat) : Declarator :=
  { declarator with
    shape := declarator.shape ∘ change
    plain := declarator.plain && plain
    list := if declarator.plain then list else declarator.list }

/-- The token of an initializer that is a literal and nothing else. -/
def bareLiteral? (target : Target) (ahead : List Token) : Option (Token × Quantity) :=
  match ahead with
  | token :: follower :: _ =>
    if token.kind = .number && (follower.isSign "," || follower.isSign "\x7d") then
      (readInteger? token.text).map fun literal => (token, literal.quantity target)
    else none
  | _ => none

/-- The text of a literal, read where it is spelled up to where it ends. -/
def Token.literalText (token : Token) : ConstantText :=
  match token.spelled, token.stopMark.spelled with
  | some spelled, some stop =>
    if spelled.start.inclusion = stop.inclusion then .literal token.written else .unspelled
  | _, _ => .unspelled

/-- An enum constant before the type of the enum is known. -/
structure OpenConstant where
  name : String
  value : Quantity
  initialized : Bool
  /-- Its literal with the type of that, when it has nothing else. -/
  literal : Option (ConstantText × BasicType)

/-- A constant's type in the end is `int` where that holds its value, unless the enum says its type
itself. A literal is kept when it has that type from the start. -/
def OpenConstant.settle (target : Target) (fixed : Bool) (type : BasicType)
    (constant : OpenConstant) : Enumerator × Quantity :=
  let final := if !fixed && BasicType.int.holds target constant.value.value then .int else type
  let text := match constant.literal with
    | some (text, literalType) => if literalType = final then text else .expression
    | none => if constant.initialized then .expression else .none
  (⟨constant.name, constant.value.value, text⟩, ⟨constant.value.value, final⟩)

/-- The first wider type of the same sign. -/
def BasicType.wider? (target : Target) (type : BasicType) : Option BasicType :=
  let types : List BasicType :=
    if type.isSigned target then [.short, .int, .long, .longLong]
    else [.unsignedShort, .unsigned, .unsignedLong, .unsignedLongLong]
  types.find? fun wider => type.width target < wider.width target

/-- The value behind another one in an enum: one more, in a wider type if need be. -/
def Quantity.successor (target : Target) (fixed : Bool) (quantity : Quantity) : Quantity :=
  let value := quantity.value + 1
  if quantity.type.holds target value then ⟨value, quantity.type⟩
  else
    let type := (if fixed then none else quantity.type.wider? target).getD quantity.type
    ⟨type.wrapValue target value, type⟩

/-- The value of a constant as the source gives it: an `int` where that holds it. -/
def settleValue (target : Target) (fixed : Option BasicType) (quantity : Quantity) : Quantity :=
  match fixed with
  | some type => ⟨type.wrapValue target quantity.value, type⟩
  | none =>
    if BasicType.int.holds target quantity.value then ⟨quantity.value, .int⟩ else quantity

/-- A name that can be followed by so little is that of a declarator and not of a type. -/
def Token.canFollowName (token : Token) : Bool :=
  ["[", "(", ")", ";", ",", "=", "\x7b", ":"].any token.isSign
    || ["asm", "__asm", "__asm__"].contains token.text

/-- The contents of an object that never changes. -/
def constantContents (type : CType) (filled : FilledObject) : Option (List (Nat × Option Scalar)) :=
  if type.qualifiers.isConst && !type.qualifiers.isVolatile then some filled.contents else none

namespace Expression

/-- The expression of a number. -/
def ofNumber (target : Target) (text : String) : Expression :=
  match readInteger? text with
  | some literal => .ofQuantity (literal.quantity target)
  | none =>
    match readFloating? text with
    | some literal =>
      if literal.imaginary then .unknown (.complex (.basic literal.type))
      else
        { unknown (.basic literal.type) with
          value := some (.floating (literal.value (literal.type.format target)))
          mark := .floatingLiteral }
    | none =>
      match (splitLiteral text.toList).2.2 with
      | suffix =>
        match LiteralSuffix.none.read? suffix with
        | some found =>
          let literal : IntegerLiteral := ⟨0, true, found⟩
          .unknown (.complex (.basic (literal.type target)))
        | none => .unknown (.basic .int)

/-- The expression of neighbouring string literals: an array with a nought at its end. -/
def ofStrings (target : Target) (texts : List String) : Expression :=
  let (type, elements) := readStrings target texts
  let step := type.width target / 8
  let contents := (List.range elements.length).zip elements |>.map fun (index, element) =>
    (index * step, some (Scalar.integer (type.wrapValue target element)))
  let storage : Storage := ⟨String.join ("\"" :: texts), some contents⟩
  { unknown (.array (.basic type) (.fixed (elements.length + 1))) with
    place := some ⟨some storage, 0⟩ }

/-- A name as an expression. -/
def ofName (context : TypeContext) (name : String) : NameMeaning → Expression
  | .constant quantity => .ofQuantity quantity
  | .typeName _ => .unknown (.basic .int)
  | .value object =>
    { ofPlace context object.type (some ⟨some ⟨name, object.contents⟩, 0⟩) with
      alignment := object.aligned }

/-- An object that is made by a list behind a type. -/
def ofLiteralObject (context : TypeContext) (type : CType) (initial : Initializer) : Expression :=
  let filled := initial.fill context type
  ofPlace context (type.completed filled.count) (some ⟨some ⟨"(", some filled.contents⟩, 0⟩)

/-- A part of a complex number, or of a real one. -/
def part (context : TypeContext) (imaginary : Bool) (inner : Expression) : Expression :=
  match inner.type.inside with
  | .complex element => unknown element
  | _ =>
    let inner := inner.operand
    if imaginary then
      let zero := ofInteger .int 0
      { inner with value := valueAs context inner.type zero }
    else inner

/-- The call of a function that was declared, although it is known by itself. -/
def ofDeclared (call : Expression) : NameMeaning → Expression
  | .value object => { call with type := object.type.callResult.unqualified }
  | _ => call

end Expression

namespace Reader

/-- The declaration of a tag between two tokens. -/
def declareTag (id : Nat) (constants : List Enumerator) (start name stop : Token) :
    Reader Unit :=
  declare
    { name := "", place := name.used.start, start := start.startMark, stop := stop.stopMark
      body := .tag id constants }

/-- Gives the constants of an enum their final types. -/
def settleConstants (fixed : Option BasicType) (constants : List OpenConstant) (packed : Bool) :
    Reader (List Enumerator × BasicType) := do
  let target := (← get).target
  let type := fixed.getD (enumerationType target packed (constants.map (·.value.value)))
  let settled := constants.map (OpenConstant.settle target fixed.isSome type)
  for (enumerator, quantity) in settled do
    bindName enumerator.name (.constant quantity)
  return (settled.map (·.1), type)

/-- The texts of the string literals that are next. -/
def stringTexts : Reader (List String) := do
  let state ← get
  let texts := state.ahead.takeWhile fun token => token.kind = .string
  set { state with
    ahead := state.ahead.drop texts.length, last := texts.getLast?.or state.last }
  return texts.map (·.text)

/-- The number that stands for the type of an enum, once that is written. -/
def baseOfType (type : CType) : Reader BasicType := do
  return (type.arithmetic? (← get).tags).getD .int

mutual

def typeSpecifiers (found : Specifiers) (fuel : Nat) : Reader Specifiers :=
  match fuel with
  | 0 => failure
  | fuel + 1 => do
    match (← get).ahead with
    | [] => return found
    | token :: rest =>
      if !token.isName then
        if ← atBrackets then
          let _ ← attributesInBrackets
          typeSpecifiers found fuel
        else return found
      else match ← wordOf token with
        | some .storage =>
          let _ ← next
          let modern := 2023 ≤ (← get).language.edition
          let isType (word : Word) : Bool := match word with
            | .arithmetic | .bitInteger | .tag _ | .typeof _ | .atomic | .inferred => true
            | _ => false
          let inferred := modern && token.text = "auto" && !found.hasType && !(← atWord isType)
          typeSpecifiers { found with inferred := found.inferred || inferred } fuel
        | some .typedef =>
          let _ ← next
          typeSpecifiers { found with isTypedef := true } fuel
        | some (.qualifier qualifiers) =>
          let _ ← next
          typeSpecifiers { found with qualifiers := found.qualifiers.union qualifiers } fuel
        | some .typeAttribute =>
          let _ ← next
          typeSpecifiers { found with attributed := true } fuel
        | some .arithmetic =>
          let _ ← next
          typeSpecifiers { found with words := token.text :: found.words } fuel
        | some .bitInteger =>
          let _ ← next
          expect "("
          let width ← conditional fuel
          expect ")"
          typeSpecifiers { found with bits := some ((width.integer?.map Int.toNat).getD 32) } fuel
        | some .inferred =>
          let _ ← next
          typeSpecifiers { found with inferred := true } fuel
        | some .attribute =>
          let more ← attributes
          typeSpecifiers { found with attributes := found.attributes ++ more } fuel
        | some .alignas =>
          let _ ← next
          let inner ← balanced
          typeSpecifiers
            { found with attributes := found.attributes ++ [⟨"aligned", inner⟩] } fuel
        | some (.tag kind) =>
          let specified ← tagSpecifier kind fuel
          typeSpecifiers { found with named := some specified } fuel
        | some (.typeof unqualified) =>
          let _ ← next
          let specified ← typeofSpecifier unqualified fuel
          typeSpecifiers { found with named := some specified } fuel
        | some .atomic =>
          let _ ← next
          if ← accept "(" then
            let inner ← typeName fuel
            expect ")"
            typeSpecifiers { found with named := some (.atomic inner) } fuel
          else typeSpecifiers { found with isAtomic := true } fuel
        | some _ => return found
        | none =>
          if found.hasType then return found
          else match ← lookupName token.text with
            | some (.typeName target) =>
              let _ ← next
              typeSpecifiers { found with named := some (.spelled (.alias token.text) target) } fuel
            | _ =>
              let modern := 2023 ≤ (← get).language.edition
              if !modern && rest.head?.any Token.canFollowName then return found
              else
                let _ ← next
                typeSpecifiers { found with broken := true } fuel

/-- The type of another type or of an expression. -/
def typeofSpecifier (unqualified : Bool) (fuel : Nat) : Reader CType :=
  match fuel with
  | 0 => failure
  | fuel + 1 => do
    let bracketed ← do
      if ← atSign "(" then secondStartsType else pure false
    let plain (type : CType) : CType :=
      if !unqualified then type
      else match type.unqualified.inside with
        | .atomic inner => inner.unqualified
        | _ => type.unqualified
    if bracketed then do
      let _ ← next
      let inner ← typeName fuel
      expect ")"
      return .spelled .typeofType (plain inner)
    else do
      let inner ← castOperand fuel
      return .spelled .typeofValue (plain inner.type)

/-- A struct, union or enum, with its body or only mentioned. -/
def tagSpecifier (kind : TagKind) (fuel : Nat) : Reader CType :=
  match fuel with
  | 0 => failure
  | fuel + 1 => do
    let keyword ← next
    let before ← attributes
    let name ← if (← atSign "\x7b") || (← atSign ":") then pure none else do
      let token ← next
      if token.isName then pure (some token) else failure
    let after ← attributes
    let hasBase ← do
      if kind = .enumeration && (← atSign ":") then secondStartsType else pure false
    let fixed ← if hasBase then do
        let _ ← next
        let base ← typeSpecifiers .start fuel
        let type ← baseOfType base.type
        pure (some (type, ← last))
      else pure none
    if ← atSign "\x7b" then
      let id ← match name with
        | none => newTag kind none
        | some token => do
          match ← lookupTagHere token.text with
          | some id => pure id
          | none => newTag kind (some token.text)
      let brace ← next
      enterBody
      let constants ← if kind = .enumeration then do
          let earlier := match (← getTag? id).map Tag.body with
            | some (.enumeration _ type) => some type
            | _ => none
          let fixed := (fixed.map (·.1)).or earlier
          let constants ← enumerators fixed [] fuel
          let close ← last
          let behind ← attributes
          let packed := (before ++ after ++ behind).any Attribute.isPacked
          let (constants, type) ← settleConstants fixed constants packed
          changeTag id fun tag => { tag with body := .enumeration constants type }
          pure (constants, close)
        else do
          let fields ← members [] fuel
          let close ← last
          let behind ← attributes
          let all := before ++ after ++ behind
          let aligned ← alignmentOf all fuel
          let state ← get
          let rules : RecordRules := ⟨kind, all.any Attribute.isPacked, brace.packing, aligned⟩
          let layout := recordLayout state.target state.tags rules fields
          changeTag id fun tag => { tag with body := .record fields layout }
          pure ([], close)
      leaveBody
      declareTag id constants.1 keyword (name.getD keyword) constants.2
      return .tag id true
    else match name with
      | none => failure
      | some token =>
        let introduce (stop : Token) : Reader Nat := do
          let id ← newTag kind (some token.text)
          if let some (type, _) := fixed then
            changeTag id fun tag => { tag with body := .enumeration [] type }
          declareTag id [] keyword token stop
          return id
        let stop := match fixed with
          | some (_, stop) => stop
          | none => token
        if ← atSign ";" then
          match ← lookupTagHere token.text with
          | some id =>
            declareTag id [] keyword token stop
            return .tag id false
          | none => return .tag (← introduce stop) false
        else match ← lookupTag token.text with
          | some id => return .tag id false
          | none => return .tag (← introduce stop) false

/-- The alignment that attributes ask for, in bytes. -/
def alignmentOf (found : List Attribute) (fuel : Nat) : Reader (Option Nat) :=
  match fuel with
  | 0 => failure
  | fuel + 1 => do
    match found with
    | [] => return none
    | first :: rest =>
      let later ← alignmentOf rest fuel
      if first.name ≠ "aligned" then return later
      else
        let state ← get
        let asked ← if first.arguments.isEmpty then pure (some state.target.greatestAlignment)
          else do
            let measured ← inside first.arguments do
              if ← atType then do
                let type ← typeName fuel
                let state ← get
                pure (type.alignment? state.target state.tags)
              else do
                let number ← expression fuel
                pure (number.integer?.map Int.toNat)
            pure (measured.getD none)
        match asked with
        | some asked => return some (max asked (later.getD 1))
        | none => return later

/-- The type that attributes make of a type. -/
def attributedType (found : List Attribute) (type : CType) (fuel : Nat) : Reader CType :=
  match fuel with
  | 0 => failure
  | fuel + 1 => do
    match found with
    | [] => return type
    | first :: rest =>
      let state ← get
      let number : Reader Nat := do
        let measured ← inside first.arguments (expression fuel)
        return ((measured.bind Expression.integer?).map Int.toNat).getD 0
      let changed ← match first.name with
        | "vector_size" => do
          let total ← number
          let one := (type.size? state.target state.tags).getD 1
          pure (CType.vector false type (total / max 1 one))
        | "ext_vector_type" => do pure (CType.vector true type (← number))
        | "mode" =>
          let mode := ((first.arguments.head?).map fun token => bareName token.text).getD ""
          pure (type.withMode state.target state.tags mode)
        | name =>
          if callingAttributes.contains name then pure type.withCallingAttribute else pure type
      attributedType rest changed fuel

/-- The constants of an enum up to its closing brace, which is taken. -/
def enumerators (fixed : Option BasicType) (found : List OpenConstant) (fuel : Nat) :
    Reader (List OpenConstant) :=
  match fuel with
  | 0 => failure
  | fuel + 1 => do
    if ← accept "\x7d" then return found.reverse
    let name ← next
    if !name.isName then failure
    let marked ← attributes
    let target := (← get).target
    let constant ← if ← accept "=" then do
        let literal := bareLiteral? target (← get).ahead
        let initial ← conditional fuel
        let type := (initial.type.arithmetic? (← get).tags).getD .int
        let quantity : Quantity := ⟨(initial.operand.integer?).getD 0, type⟩
        let literal := if marked.any Attribute.staysWithConstant then none
          else literal.map fun (token, quantity) => (token.literalText, quantity.type)
        pure (OpenConstant.mk name.text (settleValue target fixed quantity) true literal)
      else
        let value := match found with
          | [] => ⟨0, fixed.getD .int⟩
          | previous :: _ => previous.value.successor target fixed.isSome
        pure (OpenConstant.mk name.text value false none)
    bindName name.text (.constant constant.value)
    if !(← accept ",") then
      if !(← atSign "\x7d") then failure
    enumerators fixed (constant :: found) fuel

/-- The members of a struct or union up to its closing brace, which is taken. -/
def members (found : List CField) (fuel : Nat) : Reader (List CField) :=
  match fuel with
  | 0 => failure
  | fuel + 1 => do
    if ← accept "\x7d" then return found
    else if (← accept ";") || (← acceptWord (· = .extension)) then members found fuel
    else if ← acceptWord (· = .assertion) then
      let _ ← balanced
      members found fuel
    else
      let early ← attributes
      let specifiers ← typeSpecifiers .start fuel
      let specifiers := { specifiers with attributes := early ++ specifiers.attributes }
      if ← accept ";" then
        let unnamed ← match specifiers.named with
          | some (.tag id true) => do
            let tag ← getTag? id
            pure (tag.any fun tag => tag.name.isNone && tag.kind ≠ .enumeration)
          | _ => pure false
        let implicit : List CField ← if unnamed then do
            let aligned ← alignmentOf specifiers.attributes fuel
            let packed := specifiers.attributes.any Attribute.isPacked
            pure [⟨"", specifiers.type, none, true, aligned, packed⟩]
          else pure []
        members (found ++ implicit) fuel
      else
        let fields ← memberDeclarators specifiers [] fuel
        members (found ++ fields) fuel

/-- The declarators of one line of members, with the semicolon at its end. -/
def memberDeclarators (specifiers : Specifiers) (found : List CField) (fuel : Nat) :
    Reader (List CField) :=
  match fuel with
  | 0 => failure
  | fuel + 1 => do
    let early ← attributes
    let declarator ← if ← atSign ":" then pure .abstract else declarator true fuel
    let bits ← if ← accept ":" then do
        let width ← conditional fuel
        pure (some ((width.operand.integer?.map Int.toNat).getD 0))
      else pure none
    let late ← attributes
    let all := specifiers.attributes ++ early ++ declarator.attributes ++ late
    let aligned ← alignmentOf all fuel
    let type ← attributedType all (declarator.shape specifiers.type) fuel
    let name := (declarator.name.map (·.text)).getD ""
    let field : CField :=
      ⟨name, type.folded, bits, false, aligned, all.any Attribute.isPacked⟩
    if ← accept "," then memberDeclarators specifiers (found ++ [field]) fuel
    else
      expect ";"
      return found ++ [field]

/-- Pointers, then a name or an inner declarator, then arrays and lists of parameters. Where there
has to be a name, parentheses in front of it always group. -/
def declarator (named : Bool) (fuel : Nat) : Reader Declarator :=
  match fuel with
  | 0 => failure
  | fuel + 1 => do
    let _ ← attributes
    if ← accept "*" then
      let marks ← pointerMarks ⟨.none, false, false⟩ fuel
      let inner ← declarator named fuel
      return inner.wrap (fun type => marks.mark (.pointer type)) false none
    else if ← accept "^" then
      let marks ← pointerMarks ⟨.none, false, false⟩ fuel
      let inner ← declarator named fuel
      return inner.wrap (fun type => marks.mark (.block type)) false none
    else if ← acceptWord (· = .typeAttribute) then declarator named fuel
    else
      let nested ← do
        if ← atSign "(" then
          match ← peekSecond with
          | some token => do
            let isAttribute := (← wordOf token) = some .attribute
            let isOther := token.isSign ")" || token.isSign "..." || token.isSign "["
            pure (named || isAttribute || !(isOther || (← startsType token)))
          | none => pure false
        else pure false
      let core ← if nested then do
          let _ ← next
          let inner ← declarator named fuel
          expect ")"
          pure { inner.wrap (.spelled .paren) true none with stop := some (← last) }
        else do
          match (← get).ahead with
          | token :: _ =>
            if token.isName && (← wordOf token).isNone then do
              let name ← next
              let behind ← attributesInBrackets
              pure (Declarator.mk (some name) id true none behind (some name))
            else pure .abstract
          | [] => pure .abstract
      let suffix ← suffixes fuel
      let core := { core with attributes := core.attributes ++ suffix.attributes }
      if suffix.plain then return core
      else return { core.wrap suffix.shape false suffix.list with stop := suffix.stop }

def pointerMarks (found : PointerMarks) (fuel : Nat) : Reader PointerMarks :=
  match fuel with
  | 0 => failure
  | fuel + 1 => do
    match ← peekWord with
    | some (.qualifier qualifiers) =>
      let _ ← next
      pointerMarks { found with qualifiers := found.qualifiers.union qualifiers } fuel
    | some .atomic =>
      let _ ← next
      pointerMarks { found with isAtomic := true } fuel
    | some .typeAttribute =>
      let word ← next
      let isNullability := word.text.toList.drop 1 |>.head?.any Char.isUpper
      pointerMarks { found with attributed := found.attributed || isNullability } fuel
    | some .attribute =>
      let _ ← attributes
      pointerMarks found fuel
    | _ =>
      if ← atBrackets then
        let _ ← attributesInBrackets
        pointerMarks found fuel
      else return found

/-- What the arrays and lists of parameters behind a name make of a type. -/
def suffixes (fuel : Nat) : Reader DeclaratorSuffix :=
  match fuel with
  | 0 => failure
  | fuel + 1 => do
    let joined (change : CType → CType) (list : Option Nat) : Reader DeclaratorSuffix := do
      let stop ← last
      let behind ← attributesInBrackets
      let rest ← suffixes fuel
      return ⟨change ∘ rest.shape, false, list, behind ++ rest.attributes,
        rest.stop.or (some stop)⟩
    if ← accept "[" then
      let bound ← arrayBound fuel
      joined (fun type => .array type bound) none
    else if ← accept "(" then
      let list ← openScope
      let (parameters, style) ← parameters fuel
      closeScope
      joined (fun type => .function type parameters style) (some list)
    else return ⟨id, true, none, [], none⟩

/-- The inside of the brackets of an array, with the closing one. -/
def arrayBound (fuel : Nat) : Reader ArrayBound :=
  match fuel with
  | 0 => failure
  | fuel + 1 => do
    let isMark (word : Word) : Bool := match word with
      | .qualifier _ | .typeAttribute | .storage | .atomic => true
      | _ => false
    if ← acceptWord isMark then arrayBound fuel
    else if ← accept "]" then return .unspecified
    else
      let star ← do
        if ← atSign "*" then
          match ← peekSecond with
          | some token => pure (token.isSign "]")
          | none => pure false
        else pure false
      if star then
        let _ ← next
        expect "]"
        return .variable
      else
        let count ← assignment fuel
        expect "]"
        return count.bound (← context)

/-- A list of parameters, or only of their names, up to the closing parenthesis, which is taken. -/
def parameters (fuel : Nat) : Reader (List CParameter × ParameterStyle) :=
  match fuel with
  | 0 => failure
  | fuel + 1 => do
    let modern := 2023 ≤ (← get).language.edition
    let namesOnly ← match (← get).ahead with
      | first :: second :: _ => do
        let isType ← startsType first
        pure (!modern && first.isName && !isType && (second.isSign "," || second.isSign ")"))
      | _ => pure false
    if namesOnly then
      skipBefore [")"]
      expect ")"
      return ([], .unprototyped)
    else if ← accept ")" then return ([], if modern then .fixed else .unprototyped)
    else parameterList [] fuel

def parameterList (found : List CParameter) (fuel : Nat) :
    Reader (List CParameter × ParameterStyle) :=
  match fuel with
  | 0 => failure
  | fuel + 1 => do
    if ← accept "..." then
      expect ")"
      return (found, .variadic)
    else
      let _ ← attributes
      let specifiers ← typeSpecifiers .start fuel
      let declarator ← declarator false fuel
      let late ← attributes
      let type ← attributedType (specifiers.attributes ++ late)
        (declarator.shape specifiers.type) fuel
      let name := (declarator.name.map (·.text)).getD ""
      if name ≠ "" then bindName name (.ofType type.adjusted)
      let found := found ++ [⟨name, type⟩]
      if ← accept "," then parameterList found fuel
      else
        expect ")"
        match found with
        | [⟨"", single⟩] =>
          match single.inside with
          | .basic .void => return ([], .fixed)
          | _ => return (found, .fixed)
        | _ => return (found, .fixed)

/-- A type without a name, as in a cast. -/
def typeName (fuel : Nat) : Reader CType :=
  match fuel with
  | 0 => failure
  | fuel + 1 => do
    let specifiers ← typeSpecifiers .start fuel
    let declarator ← declarator false fuel
    let late ← attributes
    attributedType (specifiers.attributes ++ late) (declarator.shape specifiers.type) fuel

/-- The initializer of a variable or of a part of one. -/
def initializer (fuel : Nat) : Reader Initializer :=
  match fuel with
  | 0 => failure
  | fuel + 1 => do
    if ← accept "\x7b" then return .list (← initialItems [] fuel)
    else return .value (← assignment fuel)

/-- The values of a list up to its closing brace, which is taken. -/
def initialItems (found : List InitialItem) (fuel : Nat) : Reader (List InitialItem) :=
  match fuel with
  | 0 => failure
  | fuel + 1 => do
    if ← accept "\x7d" then return found.reverse
    else
      let oldField ← do
        match (← get).ahead with
        | first :: second :: _ => pure (first.isName && second.isSign ":")
        | _ => pure false
      let designators ← if oldField then do
          let name ← next
          expect ":"
          pure [Designator.field name.text]
        else do
          let found ← designators [] fuel
          if !found.isEmpty then
            let _ ← accept "="
          pure found
      let value ← initializer fuel
      if !(← accept ",") then
        if !(← atSign "\x7d") then failure
      initialItems ((designators, value) :: found) fuel

def designators (found : List Designator) (fuel : Nat) : Reader (List Designator) :=
  match fuel with
  | 0 => failure
  | fuel + 1 => do
    if ← accept "." then
      let name ← next
      designators (found ++ [.field name.text]) fuel
    else if ← accept "[" then
      let first := ((← conditional fuel).integer?).getD 0
      let final ← if ← accept "..." then do pure (((← conditional fuel).integer?).getD 0)
        else pure first
      expect "]"
      designators (found ++ [.elements first final]) fuel
    else return found

/-- An expression with commas; the last part counts. -/
def expression (fuel : Nat) : Reader Expression :=
  match fuel with
  | 0 => failure
  | fuel + 1 => do
    let first ← assignment fuel
    if ← accept "," then
      let rest ← expression fuel
      return .comma (← context) first rest
    else return first

/-- An expression without commas. -/
def assignment (fuel : Nat) : Reader Expression :=
  match fuel with
  | 0 => failure
  | fuel + 1 => do
    let left ← conditional fuel
    let assigns := ["=", "+=", "-=", "*=", "/=", "%=", "&=", "|=", "^=", "<<=", ">>="]
    if (← get).ahead.head?.any fun token => assigns.any token.isSign then
      let _ ← next
      let _ ← assignment fuel
      return .unknown left.type.unqualified
    else return left

def conditional (fuel : Nat) : Reader Expression :=
  match fuel with
  | 0 => failure
  | fuel + 1 => do
    let condition ← operators 1 (← castOperand fuel) fuel
    if ← accept "?" then
      if ← accept ":" then
        let no ← conditional fuel
        return .conditional (← context) condition condition no
      else
        let yes ← expression fuel
        expect ":"
        let no ← conditional fuel
        return .conditional (← context) condition yes no
    else return condition

/-- The operators that bind at least as tightly as `level`, after a left side. -/
def operators (level : Nat) (left : Expression) (fuel : Nat) : Reader Expression :=
  match fuel with
  | 0 => failure
  | fuel + 1 => do
    match (← get).ahead with
    | [] => return left
    | token :: _ =>
      match (if token.kind = .punctuator then BinaryOperator.ofText? token.text else none) with
      | none => return left
      | some operator =>
        if operator.level < level then return left
        else
          let _ ← next
          let right ← operators (operator.level + 1) (← castOperand fuel) fuel
          operators level (.binary (← context) operator left right) fuel

/-- An operand of a binary operator, which can be a cast. -/
def castOperand (fuel : Nat) : Reader Expression :=
  match fuel with
  | 0 => failure
  | fuel + 1 => do
    let typed ← do
      if ← atSign "(" then secondStartsType else pure false
    if typed then
      let _ ← next
      let type ← typeName fuel
      expect ")"
      if ← atSign "\x7b" then
        let initial ← initializer fuel
        accesses (.ofLiteralObject (← context) type initial) fuel
      else
        let inner ← castOperand fuel
        return .cast (← context) type inner
    else unaryOperand fuel

/-- An operand with the operators in front of it. -/
def unaryOperand (fuel : Nat) : Reader Expression :=
  match fuel with
  | 0 => failure
  | fuel + 1 => do
    let token ← peek
    let unary (operator : UnaryOperator) : Reader Expression := do
      let _ ← next
      let inner ← castOperand fuel
      return .unary (← context) operator inner
    if token.isSign "+" then unary .plus
    else if token.isSign "-" then unary .minus
    else if token.isSign "~" then unary .complement
    else if token.isSign "!" then unary .not
    else if token.isSign "++" || token.isSign "--" then
      let _ ← next
      let inner ← unaryOperand fuel
      return .unknown inner.type.unqualified
    else if token.isSign "&&" then
      let _ ← next
      let _ ← next
      return .unknown (.pointer (.basic .void))
    else if token.isSign "&" then
      let _ ← next
      let inner ← castOperand fuel
      return inner.addressOf
    else if token.isSign "*" then
      let _ ← next
      let inner ← castOperand fuel
      return .dereference (← context) inner
    else match ← wordOf token with
      | some .extension =>
        let _ ← next
        castOperand fuel
      | some .sizeof => measured (fun context e => e.type.size? context.target context.tags) fuel
      | some (.alignof preferred) =>
        measured (fun context e =>
          if preferred then e.preferredAlignment? context
          else e.alignment.or (e.type.alignment? context.target context.tags)) fuel
      | some (.part imaginary) =>
        let _ ← next
        let inner ← castOperand fuel
        return .part (← context) imaginary inner
      | _ => accesses (← primary fuel) fuel

/-- A measure of a type or of an expression, behind the word that asks for it. -/
def measured (find : TypeContext → Expression → Option Nat) (fuel : Nat) : Reader Expression :=
  match fuel with
  | 0 => failure
  | fuel + 1 => do
    let _ ← next
    let typed ← do
      if ← atSign "(" then secondStartsType else pure false
    let asked ← if typed then do
        let _ ← next
        let type ← typeName fuel
        expect ")"
        if ← atSign "\x7b" then do
          let initial ← initializer fuel
          accesses (.ofLiteralObject (← context) type initial) fuel
        else pure (.unknown type)
      else unaryOperand fuel
    let context ← context
    return .measure context (find context asked)

/-- A literal, a name, or an expression in parentheses. -/
def primary (fuel : Nat) : Reader Expression :=
  match fuel with
  | 0 => failure
  | fuel + 1 => do
    let token ← peek
    let target := (← get).target
    if token.isSign "(" then
      let _ ← next
      if ← atSign "\x7b" then
        let _ ← balanced
        expect ")"
        return .unknown (.basic .int)
      else
        let inner ← expression fuel
        expect ")"
        return inner
    else if token.kind = .number then
      let _ ← next
      return .ofNumber target token.text
    else if token.kind = .character then
      let _ ← next
      let (value, type) := readCharacter target token.text
      return .ofInteger type value
    else if token.kind = .string then return .ofStrings target (← stringTexts)
    else if !token.isName then failure
    else
      let _ ← next
      match ← wordOf token with
      | some .generic => selection fuel
      | some (.truth value) => return .ofInteger .bool (if value then 1 else 0)
      | some .nullPointer =>
        return { Expression.unknown (.basic .nullPointer) with
          value := some (.address ⟨none, 0⟩), mark := .nullPointer }
      | some _ => return .unknown (.basic .int)
      | none => named token.text fuel

/-- What a name stands for, with the arguments of functions that are known by themselves. -/
def named (name : String) (fuel : Nat) : Reader Expression :=
  match fuel with
  | 0 => failure
  | fuel + 1 => do
    let builtIn := name.startsWith "__builtin_" || name.startsWith "__atomic_"
    match ← lookupName name with
    | some meaning =>
      if (libraryNames.contains name || builtIn) && (← atSign "(") then
        let _ ← next
        let given ← arguments [] fuel
        return (builtinCall (← context) name given).ofDeclared meaning
      else return .ofName (← context) name meaning
    | none =>
      if !builtIn || !(← atSign "(") then return .unknown (.basic .int)
      else if name = "__builtin_types_compatible_p" then
        expect "("
        let left ← typeName fuel
        expect ","
        let right ← typeName fuel
        expect ")"
        let context ← context
        let same := left.unqualified.isCompatible context.tags right.unqualified
        return .ofInteger .int (if same then 1 else 0)
      else if name = "__builtin_offsetof" then
        expect "("
        let type ← typeName fuel
        expect ","
        let first ← next
        let context ← context
        let whole := Expression.ofPlace context type (some ⟨none, 0⟩)
        let found ← accesses (.member context whole first.text) fuel
        expect ")"
        return .measure context (found.place.map fun place => place.offset.toNat)
      else if name = "__builtin_va_arg" then
        expect "("
        let _ ← assignment fuel
        expect ","
        let type ← typeName fuel
        expect ")"
        return .unknown type
      else if name = "__builtin_choose_expr" then
        expect "("
        let condition ← assignment fuel
        expect ","
        let yes ← assignment fuel
        expect ","
        let no ← assignment fuel
        expect ")"
        return if condition.operand.truth? = some false then no else yes
      else
        let _ ← next
        let given ← arguments [] fuel
        let context ← context
        return (atomicCall? context name given).getD (builtinCall context name given)

/-- The arguments of a call up to the closing parenthesis, which is taken. -/
def arguments (found : List Expression) (fuel : Nat) : Reader (List Expression) :=
  match fuel with
  | 0 => failure
  | fuel + 1 => do
    if ← accept ")" then return found.reverse
    else
      let value ← if ← atType then do pure (.unknown (← typeName fuel)) else assignment fuel
      if !(← accept ",") then
        if !(← atSign ")") then failure
      arguments (value :: found) fuel

/-- A choice by the type of an expression. -/
def selection (fuel : Nat) : Reader Expression :=
  match fuel with
  | 0 => failure
  | fuel + 1 => do
    expect "("
    let type ← if ← atType then typeName fuel
      else do pure (← assignment fuel).operand.type
    expect ","
    let (chosen, other) ← associations type none none fuel
    match chosen.or other with
    | some found => return found
    | none => return .unknown (.basic .int)

/-- The rest of a choice: the first expression whose type fits, and the one for all other types. -/
def associations (type : CType) (chosen other : Option Expression) (fuel : Nat) :
    Reader (Option Expression × Option Expression) :=
  match fuel with
  | 0 => failure
  | fuel + 1 => do
    let isDefault ← do
      match (← get).ahead with
      | first :: _ => pure (first.isName && first.text = "default")
      | [] => pure false
    let asked ← if isDefault then do
        let _ ← next
        pure none
      else do pure (some (← typeName fuel))
    expect ":"
    let value ← assignment fuel
    let tags := (← get).tags
    let (chosen, other) := match asked with
      | none => (chosen, some value)
      | some asked =>
        if chosen.isNone && asked.isCompatible tags type then (some value, other)
        else (chosen, other)
    if ← accept "," then associations type chosen other fuel
    else
      expect ")"
      return (chosen, other)

/-- Subscripts, calls and fields after an operand. -/
def accesses (base : Expression) (fuel : Nat) : Reader Expression :=
  match fuel with
  | 0 => failure
  | fuel + 1 => do
    if ← accept "[" then
      let index ← expression fuel
      expect "]"
      accesses (.subscript (← context) base index) fuel
    else if ← atSign "(" then
      let _ ← balanced
      accesses (.unknown base.type.callResult.unqualified) fuel
    else if ← accept "." then
      let name ← next
      accesses (.member (← context) base name.text) fuel
    else if ← accept "->" then
      let name ← next
      let context ← context
      accesses (.member context (.dereference context base) name.text) fuel
    else if (← accept "++") || (← accept "--") then
      accesses (.unknown base.type.unqualified) fuel
    else return base

end

end Reader

end HeaderBindings
