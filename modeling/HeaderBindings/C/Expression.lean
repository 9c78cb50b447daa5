import HeaderBindings.C.Compatible
import HeaderBindings.C.Constant
import HeaderBindings.C.Language

/-!
Expressions as far as declarations depend on them: the type of an expression, its value when that
can be told, and whether it is an integer constant expression in the strict sense. Only the operands
that are needed have to have a value, so `1 ? 2 : 1 / 0` is two.
-/

namespace HeaderBindings

/-- Whether an expression is a constant expression: always, only where it is not evaluated, or
never. -/
inductive Constancy where
  | constant
  | unlessEvaluated
  | never
  deriving DecidableEq, Repr

def Constancy.worst : Constancy → Constancy → Constancy
  | .never, _ | _, .never => .never
  | .unlessEvaluated, _ | _, .unlessEvaluated => .unlessEvaluated
  | .constant, .constant => .constant

/-- Expressions that have a meaning of their own as an operand. -/
inductive ExpressionMark where
  | plain
  /-- Nought as an address of anything. -/
  | nullPointer
  | floatingLiteral
  /-- The question whether some expression has a known value. -/
  | constantQuestion
  deriving DecidableEq, Repr

structure Expression where
  type : CType
  value : Option ConstantValue
  constancy : Constancy
  /-- Where the object is that the expression names. -/
  place : Option Address
  /-- The width of the bit field that the expression names. -/
  bits : Option Nat
  /-- The alignment of what the expression names, in bytes. -/
  alignment : Option Nat
  mark : ExpressionMark

/-- What the meaning of expressions depends on. -/
structure TypeContext where
  language : Language
  target : Target
  tags : TagTable

namespace Expression

/-- An expression of some type without a known value. -/
def unknown (type : CType) : Expression := ⟨type, none, .never, none, none, none, .plain⟩

def ofQuantity (quantity : Quantity) : Expression :=
  { unknown (.basic quantity.type) with
    value := some (.integer quantity.value), constancy := .constant }

def ofInteger (type : BasicType) (value : Int) : Expression := ofQuantity ⟨value, type⟩

/-- A value that is known, although the expression is no constant expression. -/
def ofValue (type : CType) (value : Option ConstantValue) : Expression :=
  { unknown type with value }

def isInteger (tags : TagTable) (e : Expression) : Bool :=
  (e.type.arithmetic? tags).any BasicType.isInteger

/-- Whether an operand can be part of a constant expression; only integers can. -/
def integerConstancy (tags : TagTable) (e : Expression) : Constancy :=
  if e.isInteger tags then e.constancy else .never

def integer? (e : Expression) : Option Int := e.value.bind ConstantValue.integer?

def truth? (e : Expression) : Option Bool := e.value.map ConstantValue.isTrue

def isNullConstant (tags : TagTable) (e : Expression) : Bool :=
  e.mark = .nullPointer
    || e.isInteger tags && e.constancy = .constant && e.integer? = some 0

/-- The object of a type at a place, with the value that the place holds. -/
def ofPlace (context : TypeContext) (type : CType) (place : Option Address) : Expression :=
  let value : Option ConstantValue := do
    let address ← place
    let storage ← address.storage
    let arithmetic ← type.arithmetic? context.tags
    let scalar ← storage.read? address.offset arithmetic.isFloating
    return .scalar (scalar.convert context.target arithmetic)
  { unknown type with value, place }

/-- What an operator sees of an expression: an array or a function is its address, and a value has
no qualifiers. -/
def operand (e : Expression) : Expression :=
  match e.type.inside with
  | .array element _ =>
    ofValue (.pointer (element.qualify e.type.qualifiers)) (e.place.map .address)
  | .function _ _ _ => ofValue (.pointer e.type) (e.place.map .address)
  | .atomic inner => { e with type := inner.unqualified, place := none }
  | _ => { e with type := e.type.unqualified, place := none }

/-- The arithmetic type of an operand after the widening of small ones. -/
def promoted? (context : TypeContext) (e : Expression) : Option BasicType :=
  (e.type.arithmetic? context.tags).map fun type =>
    match e.bits with
    | some bits =>
      if type.isInteger && bits < 32 then .int
      else if type.isInteger && bits = 32 then
        (if type.isSigned context.target then .int else .unsigned)
      else type.promote
    | none => type.promote

/-- The address that a pointer holds. -/
def address? (context : TypeContext) (e : Expression) : Option Address :=
  e.value.bind (ConstantValue.toAddress? context.target)

/-- The size of what a pointer leads to; there is a step also for what has no size. -/
def step (context : TypeContext) (e : Expression) : Int :=
  match e.type.pointee? with
  | some target => ((target.size? context.target context.tags).getD 1 : Nat)
  | none => 1

def scalar? (context : TypeContext) (type : BasicType) (e : Expression) : Option Scalar :=
  match e.value.bind (ConstantValue.convert? context.target type) with
  | some (.scalar value) => some value
  | _ => none

def isComplex (e : Expression) : Bool :=
  match e.type.inside with
  | .complex _ => true
  | _ => false

/-- The arithmetic type behind a number, complex or not. -/
def realType? (tags : TagTable) (type : CType) : Option BasicType :=
  match type.inside with
  | .complex inner => inner.arithmetic? tags
  | _ => type.arithmetic? tags

/-! Operators. -/

def unary (context : TypeContext) (operator : UnaryOperator) (inner : Expression) : Expression :=
  let inner := inner.operand
  let result (type : BasicType) : Expression :=
    let from? := if operator = .not then inner.type.arithmetic? context.tags else some type
    let value := match operator, from? with
      | .not, none => inner.truth?.map fun holds => ConstantValue.truth !holds
      | _, none => none
      | _, some operandType =>
        ((inner.scalar? context operandType).bind
          (scalarUnary context.target operandType operator)).map .scalar
    { unknown (.basic type) with value, constancy := inner.integerConstancy context.tags }
  if operator = .not then result .int
  else match inner.promoted? context with
    | some type => result type
    | none => unknown inner.type

/-- The constancy of an operation on two operands. -/
def binaryConstancy (context : TypeContext) (operator : BinaryOperator) (type : BasicType)
    (left right : Expression) : Constancy :=
  let a := left.integerConstancy context.tags
  let b := right.integerConstancy context.tags
  let both := a.worst b
  if operator.isLogical then
    if a = .constant ∧ b = .unlessEvaluated then
      (if (operator = .and) = (left.truth? = some true) then b else .constant)
    else both
  else if operator.isDivision && both = .constant then
    let least := -Int.pow 2 (type.width context.target - 1)
    if right.integer? = some 0 then .unlessEvaluated
    else if type.isSigned context.target && right.integer? = some (-1)
        && left.integer? = some least then .unlessEvaluated
    else .constant
  else both

def logicalValue (operator : BinaryOperator) (left right : Expression) : Option ConstantValue :=
  match left.truth? with
  | none => none
  | some holds =>
    if holds = (operator = .or) then some (.truth holds)
    else right.truth?.map .truth

/-- An operation on two numbers. -/
def arithmetic (context : TypeContext) (operator : BinaryOperator) (a b : BasicType)
    (left right : Expression) : Expression :=
  let common := if operator.isShift then a else a.common context.target b
  let value : Option ConstantValue := do
    let x ← left.scalar? context common
    let y ← right.scalar? context (if operator.isShift then b else common)
    return .scalar (← scalarOperation context.target common operator x y)
  let type : BasicType := if operator.isComparison then .int else common
  { unknown (.basic type) with
    value, constancy := binaryConstancy context operator common left right }

/-- An operation with a pointer on one side or on both. -/
def pointerOperation (context : TypeContext) (operator : BinaryOperator)
    (left right : Expression) : Expression :=
  let moved (pointer number : Expression) (sign : Int) : Expression :=
    let value : Option ConstantValue := do
      let place ← pointer.address? context
      let count ← number.integer?
      return .address { place with offset := place.offset + sign * count * pointer.step context }
    ofValue pointer.type value
  if operator.isComparison then
    let value : Option ConstantValue := do
      let a ← left.address? context
      let b ← right.address? context
      return .truth (← a.compare? operator b)
    ofValue (.basic .int) value
  else match left.type.pointee?, right.type.pointee?, operator with
    | some _, some _, _ =>
      let value : Option ConstantValue := do
        let a ← left.address? context
        let b ← right.address? context
        if a.storage.map Storage.name = b.storage.map Storage.name then
          return .integer ((a.offset - b.offset) / left.step context)
        else failure
      ofValue (.basic context.target.distanceType) value
    | some _, none, .minus => moved left right (-1)
    | some _, none, _ => moved left right 1
    | none, _, _ => moved right left 1

/-- The type of an operation on complex numbers. -/
def complexType? (context : TypeContext) (left right : Expression) : Option CType := do
  let a ← realType? context.tags left.type
  let b ← realType? context.tags right.type
  return .complex (.basic (a.common context.target b))

def binary (context : TypeContext) (operator : BinaryOperator) (left right : Expression) :
    Expression :=
  let left := left.operand
  let right := right.operand
  if operator.isLogical then
    { unknown (.basic .int) with
      value := logicalValue operator left right
      constancy := binaryConstancy context operator .int left right }
  else match left.promoted? context, right.promoted? context with
    | some a, some b => arithmetic context operator a b left right
    | _, _ =>
      if left.type.pointee?.isSome || right.type.pointee?.isSome then
        pointerOperation context operator left right
      else if left.isComplex || right.isComplex then
        if operator.isComparison then unknown (.basic .int)
        else unknown ((complexType? context left right).getD left.type)
      else match right.type.inside with
        | .vector _ _ _ => unknown right.type
        | _ => unknown left.type

/-- The type of a conditional expression with operands of two types. -/
def commonType (context : TypeContext) (left right : Expression) : CType :=
  match left.promoted? context, right.promoted? context with
  | some a, some b => .basic (a.common context.target b)
  | _, _ =>
    match left.type.pointee?, right.type.pointee? with
    | some a, some b =>
      let qualifiers := a.qualifiers.union b.qualifiers
      if left.isNullConstant context.tags then right.type
      else if right.isNullConstant context.tags then left.type
      else match a.inside, b.inside with
        | .basic .void, _ => .pointer (a.unqualified.qualify qualifiers)
        | _, .basic .void => .pointer (b.unqualified.qualify qualifiers)
        | .array _ .unspecified, _ => .pointer (b.unqualified.qualify qualifiers)
        | _, _ => .pointer (a.unqualified.qualify qualifiers)
    | some _, none => left.type
    | none, some _ => right.type
    | none, none =>
      if left.isComplex || right.isComplex then
        (complexType? context left right).getD left.type
      else match left.type.inside, right.type.inside with
        | .basic .void, _ | _, .basic .void => .basic .void
        | _, _ => left.type

/-- The value of an expression as one of another type. -/
def valueAs (context : TypeContext) (type : CType) (e : Expression) : Option ConstantValue :=
  match type.arithmetic? context.tags with
  | some arithmetic => e.value.bind (ConstantValue.convert? context.target arithmetic)
  | none =>
    if type.pointee?.isSome then (e.address? context).map .address
    else none

def conditionalConstancy (context : TypeContext) (condition yes no : Expression)
    (value : Option ConstantValue) : Constancy :=
  if condition.mark = .constantQuestion then
    if value.any fun value => value.integer?.isSome then .constant else .never
  else
    let c := condition.integerConstancy context.tags
    let a := yes.integerConstancy context.tags
    let b := no.integerConstancy context.tags
    if c = .never ∨ a = .never ∨ b = .never then .never
    else if c = .unlessEvaluated then .unlessEvaluated
    else if condition.truth? = some true then a else b

def conditional (context : TypeContext) (condition yes no : Expression) : Expression :=
  let asked := condition
  let condition := condition.operand
  let yes := yes.operand
  let no := no.operand
  let type := commonType context yes no
  let chosen? := condition.truth?.map fun holds => if holds then yes else no
  let value := chosen?.bind (valueAs context type)
  { unknown type with
    value
    constancy := conditionalConstancy context { condition with mark := asked.mark } yes no value }

def comma (context : TypeContext) (first second : Expression) : Expression :=
  let second := second.operand
  let constancy :=
    if 1999 ≤ context.language.edition
        && (first.integerConstancy context.tags).worst (second.integerConstancy context.tags)
          = .constant then .unlessEvaluated
    else .never
  { unknown second.type with
    value := if first.value.isSome then second.value else none
    constancy }

def castConstancy (context : TypeContext) (type : BasicType) (inner : Expression) : Constancy :=
  match inner.mark, inner.value with
  | .floatingLiteral, some (.scalar (.floating value)) =>
    if floatFits context.target type value then .constant else .never
  | _, _ => inner.integerConstancy context.tags

def cast (context : TypeContext) (type : CType) (inner : Expression) : Expression :=
  let inner := inner.operand
  let type := type.unqualified
  let value := valueAs context type inner
  match type.arithmetic? context.tags with
  | some arithmetic =>
    { unknown type with
      value
      constancy := if arithmetic.isInteger then castConstancy context arithmetic inner else .never
      mark := if inner.mark = .constantQuestion then .constantQuestion else .plain }
  | none =>
    let isVoidPointer := match type.inside with
      | .pointer target =>
        match target.inside with
        | .basic .void => target.qualifiers = .none
        | _ => false
      | _ => false
    { unknown type with
      value
      mark := if isVoidPointer && inner.isNullConstant context.tags then .nullPointer else .plain }

def addressOf (e : Expression) : Expression :=
  ofValue (.pointer e.type) (e.place.map .address)

/-- What a pointer leads to. -/
def dereference (context : TypeContext) (e : Expression) : Expression :=
  let pointer := e.operand
  match pointer.type.pointee? with
  | some target => ofPlace context target (pointer.address? context)
  | none => unknown pointer.type

/-- An element behind a pointer or of a vector. -/
def subscript (context : TypeContext) (base index : Expression) : Expression :=
  match base.type.inside with
  | .vector _ element _ => unknown element
  | _ => dereference context (binary context .plus base index)

/-- The alignment of a member that is so many bits behind the start of its record. -/
def memberAlignment (context : TypeContext) (record : CType) (member : Member) : Option Nat := do
  let whole ← record.alignment? context.target context.tags
  let natural ← member.field.type.preferredAlignment? context.target context.tags
  let own := if member.field.packed then member.field.aligned.getD 1
    else max natural (member.field.aligned.getD 1)
  let here := (List.range (whole.log2 + 1)).foldl
    (fun best power =>
      if (member.offset / 8) % Nat.pow 2 power = 0 then Nat.pow 2 power else best) 1
  return min own (min whole here)

/-- A member of a record by its name. -/
def member (context : TypeContext) (record : Expression) (name : String) : Expression :=
  match record.type.member? context.tags name with
  | none =>
    match record.type.inside with
    | .vector _ element _ => unknown element
    | _ => unknown (.basic .int)
  | some found =>
    let type := found.field.type.qualify record.type.qualifiers
    let place := record.place.map fun place =>
      { place with offset := place.offset + (found.offset / 8 : Nat) }
    let place := if found.field.bits.isSome then none else place
    { ofPlace context type place with
      bits := found.field.bits, alignment := memberAlignment context record.type found }

/-- A size or an alignment, when it is known. -/
def measure (context : TypeContext) (found : Option Nat) : Expression :=
  match found with
  | some count => ofInteger context.target.sizeType count
  | none => unknown (.basic context.target.sizeType)

/-- The alignment of what an expression names, or of its type. -/
def preferredAlignment? (context : TypeContext) (e : Expression) : Option Nat :=
  e.alignment.or (e.type.preferredAlignment? context.target context.tags)

/-- The bound of an array that an expression gives. -/
def bound (context : TypeContext) (e : Expression) : ArrayBound :=
  let e := e.operand
  match e.integer? with
  | some count =>
    if e.integerConstancy context.tags = .constant then .fixed count else .foldable count
  | none => .variable

end Expression

end HeaderBindings
