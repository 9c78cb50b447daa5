import HeaderBindings.C.Type

/-!
When two types count as one. Qualifiers have to agree, an array without a bound agrees with any
bound, an enum agrees with its integer type, and a function without a prototype agrees with any
parameters that are passed as they are.
-/

namespace HeaderBindings

/-- The type behind all spellings, with the qualifiers that belong to the elements of an array. -/
def CType.plainForm (type : CType) : Qualifiers × CType :=
  match type.inside with
  | .array element bound => (.none, .array (element.qualify type.qualifiers) bound)
  | other => (type.qualifiers, other)

/-- Whether two types without spellings around them are one arithmetic type. -/
def sameArithmetic (tags : TagTable) (left right : CType) : Bool :=
  match left, right with
  | .basic a, .basic b => a = b
  | .tag a _, .tag b _ => a = b
  | .tag _ _, .basic b => left.arithmetic? tags = some b
  | .basic a, .tag _ _ => right.arithmetic? tags = some a
  | _, _ => false

/-- Whether an argument of a type is passed as it is where no prototype says its type. -/
def CType.isPassedAsIs (tags : TagTable) (type : CType) : Bool :=
  match type.arithmetic? tags with
  | some .float => false
  | some arithmetic => arithmetic.promote = arithmetic
  | none => true

def boundsAgree : ArrayBound → ArrayBound → Bool
  | .fixed a, .fixed b => a = b
  | _, _ => true

/-- Whether two types are compatible, compared to some depth. -/
def compatibleTypes (tags : TagTable) (depth : Nat) (left right : CType) : Bool :=
  match depth with
  | 0 => false
  | depth + 1 =>
    let (leftQualifiers, a) := left.plainForm
    let (rightQualifiers, b) := right.plainForm
    leftQualifiers = rightQualifiers &&
      match a, b with
      | .pointer c, .pointer d => compatibleTypes tags depth c d
      | .block c, .block d => compatibleTypes tags depth c d
      | .array c m, .array d n => boundsAgree m n && compatibleTypes tags depth c d
      | .complex c, .complex d => compatibleTypes tags depth c d
      | .atomic c, .atomic d => compatibleTypes tags depth c d
      | .vector _ c m, .vector _ d n => m = n && compatibleTypes tags depth c d
      | .function c ps style, .function d qs style' =>
        let pairs := ps.zip qs
        let lists :=
          if style = .unprototyped then
            style' = .unprototyped
              || style' = .fixed && qs.all fun q => q.type.adjusted.isPassedAsIs tags
          else if style' = .unprototyped then
            style = .fixed && ps.all fun p => p.type.adjusted.isPassedAsIs tags
          else
            style = style' && ps.length = qs.length && pairs.all fun (p, q) =>
              compatibleTypes tags depth p.type.adjusted.unqualified q.type.adjusted.unqualified
        lists && compatibleTypes tags depth c.unqualified d.unqualified
      | _, _ => sameArithmetic tags a b

/-- No type in a header is nested more deeply than this. -/
def typeDepth : Nat := 256

def CType.isCompatible (tags : TagTable) (left right : CType) : Bool :=
  compatibleTypes tags typeDepth left right

end HeaderBindings
