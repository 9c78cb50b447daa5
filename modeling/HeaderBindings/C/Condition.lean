import HeaderBindings.C.Expansion
import HeaderBindings.C.Literal

/-!
The conditions of `#if` and `#elif`. All numbers have 64 bits, with or without a sign, and a name
that is left after macro expansion is zero. A part that decides nothing may divide by zero.
-/

namespace HeaderBindings

def numberToken (pattern : Token) (value : Bool) : Token :=
  pattern.madeUp .number (if value then "1" else "0")

/-- The name of an included file and whether it is in angle brackets. -/
def includedName? (tokens : List Token) : Option (Bool × String) :=
  match tokens with
  | [] => none
  | first :: rest =>
    if first.kind = .headerName ∨ first.kind = .string then
      some (first.text.startsWith "<", String.ofList (first.text.toList.drop 1).dropLast)
    else if first.isSign "<" then
      let inner := rest.takeWhile fun token => !token.isSign ">"
      some (true, String.join (inner.map fun token =>
        if token.spaced then " " ++ token.text else token.text))
    else none

/-- Whether a file can be included: the flags say whether the search goes on behind the present
file, and whether the name is in angle brackets. -/
abbrev IncludeQuery := Bool → Bool → String → Bool

/-- What the word `defined` asks, with what follows it. -/
def definedName? (items : List StreamItem) : Option (Token × List StreamItem) :=
  match items with
  | .token first :: rest =>
    if first.isName then some (first, rest)
    else if first.isSign "(" then
      match rest with
      | .token name :: .token close :: rest =>
        if name.isName && close.isSign ")" then some (name, rest) else none
      | _ => none
    else none
  | _ => none

/-- The tokens of a condition with macros expanded and questions answered. -/
def conditionTokens (scope : MacroScope) (includes : IncludeQuery) (found : List Token)
    (items : List StreamItem) (fuel : Nat) : MacroScope × List Token :=
  match fuel, items with
  | 0, _ => (scope, found.reverse)
  | _, [] => (scope, found.reverse)
  | fuel + 1, .fileEnd :: items => conditionTokens scope includes found items fuel
  | fuel + 1, .token token :: items =>
    let isQuery := token.isName
      && (token.text = "__has_include" || token.text = "__has_include_next")
    let undecided : Token := { token with kind := .unknown }
    if token.isName && token.text = "defined" then
      match definedName? items with
      | some (name, items) =>
        let answer := numberToken token (scope.isDefined name.text)
        conditionTokens scope includes (answer :: found) items fuel
      | none => conditionTokens scope includes (undecided :: found) items fuel
    else if isQuery then
      let question := match items with
        | .token bracket :: items =>
          if bracket.isSign "(" then collectArguments (some 0) 0 [] [] items else none
        | _ => none
      match question with
      | some ([inner], _, items) =>
        let (scope, named) := match includedName? inner with
          | some named => (scope, some named)
          | none =>
            let (scope, tokens) := scope.expand inner
            (scope, includedName? tokens)
        let holds := named.any fun named =>
          includes (token.text = "__has_include_next") named.1 named.2
        conditionTokens scope includes (numberToken token holds :: found) items fuel
      | _ => conditionTokens scope includes (undecided :: found) items fuel
    else match expandOnce scope token items fuel with
      | some (scope, items) => conditionTokens scope includes found items fuel
      | none => conditionTokens scope includes (token :: found) items fuel

/-- A number of a condition. -/
structure ConditionValue where
  value : Int
  isUnsigned : Bool
  deriving DecidableEq, Repr

def ConditionValue.make (isUnsigned : Bool) (value : Int) : ConditionValue :=
  let modulus := Nat.pow 2 64
  ⟨if isUnsigned then value % modulus else value.bmod modulus, isUnsigned⟩

def ConditionValue.truth (holds : Bool) : ConditionValue := ⟨if holds then 1 else 0, false⟩

/-- The binary operators of a condition, but for the one with two parts. -/
inductive ConditionOperator where
  | times
  | divide
  | remainder
  | plus
  | minus
  | shiftLeft
  | shiftRight
  | less
  | lessOrEqual
  | greater
  | greaterOrEqual
  | equal
  | notEqual
  | bitAnd
  | bitXor
  | bitOr
  | and
  | or
  | comma
  deriving DecidableEq, Repr

/-- The operators by their signs, with how tightly they bind. -/
def conditionOperators : List (String × Nat × ConditionOperator) :=
  [("*", 14, .times), ("/", 14, .divide), ("%", 14, .remainder), ("+", 13, .plus),
    ("-", 13, .minus), ("<<", 12, .shiftLeft), (">>", 12, .shiftRight), ("<", 11, .less),
    ("<=", 11, .lessOrEqual), (">", 11, .greater), (">=", 11, .greaterOrEqual), ("==", 10, .equal),
    ("!=", 10, .notEqual), ("&", 9, .bitAnd), ("^", 8, .bitXor), ("|", 7, .bitOr), ("&&", 6, .and),
    ("||", 5, .or), (",", 3, .comma)]

/-- How tightly the sign of a choice binds. -/
def choiceLevel : Nat := 4

def commaLevel : Nat := 3

/-- The result of an operator. Only shifts, logic and the comma leave the signs of their operands
alone. -/
def ConditionOperator.apply (operator : ConditionOperator) (live : Bool)
    (left right : ConditionValue) : Option ConditionValue :=
  let unsigned := left.isUnsigned || right.isUnsigned
  let a := (ConditionValue.make unsigned left.value).value
  let b := (ConditionValue.make unsigned right.value).value
  let result (value : Int) : Option ConditionValue := some (.make unsigned value)
  let bits (combine : Nat → Nat → Nat) : Option ConditionValue :=
    result (combine (a % Int.pow 2 64).toNat (b % Int.pow 2 64).toNat)
  let amount := (right.value % Int.pow 2 64).toNat
  match operator with
  | .times => result (a * b)
  | .divide => if b ≠ 0 then result (a.tdiv b) else if live then none else result 0
  | .remainder => if b ≠ 0 then result (a.tmod b) else if live then none else result 0
  | .plus => result (a + b)
  | .minus => result (a - b)
  | .shiftLeft =>
    some (.make left.isUnsigned (if 64 ≤ amount then 0 else left.value * Int.pow 2 amount))
  | .shiftRight =>
    some (.make left.isUnsigned (left.value.fdiv (Int.pow 2 (min 63 (amount % Nat.pow 2 32)))))
  | .less => some (.truth (a < b))
  | .lessOrEqual => some (.truth (a ≤ b))
  | .greater => some (.truth (b < a))
  | .greaterOrEqual => some (.truth (b ≤ a))
  | .equal => some (.truth (a = b))
  | .notEqual => some (.truth (a ≠ b))
  | .bitAnd => bits Nat.land
  | .bitXor => bits Nat.xor
  | .bitOr => bits Nat.lor
  | .and => some (.truth (left.value ≠ 0 && right.value ≠ 0))
  | .or => some (.truth (left.value ≠ 0 || right.value ≠ 0))
  | .comma => some right

def readConditionNumber (token : Token) : Option ConditionValue :=
  (readInteger? token.text).map fun literal =>
    let unsigned := literal.suffix.unsignedSuffix || Nat.pow 2 63 ≤ literal.value
    .make unsigned literal.value

/-- A character constant; one with several characters or of a plain `char` has its sign. -/
def readConditionCharacter (target : Target) (token : Token) : ConditionValue :=
  let (value, type) := readCharacter target token.text
  let unsigned := if type = .int ∧ !token.text.startsWith "L" then !target.charSigned
    else !type.isSigned target
  .make unsigned value

/-- What the reading of a condition depends on. -/
structure ConditionContext where
  language : Language
  target : Target

mutual

/-- The value in front of an operator; `live` says that it decides something. -/
def conditionValue (context : ConditionContext) (live : Bool) (tokens : List Token)
    (fuel : Nat) : Option (ConditionValue × List Token) :=
  match fuel, tokens with
  | 0, _ => none
  | _, [] => none
  | fuel + 1, token :: rest =>
    let unary (change : ConditionValue → ConditionValue) :
        Option (ConditionValue × List Token) :=
      (conditionValue context live rest fuel).map fun found => (change found.1, found.2)
    match token.kind with
    | .number => (readConditionNumber token).map fun value => (value, rest)
    | .character => some (readConditionCharacter context.target token, rest)
    | .identifier =>
      let holds := token.text = "true" && 2023 ≤ context.language.edition
      some (.truth holds, rest)
    | _ =>
      match token.text with
      | "(" => do
        let (value, after) ← conditionValue context live rest fuel
        let (value, after) ← conditionRest context live commaLevel value after fuel
        match after with
        | close :: after => if close.isSign ")" then some (value, after) else none
        | [] => none
      | "+" => unary id
      | "-" => unary fun operand => .make operand.isUnsigned (-operand.value)
      | "~" => unary fun operand => .make operand.isUnsigned (-operand.value - 1)
      | "!" => unary fun operand => .truth (operand.value = 0)
      | _ => none

/-- Reads the operators that bind at least as tightly as `level`, after a left side. -/
def conditionRest (context : ConditionContext) (live : Bool) (level : Nat)
    (left : ConditionValue) (tokens : List Token) (fuel : Nat) :
    Option (ConditionValue × List Token) :=
  match fuel, tokens with
  | 0, _ => none
  | _, [] => some (left, [])
  | fuel + 1, token :: rest =>
    if token.isSign ")" || token.isSign ":" then some (left, token :: rest)
    else if token.isSign "?" then
      if choiceLevel < level then some (left, token :: rest)
      else do
        let yesLive := live && left.value ≠ 0
        let noLive := live && left.value = 0
        let (yes, after) ← conditionValue context yesLive rest fuel
        let (yes, after) ← conditionRest context yesLive commaLevel yes after fuel
        match after with
        | colon :: after =>
          if !colon.isSign ":" then none
          else
            let (no, after) ← conditionValue context noLive after fuel
            let (no, after) ← conditionRest context noLive choiceLevel no after fuel
            let chosen := if left.value ≠ 0 then yes else no
            let chosen := ConditionValue.make (yes.isUnsigned || no.isUnsigned) chosen.value
            conditionRest context live level chosen after fuel
        | [] => none
    else match (if token.kind = .punctuator then conditionOperators.lookup token.text else none) with
      | none => none
      | some (own, operator) =>
        if own < level then some (left, token :: rest)
        else do
          let rightLive := live && !(operator = .and && left.value = 0)
            && !(operator = .or && left.value ≠ 0)
          let (right, after) ← conditionValue context rightLive rest fuel
          let (right, after) ← conditionRest context rightLive (own + 1) right after fuel
          let result ← operator.apply live left right
          conditionRest context live level result after fuel

end

/-- Whether the condition on a directive's line holds; one that cannot be read does not. -/
def conditionHolds (scope : MacroScope) (includes : IncludeQuery) (tokens : List Token) :
    MacroScope × Bool :=
  let (scope, tokens) :=
    conditionTokens scope includes [] (tokens.map .token) expansionFuel
  let context : ConditionContext := ⟨scope.language, scope.target⟩
  let fuel := 4 * tokens.length + 4
  let value := do
    let (value, after) ← conditionValue context true tokens fuel
    conditionRest context true choiceLevel value after fuel
  (scope, value.any fun found => found.1.value ≠ 0)

end HeaderBindings
