import HeaderBindings.Text.Digit

/-!
The integer arithmetic of a shell: the operators that compute with 64 bits, conditions, and
assignments to variables. An operand that does not count is read all the same.
-/

namespace HeaderBindings

inductive FormulaToken where
  | number (value : Int)
  | name (name : String)
  | sign (text : String)
  deriving DecidableEq, Repr

def formulaSigns : List String :=
  ["<<=", ">>=", "<<", ">>", "<=", ">=", "==", "!=", "&&", "||", "+=", "-=", "*=", "/=", "%=",
    "&=", "^=", "|=", "+", "-", "*", "/", "%", "<", ">", "=", "&", "|", "^", "~", "!", "(", ")",
    "?", ":", ","]

/-- The nearest integer of 64 bits for a value that was read, and the wrapped one for results. -/
def wrapInteger (value : Int) : Int := Int.bmod value (Nat.pow 2 64)

def clampInteger (value : Int) : Int := max (-Int.pow 2 63) (min value (Int.pow 2 63 - 1))

/-- An unsigned integer at the start of a text, in the base that its first digits tell, and what
follows it. -/
def takeInteger? (text : List Char) : Option (Nat × List Char) :=
  match text with
  | '0' :: x :: rest =>
    let digits := rest.takeWhile fun c => (hexValue? c).isSome
    if (x = 'x' ∨ x = 'X') ∧ !digits.isEmpty then
      some (digitsValue 16 digits, rest.drop digits.length)
    else
      let digits := (x :: rest).takeWhile fun c => '0' ≤ c && c ≤ '7'
      some (digitsValue 8 digits, (x :: rest).drop digits.length)
  | text =>
    let digits := text.takeWhile Char.isDigit
    if digits.isEmpty then none else some (digitsValue 10 digits, text.drop digits.length)

/-- The value of a whole text with blanks around it and a sign in front of it. -/
def signedInteger? (text : String) : Option Int :=
  let isGap (c : Char) : Bool := c = ' ' || ('\t' ≤ c && c ≤ '\r')
  let (factor, digits) := match text.toList.dropWhile isGap with
    | '-' :: rest => ((-1 : Int), rest)
    | '+' :: rest => (1, rest)
    | rest => (1, rest)
  match takeInteger? digits with
  | some (value, rest) => if rest.all isGap then some (clampInteger (factor * value)) else none
  | none => none

def formulaTokens (text : List Char) (fuel : Nat) : Except String (List FormulaToken) :=
  match fuel, text with
  | 0, _ | _, [] => .ok []
  | fuel + 1, c :: rest =>
    if c = ' ' ∨ c = '\t' ∨ c = '\n' then formulaTokens rest fuel
    else if c.isDigit then
      match takeInteger? text with
      | some (value, rest) =>
        (formulaTokens rest fuel).map (.number (clampInteger value) :: ·)
      | none => .error ("expecting primary")
    else if c.isAlpha ∨ c = '_' then
      let isPart (c : Char) : Bool := c.isAlphanum || c = '_'
      (formulaTokens (rest.dropWhile isPart) fuel).map
        (.name (String.ofList (c :: rest.takeWhile isPart)) :: ·)
    else match formulaSigns.find? fun sign => sign.toList.isPrefixOf text with
      | some sign => (formulaTokens (text.drop sign.length) fuel).map (.sign sign :: ·)
      | none => .error ("expecting EOF")

/-- How tightly an operator binds. -/
def formulaRank? (sign : String) : Option Nat :=
  match sign with
  | "||" => some 1
  | "&&" => some 2
  | "|" => some 3
  | "^" => some 4
  | "&" => some 5
  | "==" | "!=" => some 6
  | "<" | ">" | "<=" | ">=" => some 7
  | "<<" | ">>" => some 8
  | "+" | "-" => some 9
  | "*" | "/" | "%" => some 10
  | _ => none

def intOfBool (b : Bool) : Int := if b then 1 else 0

/-- The bits of an integer as a number without a sign. -/
def bitsOf (value : Int) : Nat := (value % Int.pow 2 64).toNat

def combine (sign : String) (a b : Int) : Except String Int :=
  match sign with
  | "||" => .ok (intOfBool (a ≠ 0 || b ≠ 0))
  | "&&" => .ok (intOfBool (a ≠ 0 && b ≠ 0))
  | "|" => .ok (wrapInteger (bitsOf a ||| bitsOf b : Nat))
  | "^" => .ok (wrapInteger (bitsOf a ^^^ bitsOf b : Nat))
  | "&" => .ok (wrapInteger (bitsOf a &&& bitsOf b : Nat))
  | "==" => .ok (intOfBool (a = b))
  | "!=" => .ok (intOfBool (a ≠ b))
  | "<" => .ok (intOfBool (a < b))
  | ">" => .ok (intOfBool (a > b))
  | "<=" => .ok (intOfBool (a ≤ b))
  | ">=" => .ok (intOfBool (a ≥ b))
  | "<<" => .ok (wrapInteger (a * Int.pow 2 (bitsOf b % 64)))
  | ">>" => .ok (a / Int.pow 2 (bitsOf b % 64))
  | "+" => .ok (wrapInteger (a + b))
  | "-" => .ok (wrapInteger (a - b))
  | "*" => .ok (wrapInteger (a * b))
  | "/" => if b = 0 then .error "division by zero" else .ok (wrapInteger (a.tdiv b))
  | "%" => if b = 0 then .error "division by zero" else .ok (wrapInteger (a.tmod b))
  | _ => .ok b

/-- What is ahead in a formula, and the values of variables. -/
structure FormulaState where
  ahead : List FormulaToken
  bindings : List (String × String)

abbrev FormulaReader := StateT FormulaState (Except String)

def variableValue (name : String) : FormulaReader Int := do
  match (← get).bindings.lookup name with
  | none | some "" => return 0
  | some text =>
    match signedInteger? text with
    | some value => return value
    | none => throw ("Illegal number: " ++ text)

def assignVariable (name : String) (value : Int) : FormulaReader Unit :=
  modify fun state => { state with bindings := (name, toString value) :: state.bindings }

def expectSign (sign : String) : FormulaReader Unit := do
  let state ← get
  if state.ahead.head? = some (.sign sign) then set { state with ahead := state.ahead.drop 1 }
  else throw ("expecting '" ++ sign ++ "'")

/-- The operator of an assignment that computes with the old value. -/
def compoundSign? (sign : String) : Option String :=
  if ["<<=", ">>=", "+=", "-=", "*=", "/=", "%=", "&=", "^=", "|="].contains sign then
    some (String.ofList sign.toList.dropLast)
  else none

mutual

/-- Reads a value with its assignments; what does not count is neither divided nor assigned. -/
def readFormula (counts : Bool) (fuel : Nat) : FormulaReader Int := do
  match fuel with
  | 0 => throw "too long"
  | fuel + 1 =>
    match (← get).ahead with
    | .name name :: .sign sign :: rest =>
      let compound := compoundSign? sign
      if sign = "=" ∨ compound.isSome then
        modify fun state => { state with ahead := rest }
        let value ← readFormula counts fuel
        let value ← match compound with
          | some sign => if counts then do combine sign (← variableValue name) value else pure value
          | none => pure value
        if counts then assignVariable name value
        return value
      else readChoice counts fuel
    | _ => readChoice counts fuel

def readChoice (counts : Bool) (fuel : Nat) : FormulaReader Int := do
  match fuel with
  | 0 => throw "too long"
  | fuel + 1 =>
    let first ← readPrimary counts fuel
    let test ← readOperators counts 1 first fuel
    if (← get).ahead.head? = some (.sign "?") then
      modify fun state => { state with ahead := state.ahead.drop 1 }
      let yes ← readFormula (counts && test ≠ 0) fuel
      expectSign ":"
      let no ← readChoice (counts && test = 0) fuel
      return if test ≠ 0 then yes else no
    else return test

/-- The operators of at least a rank that follow a value. -/
def readOperators (counts : Bool) (rank : Nat) (first : Int) (fuel : Nat) : FormulaReader Int := do
  match fuel with
  | 0 => throw "too long"
  | fuel + 1 =>
    match (← get).ahead with
    | .sign sign :: rest =>
      match formulaRank? sign with
      | some own =>
        if own < rank then return first
        modify fun state => { state with ahead := rest }
        let inner := counts && !(sign = "&&" && first = 0) && !(sign = "||" && first ≠ 0)
        let second ← readPrimary inner fuel
        let second ← readOperators inner (own + 1) second fuel
        let value ← if counts ∧ inner then combine sign first second
          else pure (if sign = "||" then intOfBool (first ≠ 0) else 0)
        readOperators counts rank value fuel
      | none => return first
    | _ => return first

def readPrimary (counts : Bool) (fuel : Nat) : FormulaReader Int := do
  match fuel with
  | 0 => throw "too long"
  | fuel + 1 =>
    let state ← get
    match state.ahead with
    | .number value :: rest =>
      set { state with ahead := rest }
      return value
    | .name name :: rest =>
      set { state with ahead := rest }
      variableValue name
    | .sign "(" :: rest =>
      set { state with ahead := rest }
      let value ← readFormula counts fuel
      expectSign ")"
      return value
    | .sign "-" :: rest =>
      set { state with ahead := rest }
      return wrapInteger (-(← readPrimary counts fuel))
    | .sign "+" :: rest =>
      set { state with ahead := rest }
      readPrimary counts fuel
    | .sign "~" :: rest =>
      set { state with ahead := rest }
      return -(← readPrimary counts fuel) - 1
    | .sign "!" :: rest =>
      set { state with ahead := rest }
      return intOfBool ((← readPrimary counts fuel) = 0)
    | [] => throw "expecting primary"
    | _ => throw "expecting primary"

end

/-- The value of a formula, and the values of variables after it; the last assignment stands first. -/
def evaluateFormula (bindings : List (String × String)) (text : String) :
    Except String (Int × List (String × String)) := do
  let tokens ← formulaTokens text.toList (text.length + 1)
  if tokens.isEmpty then return (0, bindings)
  let (value, final) ← (readFormula true (8 * tokens.length + 16)).run ⟨tokens, bindings⟩
  if final.ahead.isEmpty then return (value, final.bindings) else throw "expecting EOF"

end HeaderBindings
