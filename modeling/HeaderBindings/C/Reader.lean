import HeaderBindings.C.Attribute
import HeaderBindings.C.Declaration
import HeaderBindings.C.Initializer
import HeaderBindings.C.Source
import HeaderBindings.C.Word

/-!
What a reader of C declarations knows at some point: the tokens ahead, the last token it took, the
tags and names in scope, and the declarations found so far.
-/

namespace HeaderBindings

/-- A variable or a function: its type, what it holds if that never changes, and the alignment that
was asked for. -/
structure NamedObject where
  type : CType
  contents : Option (List (Nat × Option Scalar))
  aligned : Option Nat

inductive NameMeaning where
  | typeName (type : CType)
  | constant (quantity : Quantity)
  | value (object : NamedObject)

def NameMeaning.ofType (type : CType) : NameMeaning := .value ⟨type, none, none⟩

/-- The names of one scope, tags apart. -/
structure NameScope where
  /-- Which list of parameters the scope belongs to; zero is the file. -/
  list : Nat
  tags : List (String × Nat)
  names : List (String × NameMeaning)

/-- A declaration and the list of parameters that it was found in. -/
structure FoundDeclaration where
  declaration : Declaration
  list : Nat

structure ReaderState where
  ahead : List Token
  last : Option Token
  language : Language
  target : Target
  tags : TagTable
  /-- The innermost scope comes first. -/
  scopes : List NameScope
  /-- How many bodies of tags the point is in. -/
  depth : Nat
  /-- How many lists of parameters were opened so far. -/
  lists : Nat
  /-- The declarations so far, the last one first. -/
  found : List FoundDeclaration

abbrev Reader := StateT ReaderState Option

namespace Reader

def peek : Reader Token := do
  match (← get).ahead with
  | token :: _ => return token
  | [] => failure

def peekSecond : Reader (Option Token) := do return ((← get).ahead.drop 1).head?

def next : Reader Token := do
  let state ← get
  match state.ahead with
  | token :: rest =>
    set { state with ahead := rest, last := some token }
    return token
  | [] => failure

def atSign (text : String) : Reader Bool := do
  return (← get).ahead.head?.any fun token => token.isSign text

/-- Takes a sign when it is next. -/
def accept (text : String) : Reader Bool := do
  if ← atSign text then
    let _ ← next
    return true
  else return false

def expect (text : String) : Reader Unit := do
  if ← accept text then return () else failure

def wordOf (token : Token) : Reader (Option Word) := do
  let language := (← get).language
  return if token.isName then Word.ofText? language token.text else none

/-- The reserved word that is next. -/
def peekWord : Reader (Option Word) := do
  match (← get).ahead with
  | token :: _ => wordOf token
  | [] => return none

def atWord (accepted : Word → Bool) : Reader Bool := do
  return (← peekWord).any accepted

def acceptWord (accepted : Word → Bool) : Reader Bool := do
  if ← atWord accepted then
    let _ ← next
    return true
  else return false

/-- The last token that was taken. -/
def last : Reader Token := do
  match (← get).last with
  | some token => return token
  | none => failure

def context : Reader TypeContext := do
  let state ← get
  return ⟨state.language, state.target, state.tags⟩

end Reader

/-- Splits tokens behind the bracket that closes those opened: the inside and the closing bracket,
and what follows. -/
def splitBalanced (depth : Nat) (inner : List Token) :
    List Token → Option (List Token × Token × List Token)
  | [] => none
  | token :: rest =>
    if token.opens then splitBalanced (depth + 1) (token :: inner) rest
    else if token.closes then
      match depth with
      | 0 => some (inner.reverse, token, rest)
      | depth + 1 => splitBalanced depth (token :: inner) rest
    else splitBalanced depth (token :: inner) rest

/-- Splits tokens in front of the first of some signs outside brackets; the last token passed comes
first. -/
def splitBefore (signs : List String) (depth : Nat) (passed : List Token) :
    List Token → List Token × List Token
  | [] => (passed, [])
  | token :: rest =>
    if depth = 0 ∧ token.kind = .punctuator ∧ signs.contains token.text then
      (passed, token :: rest)
    else if token.opens then splitBefore signs (depth + 1) (token :: passed) rest
    else if token.closes then splitBefore signs (depth - 1) (token :: passed) rest
    else splitBefore signs depth (token :: passed) rest

namespace Reader

/-- Takes a bracketed group, whose tokens are given back without the brackets. -/
def balanced : Reader (List Token) := do
  let first ← next
  if !first.opens then failure
  let state ← get
  match splitBalanced 0 [] state.ahead with
  | some (inner, close, rest) =>
    set { state with ahead := rest, last := some close }
    return inner
  | none => failure

/-- Takes all tokens up to one of some signs outside brackets. -/
def skipBefore (signs : List String) : Reader Unit := do
  let state ← get
  let (passed, rest) := splitBefore signs 0 [] state.ahead
  set { state with ahead := rest, last := passed.head?.or state.last }

/-- Reads something in other tokens, and goes on where the point was. -/
def inside (tokens : List Token) (action : Reader α) : Reader (Option α) := fun state =>
  match action.run { state with ahead := tokens } with
  | some (found, after) => some (some found, { after with ahead := state.ahead, last := state.last })
  | none => some (none, state)

/-! Scopes. -/

def lookupName (name : String) : Reader (Option NameMeaning) := do
  return (← get).scopes.findSome? fun scope => scope.names.lookup name

def lookupTag (name : String) : Reader (Option Nat) := do
  return (← get).scopes.findSome? fun scope => scope.tags.lookup name

def lookupTagHere (name : String) : Reader (Option Nat) := do
  return (← get).scopes.head?.bind fun scope => scope.tags.lookup name

def changeScope (change : NameScope → NameScope) : Reader Unit :=
  modify fun state => match state.scopes with
    | scope :: rest => { state with scopes := change scope :: rest }
    | [] => state

def bindName (name : String) (meaning : NameMeaning) : Reader Unit :=
  changeScope fun scope => { scope with names := (name, meaning) :: scope.names }

def bindTag (name : String) (id : Nat) : Reader Unit :=
  changeScope fun scope => { scope with tags := (name, id) :: scope.tags }

/-- Opens the scope of a list of parameters and gives its number. -/
def openScope : Reader Nat := do
  let state ← get
  let list := state.lists + 1
  set { state with lists := list, scopes := ⟨list, [], []⟩ :: state.scopes }
  return list

def closeScope : Reader Unit :=
  modify fun state => { state with scopes := state.scopes.drop 1 }

/-! Tags and declarations. -/

def newTag (kind : TagKind) (name : Option String) : Reader Nat := do
  let state ← get
  let id := state.tags.length
  let tag : Tag := ⟨kind, name, none, .incomplete⟩
  set { state with tags := state.tags ++ [tag] }
  if let some name := name then bindTag name id
  return id

def changeTag (id : Nat) (change : Tag → Tag) : Reader Unit :=
  modify fun state => { state with tags := state.tags.modify id change }

def getTag? (id : Nat) : Reader (Option Tag) := do return (← get).tags[id]?

/-- Records a declaration, unless the point is inside the body of a tag. -/
def declare (declaration : Declaration) : Reader Unit :=
  modify fun state =>
    if state.depth = 0 then
      let list := (state.scopes.head?.map NameScope.list).getD 0
      { state with found := ⟨declaration, list⟩ :: state.found }
    else state

/-- Records a declaration in front of those that an action finds; the action gives what goes into
the declaration as well. -/
def declareBefore (action : Reader Declaration) : Reader Unit := do
  let before := (← get).found.length
  let declaration ← action
  let after := (← get).found
  let inner := after.take (after.length - before)
  modify fun state => { state with found := after.drop (after.length - before) }
  declare declaration
  modify fun state => { state with found := inner ++ state.found }

def enterBody : Reader Unit := modify fun state => { state with depth := state.depth + 1 }

def leaveBody : Reader Unit := modify fun state => { state with depth := state.depth - 1 }

/-! Words and attributes. -/

/-- Whether a token starts the name of a type or a declaration. -/
def startsType (token : Token) : Reader Bool := do
  if !token.isName then return false
  match ← wordOf token with
  | some word => return word.startsType
  | none =>
    match ← lookupName token.text with
    | some (.typeName _) => return true
    | _ => return false

def atType : Reader Bool := do
  match (← get).ahead with
  | token :: _ => startsType token
  | [] => return false

/-- Whether the second token ahead starts the name of a type. -/
def secondStartsType : Reader Bool := do
  match ← peekSecond with
  | some token => startsType token
  | none => return false

/-- Whether attributes in double brackets are next. -/
def atBrackets : Reader Bool := do
  match (← get).ahead with
  | first :: second :: _ => return first.isSign "[" && second.isSign "["
  | _ => return false

/-- Takes attributes in double brackets. -/
def bracketAttributes (fuel : Nat) (found : List Attribute) : Reader (List Attribute) :=
  match fuel with
  | 0 => return found
  | fuel + 1 => do
    if ← atBrackets then
      let outer ← balanced
      match splitBalanced 0 [] (outer.drop 1) with
      | some (inner, _, _) => bracketAttributes fuel (found ++ attributesIn [] 0 inner)
      | none => bracketAttributes fuel found
    else return found

/-- Takes attributes and assembler labels, and gives the attributes. -/
def attributesWith (fuel : Nat) (found : List Attribute) : Reader (List Attribute) :=
  match fuel with
  | 0 => return found
  | fuel + 1 => do
    if ← acceptWord (· = .attribute) then
      let outer ← balanced
      match splitBalanced 0 [] (outer.drop 1) with
      | some (inner, _, _) => attributesWith fuel (found ++ attributesIn [] 0 inner)
      | none => attributesWith fuel found
    else if ← acceptWord (· = .label) then
      skipBefore ["("]
      let _ ← balanced
      attributesWith fuel found
    else if ← acceptWord (· = .extension) then attributesWith fuel found
    else if ← atBrackets then
      let more ← bracketAttributes fuel []
      attributesWith fuel (found ++ more)
    else return found

def attributes : Reader (List Attribute) := do
  attributesWith (← get).ahead.length []

/-- Takes the attributes in double brackets that are next. -/
def attributesInBrackets : Reader (List Attribute) := do
  bracketAttributes (← get).ahead.length []

end Reader

end HeaderBindings
