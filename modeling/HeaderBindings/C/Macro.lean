import HeaderBindings.C.Token

/-!
Macros: their parameters, the items of their bodies, and what comes of a body when the arguments
are filled in. Arguments are filled in first, as written next to a pasting and expanded elsewhere,
and the tokens on both sides of a pasting are written as one afterwards.
-/

namespace HeaderBindings

def Token.isSign (token : Token) (text : String) : Bool :=
  token.kind = .punctuator && token.text = text

def Token.isName (token : Token) : Bool := token.kind = .identifier

/-- An item of a macro's body. -/
inductive BodyItem where
  | plain (token : Token)
  | parameter (token : Token)
  /-- A parameter behind a number sign. -/
  | spelling (sign token : Token)
  | pasting (token : Token)
  /-- The start of a group that counts only when there are further arguments. -/
  | groupStart (sign : Option Token) (word : Token)
  | groupEnd (token : Token)

/-- The first token of an item. -/
def BodyItem.lead : BodyItem → Token
  | .plain token => token
  | .parameter token => token
  | .spelling sign _ => sign
  | .pasting token => token
  | .groupStart sign word => sign.getD word
  | .groupEnd token => token

def BodyItem.isPasting : BodyItem → Bool
  | .pasting _ => true
  | _ => false

def BodyItem.isGroupEnd : BodyItem → Bool
  | .groupEnd _ => true
  | _ => false

structure Macro where
  /-- The names of the parameters, when the macro takes a list of arguments. -/
  parameters : Option (List String)
  /-- The name that stands for all further arguments. -/
  rest : Option String
  body : List BodyItem

def Macro.takesArguments (definition : Macro) : Bool := definition.parameters.isSome

/-- How many parameters there are, the one for further arguments included. -/
def Macro.parameterCount (definition : Macro) : Nat :=
  (definition.parameters.getD []).length + if definition.rest.isSome then 1 else 0

def groupWord : String := "__VA_OPT__"

/-- The parameters that a body can mention. -/
structure BodyNames where
  takesArguments : Bool
  names : List String
  /-- Whether there may be groups for further arguments. -/
  variadic : Bool

def BodyNames.isParameter (names : BodyNames) (token : Token) : Bool :=
  token.isName && names.names.contains token.text

/-- Whether a group starts with these tokens. -/
def BodyNames.startsGroup (names : BodyNames) (tokens : List Token) : Bool :=
  match tokens with
  | word :: bracket :: _ =>
    names.variadic && word.isName && word.text = groupWord && bracket.isSign "("
  | _ => false

/-- The items of a body. Inside a group, `depth` counts the open parentheses, its own included;
`skip` tokens in front are part of an item that was read already. -/
def bodyItems (names : BodyNames) (depth skip : Nat) : List Token → List BodyItem
  | [] => []
  | token :: tokens =>
    match skip with
    | skip + 1 => bodyItems names depth skip tokens
    | 0 =>
      if token.isSign "##" then .pasting token :: bodyItems names depth 0 tokens
      else if depth = 0 && names.startsGroup (token :: tokens) then
        .groupStart none token :: bodyItems names 1 1 tokens
      else if names.takesArguments && token.isSign "#" && depth = 0 && names.startsGroup tokens then
        match tokens with
        | word :: _ => .groupStart (some token) word :: bodyItems names 1 2 tokens
        | [] => []
      else if names.takesArguments && token.isSign "#"
          && tokens.head?.any names.isParameter then
        match tokens with
        | parameter :: _ => .spelling token parameter :: bodyItems names depth 1 tokens
        | [] => []
      else if names.isParameter token then .parameter token :: bodyItems names depth 0 tokens
      else if 0 < depth && token.isSign "(" then
        .plain token :: bodyItems names (depth + 1) 0 tokens
      else if 0 < depth && token.isSign ")" then
        (if depth = 1 then .groupEnd token else .plain token)
          :: bodyItems names (depth - 1) 0 tokens
      else .plain token :: bodyItems names depth 0 tokens

def Macro.ofTokens (parameters : Option (List String)) (rest : Option String)
    (tokens : List Token) : Macro :=
  let names := parameters.getD [] ++ rest.toList
  ⟨parameters, rest, bodyItems ⟨parameters.isSome, names, rest.isSome⟩ 0 0 tokens⟩

/-- The parameters of a macro up to the closing parenthesis, the name of the rest, and the body. -/
def readParameters (names : List String) : List Token → List String × Option String × List Token
  | [] => (names.reverse, none, [])
  | token :: tokens =>
    if token.isSign ")" then (names.reverse, none, tokens)
    else if token.isSign "," then readParameters names tokens
    else if token.isSign "..." then (names.reverse, some "__VA_ARGS__", tokens.drop 1)
    else match tokens with
      | dots :: rest =>
        if dots.isSign "..." then (names.reverse, some token.text, rest.drop 1)
        else readParameters (token.text :: names) tokens
      | [] => ((token.text :: names).reverse, none, [])

/-- A macro from the tokens behind its name. -/
def Macro.ofDefinition (tokens : List Token) : Macro :=
  match tokens with
  | bracket :: rest =>
    if bracket.isSign "(" && !bracket.spaced then
      let (names, further, body) := readParameters [] rest
      .ofTokens (some names) further body
    else .ofTokens none none tokens
  | [] => .ofTokens none none []

/-- Where and how a macro is called. -/
structure MacroCall where
  used : Stretch
  line : Nat
  spent : List String

def Token.inCall (call : MacroCall) (origin : TokenOrigin) (token : Token) : Token :=
  { token with origin, used := call.used, line := call.line, startsLine := false
               spaced := token.spaced || token.startsLine
               spent := token.spent ++ call.spent }

def escapeQuoted : List Char → List Char
  | [] => []
  | c :: rest =>
    if c = '"' ∨ c = '\\' then '\\' :: c :: escapeQuoted rest else c :: escapeQuoted rest

/-- A backslash at the end that no other one escapes is left out. -/
def trimBackslash (text : List Char) : List Char :=
  if (text.reverse.takeWhile (· = '\\')).length % 2 = 1 then text.dropLast else text

/-- The spelling of some tokens, with one space for white space between them. -/
def spellTokens (tokens : List Token) : List Char :=
  let spell (token : Token) : List Char :=
    (if token.spaced || token.startsLine then [' '] else [])
      ++ (if token.kind = .string ∨ token.kind = .character then
          escapeQuoted token.spelling.toList
        else token.spelling.toList)
  trimBackslash (match tokens.flatMap spell with
    | ' ' :: rest => rest
    | text => text)

/-- A token that is spelled in no file. -/
def Token.madeUp (pattern : Token) (kind : LexemeKind) (text : String) : Token :=
  { pattern with kind, text, spelling := text, written := text, spelled := none, origin := .body }

/-- A string that spells some tokens. -/
def Token.spellingOf (sign : Token) (spaced : Bool) (tokens : List Token) : Token :=
  { sign.madeUp .string (String.ofList ('"' :: spellTokens tokens ++ ['"'])) with spaced }

/-- Two tokens written as one, when that is one token. -/
def Token.paste? (language : Language) (left right : Token) : Option Token :=
  let spelling := left.spelling ++ right.spelling
  match lexText language .undirected spelling.toList with
  | [lexeme] =>
    let made := left.madeUp lexeme.kind lexeme.text
    let made := if lexeme.kind = .punctuator then { made with text := plainSign lexeme.text }
      else made
    let pasting := made.isSign "##"
    some { made with spelling, spent := left.spent.filter right.spent.contains
                     kind := if pasting then .unknown else made.kind }
  | _ => none

/-- A part of an expansion: a token, or the sign that its neighbours are to be pasted. -/
inductive Piece where
  | token (token : Token)
  | pasting

def Piece.isPasting : Piece → Bool
  | .pasting => true
  | .token _ => false

/-- Writes the tokens on both sides of each pasting as one, from the left. -/
def joinPieces (language : Language) (left : Option Token) : List Piece → List Token
  | [] => left.toList
  | .token token :: rest => left.toList ++ joinPieces language (some token) rest
  | .pasting :: .token right :: rest =>
    match left with
    | none => joinPieces language (some right) rest
    | some token =>
      match token.paste? language right with
      | some pasted => joinPieces language (some pasted) rest
      | none => token :: joinPieces language (some right) rest
  | .pasting :: rest => joinPieces language left rest

/-- An argument as written and fully expanded. -/
structure Argument where
  written : List Token
  expanded : List Token

/-- A group for further arguments while it is filled in. -/
structure OpenGroup where
  sign : Option Token
  signSpaced : Bool
  /-- How many pieces there were before the group. -/
  before : Nat
  /-- Whether its first parameter was empty and stands behind a pasting. -/
  emptyStart : Bool
  /-- Whether its last parameter was empty. -/
  emptyEnd : Bool

/-- A body that is being filled in; the pieces found so far are held in reverse. -/
structure Filling where
  pieces : List Piece
  /-- Whether white space comes before the next piece. -/
  spaced : Bool
  group : Option OpenGroup

/-- What the items of a body are filled in with. -/
structure FillContext where
  language : Language
  call : MacroCall
  rest : Option String
  parameterCount : Nat
  argument : String → Argument
  /-- Whether no further argument was given, not even an empty one. -/
  elided : Bool

/-- Whether there is anything in the further arguments. -/
def FillContext.hasFurther (context : FillContext) : Bool :=
  context.rest.any fun name => !(context.argument name).expanded.isEmpty

def setSpaced (spaced : Bool) : List Token → List Token
  | [] => []
  | token :: rest => { token with spaced } :: rest

/-- A sign of pasting that comes with an argument pastes nothing. -/
def Token.asOperand (token : Token) : Token :=
  if token.isSign "##" then { token with kind := .unknown } else token

def Filling.add (filling : Filling) (tokens : List Token) : Filling :=
  { filling with pieces := (tokens.map Piece.token).reverse ++ filling.pieces, spaced := false }

def Filling.endsPasting (filling : Filling) : Bool := filling.pieces.head?.any Piece.isPasting

/-- A comma in front of further arguments goes with them when they are left out. -/
def Filling.dropComma (filling : Filling) (context : FillContext) (name : String) : Filling :=
  let strict := context.language.strict && 1999 ≤ context.language.edition
  if !context.elided || context.rest ≠ some name || (strict && context.parameterCount < 2) then
    filling
  else match filling.pieces with
    | .token comma :: before =>
      if comma.isSign "," then
        let before := match before with
          | .pasting :: earlier => earlier
          | other => other
        { filling with pieces := before, spaced := false }
      else filling
    | _ => filling

/-- What stands around an item of a body. -/
structure ItemPlace where
  behindPasting : Bool
  beforePasting : Bool
  endsGroup : Bool

def Filling.noteEmptyEnd (filling : Filling) : Filling :=
  { filling with group := filling.group.map fun group => { group with emptyEnd := true } }

def Filling.noteEmptyStart (filling : Filling) : Filling :=
  { filling with group := filling.group.map fun group => { group with emptyStart := true } }

/-- Fills in a parameter; the answer says whether the pasting behind it goes too. -/
def Filling.addParameter (filling : Filling) (context : FillContext) (place : ItemPlace)
    (token : Token) : Filling × Bool :=
  let argument := context.argument token.text
  let tokens (chosen : List Token) : List Token :=
    setSpaced filling.spaced (chosen.map fun token =>
      (token.inCall context.call .argument).asOperand)
  if !place.behindPasting && !place.beforePasting then
    if argument.expanded.isEmpty then
      (if place.endsGroup then filling.noteEmptyEnd else filling, false)
    else (filling.add (tokens argument.expanded), false)
  else if !argument.written.isEmpty then
    match filling.pieces with
    | .pasting :: .token comma :: before =>
      if comma.isSign "," && context.rest = some token.text then
        let kept := argument.written.map fun token =>
          (token.inCall context.call .argument).asOperand
        ({ filling with pieces := .token comma :: before }.add kept, false)
      else (filling.add (tokens argument.written), false)
    | _ => (filling.add (tokens argument.written), false)
  else if place.beforePasting then (filling, true)
  else
    let noted := if place.endsGroup && !filling.endsPasting then filling.noteEmptyEnd else filling
    let cut :=
      if filling.endsPasting then
        if filling.group.all fun group => group.before < filling.pieces.length then
          { noted with pieces := noted.pieces.drop 1 }
        else noted.noteEmptyStart
      else noted
    (cut.dropComma context token.text, false)

/-- Closes a group; the answer says whether a pasting behind it goes too. -/
def Filling.closeGroup (filling : Filling) (context : FillContext) (place : ItemPlace)
    (group : OpenGroup) : Filling × Bool :=
  let count := filling.pieces.length - group.before
  let inside := filling.pieces.take count
  let outside := filling.pieces.drop count
  let closed : Filling := { filling with group := none }
  match group.sign with
  | some sign =>
    let tokens := joinPieces context.language none inside.reverse
    let made := (sign.inCall context.call .body).spellingOf group.signSpaced tokens
    ({ closed with pieces := .token made :: outside }, false)
  | none =>
    if inside.isEmpty then
      if closed.endsPasting then ({ closed with pieces := closed.pieces.drop 1 }, false)
      else (closed, place.beforePasting)
    else
      let pieces := if group.emptyStart then inside ++ outside.drop 1 else closed.pieces
      ({ closed with pieces }, group.emptyEnd && place.beforePasting)

/-- Adds an item to what was filled in so far; the answer says whether a pasting behind it goes
too. -/
def Filling.addItem (filling : Filling) (context : FillContext) (place : ItemPlace)
    (item : BodyItem) : Filling × Bool :=
  match item, filling.group with
  | .groupEnd _, some group => filling.closeGroup context place group
  | .groupStart sign word, _ =>
    let group : OpenGroup := ⟨sign, filling.spaced, filling.pieces.length, false, false⟩
    ({ filling with group := some group, spaced := filling.spaced || word.spaced }, false)
  | item, group =>
    if group.isSome && !context.hasFurther then (filling, false)
    else match item with
      | .pasting _ => ({ filling with pieces := .pasting :: filling.pieces, spaced := false }, false)
      | .parameter token => filling.addParameter context place token
      | .spelling sign token =>
        let written := (context.argument token.text).written
        let made := (sign.inCall context.call .body).spellingOf filling.spaced written
        (filling.add [made], false)
      | other =>
        let token := other.lead.inCall context.call .body
        let spaced := filling.spaced
          || (token.spaced && !(place.behindPasting && !filling.endsPasting))
        (filling.add [{ token with spaced }], false)

/-- Fills in the items of a body; `previous` is the item before, and `skips` says that the next
item is a pasting without anything in front. -/
def fillItems (context : FillContext) (filling : Filling) (previous : Option BodyItem)
    (skips : Bool) : List BodyItem → List Piece
  | [] => filling.pieces.reverse
  | item :: items =>
    if skips then fillItems context filling (some item) false items
    else
      let behindPasting := previous.any BodyItem.isPasting
      let filling := if previous.isSome && !behindPasting && item.lead.spaced then
          { filling with spaced := true }
        else filling
      let place : ItemPlace :=
        { behindPasting, beforePasting := items.head?.any BodyItem.isPasting
          endsGroup := items.head?.any BodyItem.isGroupEnd }
      let (filling, skips) := filling.addItem context place item
      fillItems context filling (some item) skips items

/-- Gives the first token of an expansion the surroundings of the name that was expanded. -/
def takeSurroundings (name : Token) : List Token → List Token
  | [] => []
  | first :: rest => { first with startsLine := name.startsLine, spaced := name.spaced } :: rest

/-- The parameters whose expanded arguments go into the body, in the order of their first use. -/
def neededNames (rest : Option String) (done : List String) (behindPasting : Bool) :
    List BodyItem → List String
  | [] => done.reverse
  | item :: items =>
    let beforePasting := items.head?.any BodyItem.isPasting
    let name := match item with
      | .parameter token => if behindPasting || beforePasting then none else some token.text
      | .groupStart _ _ => rest
      | _ => none
    let done := match name with
      | some name => if done.contains name then done else name :: done
      | none => done
    neededNames rest done item.isPasting items

/-- What comes of a call, before it is read again. -/
def Macro.expansion (definition : Macro) (language : Language) (name close : Token)
    (spent : List String) (arguments : List (String × Argument)) (elided : Bool) : List Token :=
  let call : MacroCall := ⟨⟨name.used.start, close.used.stop⟩, close.line, spent⟩
  let argument (key : String) : Argument := (arguments.lookup key).getD ⟨[], []⟩
  let context : FillContext :=
    ⟨language, call, definition.rest, definition.parameterCount, argument, elided⟩
  let pieces := fillItems context ⟨[], false, none⟩ none false definition.body
  takeSurroundings name (joinPieces language none pieces)

/-- A file's tokens with a mark where the file ends. -/
inductive StreamItem where
  | token (token : Token)
  | fileEnd

/-- The arguments of a call up to its closing parenthesis, that parenthesis, and the rest. After
`limit` arguments a comma no longer separates. -/
def collectArguments (limit : Option Nat) (depth : Nat) (current : List Token)
    (done : List (List Token)) :
    List StreamItem → Option (List (List Token) × Token × List StreamItem)
  | [] => none
  | .fileEnd :: _ => none
  | .token token :: items =>
    if token.isSign "(" then collectArguments limit (depth + 1) (token :: current) done items
    else if token.isSign ")" then
      match depth with
      | 0 => some ((current.reverse :: done).reverse, token, items)
      | depth + 1 => collectArguments limit depth (token :: current) done items
    else if token.isSign "," && depth = 0 && limit ≠ some done.length then
      collectArguments limit depth [] (current.reverse :: done) items
    else collectArguments limit depth (token :: current) done items

/-- The arguments of a call by parameter name. -/
structure BoundArguments where
  written : List (String × List Token)
  /-- Whether no further argument was given. -/
  elided : Bool

/-- The arguments by parameter name, when there are as many as the macro takes. -/
def Macro.bind? (definition : Macro) (given : List (List Token)) : Option BoundArguments :=
  let names := definition.parameters.getD []
  let given := match given with
    | [[]] => []
    | other => other
  let count := definition.parameterCount
  match definition.rest with
  | none =>
    if given.length = count then some ⟨names.zip given, false⟩
    else if given.isEmpty && count = 1 then some ⟨names.map fun name => (name, []), false⟩
    else none
  | some rest =>
    if given.length = count then some ⟨(names ++ [rest]).zip given, false⟩
    else if given.length + 1 = count || (given.isEmpty && count = 2) then
      let empty := (names.drop given.length ++ [rest]).map fun name => (name, [])
      some ⟨names.zip given ++ empty, true⟩
    else none

end HeaderBindings
