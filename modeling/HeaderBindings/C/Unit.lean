import HeaderBindings.C.Grammar

/-!
A translation unit: all declarations at file scope, in the order of their sources. The names that a
declaration introduces are known from there on. What cannot be read is passed over up to the next
semicolon.
-/

namespace HeaderBindings

structure TranslationUnit where
  source : Source
  declarations : List Declaration
  tags : TagTable
  target : Target

/-- The style of a function without a prototype, once a prototype was seen before. -/
def CType.withEarlierStyle (type : CType) (earlier : Option NameMeaning) : CType :=
  match type.shown, earlier with
  | .function result parameters .unprototyped, some (.value earlier) =>
    match earlier.type.inside with
    | .function _ _ style => .function result parameters style
    | _ => type
  | _, _ => type

/-- Whether a type is a function or a pointer to one. -/
def CType.isCallable (type : CType) : Bool :=
  type.isFunction || type.pointee?.any CType.isFunction

/-- Whether a tag that was found between the parentheses of a function stays there. -/
def Declaration.staysWithParameters (tags : TagTable) (declaration : Declaration) : Bool :=
  match declaration.body with
  | .tag id _ => tags[id]?.any fun tag => tag.name.isSome || tag.kind = .enumeration
  | _ => false

namespace Reader

/-- A semicolon that ends nothing; those behind it on the same line count as one with it. -/
def emptyDeclaration : Reader Unit := do
  let sign ← next
  declare ⟨"", sign.used.start, sign.startMark, sign.stopMark, .other⟩
  modify fun state =>
    { state with ahead := state.ahead.dropWhile fun token =>
        token.isSign ";" && !token.startsLine }

/-- An assertion or a piece of assembler. -/
def bracketedDeclaration : Reader Unit := do
  let word ← next
  skipBefore ["("]
  let _ ← balanced
  let close ← last
  declare ⟨"", word.used.start, word.startMark, close.stopMark, .other⟩
  expect ";"

/-- An unnamed tag that is defined right here goes by the first type name for exactly it. -/
def nameTag (specifiers : Specifiers) (type : CType) (name : String) : Reader Unit := do
  match specifiers.named, type.inside with
  | some (.tag id true), .tag same _ =>
    if id = same ∧ type.qualifiers = .none then
      changeTag id fun tag => { tag with aliasName := tag.aliasName.or (some name) }
  | _, _ => return ()

/-- Leaves the tags of a function's parameters to the function. -/
def keepWithFunction (list : Option Nat) : Reader Unit :=
  modify fun state =>
    { state with found := state.found.filter fun entry =>
        !(some entry.list = list && entry.declaration.staysWithParameters state.tags) }

/-- One name of a group: where the declaration starts, the name, the end of the declarator and the
end of the attributes behind it. -/
structure NamePlace where
  start : Token
  name : Token
  core : Token
  stop : Token

def NamePlace.declaration (place : NamePlace) (stop : Token) (body : DeclarationBody) :
    Declaration :=
  ⟨place.name.text, place.name.used.start, place.start.startMark, stop.stopMark, body⟩

/-- The end of a declarator that goes on behind its name or not. -/
def NamePlace.nameOrType (place : NamePlace) (type : CType) : Token :=
  if type.endsDeclarator then place.core else place.name

/-- Declares a name for a type. -/
def declareTypeName (place : NamePlace) (specifiers : Specifiers) (type : CType)
    (marks : List Attribute) (fuel : Nat) : Reader Unit := do
  let meaning := match ← alignmentOf marks fuel with
    | some bytes => .spelled (.aligned bytes) type
    | none => type
  bindName place.name.text (.typeName meaning)
  nameTag specifiers type place.name.text
  let own := marks.filter (Attribute.staysWithTypeName type.isCallable)
  declare (place.declaration (place.nameOrType type) (.typeName type own.length))

/-- Declares a function, and says whether it has a body. The parameters of a body can be declared
behind the parentheses. -/
def declareFunction (place : NamePlace) (list : Option Nat) (type : CType) : Reader Bool := do
  keepWithFunction list
  let type := type.withEarlierStyle (← lookupName place.name.text)
  bindName place.name.text (.ofType type)
  if ← atType then skipBefore ["\x7b"]
  if ← atSign "\x7b" then
    let _ ← balanced
    declare (place.declaration (← last) (.function type true))
    return true
  else
    declare (place.declaration place.stop (.function type false))
    return false

/-- An initializer that ends where the declarator does; one that cannot be read is passed over. -/
def initializerToEnd? (fuel : Nat) : Reader (Option Initializer) := do
  let whole : Reader (Option Initializer) := do
    let found ← initializer fuel
    if (← atSign ",") || (← atSign ";") then return some found else failure
  let skipped : Reader (Option Initializer) := do
    skipBefore [",", ";"]
    return none
  whole <|> skipped

/-- Declares a variable. What its initializer declares comes behind it. -/
def declareVariable (place : NamePlace) (inferred : Bool) (type : CType) (aligned : Option Nat)
    (fuel : Nat) : Reader Unit := do
  bindName place.name.text (.value ⟨type, none, aligned⟩)
  if ← accept "=" then
    declareBefore do
      let initial ← initializerToEnd? fuel
      let type := match inferred, initial with
        | true, some (.value e) => e.operand.type
        | _, _ => type
      let context ← context
      let object : NamedObject := match initial with
        | some initial =>
          let filled := initial.fill context type
          ⟨type.completed filled.count, constantContents type filled, aligned⟩
        | none => ⟨type, none, aligned⟩
      bindName place.name.text (.value object)
      return place.declaration (← last) .other
  else declare (place.declaration (place.nameOrType type) .other)

def declaratorGroup (start : Token) (specifiers : Specifiers) (fuel : Nat) : Reader Unit :=
  match fuel with
  | 0 => failure
  | fuel + 1 => do
    let early ← attributes
    let declarator ← declarator true fuel
    let core := declarator.stop.getD (← last)
    let before := (← get).ahead.length
    let late ← attributes
    let stop ← if (← get).ahead.length = before then pure core else last
    let marks := specifiers.attributes ++ early ++ declarator.attributes ++ late
    let type ← attributedType marks (declarator.shape specifiers.type) fuel
    match declarator.name with
    | none => failure
    | some name =>
      let place : NamePlace := ⟨start, name, core, stop⟩
      let hasBody ← if specifiers.isTypedef then do
          declareTypeName place specifiers type.folded marks fuel
          pure false
        else if type.isFunction then declareFunction place declarator.list type
        else do
          let aligned ← alignmentOf marks fuel
          declareVariable place specifiers.inferred type.folded aligned fuel
          pure false
      if hasBody then return ()
      else if ← accept "," then declaratorGroup start specifiers fuel
      else expect ";"

/-- Takes the words in front of a declaration that are no part of it. -/
def skipForewords (fuel : Nat) : Reader Unit :=
  match fuel with
  | 0 => return ()
  | fuel + 1 => do
    if ← acceptWord (· = .extension) then skipForewords fuel

def externalDeclaration (fuel : Nat) : Reader Unit := do
  skipForewords fuel
  let early ← attributesInBrackets
  if (← get).ahead.isEmpty then return ()
  else if ← atSign ";" then emptyDeclaration
  else if ← atWord fun word => word = .assertion || word = .label then bracketedDeclaration
  else
    let start ← peek
    let specifiers ← typeSpecifiers .start fuel
    let specifiers := { specifiers with attributes := early ++ specifiers.attributes }
    if ← accept ";" then return ()
    else declaratorGroup start specifiers fuel

end Reader

/-- Reads declarations to the end of the tokens. -/
def readDeclarations (depth : Nat) (state : ReaderState) (fuel : Nat) : ReaderState :=
  match fuel with
  | 0 => state
  | fuel + 1 =>
    if state.ahead.isEmpty then state
    else match (Reader.externalDeclaration depth).run state with
      | some ((), state) => readDeclarations depth state fuel
      | none =>
        let (_, rest) := splitBefore [";"] 0 [] state.ahead
        readDeclarations depth { state with ahead := rest.drop 1 } fuel

/-- A struct whose members cannot be named, with the place of each. -/
def hiddenStruct (target : Target) (name : String) (types : List CType) : Tag :=
  let fields := types.map CField.unnamed
  let layout := recordLayout target [] ⟨.struct, false, none, none⟩ fields
  ⟨.struct, some name, none, .record fields layout⟩

/-- The tag behind the type of a list of variable arguments, and that type. -/
def argumentList (target : Target) : Tag × CType :=
  let word := CType.basic .unsigned
  let pointer := CType.pointer (.basic .void)
  let fallback := hiddenStruct target "__va_list_tag" [word, word, pointer, pointer]
  match target.machine, target.system with
  | .x86_64, .windows | .i386, _ => (fallback, .pointer (.basic .char))
  | .x86_64, _ => (fallback, .array (.tag 0 false) (.fixed 1))
  | .aarch64, .linux | .aarch64, .none =>
    let offset := CType.basic .int
    (hiddenStruct target "__va_list" [pointer, pointer, pointer, offset, offset], .tag 0 false)
  | .arm, _ => (hiddenStruct target "__va_list" [pointer], .tag 0 false)
  | .riscv64, _ | .riscv32, _ => (fallback, pointer)
  | _, _ => (fallback, .pointer (.basic .char))

/-- The names that are known from the start. -/
def startScope (target : Target) : NameScope :=
  let text := CType.pointer (.basic .char)
  let wide : List (String × CType) :=
    if target.wordWidth = 64 then
      [("__int128_t", .basic .int128), ("__uint128_t", .basic .unsigned128)]
    else []
  let names := ("__builtin_va_list", (argumentList target).2)
    :: ("__builtin_ms_va_list", text) :: wide
  ⟨0, [], names.map fun (name, type) => (name, .typeName type)⟩

/-- No token opens more than this many parts of the grammar. -/
def partsPerToken : Nat := 32

/-- Preprocesses and reads all headers that the options include. -/
def TranslationUnit.read (tree : FileTree) (options : List CompilerOption) : TranslationUnit :=
  let source := Source.read tree options
  let target := targetOf options
  let state : ReaderState :=
    { ahead := source.tokens, last := none, language := source.language, target
      tags := [(argumentList target).1], scopes := [startScope target], depth := 0, lists := 0
      found := [] }
  let depth := partsPerToken * (source.tokens.length + 1)
  let final := readDeclarations depth state (source.tokens.length + 1)
  ⟨source, (final.found.map (·.declaration)).reverse, final.tags, target⟩

end HeaderBindings
