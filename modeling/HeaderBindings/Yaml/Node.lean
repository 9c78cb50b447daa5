import HeaderBindings.Yaml.Plain
import HeaderBindings.Yaml.Token

/-!
The nodes of a YAML document. An alias stands for the node with its anchor, which must start before,
so nodes refer to each other by their numbers and may even hold themselves. A text holds one
document at most.
-/

namespace HeaderBindings

inductive YamlNode where
  | scalar (tag : String) (text : String)
  | sequence (tag : String) (items : List Nat)
  | mapping (tag : String) (entries : List (Nat × Nat))
  deriving DecidableEq, Repr

instance : Inhabited YamlNode := ⟨.scalar "" ""⟩

def YamlNode.tag : YamlNode → String
  | .scalar tag _ => tag
  | .sequence tag _ => tag
  | .mapping tag _ => tag

def standardTag (name : String) : String := "tag:yaml.org,2002:" ++ name

/-- The tag of a scalar that is judged by its text. -/
def PlainKind.tag : PlainKind → String
  | .string => standardTag "str"
  | .null => standardTag "null"
  | .boolean _ => standardTag "bool"
  | .integer => standardTag "int"
  | .float => standardTag "float"
  | .timestamp => standardTag "timestamp"
  | .merge => standardTag "merge"
  | .value => standardTag "value"

def YamlNode.nothing : YamlNode := .scalar (standardTag "null") ""

structure NodeState where
  ahead : List YamlToken
  nodes : Array YamlNode
  anchors : List (String × Nat)
  handles : List (String × String)

abbrev NodeReader := StateT NodeState (Except YamlFault)

namespace NodeReader

def malformed {α : Type} : NodeReader α := throw .malformed

def peek : NodeReader YamlToken := do
  match (← get).ahead.head? with
  | some (.fault fault) => throw fault
  | some token => return token
  | none => return .streamEnd

def next : NodeReader Unit := modify fun state => { state with ahead := state.ahead.drop 1 }

def atAny (tokens : List YamlToken) : NodeReader Bool := do return tokens.contains (← peek)

def accept (token : YamlToken) : NodeReader Bool := do
  if (← peek) = token then
    next
    return true
  else return false

def expect (token : YamlToken) : NodeReader Unit := do
  if ← accept token then return () else malformed

def readAnchor : NodeReader (Option String) := do
  match ← peek with
  | .anchor name =>
    next
    return some name
  | _ => return none

def readTag : NodeReader (Option String) := do
  match ← peek with
  | .tag ⟨none, suffix⟩ =>
    next
    return some suffix
  | .tag ⟨some handle, suffix⟩ =>
    next
    match (← get).handles.lookup handle with
    | some start => return some (start ++ suffix)
    | none => malformed
  | _ => return none

/-- An anchor and a tag, in either order. -/
def properties : NodeReader (Option String × Option String) := do
  match ← readAnchor with
  | some anchor => return (some anchor, ← readTag)
  | none =>
    let tag ← readTag
    return (← readAnchor, tag)

/-- Gives a node a number. -/
def add (node : YamlNode) : NodeReader Nat := do
  let state ← get
  set { state with nodes := state.nodes.push node }
  return state.nodes.size

def addNothing : NodeReader Nat := add .nothing

/-- Gives the next node its anchor, which no other node may have. -/
def setAnchor (anchor : Option String) : NodeReader Unit := do
  match anchor with
  | some name =>
    let state ← get
    if (state.anchors.lookup name).isSome then malformed
    set { state with anchors := (name, state.nodes.size) :: state.anchors }
  | none => return ()

/-- An exclamation mark alone is no tag of its own. -/
def ownTag (tag : Option String) : Option String := tag.filter (· ≠ "!")

/-- Without a tag a plain scalar is judged by its text; so is any other behind an exclamation
mark. -/
def scalarNode (tag : Option String) (plain : Bool) (text : String) : YamlNode :=
  match ownTag tag with
  | some tag => .scalar tag text
  | none => .scalar (if plain || tag.isSome then (plainKind text).tag else standardTag "str") text

def sequenceNode (tag : Option String) (items : List Nat) : YamlNode :=
  .sequence ((ownTag tag).getD (standardTag "seq")) items

def mappingNode (tag : Option String) (entries : List (Nat × Nat)) : YamlNode :=
  .mapping ((ownTag tag).getD (standardTag "map")) entries

mutual

/-- A node; outside brackets it may be a block, and as part of a mapping a sequence that is not
indented. -/
def node (inBlock unindented : Bool) (fuel : Nat) : NodeReader Nat :=
  match fuel with
  | 0 => malformed
  | fuel + 1 => do
    match ← peek with
    | .alias name =>
      next
      match (← get).anchors.lookup name with
      | some node => return node
      | none => malformed
    | _ =>
      let (anchor, tag) ← properties
      setAnchor anchor
      let id ← addNothing
      let found ← content inBlock unindented anchor.isSome tag fuel
      modify fun state => { state with nodes := state.nodes.setIfInBounds id found }
      return id

def content (inBlock unindented anchored : Bool) (tag : Option String) (fuel : Nat) :
    NodeReader YamlNode :=
  match fuel with
  | 0 => malformed
  | fuel + 1 => do
    let token ← peek
    if token = .blockEntry ∧ unindented then
      return sequenceNode tag (← unindentedItems [] fuel)
    else match token with
      | .scalar text plain =>
        next
        return scalarNode tag plain text
      | .flowSequenceStart =>
        next
        return sequenceNode tag (← flowItems [] fuel)
      | .flowMappingStart =>
        next
        return mappingNode tag (← flowEntries [] fuel)
      | other =>
        if other = .blockSequenceStart ∧ inBlock then
          next
          return sequenceNode tag (← blockItems [] fuel)
        else if other = .blockMappingStart ∧ inBlock then
          next
          return mappingNode tag (← blockEntries [] fuel)
        else if anchored || tag.isSome then return scalarNode tag true ""
        else malformed

/-- A node, or nothing in front of one of some tokens. -/
def nodeUnless (stops : List YamlToken) (inBlock unindented : Bool) (fuel : Nat) :
    NodeReader Nat :=
  match fuel with
  | 0 => malformed
  | fuel + 1 => do
    if ← atAny stops then addNothing
    else node inBlock unindented fuel

def blockItems (found : List Nat) (fuel : Nat) : NodeReader (List Nat) :=
  match fuel with
  | 0 => malformed
  | fuel + 1 => do
    if ← accept .blockEntry then
      let item ← nodeUnless [.blockEntry, .blockEnd] true false fuel
      blockItems (item :: found) fuel
    else
      expect .blockEnd
      return found.reverse

def unindentedItems (found : List Nat) (fuel : Nat) : NodeReader (List Nat) :=
  match fuel with
  | 0 => malformed
  | fuel + 1 => do
    if ← accept .blockEntry then
      let item ← nodeUnless [.blockEntry, .key, .value, .blockEnd] true false fuel
      unindentedItems (item :: found) fuel
    else return found.reverse

def blockEntries (found : List (Nat × Nat)) (fuel : Nat) :
    NodeReader (List (Nat × Nat)) :=
  match fuel with
  | 0 => malformed
  | fuel + 1 => do
    if ← accept .key then
      let key ← nodeUnless [.key, .value, .blockEnd] true true fuel
      let value ← if ← accept .value then nodeUnless [.key, .value, .blockEnd] true true fuel
        else addNothing
      blockEntries ((key, value) :: found) fuel
    else
      expect .blockEnd
      return found.reverse

/-- The value behind a key in brackets. -/
def flowValue (close : YamlToken) (fuel : Nat) : NodeReader Nat :=
  match fuel with
  | 0 => malformed
  | fuel + 1 => do
    if ← accept .value then nodeUnless [.flowEntry, close] false false fuel
    else addNothing

/-- The items between brackets. A key among them makes a mapping of one entry. -/
def flowItems (found : List Nat) (fuel : Nat) : NodeReader (List Nat) :=
  match fuel with
  | 0 => malformed
  | fuel + 1 => do
    if ← accept .flowSequenceEnd then return found.reverse
    else
      if !found.isEmpty then expect .flowEntry
      if ← accept .key then
        let key ← nodeUnless [.value, .flowEntry, .flowSequenceEnd] false false fuel
        let value ← flowValue .flowSequenceEnd fuel
        let item ← add (mappingNode none [(key, value)])
        flowItems (item :: found) fuel
      else if ← accept .flowSequenceEnd then return found.reverse
      else
        let item ← node false false fuel
        flowItems (item :: found) fuel

def flowEntries (found : List (Nat × Nat)) (fuel : Nat) :
    NodeReader (List (Nat × Nat)) :=
  match fuel with
  | 0 => malformed
  | fuel + 1 => do
    if ← accept .flowMappingEnd then return found.reverse
    else
      if !found.isEmpty then expect .flowEntry
      if ← accept .key then
        let key ← nodeUnless [.value, .flowEntry, .flowMappingEnd] false false fuel
        let value ← flowValue .flowMappingEnd fuel
        flowEntries ((key, value) :: found) fuel
      else if ← accept .flowMappingEnd then return found.reverse
      else
        let key ← node false false fuel
        flowEntries ((key, ← addNothing) :: found) fuel

end

/-! Documents. -/

def defaultHandles : List (String × String) := [("!", "!"), ("!!", "tag:yaml.org,2002:")]

/-- The directives in front of a document: one version, which must be 1, and tag handles. -/
def directives (versioned : Bool) (handles : List (String × String)) (fuel : Nat) :
    NodeReader (List (String × String)) :=
  match fuel with
  | 0 => malformed
  | fuel + 1 => do
    match ← peek with
    | .versionDirective major =>
      if versioned || major ≠ 1 then malformed
      next
      directives true handles fuel
    | .tagDirective handle replacement =>
      if (handles.lookup handle).isSome then malformed
      next
      directives versioned ((handle, replacement) :: handles) fuel
    | .otherDirective =>
      next
      directives versioned handles fuel
    | _ => return handles

def skipDocumentEnds (fuel : Nat) : NodeReader Unit :=
  match fuel with
  | 0 => return ()
  | fuel + 1 => do
    if ← accept .documentEnd then skipDocumentEnds fuel

def atDocumentStart : NodeReader Bool := do
  match ← peek with
  | .versionDirective _ | .tagDirective _ _ | .otherDirective | .documentStart => return true
  | _ => return false

/-- The only document; an empty text has none. -/
def document (fuel : Nat) : NodeReader (Option Nat) := do
  if (← peek) = .streamEnd then return none
  let found ← if ← atDocumentStart then do
      let handles ← directives false [] fuel
      modify fun state => { state with handles := handles ++ defaultHandles }
      expect .documentStart
      if (← atDocumentStart) || (← atAny [.documentEnd, .streamEnd]) then addNothing
      else node true false fuel
    else node true false fuel
  skipDocumentEnds fuel
  expect .streamEnd
  return some found

end NodeReader

/-- The nodes of a document, and the number of the outermost one. -/
structure YamlDocument where
  nodes : Array YamlNode
  root : Nat

/-- The document in a text, which may have none. -/
def yamlDocument (text : List Char) : Except YamlFault (Option YamlDocument) := do
  let tokens ← orMalformed (yamlTokens text)
  let state : NodeState := ⟨tokens, #[], [], NodeReader.defaultHandles⟩
  let (found, state) ← (NodeReader.document (4 * tokens.length + 8)).run state
  return found.map fun root => ⟨state.nodes, root⟩

end HeaderBindings
