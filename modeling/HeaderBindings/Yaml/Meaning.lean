import HeaderBindings.Text.Line
import HeaderBindings.Yaml.Node
import HeaderBindings.Yaml.ScalarMeaning

/-!
What a YAML document means. Tags outside the standard ones have no meaning here, keys of mappings
must not be collections, and of two equal keys the later one gives the value. A merge key brings in
the entries of other mappings, in front of the mapping's own. Collections are begun where they are
met and filled in that order later, so a fault further out comes before one further in.
-/

namespace HeaderBindings

/-- What a node builds. The parts are other nodes by their numbers. -/
inductive YamlObject where
  | scalar (value : Yaml)
  | list (items : List Nat)
  | pairs (items : List (Nat × Nat))
  | mapping (entries : List (Nat × Nat))
  | set (members : List Nat)

def YamlObject.parts : YamlObject → List Nat
  | .scalar _ => []
  | .list items => items
  | .pairs items => items.flatMap fun item => [item.1, item.2]
  | .mapping entries => entries.flatMap fun entry => [entry.1, entry.2]
  | .set members => members

/-- Whether a value is told from another one that is equal. -/
def YamlObject.hasIdentity : YamlObject → Bool
  | .scalar (.date _) | .scalar (.moment _) => true
  | .scalar _ => false
  | _ => true

/-- How far a document is built. -/
structure YamlBuild where
  nodes : Array YamlNode
  objects : Array (Option YamlObject)
  /-- Collections that are begun and not filled, the latest first. -/
  waiting : List Nat

abbrev YamlBuilder := StateT YamlBuild (Except YamlFault)

namespace YamlBuild

def start (document : YamlDocument) : YamlBuild :=
  ⟨document.nodes, Array.replicate document.nodes.size none, []⟩

def node (build : YamlBuild) (id : Nat) : YamlNode := (build.nodes[id]?).getD .nothing

def object? (build : YamlBuild) (id : Nat) : Option YamlObject := (build.objects[id]?).getD none

def entries (build : YamlBuild) (id : Nat) : List (Nat × Nat) :=
  match build.node id with
  | .mapping _ entries => entries
  | _ => []

def setObject (build : YamlBuild) (id : Nat) (object : YamlObject) : YamlBuild :=
  { build with objects := build.objects.setIfInBounds id (some object) }

def setEntries (build : YamlBuild) (id : Nat) (entries : List (Nat × Nat)) : YamlBuild :=
  { build with
    nodes := build.nodes.setIfInBounds id (.mapping (build.node id).tag entries) }

def setTag (build : YamlBuild) (id : Nat) (tag : String) : YamlBuild :=
  let node : YamlNode := match build.node id with
    | .scalar _ text => .scalar tag text
    | .sequence _ items => .sequence tag items
    | .mapping _ entries => .mapping tag entries
  { build with nodes := build.nodes.setIfInBounds id node }

/-- The text of a scalar. A mapping stands for the value of its equals sign. -/
def scalarText (build : YamlBuild) (id : Nat) (fuel : Nat) : Except YamlFault String :=
  match fuel with
  | 0 => .error .malformed
  | fuel + 1 =>
    match build.node id with
    | .scalar _ text => .ok text
    | .mapping _ entries =>
      match entries.find? fun entry => (build.node entry.1).tag = standardTag "value" with
      | some (_, value) => build.scalarText value fuel
      | none => .error .malformed
    | .sequence _ _ => .error .malformed

def isScalar (build : YamlBuild) (id : Nat) : Bool :=
  match build.node id with
  | .scalar _ _ => true
  | _ => false

/-! Merging. -/

mutual

/-- Brings in the entries of merge keys, from an entry on. An equals sign is an ordinary key. -/
def flatten (build : YamlBuild) (id index : Nat) (merged : List (Nat × Nat)) (fuel : Nat) :
    Except YamlFault YamlBuild :=
  match fuel with
  | 0 => .error .malformed
  | fuel + 1 =>
    match (build.entries id)[index]? with
    | none =>
      .ok (if merged.isEmpty then build else build.setEntries id (merged ++ build.entries id))
    | some (key, value) =>
      let tag := (build.node key).tag
      if tag = standardTag "merge" then do
        let build := build.setEntries id ((build.entries id).eraseIdx index)
        let (build, found) ← build.mergeable value fuel
        build.flatten id index (merged ++ found) fuel
      else if tag = standardTag "value" then
        (build.setTag key (standardTag "str")).flatten id (index + 1) merged fuel
      else build.flatten id (index + 1) merged fuel

/-- The entries that a node has to give to a mapping that merges it. -/
def mergeable (build : YamlBuild) (id : Nat) (fuel : Nat) :
    Except YamlFault (YamlBuild × List (Nat × Nat)) :=
  match fuel with
  | 0 => .error .malformed
  | fuel + 1 =>
    match build.node id with
    | .mapping _ _ => do
      let build ← build.flatten id 0 [] fuel
      return (build, build.entries id)
    | .sequence _ items => build.mergeableItems items fuel
    | .scalar _ _ => .error .malformed

/-- Of several mappings the earlier ones win, so they come last. -/
def mergeableItems (build : YamlBuild) (items : List Nat) (fuel : Nat) :
    Except YamlFault (YamlBuild × List (Nat × Nat)) :=
  match fuel, items with
  | 0, _ => .error .malformed
  | _, [] => .ok (build, [])
  | fuel + 1, item :: items =>
    match build.node item with
    | .mapping _ _ => do
      let build ← build.flatten item 0 [] fuel
      let first := build.entries item
      let (build, later) ← build.mergeableItems items fuel
      return (build, later ++ first)
    | _ => .error .malformed

end

/-! Keys. -/

/-- Keys that count as one: numbers and truth values by their exact values, and moments whose zones
are known by the time that they are. -/
def sameKey (first second : Yaml) : Bool :=
  match first, second with
  | .null, .null => true
  | .string a, .string b => a = b
  | .date a, .date b => a = b
  | .moment a, .moment b =>
    match a.zone, b.zone with
    | some p, some q => a.microseconds - p * 60000000 = b.microseconds - q * 60000000
    | none, none => a = b
    | _, _ => false
  | .bytes a, .bytes b => a = b
  | .float a, .float b => a = b || (a.isZero && b.isZero)
  | .float a, b | b, .float a =>
    match integer? b with
    | some n => a.isRatio n 1
    | none => false
  | a, b =>
    match integer? a, integer? b with
    | some m, some n => m = n
    | _, _ => false
where
  integer? : Yaml → Option Int
    | .boolean value => some (if value then 1 else 0)
    | .integer value => some value
    | _ => none

def keyOf? (build : YamlBuild) (id : Nat) : Option Yaml :=
  match build.object? id with
  | some (.scalar value) => some value
  | _ => none

/-- Sets the value of a key; a key that is there keeps its place. -/
def setEntry (build : YamlBuild) (key : Yaml) (id value : Nat) :
    List (Nat × Nat) → List (Nat × Nat)
  | [] => [(id, value)]
  | (other, old) :: rest =>
    if (build.keyOf? other).any (sameKey · key) then (other, value) :: rest
    else (other, old) :: build.setEntry key id value rest

/-! Building. -/

/-- The value of a scalar node by its tag. -/
def scalarMeaning (build : YamlBuild) (id : Nat) : Except YamlFault Yaml := do
  let tag := (build.node id).tag
  let known := ["null", "bool", "int", "float", "binary", "timestamp", "str"]
  if !known.any (tag = standardTag ·) then throw .malformed
  let text ← build.scalarText id (build.nodes.size + 1)
  if tag = standardTag "str" then return .string text
  else if tag = standardTag "null" then return .null
  else if tag = standardTag "bool" then booleanMeaning text
  else if tag = standardTag "int" then integerMeaning text
  else if tag = standardTag "float" then floatMeaning text
  else if tag = standardTag "binary" then binaryMeaning text
  else if build.isScalar id then timestampMeaning text
  else throw .mappedTimestamp

/-- The empty collection of a tag. -/
def emptyObject? (tag : String) : Option YamlObject :=
  if tag = standardTag "seq" then some (.list [])
  else if tag = standardTag "omap" ∨ tag = standardTag "pairs" then some (.pairs [])
  else if tag = standardTag "map" then some (.mapping [])
  else if tag = standardTag "set" then some (.set [])
  else none

/-- Builds a scalar, or begins a collection. -/
def begin (id : Nat) : YamlBuilder Unit := do
  let build ← get
  if (build.object? id).isSome then return
  match emptyObject? (build.node id).tag with
  | some object => set { build.setObject id object with waiting := id :: build.waiting }
  | none => set (build.setObject id (.scalar (← build.scalarMeaning id)))

/-- Begins what an entry consists of, and adds it to others. -/
def addEntry (found : List (Nat × Nat)) (entry : Nat × Nat) :
    YamlBuilder (List (Nat × Nat)) := do
  begin entry.1
  match (← get).keyOf? entry.1 with
  | none => throw .malformed
  | some key =>
    begin entry.2
    return (← get).setEntry key entry.1 entry.2 found

/-- A mapping with one entry, as a pair. -/
def pairOf (id : Nat) : YamlBuilder (Nat × Nat) := do
  match (← get).node id with
  | .mapping _ [(key, value)] =>
    begin key
    begin value
    return (key, value)
  | _ => throw .malformed

/-- The entries of a mapping after merging, with different keys. -/
def mappingEntries (id : Nat) (fuel : Nat) : YamlBuilder (List (Nat × Nat)) := do
  let build ← (← get).flatten id 0 [] fuel
  set build
  (build.entries id).foldlM addEntry []

/-- Fills a collection that was begun. -/
def fill (id : Nat) (fuel : Nat) : YamlBuilder Unit := do
  let object : YamlObject ← match (← get).object? id, (← get).node id with
    | some (.list _), .sequence _ items => do
      items.forM begin
      pure (.list items)
    | some (.pairs _), .sequence _ items => do pure (.pairs (← items.mapM pairOf))
    | some (.mapping _), .mapping _ _ => do pure (.mapping (← mappingEntries id fuel))
    | some (.set _), .mapping _ _ => do pure (.set ((← mappingEntries id fuel).map (·.1)))
    | _, _ => throw .malformed
  modify fun build => build.setObject id object

/-- Fills collections, those that were begun first before the others, until none is left. -/
def fillAll (mergeFuel fuel : Nat) : YamlBuilder Unit :=
  match fuel with
  | 0 => throw .malformed
  | fuel + 1 => do
    let waiting := (← get).waiting.reverse
    if waiting.isEmpty then return
    modify fun build => { build with waiting := [] }
    waiting.forM (fill · mergeFuel)
    fillAll mergeFuel fuel

/-! The value. -/

/-- How often each node is a part of a collection. -/
def uses (build : YamlBuild) : Array Nat :=
  build.objects.foldl (fun counts object =>
    match object with
    | some object => object.parts.foldl (fun counts id => counts.modify id (· + 1)) counts
    | none => counts) (Array.replicate build.nodes.size 0)

/-- The value of a node inside of others; the fuel bounds how many those can be. -/
def value (build : YamlBuild) (uses : Array Nat) (around : List Nat) (fuel : Nat) (id : Nat) :
    Yaml :=
  match fuel, build.object? id with
  | 0, _ | _, none => .null
  | fuel + 1, some object =>
    let part := build.value uses (id :: around) fuel
    if around.contains id then
      .again id (match object with | .list _ | .pairs _ => true | _ => false)
    else
      let value : Yaml := match object with
        | .scalar value => value
        | .list items => .list (items.map part)
        | .pairs items => .list (items.map fun item => .pair (part item.1) (part item.2))
        | .mapping entries => .mapping (entries.map fun entry => (part entry.1, part entry.2))
        | .set members => .set (members.map part)
      if object.hasIdentity && 1 < (uses[id]?).getD 0 then .shared id value else value

end YamlBuild

/-- The value of a document. -/
def YamlDocument.value (document : YamlDocument) : Except YamlFault Yaml := do
  let size := document.nodes.size
  let ((), build) ← (do
    YamlBuild.begin document.root
    YamlBuild.fillAll (16 * (size + 1) * (size + 1)) (size + 1)).run (YamlBuild.start document)
  return build.value build.uses [] (size + 1) document.root

/-- The value of a YAML text; one without a document is null. -/
def Yaml.read (text : String) : Except YamlFault Yaml := do
  match ← yamlDocument (plainLines text.toList) with
  | none => return .null
  | some document => document.value

end HeaderBindings
