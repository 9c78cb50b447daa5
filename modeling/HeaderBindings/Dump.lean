import HeaderBindings.Artifact
import HeaderBindings.DocComment
import HeaderBindings.Ruby.Type
import HeaderBindings.Yaml.Value

/-!
The model of a binding as one YAML mapping: the module, the library, and a group of entries for
each kind of artifact. A reference is written as the kind and the name of what it stands for.
-/

namespace HeaderBindings

def Artifact.kind : Artifact → String
  | .enumeration _ _ => "enum"
  | .struct _ _ => "struct"
  | .callback _ _ => "callback"
  | .function _ _ _ _ => "function"

def Artifact.group (artifact : Artifact) : String := artifact.kind ++ "s"

def ForeignType.entry : ForeignType → Yaml
  | .integer name signed width =>
    .record [("kind", .string "int"), ("name", .string name), ("signed", .boolean signed),
      ("width", .integer width)]
  | .floating name width =>
    .record [("kind", .string "float"), ("name", .string name), ("width", .integer width)]
  | .void => .record [("kind", .string "void")]
  | .pointer => .record [("kind", .string "pointer")]
  | .string => .record [("kind", .string "string")]
  | .array element length =>
    .record [("kind", .string "array"), ("type", element.entry), ("length", .integer length)]
  | .reference artifact =>
    .record [("kind", .string artifact.kind), ("name", .string artifact.name)]

def Field.entry (field : Field) : Yaml :=
  .record [("name", .string field.name), ("type", field.type.entry)]

def Parameter.entry (parameter : Parameter) : Yaml :=
  .record ((if parameter.name = "" then [] else [("name", .string parameter.name)])
    ++ [("type", parameter.type.entry)])

def constantEntry (constant : String × Option String) : Yaml :=
  .record (("name", .string constant.1)
    :: match constant.2 with | some value => [("val", .string value)] | none => [])

def Signature.entries (name : String) (signature : Signature) : List (String × Yaml) :=
  [("name", .string name), ("type", signature.result.entry),
    ("params", .list (signature.parameters.map Parameter.entry))]

def Artifact.entry : Artifact → Yaml
  | .enumeration name constants =>
    .record [("name", .string name), ("members", .list (constants.map constantEntry))]
  | .struct name fields =>
    .record [("name", .string name), ("members", .list (fields.map Field.entry))]
  | .callback name signature => .record (signature.entries name)
  | .function name signature comment variadic =>
    let doc := DocComment.parse comment (signature.parameters.map (·.name))
    .record (signature.entries name
      ++ (if variadic then [("var_args", .boolean true)] else [])
      ++ (if doc.description.isEmpty then []
        else [("doc", .string (joinLines doc.description))]))

/-- Adds an entry to its group; a group stands where its first entry came. -/
def addToGroup (key : String) (entry : Yaml) :
    List (String × List Yaml) → List (String × List Yaml)
  | [] => [(key, [entry])]
  | (other, entries) :: rest =>
    if other = key then (other, entries ++ [entry]) :: rest
    else (other, entries) :: addToGroup key entry rest

def groups (artifacts : List Artifact) : List (String × List Yaml) :=
  artifacts.foldl (fun found artifact => addToGroup artifact.group artifact.entry found) []

def dump (moduleName library : Yaml) (artifacts : List Artifact) : Yaml :=
  .record ([("module", moduleName), ("library", library)]
    ++ (groups artifacts).map fun group => (group.1, .list group.2))

end HeaderBindings
