import HeaderBindings.DocComment
import HeaderBindings.Ruby.Type

/-!
Artifacts as blocks of Ruby source, and the module that holds them. Comment text only ever reaches
the comment lines of a function's block.
-/

namespace HeaderBindings

inductive RenderError where
  /-- A parameter without a name whose label has no word to name it after. -/
  | namelessParameter
  /-- A prefix that is no string, by its kind. -/
  | oddPrefix (kind : String)
  deriving DecidableEq, Repr

def RenderError.message : RenderError → String
  | .namelessParameter => "list index out of range"
  | .oddPrefix kind => oddPrefixMessage kind

/-- The text after the last `::`. -/
def afterLastScope (text : List Char) : List Char :=
  match text with
  | [] => []
  | ':' :: ':' :: rest => afterLastScope rest
  | c :: rest => if hasScope rest then afterLastScope rest else c :: rest
where
  hasScope : List Char → Bool
    | ':' :: ':' :: _ => true
    | _ :: rest => hasScope rest
    | [] => false

/-- A parameter without a name is called after the last word of its label. -/
def Parameter.identifier (prefixes : List String) (parameter : Parameter) :
    Except RenderError String :=
  if parameter.name ≠ "" then .ok (memberIdentifier prefixes parameter.name)
  else match (words parameter.label.toList).getLast? with
    | some word => .ok (memberIdentifier prefixes (String.ofList (afterLastScope word)))
    | none => .error .namelessParameter

def joinStrings (separator : String) (pieces : List String) : String :=
  String.ofList (joinWith separator.toList (pieces.map String.toList))

def trimEndString (text : String) : String := String.ofList (trimEnd text.toList)

/-- The length of the part, up to an underscore, that all constant names start with. Only the part
before the first underscore is looked at. -/
def constantPrefixLength (names : List String) : Nat :=
  match names with
  | [] => 0
  | first :: _ =>
    let lead := first.toList.takeWhile (· ≠ '_')
    if '_' ∈ first.toList ∧ names.all fun name => (lead ++ ['_']).isPrefixOf name.toList then
      lead.length + 1
    else 0

def renderConstant (prefixes : List String) (skipped : Nat) (constant : String × Option String) :
    String :=
  "\n    :" ++ memberIdentifier prefixes (String.ofList (constant.1.toList.drop skipped))
    ++ (match constant.2 with | some value => ", " ++ value | none => "")

def renderEnumeration (prefixes : List String) (name : String)
    (constants : List (String × Option String)) : String :=
  let skipped := constantPrefixLength (constants.map (·.1))
  "  enum :" ++ memberIdentifier prefixes name ++ ", ["
    ++ joinStrings "," (constants.map (renderConstant prefixes skipped)) ++ "\n  ]"

def renderField (prefixes : List String) (field : Field) : String :=
  ":" ++ memberIdentifier prefixes field.name ++ ", " ++ field.type.render prefixes

/-- A struct without fields gets a field of its own, as an empty layout is refused. -/
def renderLayout (prefixes : List String) (fields : List Field) : String :=
  if fields.isEmpty then ":dummy, :char"
  else joinStrings ",\n           " (fields.map (renderField prefixes))

def renderStruct (prefixes : List String) (name : String) (fields : List Field) : String :=
  "  class " ++ typeIdentifier prefixes name ++ " < FFI::Struct\n    layout "
    ++ renderLayout prefixes fields ++ "\n  end"

def renderSignature (prefixes : List String) (signature : Signature) (variadic : Bool) : String :=
  let types := signature.parameters.map (·.type.render prefixes)
  "[" ++ joinStrings ", " (types ++ if variadic then [":varargs"] else []) ++ "], "
    ++ signature.result.render prefixes

def renderCallback (prefixes : List String) (name : String) (signature : Signature) : String :=
  "  callback :" ++ memberIdentifier prefixes name ++ ", "
    ++ renderSignature prefixes signature false

/-- The line that binds a function; it does not look at the comment. -/
def renderAttachment (prefixes : List String) (name : String) (signature : Signature)
    (variadic : Bool) : String :=
  "  attach_function :" ++ memberIdentifier prefixes name ++ ", :" ++ name ++ ", "
    ++ renderSignature prefixes signature variadic

/-- The comment lines above a function. -/
def renderDocumentation (prefixes : List String) (name : String) (signature : Signature)
    (doc : DocComment) (identifiers : List String) : List String :=
  (if doc.description.isEmpty then []
    else doc.description.map (fun line => trimEndString ("  #" ++ line)) ++ ["  #"])
    ++ ["  # @method " ++ memberIdentifier prefixes name ++ "("
      ++ joinStrings ", " identifiers ++ ")"]
    ++ (identifiers.zip signature.parameters).map (fun entry =>
      trimEndString ("  # @param [" ++ entry.2.label ++ "] " ++ entry.1 ++ " "
        ++ doc.paramText entry.2.name))
    ++ [trimEndString ("  # @return [" ++ signature.resultLabel ++ "] " ++ doc.returnText),
      "  # @scope class"]

def renderFunction (prefixes : List String) (name : String) (signature : Signature)
    (comment : String) (variadic : Bool) : Except RenderError String := do
  let identifiers ← signature.parameters.mapM (·.identifier prefixes)
  let doc := DocComment.parse comment (signature.parameters.map (·.name))
  return joinStrings "\n"
    (renderDocumentation prefixes name signature doc identifiers
      ++ [renderAttachment prefixes name signature variadic])

def Artifact.render (prefixes : List String) : Artifact → Except RenderError String
  | .enumeration name constants => .ok (renderEnumeration prefixes name constants)
  | .struct name fields => .ok (renderStruct prefixes name fields)
  | .callback name signature => .ok (renderCallback prefixes name signature)
  | .function name signature comment variadic =>
    renderFunction prefixes name signature comment variadic

/-- The whole Ruby file: a blank line stands between neighbouring blocks. -/
def renderModule (moduleName library : String) (prefixes : List String)
    (artifacts : List Artifact) : Except RenderError String := do
  let blocks ← artifacts.mapM (·.render prefixes)
  return "# Generated by h2ffi. Please do not change this file by hand.\n\nrequire 'ffi'\n\nmodule "
    ++ moduleName ++ "\n  extend FFI::Library\n  ffi_lib '" ++ library ++ "'\n\n"
    ++ joinStrings "\n\n" blocks ++ "\n\nend\n"

end HeaderBindings
