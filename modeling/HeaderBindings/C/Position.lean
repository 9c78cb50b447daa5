import HeaderBindings.C.Source

/-!
Places of a source as people read them: a file name, a line and a column, both counted from one.
Columns count bytes. A line ends at a newline, a carriage return, or the two together.
-/

namespace HeaderBindings

structure Position where
  line : Nat
  column : Nat
  deriving DecidableEq, Repr

/-- The position `bytes` behind a given one. -/
def Position.after (position : Position) (text : List Char) (bytes : Nat) : Position :=
  match text with
  | [] => position
  | '\r' :: '\n' :: rest =>
    if bytes = 0 then position
    else if bytes = 1 then ⟨position.line, position.column + 1⟩
    else Position.after ⟨position.line + 1, 1⟩ rest (bytes - 2)
  | c :: rest =>
    if bytes = 0 then position
    else if c = '\n' ∨ c = '\r' then Position.after ⟨position.line + 1, 1⟩ rest (bytes - 1)
    else Position.after ⟨position.line, position.column + c.utf8Size⟩ rest (bytes - c.utf8Size)

def Source.fileName (source : Source) (place : Place) : String :=
  match source.inclusions[place.inclusion]? with
  | some inclusion => inclusion.name
  | none => ""

def Source.fileText (source : Source) (place : Place) : String :=
  match source.inclusions[place.inclusion]? with
  | some inclusion => inclusion.text
  | none => ""

/-- A place with the name of its file. -/
def Source.positionText (source : Source) (place : Place) : String :=
  let position := Position.after ⟨1, 1⟩ (source.fileText place).toList place.offset
  source.fileName place ++ ":" ++ toString position.line ++ ":" ++ toString position.column

def Severity.text : Severity → String
  | .warning => "warning"
  | .error => "error"
  | .fatal => "fatal error"

def Source.diagnosticText (source : Source) (diagnostic : Diagnostic) : String :=
  let place := match diagnostic.place with
    | some place => source.positionText place ++ ": "
    | none => ""
  "clang diagnostic: " ++ place ++ diagnostic.severity.text ++ ": " ++ diagnostic.message

end HeaderBindings
