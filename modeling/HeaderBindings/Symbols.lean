import HeaderBindings.Ruby.Type

/-!
The artifacts of a binding in order of declaration, and the names under which types refer to them.
A name that is taken keeps the artifact it has.
-/

namespace HeaderBindings

abbrev SymbolTable := List (String × Artifact)

def SymbolTable.bind (symbols : SymbolTable) (name : String) (artifact : Artifact) : SymbolTable :=
  match symbols.lookup name with
  | some _ => symbols
  | none => symbols ++ [(name, artifact)]

structure Declared where
  artifacts : List Artifact
  symbols : SymbolTable

def Declared.empty : Declared := ⟨[], []⟩

/-- Adds an artifact under its own name and its aliases. -/
def Declared.declare (declared : Declared) (artifact : Artifact) (aliases : List String) :
    Declared where
  artifacts := declared.artifacts ++ [artifact]
  symbols := (artifact.name :: aliases).foldl
    (fun symbols name => symbols.bind name artifact) declared.symbols

/-- Adds an artifact that no type can refer to. -/
def Declared.append (declared : Declared) (artifact : Artifact) : Declared :=
  { declared with artifacts := declared.artifacts ++ [artifact] }

end HeaderBindings
