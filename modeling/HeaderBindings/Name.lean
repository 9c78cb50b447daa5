import HeaderBindings.Text.Letter

/-!
Names of C declarations and what they become in a binding. A configured prefix such as `clang_` is
removed first; a member name is then cut into words at case changes and underscores, and its words
are joined by single underscores in lower case.
-/

namespace HeaderBindings

/-- The length of the longest prefix that `name` starts with. -/
def prefixLength (prefixes : List String) (name : String) : Nat :=
  prefixes.foldl
    (fun longest candidate =>
      if candidate.toList.isPrefixOf name.toList then max longest candidate.toList.length
      else longest)
    0

def stripPrefix (prefixes : List String) (name : String) : String :=
  String.ofList (name.toList.drop (prefixLength prefixes name))

inductive NameToken where
  | separator
  | word (letters : List Char)
  deriving DecidableEq, Repr

def NameToken.spelling : NameToken → List Char
  | .separator => ['_']
  | .word letters => letters

/-- An upper-case letter starts a word after a lower-case letter or a digit, and also where a
lower-case letter follows, so that the last capital of an acronym goes with the next word. -/
def startsWord (word : List Char) (c : Char) (rest : List Char) : Bool :=
  isUpper c &&
    match word.getLast? with
    | none => false
    | some previous => isLower previous || isDigit previous || rest.head?.any isLower

def flushWord (word : List Char) : List NameToken :=
  if word.isEmpty then [] else [.word word]

def nameTokensFrom (word : List Char) : List Char → List NameToken
  | [] => flushWord word
  | c :: rest =>
    if c = '_' then flushWord word ++ .separator :: nameTokensFrom [] rest
    else if startsWord word c rest then .word word :: .separator :: nameTokensFrom [c] rest
    else nameTokensFrom (word ++ [c]) rest

/-- Words and separators of a name, in order. -/
def nameTokens (name : List Char) : List NameToken := nameTokensFrom [] name

/-- Keeps the first separator of every run. -/
def collapseSeparators : List NameToken → List NameToken
  | [] => []
  | .separator :: .separator :: rest => collapseSeparators (.separator :: rest)
  | token :: rest => token :: collapseSeparators rest

def snakeCase (name : List Char) : List Char :=
  let tokens := (nameTokens name).dropWhile (· == .separator)
  lowercase ((collapseSeparators tokens).flatMap NameToken.spelling)

/-- The message for a prefix that is no string. -/
def oddPrefixMessage (kind : String) : String :=
  "startswith first arg must be str or a tuple of str, not " ++ kind

/-- The name of a function, field, parameter or constant in the binding. -/
def memberIdentifier (prefixes : List String) (name : String) : String :=
  String.ofList (snakeCase (stripPrefix prefixes name).toList)

/-- The name of a class in the binding. -/
def typeIdentifier (prefixes : List String) (name : String) : String :=
  stripPrefix prefixes name

end HeaderBindings
