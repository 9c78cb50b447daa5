import HeaderBindings.C.Lexeme

/-!
Tokens as the preprocessor hands them on. Each inclusion of a file is a text of its own. A token
knows where it is spelled, unless it was made up, and where it is used: a token that came out of a
macro is used where the outermost macro call stands.
-/

namespace HeaderBindings

/-- A byte offset in one of the inclusions. -/
structure Place where
  inclusion : Nat
  offset : Nat
  deriving DecidableEq, Repr

/-- A stretch of an inclusion's text. -/
structure Stretch where
  start : Place
  stop : Place
  deriving DecidableEq, Repr

/-- What put a token where it is: the file itself, the body of a macro, or an argument of one. -/
inductive TokenOrigin where
  | file
  | body
  | argument
  deriving DecidableEq, Repr

structure Token where
  kind : LexemeKind
  /-- What the token counts as: a sign in its usual form, a name with its characters. -/
  text : String
  /-- The characters of the token. -/
  spelling : String
  /-- The token as its file has it, escaped line ends included. -/
  written : String
  spelled : Option Stretch
  used : Stretch
  origin : TokenOrigin
  line : Nat
  startsLine : Bool
  spaced : Bool
  /-- The macros that may no longer expand this token. -/
  spent : List String
  /-- The largest alignment that members may have by themselves where the token stands. -/
  packing : Option Nat

/-- The usual form of a sign that can also be written with two other characters. -/
def plainSign (text : String) : String :=
  match text with
  | "<:" => "["
  | ":>" => "]"
  | "<%" => "\x7b"
  | "%>" => "\x7d"
  | "%:" => "#"
  | "%:%:" => "##"
  | other => other

def Lexeme.token (inclusion : Nat) (lexeme : Lexeme) : Token :=
  let stretch : Stretch := ⟨⟨inclusion, lexeme.start⟩, ⟨inclusion, lexeme.stop⟩⟩
  { kind := lexeme.kind
    text := if lexeme.kind = .punctuator then plainSign lexeme.text else lexeme.text
    spelling := lexeme.spelling, written := lexeme.written, spelled := some stretch
    used := stretch, origin := .file, line := lexeme.line, startsLine := lexeme.startsLine
    spaced := lexeme.spaced, spent := [], packing := none }

/-- A place as a reader of the source sees it, and the place of the text behind it. -/
structure Mark where
  seen : Place
  spelled : Option Place
  deriving DecidableEq, Repr

def Token.startMark (token : Token) : Mark :=
  ⟨token.used.start, token.spelled.map Stretch.start⟩

/-- The end of a token. A macro's body ends where its call ends; a macro's argument is seen where
the call starts, although its own text goes on behind that. -/
def Token.stopMark (token : Token) : Mark :=
  match token.origin with
  | .file => ⟨token.used.stop, some token.used.stop⟩
  | .body => ⟨token.used.stop, some token.used.stop⟩
  | .argument => ⟨token.used.start, token.spelled.map Stretch.stop⟩

end HeaderBindings
