import HeaderBindings.C.Feature
import HeaderBindings.C.Macro
import HeaderBindings.C.WarningName

/-!
What names stand for at some point of a file, and the expansion of macro calls. A call is replaced
by the macro's body with the arguments filled in, and the result is read again together with what
follows. A token remembers the macros it came out of and is never expanded by one of them again.
Some names are built in: they tell where they stand or answer questions about the compiler.
-/

namespace HeaderBindings

/-- A line from which on the lines of a file are counted anew. -/
structure LineMark where
  inclusion : Nat
  /-- The line with the mark. -/
  behind : Nat
  /-- The number of the line after it. -/
  number : Nat
  name : Option String

/-- What macros mean at some point, and what is known about the files read so far. -/
structure MacroScope where
  language : Language
  target : Target
  blocks : Bool
  /-- The macros that the compiler defines, with their bodies. -/
  given : List (String × String)
  /-- What directives said about names, the last word first; some say that there is no macro. -/
  changes : List (String × Option Macro)
  /-- How often the counting name was used. -/
  counter : Nat
  /-- The name of each inclusion's file and how deep the inclusion is. -/
  files : List (String × Nat)
  /-- The marks of lines, the last one first. -/
  lineMarks : List LineMark

/-- Built-in names that stand for a token. -/
def builtInObjects : List String :=
  ["__LINE__", "__FILE__", "__FILE_NAME__", "__BASE_FILE__", "__INCLUDE_LEVEL__", "__COUNTER__",
    "__DATE__", "__TIME__", "__TIMESTAMP__", "__FLT_EVAL_METHOD__"]

/-- Built-in names that ask about the compiler. -/
def builtInQuestions : List String :=
  ["__has_attribute", "__has_c_attribute", "__has_declspec_attribute", "__has_builtin",
    "__has_feature", "__has_extension", "__has_warning", "__is_identifier", "__building_module"]
    ++ targetQueries

/-- Built-in names that count only in a condition or by themselves. -/
def builtInOthers : List String := ["__has_include", "__has_include_next", "_Pragma"]

inductive MacroMeaning where
  | replaced (definition : Macro)
  | builtIn

/-- The name of the text that comes before all files. -/
def openingName : String := "<built-in>"

/-- A macro of the compiler from the text of its body. -/
def Macro.ofText (language : Language) (text : String) : Macro :=
  .ofTokens none none ((lexText language .undirected text.toList).map (·.token 0))

def MacroScope.meaning? (scope : MacroScope) (name : String) : Option MacroMeaning :=
  match scope.changes.lookup name with
  | some definition => definition.map .replaced
  | none =>
    match scope.given.lookup name with
    | some text => some (.replaced (.ofText scope.language text))
    | none =>
      if builtInObjects.contains name || builtInQuestions.contains name
          || builtInOthers.contains name then
        some .builtIn
      else none

def MacroScope.isDefined (scope : MacroScope) (name : String) : Bool :=
  (scope.meaning? name).isSome

/-- What directives said about a name. -/
def MacroScope.change (scope : MacroScope) (name : String) (definition : Option Macro) :
    MacroScope :=
  { scope with changes := (name, definition) :: scope.changes.filter (·.1 ≠ name) }

def MacroScope.define (scope : MacroScope) (name : String) (definition : Macro) : MacroScope :=
  scope.change name (some definition)

def MacroScope.undefine (scope : MacroScope) (name : String) : MacroScope :=
  scope.change name none

/-- The line that a token counts as being in. -/
def MacroScope.lineOf (scope : MacroScope) (inclusion line : Nat) : Nat :=
  match scope.lineMarks.find? fun mark => mark.inclusion = inclusion && mark.behind < line with
  | some mark => mark.number + (line - mark.behind - 1)
  | none => line

/-- The file that a token counts as being in. -/
def MacroScope.fileOf (scope : MacroScope) (inclusion line : Nat) : String :=
  let marked := scope.lineMarks.findSome? fun mark =>
    if mark.inclusion = inclusion && mark.behind < line then mark.name else none
  marked.getD ((scope.files[inclusion]?.map (·.1)).getD "")

/-- A text as a string literal. -/
def quoteText (text : String) : String :=
  String.ofList ('"' :: escapeQuoted text.toList ++ ['"'])

/-- What a built-in name stands for, and what is known after it was used. -/
def MacroScope.builtIn? (scope : MacroScope) (name : Token) : Option (MacroScope × Token) :=
  let inclusion := name.used.start.inclusion
  let number (value : Nat) : Token := name.madeUp .number (toString value)
  let text (value : String) : Token := name.madeUp .string (quoteText value)
  let file := scope.fileOf inclusion name.line
  match name.text with
  | "__LINE__" => some (scope, number (scope.lineOf inclusion name.line))
  | "__FILE__" => some (scope, text file)
  | "__FILE_NAME__" =>
    some (scope, text (String.ofList (file.toList.reverse.takeWhile (· ≠ '/')).reverse))
  | "__BASE_FILE__" => some (scope, text openingName)
  | "__INCLUDE_LEVEL__" => some (scope, number ((scope.files[inclusion]?.map (·.2)).getD 0))
  | "__COUNTER__" => some ({ scope with counter := scope.counter + 1 }, number scope.counter)
  | "__DATE__" => some (scope, text "??? ?? ????")
  | "__TIME__" => some (scope, text "??:??:??")
  | "__TIMESTAMP__" => some (scope, text "??? ??? ?? ??:??:?? ????")
  | "__FLT_EVAL_METHOD__" => some (scope, number 0)
  | _ => none

/-- The words of the language, which are no plain identifiers. -/
def reservedWords (language : Language) : List String := wordsOf "
  auto break case char const continue default do double else enum extern float for goto if int long
  register return short signed sizeof static struct switch typedef union unsigned void volatile
  while _Alignas _Alignof _Atomic _Bool _Complex _Generic _Imaginary _Noreturn _Static_assert
  _Thread_local __func__ __attribute __attribute__ __asm __asm__ __alignof __alignof__ __const __const__ __volatile
  __volatile__ __restrict __restrict__ __inline __inline__ __signed __signed__ __typeof __typeof__
  __extension__ __label__ __real __real__ __imag __imag__ __thread __int128 __builtin_va_arg
  __builtin_offsetof __builtin_types_compatible_p __builtin_choose_expr __auto_type __bf16 __fp16 _BitInt _Float16
  __float128 __complex __complex__ _Nonnull _Nullable _Null_unspecified __null __objc_yes __objc_no"
  ++ (if language.edition < 1999 then [] else ["restrict"])
  ++ (if language.edition < 1999 && language.strict then [] else ["inline"])
  ++ (if language.strict && language.edition < 2023 then [] else ["typeof"])
  ++ (if language.strict then [] else ["asm"])
  ++ (if language.edition < 2023 then [] else wordsOf
    "alignas alignof bool constexpr false nullptr static_assert thread_local true typeof_unqual")

/-- The answer to a question about the compiler. -/
def MacroScope.answer (scope : MacroScope) (question : String) (tokens : List Token) : String :=
  let holds (truth : Bool) : String := if truth then "1" else "0"
  match question, tokens.map (·.text) with
  | "__has_feature", [name] => holds (hasFeature scope.language scope.blocks name)
  | "__has_extension", [name] => holds (hasExtension scope.language scope.blocks name)
  | "__has_builtin", [name] => holds (hasBuiltIn name)
  | "__has_attribute", [name] => holds (hasAttribute name)
  | "__has_c_attribute", [name] => bracketedAttribute none name
  | "__has_c_attribute", [space, ":", ":", name] => bracketedAttribute (some space) name
  | "__is_identifier", [name] =>
    holds (tokens.all Token.isName && !(reservedWords scope.language).contains name)
  | "__has_warning", [name] => holds (namesWarnings (String.ofList (name.toList.drop 1).dropLast))
  | question, [name] => holds (scope.target.answers question name)
  | _, _ => "0"

/-- Questions whose words are expanded. -/
def expandingQuestions : List String := ["__has_attribute", "__has_c_attribute"]

mutual

/-- Expands the macro call that a stream starts with: the name is given, then what follows it. -/
def expandOnce (scope : MacroScope) (name : Token) (items : List StreamItem) (fuel : Nat) :
    Option (MacroScope × List StreamItem) :=
  match fuel with
  | 0 => none
  | fuel + 1 =>
    if !name.isName || name.spent.contains name.text then none
    else match scope.meaning? name.text with
      | none => none
      | some .builtIn =>
        if builtInQuestions.contains name.text then
          match items with
          | .token bracket :: items =>
            if bracket.isSign "(" then
              match collectArguments (some 0) 0 [] [] items with
              | some ([inner], _, items) =>
                let (scope, inner) := if expandingQuestions.contains name.text then
                    expandInto scope [] (inner.map .token) fuel
                  else (scope, inner)
                let answer := name.madeUp .number (scope.answer name.text inner)
                some (scope, .token answer :: items)
              | _ => none
            else none
          | _ => none
        else (scope.builtIn? name).map fun (scope, token) => (scope, .token token :: items)
      | some (.replaced definition) =>
        match definition.parameters, items with
        | none, _ =>
          let spent := name.text :: name.spent
          let tokens := definition.expansion scope.language name name spent [] false
          some (scope, follow tokens items)
        | some parameters, .token bracket :: items =>
          if bracket.isSign "(" then
            let limit := if definition.rest.isSome then some parameters.length else none
            match collectArguments limit 0 [] [] items with
            | none => none
            | some (given, close, items) =>
              match definition.bind? given with
              | none => none
              | some bound =>
                let spent := name.text :: name.spent.filter close.spent.contains
                let written (key : String) : List Token := (bound.written.lookup key).getD []
                let needed := neededNames definition.rest [] false definition.body
                let (scope, expanded) := needed.foldl (fun found key =>
                  let result := expandInto found.1 [] ((written key).map .token) fuel
                  (result.1, (key, result.2) :: found.2)) (scope, ([] : List (String × List Token)))
                let arguments := bound.written.map fun (key, tokens) =>
                  (key, Argument.mk tokens ((expanded.lookup key).getD []))
                let tokens := definition.expansion scope.language name close spent arguments
                  bound.elided
                some (scope, follow tokens items)
          else none
        | some _, _ => none
where
  /-- An expansion in front of what follows; where it is empty the white space stays. -/
  follow (tokens : List Token) (items : List StreamItem) : List StreamItem :=
    match tokens, items with
    | [], .token next :: items =>
      .token { next with spaced := next.spaced || name.spaced || name.startsLine } :: items
    | tokens, items => tokens.map .token ++ items

/-- Expands every call in a stream; the tokens found so far are held in reverse. -/
def expandInto (scope : MacroScope) (found : List Token) (items : List StreamItem) (fuel : Nat) :
    MacroScope × List Token :=
  match fuel, items with
  | 0, _ => (scope, found.reverse)
  | _, [] => (scope, found.reverse)
  | fuel + 1, .fileEnd :: items => expandInto scope found items fuel
  | fuel + 1, .token token :: items =>
    match expandOnce scope token items fuel with
    | some (scope, items) => expandInto scope found items fuel
    | none => expandInto scope (token :: found) items fuel

end

/-- More steps than any expansion takes whose result can be held in memory. -/
def expansionFuel : Nat := 1000000000

def MacroScope.expand (scope : MacroScope) (tokens : List Token) : MacroScope × List Token :=
  expandInto scope [] (tokens.map .token) expansionFuel

end HeaderBindings
