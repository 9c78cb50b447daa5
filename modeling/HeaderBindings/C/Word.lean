import HeaderBindings.C.Language
import HeaderBindings.C.Type

/-!
The reserved words of C, which differ from dialect to dialect, and what the words of an arithmetic
type mean together.
-/

namespace HeaderBindings

inductive Word where
  | storage
  | typedef
  | qualifier (qualifiers : Qualifiers)
  /-- A word that makes an attribute of the type it stands with. -/
  | typeAttribute
  | arithmetic
  | bitInteger
  | tag (kind : TagKind)
  | typeof (unqualified : Bool)
  /-- The type comes from the initializer. -/
  | inferred
  | atomic
  | alignas
  | attribute
  | label
  | extension
  | assertion
  | sizeof
  | alignof (preferred : Bool)
  | generic
  | part (imaginary : Bool)
  | truth (value : Bool)
  | nullPointer
  deriving DecidableEq, Repr

/-- The words of all dialects. -/
def Word.ofCommonText? : String → Option Word
  | "extern" | "static" | "auto" | "register" | "__inline" | "__inline__" | "_Noreturn"
  | "__thread" | "_Thread_local" => some .storage
  | "typedef" => some .typedef
  | "const" | "__const" | "__const__" => some (.qualifier ⟨true, false, false⟩)
  | "volatile" | "__volatile" | "__volatile__" => some (.qualifier ⟨false, true, false⟩)
  | "__restrict" | "__restrict__" => some (.qualifier ⟨false, false, true⟩)
  | "_Nonnull" | "_Nullable" | "_Nullable_result" | "_Null_unspecified" | "__nonnull"
  | "__cdecl" | "__stdcall" | "__fastcall" | "__thiscall" | "__vectorcall" | "__regcall"
  | "__pascal" => some .typeAttribute
  | "void" | "char" | "short" | "int" | "long" | "float" | "double" | "signed" | "unsigned"
  | "__signed" | "__signed__" | "_Bool" | "__int128" | "_Complex" | "__complex" | "__complex__"
  | "_Float16" | "__fp16" | "__bf16" | "__float128" => some .arithmetic
  | "_BitInt" | "_ExtInt" => some .bitInteger
  | "struct" => some (.tag .struct)
  | "union" => some (.tag .union)
  | "enum" => some (.tag .enumeration)
  | "__typeof" | "__typeof__" => some (.typeof false)
  | "__typeof_unqual" | "__typeof_unqual__" => some (.typeof true)
  | "__auto_type" => some .inferred
  | "_Atomic" => some .atomic
  | "_Alignas" => some .alignas
  | "__attribute__" | "__attribute" => some .attribute
  | "__asm" | "__asm__" => some .label
  | "__extension__" => some .extension
  | "_Static_assert" => some .assertion
  | "sizeof" => some .sizeof
  | "_Alignof" => some (.alignof false)
  | "__alignof" | "__alignof__" => some (.alignof true)
  | "_Generic" => some .generic
  | "__real" | "__real__" => some (.part false)
  | "__imag" | "__imag__" => some (.part true)
  | _ => none

/-- The words of some dialects only, each with the question whether a dialect has it. -/
def Word.ofNewText? (language : Language) (text : String) : Option Word :=
  let since (edition : Nat) (word : Word) : Option Word :=
    if edition ≤ language.edition then some word else none
  let extended (word : Word) : Option Word := if language.strict then none else some word
  match text with
  | "inline" => extended .storage <|> since 1999 .storage
  | "restrict" => since 1999 (.qualifier ⟨false, false, true⟩)
  | "asm" => extended .label
  | "typeof" => extended (.typeof false) <|> since 2023 (.typeof false)
  | "typeof_unqual" => since 2023 (.typeof true)
  | "bool" => since 2023 .arithmetic
  | "true" => since 2023 (.truth true)
  | "false" => since 2023 (.truth false)
  | "nullptr" => since 2023 .nullPointer
  | "static_assert" => since 2023 .assertion
  | "thread_local" => since 2023 .storage
  | "alignas" => since 2023 .alignas
  | "alignof" => since 2023 (.alignof false)
  | _ => none

def Word.ofText? (language : Language) (text : String) : Option Word :=
  Word.ofCommonText? text <|> Word.ofNewText? language text

/-- Whether a word can start a declaration or the name of a type. -/
def Word.startsType : Word → Bool
  | .storage | .typedef | .qualifier _ | .typeAttribute | .arithmetic | .bitInteger | .tag _
  | .typeof _ | .inferred | .atomic | .alignas | .attribute => true
  | _ => false

def complexWords : List String := ["_Complex", "__complex", "__complex__"]

/-- What the words of an arithmetic type mean, in any order; `bits` is the width that is written
with a word for integers of any width. -/
def arithmeticType (bits : Option Nat) (words : List String) : BasicType :=
  let has (word : String) : Bool := words.contains word
  let negated := has "unsigned"
  match bits with
  | some bits => .bitInteger bits !negated
  | none =>
    if has "void" then .void
    else if has "_Bool" || has "bool" then .bool
    else if has "float" then .float
    else if has "double" then (if has "long" then .longDouble else .double)
    else if has "_Float16" then .float16
    else if has "__fp16" then .half
    else if has "__bf16" then .bfloat16
    else if has "__float128" then .float128
    else if has "__int128" then (if negated then .unsigned128 else .int128)
    else if has "char" then
      if negated then .unsignedChar
      else if has "signed" || has "__signed" || has "__signed__" then .signedChar
      else .char
    else if has "short" then (if negated then .unsignedShort else .short)
    else match words.count "long" with
      | 0 =>
        if !words.isEmpty && words.all complexWords.contains then .double
        else if negated then .unsigned else .int
      | 1 => if negated then .unsignedLong else .long
      | _ => if negated then .unsignedLongLong else .longLong

/-- The type that a group of arithmetic words stands for; without words it is `int`. -/
def typeOfWords (bits : Option Nat) (words : List String) : CType :=
  let basic := CType.basic (arithmeticType bits words)
  if words.any complexWords.contains then .complex basic else basic

end HeaderBindings
