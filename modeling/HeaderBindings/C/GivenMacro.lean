import HeaderBindings.C.BasicType
import HeaderBindings.C.Language

/-!
The macros that the compiler defines for its target and dialect before any header, each with the
text of its body.
-/

namespace HeaderBindings

/-- What the macros of the compiler depend on, the target and the dialect apart. -/
structure MacroChoices where
  freestanding : Bool
  blocks : Bool
  optimizes : Bool
  optimizesSize : Bool
  threads : Bool
  /-- Whether nothing but the macros of the standard is defined. -/
  bare : Bool

def MacroChoices.default : MacroChoices := ⟨false, false, false, false, false, false⟩

/-- A type in the words that the macros have for it. -/
def BasicType.words : BasicType → String
  | .signedChar => "signed char"
  | .unsignedChar => "unsigned char"
  | .short => "short"
  | .unsignedShort => "unsigned short"
  | .int => "int"
  | .unsigned => "unsigned int"
  | .long => "long int"
  | .unsignedLong => "long unsigned int"
  | .longLong => "long long int"
  | .unsignedLongLong => "long long unsigned int"
  | _ => "int"

/-- The suffix of a literal of the type. -/
def BasicType.suffix : BasicType → String
  | .unsigned => "U"
  | .long => "L"
  | .unsignedLong => "UL"
  | .longLong => "LL"
  | .unsignedLongLong => "ULL"
  | _ => ""

/-- The letters in a format for the type. -/
def BasicType.formatLetters : BasicType → String
  | .signedChar | .unsignedChar => "hh"
  | .short | .unsignedShort => "h"
  | .long | .unsignedLong => "l"
  | .longLong | .unsignedLongLong => "ll"
  | _ => ""

def BasicType.greatest (target : Target) (type : BasicType) : String :=
  let width := type.width target
  let value := Nat.pow 2 (if type.isSigned target then width - 1 else width) - 1
  toString value ++ type.suffix

/-- The macros for the type of some name: what it is, its greatest value, its width, and its
formats. -/
def typeMacros (target : Target) (name : String) (type : BasicType) : List (String × String) :=
  let letters := if type.isSigned target then ["d", "i"] else ["o", "u", "x", "X"]
  [("__" ++ name ++ "_TYPE__", type.words), ("__" ++ name ++ "_MAX__", type.greatest target),
    ("__" ++ name ++ "_WIDTH__", toString (type.width target))]
    ++ letters.map fun letter =>
      ("__" ++ name ++ "_FMT" ++ letter ++ "__", "\"" ++ type.formatLetters ++ letter ++ "\"")

/-- The macros for types of a certain width, the smallest and the fastest of them. -/
def widthMacros (target : Target) (width : Nat) (type : BasicType) : List (String × String) :=
  let names := [("INT", type), ("UINT", type.toUnsigned)]
  names.flatMap fun (name, type) =>
    let exact := name ++ toString width
    let own := (typeMacros target exact type).filter fun entry => !entry.1.endsWith "_WIDTH__"
    own ++ [("__" ++ exact ++ "_C_SUFFIX__", type.suffix)]
      ++ typeMacros target (name ++ "_LEAST" ++ toString width) type
      ++ typeMacros target (name ++ "_FAST" ++ toString width) type

/-- The numbers of a floating format. -/
structure FloatFacts where
  least : String
  digits : Nat
  decimals : Nat
  epsilon : String
  mantissa : Nat
  maxTen : Nat
  maxExponent : Nat
  greatest : String
  minTen : Nat
  minExponent : Nat
  smallest : String

def floatFacts : FloatFacts :=
  ⟨"1.40129846e-45", 6, 9, "1.19209290e-7", 24, 38, 128, "3.40282347e+38", 37, 125,
    "1.17549435e-38"⟩

def doubleFacts : FloatFacts :=
  ⟨"4.9406564584124654e-324", 15, 17, "2.2204460492503131e-16", 53, 308, 1024,
    "1.7976931348623157e+308", 307, 1021, "2.2250738585072014e-308"⟩

def extendedFacts : FloatFacts :=
  ⟨"3.64519953188247460253e-4951", 18, 21, "1.08420217248550443401e-19", 64, 4932, 16384,
    "1.18973149535723176502e+4932", 4931, 16381, "3.36210314311209350626e-4932"⟩

def quadrupleFacts : FloatFacts :=
  ⟨"6.47517511943802511092443895822764655e-4966", 33, 36,
    "1.92592994438723585305597794258492732e-34", 113, 4932, 16384,
    "1.18973149535723176508575932662800702e+4932", 4931, 16381,
    "3.36210314311209350626267781732175260e-4932"⟩

def halfFacts : FloatFacts :=
  ⟨"5.9604644775390625e-8", 3, 5, "9.765625e-4", 11, 4, 16, "6.5504e+4", 4, 13, "6.103515625e-5"⟩

def floatMacros (name suffix : String) (facts : FloatFacts) : List (String × String) :=
  [("DENORM_MIN", facts.least ++ suffix), ("HAS_DENORM", "1"), ("DIG", toString facts.digits),
    ("DECIMAL_DIG", toString facts.decimals), ("EPSILON", facts.epsilon ++ suffix),
    ("HAS_INFINITY", "1"), ("HAS_QUIET_NAN", "1"), ("MANT_DIG", toString facts.mantissa),
    ("MAX_10_EXP", toString facts.maxTen), ("MAX_EXP", toString facts.maxExponent),
    ("MAX", facts.greatest ++ suffix), ("MIN_10_EXP", "(-" ++ toString facts.minTen ++ ")"),
    ("MIN_EXP", "(-" ++ toString facts.minExponent ++ ")"), ("MIN", facts.smallest ++ suffix)].map
    fun entry => ("__" ++ name ++ "_" ++ entry.1 ++ "__", entry.2)

/-- Macros that stand for one. -/
def ones (names : List String) : List (String × String) := names.map fun name => (name, "1")

/-- The macros that depend on nothing but the dialect. -/
def standardMacros (language : Language) (choices : MacroChoices) : List (String × String) :=
  let dates : List (Nat × String) :=
    [(1994, "199409L"), (1999, "199901L"), (2011, "201112L"), (2017, "201710L"), (2023, "202311L")]
  ones ["__STDC__", "__STDC_UTF_16__", "__STDC_UTF_32__"]
    ++ [("__STDC_HOSTED__", if choices.freestanding then "0" else "1")]
    ++ (dates.lookup language.edition).toList.map fun date => ("__STDC_VERSION__", date)

def systemMacros (target : Target) (language : Language) (choices : MacroChoices) :
    List (String × String) :=
  let plain (names : List String) : List (String × String) :=
    if language.strict then [] else ones names
  match target.system with
  | .linux =>
    ones ["__linux", "__linux__", "__gnu_linux__", "__unix", "__unix__", "__ELF__"]
      ++ plain ["linux", "unix"]
      ++ (if choices.threads then ones ["_REENTRANT"] else [])
      ++ if target.machine = .x86_64 ∨ target.machine = .i386 then ones ["__FLOAT128__"] else []
  | .darwin =>
    ones ["__APPLE__", "__MACH__", "__DYNAMIC__", "OBJC_NEW_PROPERTIES"]
      ++ [("__APPLE_CC__", "6000"), ("__weak", "__attribute__((objc_gc(weak)))"),
        ("__strong", ""), ("__unsafe_unretained", "")]
  | .windows => ones ["_WIN32"] ++ if target.wordWidth = 64 then ones ["_WIN64"] else []
  | .none => ones ["__ELF__"]

def syncMacros (widths : List Nat) : List (String × String) :=
  ones (widths.map fun width => "__GCC_HAVE_SYNC_COMPARE_AND_SWAP_" ++ toString width)

def machineMacros (target : Target) (language : Language) : List (String × String) :=
  let vectors := ones ["__MMX__", "__SSE__", "__SSE_MATH__", "__SSE2__", "__SSE2_MATH__",
    "__FXSR__", "__NO_MATH_INLINES", "__SEG_FS", "__SEG_GS", "__code_model_small__"]
    ++ [("__REGISTER_PREFIX__", ""), ("__SIZEOF_FLOAT128__", "16"),
      ("__seg_fs", "__attribute__((address_space(257)))"),
      ("__seg_gs", "__attribute__((address_space(256)))")]
  match target.machine with
  | .x86_64 =>
    vectors ++ ones ["__x86_64", "__x86_64__", "__amd64", "__amd64__", "__k8", "__k8__",
      "__tune_k8__"] ++ syncMacros [1, 2, 4, 8]
  | .i386 =>
    vectors ++ ones ["__i386", "__i386__", "__pentium4", "__pentium4__", "__tune_pentium4__"]
      ++ syncMacros [1, 2, 4, 8] ++ if language.strict then [] else ones ["i386"]
  | .aarch64 =>
    ones ["__aarch64__", "__AARCH64EL__", "__AARCH64_CMODEL_SMALL__", "__ARM_64BIT_STATE",
      "__ARM_PCS_AAPCS64", "__ARM_ARCH_ISA_A64", "__ARM_FEATURE_CLZ", "__ARM_FEATURE_FMA",
      "__ARM_FEATURE_IDIV", "__ARM_FEATURE_DIV", "__ARM_FEATURE_NUMERIC_MAXMIN",
      "__ARM_FEATURE_DIRECTED_ROUNDING", "__ARM_FEATURE_UNALIGNED", "__ARM_FP16_FORMAT_IEEE",
      "__ARM_FP16_ARGS", "__ARM_NEON", "__HAVE_FUNCTION_MULTI_VERSIONING"]
      ++ [("__ARM_ARCH", "8"), ("__ARM_ARCH_PROFILE", "'A'"), ("__ARM_FEATURE_LDREX", "0xF"),
        ("__ARM_ALIGN_MAX_STACK_PWR", "4"), ("__ARM_FP", "0xE"), ("__ARM_NEON_FP", "0xE"),
        ("__ARM_SIZEOF_WCHAR_T", "4"), ("__ARM_SIZEOF_MINIMAL_ENUM", "4"), ("__ARM_ACLE", "200")]
      ++ syncMacros [1, 2, 4, 8, 16]
  | .arm =>
    ones ["__arm", "__arm__", "__ARMEL__", "__ARM_EABI__", "__ARM_PCS", "__ARM_32BIT_STATE",
      "__ARM_ARCH_ISA_ARM"]
      ++ [("__APCS_32__", "1"), ("__ARM_SIZEOF_WCHAR_T", "4"), ("__ARM_SIZEOF_MINIMAL_ENUM", "4"),
        ("__ARM_ACLE", "200"), ("__REGISTER_PREFIX__", "")]
  | .riscv64 => ones ["__riscv"] ++ [("__riscv_xlen", "64"), ("__riscv_flen", "64")]
  | .riscv32 => ones ["__riscv"] ++ [("__riscv_xlen", "32"), ("__riscv_flen", "64")]
  | .powerpc64 =>
    ones ["__powerpc__", "__powerpc64__", "__ppc__", "__PPC__", "__ppc64__", "__PPC64__",
      "_ARCH_PPC", "_ARCH_PPC64", "_LITTLE_ENDIAN"]

def atomicMacros : List (String × String) :=
  let free (name : String) : List (String × String) :=
    [("__GCC_ATOMIC_" ++ name ++ "_LOCK_FREE", "2"), ("__CLANG_ATOMIC_" ++ name ++ "_LOCK_FREE", "2")]
  ["BOOL", "CHAR", "CHAR16_T", "CHAR32_T", "WCHAR_T", "SHORT", "INT", "LONG", "LLONG",
    "POINTER"].flatMap free
    ++ [("__ATOMIC_RELAXED", "0"), ("__ATOMIC_CONSUME", "1"), ("__ATOMIC_ACQUIRE", "2"),
      ("__ATOMIC_RELEASE", "3"), ("__ATOMIC_ACQ_REL", "4"), ("__ATOMIC_SEQ_CST", "5"),
      ("__GCC_ATOMIC_TEST_AND_SET_TRUEVAL", "1"), ("__MEMORY_SCOPE_SYSTEM", "0"),
      ("__MEMORY_SCOPE_DEVICE", "1"), ("__MEMORY_SCOPE_WRKGRP", "2"),
      ("__MEMORY_SCOPE_WVFRNT", "3"), ("__MEMORY_SCOPE_SINGLE", "4"),
      ("__OPENCL_MEMORY_SCOPE_WORK_ITEM", "0"), ("__OPENCL_MEMORY_SCOPE_WORK_GROUP", "1"),
      ("__OPENCL_MEMORY_SCOPE_DEVICE", "2"), ("__OPENCL_MEMORY_SCOPE_ALL_SVM_DEVICES", "3"),
      ("__OPENCL_MEMORY_SCOPE_SUB_GROUP", "4")]

/-- The macros that tell sizes in bytes. -/
def sizeMacros (target : Target) : List (String × String) :=
  let size (type : BasicType) : String := toString (type.width target / 8)
  [("SHORT", size .short), ("INT", size .int), ("LONG", size .long), ("LONG_LONG", size .longLong),
    ("FLOAT", size .float), ("DOUBLE", size .double), ("LONG_DOUBLE", size .longDouble),
    ("POINTER", toString (target.wordWidth / 8)), ("SIZE_T", size target.sizeType),
    ("PTRDIFF_T", size target.distanceType), ("WCHAR_T", if target.shortWide then "2" else "4"),
    ("WINT_T", "4")].map (fun entry => ("__SIZEOF_" ++ entry.1 ++ "__", entry.2))
    ++ if target.wordWidth = 64 then [("__SIZEOF_INT128__", "16")] else []

/-- The macros for the integer types of the language. -/
def integerMacros (target : Target) : List (String × String) :=
  let wide := target.wideInteger
  let word := target.distanceType
  let wideChar := target.wideType
  let named (name : String) (type : BasicType) : List (String × String) :=
    [("__" ++ name ++ "_MAX__", type.greatest target),
      ("__" ++ name ++ "_WIDTH__", toString (type.width target))]
  let greatest (name : String) (type : BasicType) : String × String :=
    ("__" ++ name ++ "_MAX__", type.greatest target)
  let width (name : String) (type : BasicType) : String × String :=
    ("__" ++ name ++ "_WIDTH__", toString (type.width target))
  [greatest "SCHAR" .signedChar, greatest "SHRT" .short, greatest "INT" .int,
    greatest "LONG" .long, greatest "LONG_LONG" .longLong, width "SCHAR" .signedChar,
    width "SHRT" .short, width "INT" .int, width "LONG" .long, width "LLONG" .longLong,
    ("__BOOL_WIDTH__", "8"), ("__BITINT_MAXWIDTH__", "8388608"),
    ("__CHAR16_TYPE__", "unsigned short"), ("__CHAR32_TYPE__", "unsigned int"),
    ("__WCHAR_TYPE__", wideChar.words), ("__WINT_TYPE__", "unsigned int"),
    ("__INTMAX_C_SUFFIX__", wide.suffix), ("__UINTMAX_C_SUFFIX__", wide.toUnsigned.suffix)]
    ++ named "WCHAR" wideChar ++ named "WINT" .unsigned ++ named "SIG_ATOMIC" .int
    ++ typeMacros target "INTMAX" wide ++ typeMacros target "UINTMAX" wide.toUnsigned
    ++ typeMacros target "PTRDIFF" word ++ typeMacros target "INTPTR" word
    ++ typeMacros target "SIZE" word.toUnsigned ++ typeMacros target "UINTPTR" word.toUnsigned
    ++ widthMacros target 8 .signedChar ++ widthMacros target 16 .short
    ++ widthMacros target 32 .int ++ widthMacros target 64 wide

def floatingMacros (target : Target) : List (String × String) :=
  let longFacts := match target.longDouble with
    | .double => doubleFacts
    | .extended => extendedFacts
    | .quadruple => quadrupleFacts
  floatMacros "FLT16" "F16" halfFacts ++ floatMacros "FLT" "F" floatFacts
    ++ floatMacros "DBL" "" doubleFacts ++ floatMacros "LDBL" "L" longFacts
    ++ [("__DECIMAL_DIG__", "__LDBL_DECIMAL_DIG__"), ("__FLT_RADIX__", "2"),
      ("__FINITE_MATH_ONLY__", "0")]

/-- The macros that tell what the compiler is. -/
def compilerMacros (language : Language) (choices : MacroChoices) : List (String × String) :=
  ones ["__clang__", "__llvm__", "__GNUC_PATCHLEVEL__", "__clang_minor__", "__clang_patchlevel__",
    "__CONSTANT_CFSTRINGS__", "__GCC_HAVE_DWARF2_CFI_ASM", "__GCC_ASM_FLAG_OUTPUTS__",
    "__PRAGMA_REDEFINE_EXTNAME"]
    ++ [("__clang_major__", "18"), ("__GNUC__", "4"), ("__GNUC_MINOR__", "2"),
      ("__GXX_ABI_VERSION", "1002"), ("__VERSION__", "\"Clang 18.1.1\""),
      ("__clang_version__", "\"18.1.1 \""), ("__clang_literal_encoding__", "\"UTF-8\""),
      ("__clang_wide_literal_encoding__", "\"UTF-32\""), ("__OBJC_BOOL_IS_BOOL", "0"),
      ("__USER_LABEL_PREFIX__", ""), ("__PIC__", "2"), ("__pic__", "2"), ("__PIE__", "2"),
      ("__pie__", "2")]
    ++ (if language.edition < 1999 then ones ["__GNUC_GNU_INLINE__"]
      else ones ["__GNUC_STDC_INLINE__"])
    ++ (if choices.optimizes then ones ["__OPTIMIZE__"] else ones ["__NO_INLINE__"])
    ++ (if choices.optimizesSize then ones ["__OPTIMIZE_SIZE__"] else [])
    ++ (if language.strict then ones ["__STRICT_ANSI__"] else [])
    ++ if choices.blocks then [("__BLOCKS__", "1"), ("__block", "__attribute__((__blocks__(byref)))")]
      else []

/-- All macros of the compiler. -/
def givenMacros (target : Target) (language : Language) (choices : MacroChoices) :
    List (String × String) :=
  let standard := standardMacros language choices
  if choices.bare then standard
  else
    let long := target.longWidth = 64
    let words := target.wordWidth = 64
    standard ++ compilerMacros language choices ++ systemMacros target language choices
      ++ machineMacros target language ++ integerMacros target ++ sizeMacros target
      ++ floatingMacros target ++ atomicMacros
      ++ [("__CHAR_BIT__", "8"), ("__BIGGEST_ALIGNMENT__", "16"),
        ("__ORDER_LITTLE_ENDIAN__", "1234"), ("__ORDER_BIG_ENDIAN__", "4321"),
        ("__ORDER_PDP_ENDIAN__", "3412"), ("__BYTE_ORDER__", "__ORDER_LITTLE_ENDIAN__"),
        ("__LITTLE_ENDIAN__", "1"), ("__POINTER_WIDTH__", toString target.wordWidth)]
      ++ (if words && long then ones ["_LP64", "__LP64__"]
        else if !words && !long then ones ["_ILP32", "__ILP32__"] else [])
      ++ (if target.charSigned then [] else ones ["__CHAR_UNSIGNED__"])
      ++ (if target.wideType.isSigned target then [] else ones ["__WCHAR_UNSIGNED__"])

end HeaderBindings
