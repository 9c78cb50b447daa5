import HeaderBindings.C.Feature

/-!
The names by which warnings can be turned on and off.
-/

namespace HeaderBindings

/-- The groups of warnings that the compiler knows. -/
def warningNames : List String := wordsOf "
  #pragma-messages #warnings CFString-literal CL4 IndependentClass-attribute NSObject-attribute
  abi absolute-value abstract-final-class abstract-vbase-init address address-of-packed-member
  address-of-temporary aggregate-return aix-compat align-mismatch all alloca
  alloca-with-align-alignof always-inline-coroutine ambiguous-delete ambiguous-ellipsis
  ambiguous-macro ambiguous-member-template ambiguous-reversed-operator
  analyzer-incompatible-plugin android-unversioned-fallback anon-enum-enum-conversion
  anonymous-pack-parens apinotes apple-framework-include-private-from-public-removed arc
  arc-abi-abi argument-outside-range argument-undefined-behaviour array-bounds
  array-bounds-pointer-arithmetic array-parameter asm asm-operand-widths assign-enum assume
  at-protocol atimport-in-framework-header atomic-access atomic-alignment atomic-implicit-seq-cst
  atomic-memory-ordering atomic-properties atomic-property-with-user-defined-accessor
  attribute-packed-for-bitfield attribute-warning attributes auto-disable-vptr-sanitizer
  auto-import auto-storage-class auto-var-id availability avr-rtlib-linking-quirks backend-plugin
  backslash-newline-escape bad-function-cast binary-literal binding-in-condition
  bind-to-temporary-copy bit-int-extension bitfield-constant-conversion bitfield-enum-conversion
  bitfield-width bitwise-conditional-parentheses bitwise-instead-of-logical
  bitwise-op-parentheses block-capture-autoreleasing bool-conversion bool-conversions
  bool-operation braced-scalar-init branch-protection bridge-cast
  builtin-assume-aligned-alignment builtin-macro-redefined builtin-memcpy-chk-size
  builtin-requires-header c++-compat c++0x-compat c++0x-extensions c++0x-narrowing c++11-compat
  c++11-compat-deprecated-writable-strings c++11-compat-pedantic
  c++11-compat-reserved-user-defined-literal c++11-extensions c++11-extra-semi
  c++11-inline-namespace c++11-long-long c++11-narrowing c++11-narrowing-const-reference
  c++14-attribute-extensions c++14-binary-literal c++14-compat c++14-compat-pedantic
  c++14-extensions c++17-attribute-extensions c++17-compat c++17-compat-mangling
  c++17-compat-pedantic c++17-extensions c++1y-extensions c++1z-compat c++1z-compat-mangling
  c++1z-extensions c++20-attribute-extensions c++20-compat c++20-compat-pedantic c++20-designator
  c++20-extensions c++23-attribute-extensions c++23-compat c++23-default-comp-relaxed-constexpr
  c++23-extensions c++23-lambda-attributes c++26-extensions c++2a-compat c++2a-compat-pedantic
  c++2a-extensions c++2b-extensions c++2c-compat c++2c-extensions c++98-c++11-c++14-compat
  c++98-c++11-c++14-c++17-compat c++98-c++11-compat c++98-compat
  c++98-compat-bind-to-temporary-copy c++98-compat-extra-semi
  c++98-compat-local-type-template-args c++98-compat-pedantic
  c++98-compat-unnamed-type-template-args c11-extensions c2x-compat c2x-extensions c23-compat
  c23-extensions c99-compat c99-designator c99-extensions call-to-pure-virtual-from-ctor-dtor
  called-once-parameter cast-align cast-calling-convention cast-function-type
  cast-function-type-strict cast-of-sel-type cast-qual cast-qual-unrelated char-align
  char-subscripts clang-cl-pch class-conversion class-varargs cmse-union-leak comma comment
  comments compare-distinct-pointer-types completion-handler complex-component-init
  compound-token-split compound-token-split-by-macro compound-token-split-by-space
  conditional-type-mismatch conditional-uninitialized config-macros constant-conversion
  constant-evaluated constant-logical-operand constexpr-not-const consumed conversion
  conversion-null coroutine coroutine-missing-unhandled-exception covered-switch-default cpp
  cstring-format-directive ctad-maybe-unsupported ctor-dtor-privacy ctu cuda-compat
  custom-atomic-properties cxx-attribute-extension dangling dangling-else dangling-field
  dangling-gsl dangling-initializer-list darwin-sdk-settings date-time dealloc-in-category
  debug-compression-unavailable declaration-after-statement defaulted-function-deleted
  delegating-ctor-cycles delete-abstract-non-virtual-dtor delete-incomplete
  delete-non-abstract-non-virtual-dtor delete-non-virtual-dtor
  delimited-escape-sequence-extension deprecate-lax-vec-conv-all deprecated
  deprecated-altivec-src-compat deprecated-anon-enum-enum-conversion deprecated-array-compare
  deprecated-attributes deprecated-builtins deprecated-comma-subscript deprecated-copy
  deprecated-copy-dtor deprecated-copy-with-dtor deprecated-copy-with-user-provided-copy
  deprecated-copy-with-user-provided-dtor deprecated-coroutine deprecated-declarations
  deprecated-dynamic-exception-spec deprecated-enum-compare deprecated-enum-compare-conditional
  deprecated-enum-conversion deprecated-enum-enum-conversion deprecated-enum-float-conversion
  deprecated-implementations deprecated-increment-bool deprecated-literal-operator
  deprecated-module-dot-map deprecated-non-prototype deprecated-objc-isa-usage
  deprecated-objc-pointer-introspection deprecated-objc-pointer-introspection-performSelector
  deprecated-pragma deprecated-redundant-constexpr-static-def deprecated-register
  deprecated-static-analyzer-flag deprecated-this-capture deprecated-type deprecated-volatile
  deprecated-writable-strings direct-ivar-access disabled-macro-expansion disabled-optimization
  discard-qual distributed-object-modifiers div-by-zero division-by-zero
  dll-attribute-on-redeclaration dllexport-explicit-instantiation-decl dllimport-static-field-def
  documentation documentation-deprecated-sync documentation-html documentation-pedantic
  documentation-unknown-command dollar-in-identifier-extension double-promotion dtor-name
  dtor-typedef duplicate-decl-specifier duplicate-enum duplicate-method-arg
  duplicate-method-match duplicate-protocol dynamic-class-memaccess dynamic-exception-spec
  eager-load-cxx-named-modules effc++ elaborated-enum-base elaborated-enum-class
  embedded-directive empty-body empty-decomposition empty-init-stmt empty-translation-unit
  encode-type endif-labels enum-compare enum-compare-conditional enum-compare-switch
  enum-constexpr-conversion enum-conversion enum-enum-conversion enum-float-conversion
  enum-too-large excess-initializers exceptions exit-time-destructors expansion-to-defined
  experimental-header-units explicit-initialize-call explicit-ownership-type export-unnamed
  export-using-directive extern-c-compat extern-initializer extra extra-qualification extra-semi
  extra-semi-stmt extra-tokens final-dtor-non-final-class final-macro fixed-enum-extension
  fixed-point-overflow flag-enum flexible-array-extensions float-conversion float-equal
  float-overflow-conversion float-zero-conversion for-loop-analysis format format-extra-args
  format-insufficient-args format-invalid-specifier format-non-iso format-nonliteral
  format-overflow format-overflow-non-kprintf format-pedantic format-security format-truncation
  format-truncation-non-kprintf format-type-confusion format-y2k format-zero-length format=2
  fortify-source four-char-constants frame-address frame-larger-than
  framework-include-private-from-public free-nonheap-object function-def-in-objc-container
  function-multiversion fuse-ld-path future-attribute-extensions future-compat gcc-compat
  generic-type-extension global-constructors global-isel gnu gnu-alignof-expression
  gnu-anonymous-struct gnu-array-member-paren-init gnu-auto-type gnu-binary-literal
  gnu-case-range gnu-complex-integer gnu-compound-literal-initializer
  gnu-conditional-omitted-operand gnu-designator gnu-empty-initializer gnu-empty-struct
  gnu-flexible-array-initializer gnu-flexible-array-union-member gnu-folding-constant
  gnu-imaginary-constant gnu-include-next gnu-inline-cpp-without-extern gnu-label-as-value
  gnu-line-marker gnu-null-pointer-arithmetic gnu-offsetof-extensions gnu-pointer-arith
  gnu-redeclared-enum gnu-statement-expression gnu-statement-expression-from-macro-expansion
  gnu-static-float-init gnu-string-literal-operator-template gnu-union-cast
  gnu-variable-sized-type-not-at-end gnu-zero-variadic-macro-arguments gpu-maybe-wrong-side
  header-guard header-hygiene hip-only hlsl-extensions idiomatic-parentheses ignored-attributes
  ignored-availability-without-sdk-settings ignored-optimization-argument
  ignored-pragma-intrinsic ignored-pragma-optimize ignored-pragmas ignored-qualifiers
  ignored-reference-qualifiers implicit implicit-atomic-properties
  implicit-const-int-float-conversion implicit-conversion-floating-point-to-bool
  implicit-exception-spec-mismatch implicit-fallthrough implicit-fallthrough-per-function
  implicit-fixed-point-conversion implicit-float-conversion implicit-function-declaration
  implicit-int implicit-int-conversion implicit-int-float-conversion implicit-retain-self
  implicitly-unsigned-literal import import-implementation-partition-unit-in-interface-unit
  import-preprocessor-directive-pedantic inaccessible-base include-angled-in-module-purview
  include-next-absolute-path include-next-outside-header incompatible-exception-spec
  incompatible-function-pointer-types incompatible-function-pointer-types-strict
  incompatible-library-redeclaration incompatible-ms-struct incompatible-pointer-types
  incompatible-pointer-types-discards-qualifiers incompatible-property-type incompatible-sysroot
  incomplete-framework-module-declaration incomplete-implementation incomplete-module
  incomplete-setjmp-declaration incomplete-umbrella inconsistent-dllimport
  inconsistent-missing-destructor-override inconsistent-missing-override increment-bool
  independentclass-attribute infinite-recursion init-self initializer-overrides
  injected-class-name inline inline-asm inline-namespace-reopened-noninline inline-new-delete
  instantiation-after-specialization int-conversion int-conversions int-in-bool-context
  int-to-pointer-cast int-to-void-pointer-cast integer-overflow interrupt-service-routine
  invalid-command-line-argument invalid-constexpr invalid-iboutlet
  invalid-initializer-from-system-header invalid-ios-deployment-target invalid-no-builtin-names
  invalid-noreturn invalid-offsetof invalid-or-nonexistent-directory
  invalid-partial-specialization invalid-pch invalid-pp-token invalid-source-encoding
  invalid-static-assert-message invalid-token-paste invalid-unevaluated-string invalid-utf8
  jump-seh-finally keyword-compat keyword-macro knr-promoted-parameter language-extension-token
  large-by-value-copy legacy-constant-register-binding linker-warnings literal-conversion
  literal-range local-type-template-args logical-not-parentheses logical-op-parentheses long-long
  loop-analysis macro-redefined main main-return-type malformed-warning-check
  many-braces-around-scalar-init mathematical-notation-identifier-extension max-tokens
  max-unsigned-zero memset-transposed-args memsize-comparison method-signatures microsoft
  microsoft-abstract microsoft-anon-tag microsoft-cast microsoft-charize microsoft-comment-paste
  microsoft-const-init microsoft-cpp-macro microsoft-default-arg-redefinition
  microsoft-drectve-section microsoft-end-of-file microsoft-enum-forward-reference
  microsoft-enum-value microsoft-exception-spec microsoft-exists
  microsoft-explicit-constructor-call microsoft-extra-qualification microsoft-fixed-enum
  microsoft-flexible-array microsoft-goto microsoft-inaccessible-base microsoft-include
  microsoft-init-from-predefined microsoft-mutable-reference microsoft-pure-definition
  microsoft-redeclare-static microsoft-sealed microsoft-static-assert microsoft-template
  microsoft-template-shadow microsoft-union-member-reference microsoft-unqualified-friend
  microsoft-using-decl microsoft-void-pseudo-dtor misexpect misleading-indentation
  mismatched-new-delete mismatched-parameter-types mismatched-return-types mismatched-tags
  missing-braces missing-constinit missing-declarations missing-exception-spec
  missing-field-initializers missing-format-attribute missing-include-dirs
  missing-method-return-type missing-multilib missing-noescape missing-noreturn
  missing-prototype-for-cc missing-prototypes missing-selector-name missing-sysroot
  missing-variable-declarations misspelled-assumption mix-packoffset
  modules-ambiguous-internal-linkage modules-import-nested-redundant most move msvc-include
  msvc-not-found multichar multiple-move-vbase multi-gpu narrowing nested-anon-types
  nested-externs new-returns-null newline-eof noderef noexcept-type non-c-typedef-for-linkage
  non-gcc non-literal-null-conversion non-modular-include-in-framework-module
  non-modular-include-in-module non-pod-varargs non-power-of-two-alignment non-virtual-dtor
  nonnull nonportable-cfstrings nonportable-include-path nonportable-system-include-path
  nonportable-vector-initialization nontrivial-memaccess nsconsumed-mismatch nsreturns-mismatch
  null-arithmetic null-character null-conversion null-dereference null-pointer-arithmetic
  null-pointer-subtraction nullability nullability-completeness
  nullability-completeness-on-arrays nullability-declspec nullability-extension
  nullability-inferred-on-nested-type nullable-to-nonnull-conversion
  objc-autosynthesis-property-ivar-name-match objc-bool-constant-conversion objc-boxing
  objc-circular-container objc-cocoa-api objc-designated-initializers
  objc-dictionary-duplicate-keys objc-flexible-array objc-forward-class-redefinition
  objc-interface-ivars objc-literal-compare objc-literal-conversion objc-macro-redefinition
  objc-messaging-id objc-method-access objc-missing-property-synthesis objc-missing-super-calls
  objc-multiple-method-names objc-noncopy-retain-block-property objc-nonunified-exceptions
  objc-property-assign-on-object-type objc-property-implementation
  objc-property-implicit-mismatch objc-property-matches-cocoa-ownership-rule
  objc-property-no-attribute objc-property-synthesis objc-protocol-method-implementation
  objc-protocol-property-synthesis objc-protocol-qualifiers objc-readonly-with-setter-property
  objc-redundant-api-use objc-redundant-literal-use objc-root-class objc-signed-char-bool
  objc-signed-char-bool-implicit-float-conversion objc-signed-char-bool-implicit-int-conversion
  objc-string-compare objc-string-concatenation objc-unsafe-perform-selector odr old-style-cast
  opencl-unsupported-rgba openacc openacc-self-if-potential-conflict openmp openmp-51-extensions
  openmp-clauses openmp-extensions openmp-loop-form openmp-mapping openmp-target
  openmp-target-exception option-ignored ordered-compare-function-pointers
  out-of-line-declaration out-of-scope-function over-aligned overflow overlength-strings
  overloaded-shift-op-parentheses overloaded-virtual override override-init override-module
  overriding-method-mismatch overriding-option overriding-t-option packed packed-non-pod padded
  parentheses parentheses-equality partial-availability pass pass-analysis pass-failed
  pass-missed pch-date-time pedantic pedantic-core-features pedantic-macros pessimizing-move
  poison-system-directories pointer-arith pointer-bool-conversion pointer-compare
  pointer-integer-compare pointer-sign pointer-to-enum-cast pointer-to-int-cast
  pointer-type-mismatch poor-documentation potentially-direct-selector
  potentially-evaluated-expression pragma-clang-attribute pragma-once-outside-header pragma-pack
  pragma-pack-suspicious-include pragma-system-header-outside-header pragmas pre-c++14-compat
  pre-c++14-compat-pedantic pre-c++17-compat pre-c++17-compat-pedantic pre-c++20-compat
  pre-c++20-compat-pedantic pre-c++23-compat pre-c++23-compat-pedantic pre-c++26-compat
  pre-c++26-compat-pedantic pre-c++2c-compat pre-c++2c-compat-pedantic pre-c11-compat
  pre-c2x-compat pre-c2x-compat-pedantic pre-c23-compat pre-c23-compat-pedantic
  pre-openmp-51-compat predefined-identifier-outside-function private-extern private-header
  private-module profile-instr-missing profile-instr-out-of-date profile-instr-unprofiled
  property-access-dot-syntax property-attribute-mismatch protocol
  protocol-property-synthesis-ambiguity psabi ptrauth-null-pointers qualified-void-return-type
  quoted-include-in-framework-header range-loop-analysis range-loop-bind-reference
  range-loop-construct read-modules-implicitly read-only-types readonly-iboutlet-property
  receiver-expr receiver-forward-class redeclared-class-member redundant-attribute
  redundant-consteval-if redundant-decls redundant-move redundant-parens register
  reinterpret-base-class remark-backend-plugin reorder reorder-ctor reorder-init-list
  requires-expression requires-super-attribute reserved-attribute-identifier reserved-id-macro
  reserved-identifier reserved-macro-identifier reserved-module-identifier
  reserved-user-defined-literal restrict-expansion retained-language-linkage return-local-addr
  return-stack-address return-std-move return-type return-type-c-linkage rewrite-not-bool rtti
  sanitize-address sarif-format-unstable search-path-usage section select selector
  selector-type-mismatch self-assign self-assign-field self-assign-overloaded self-move
  semicolon-before-method-body sentinel sequence-point serialized-diagnostics shadow shadow-all
  shadow-field shadow-field-in-constructor shadow-field-in-constructor-modified shadow-ivar
  shadow-uncaptured-local shift-bool shift-count-negative shift-count-overflow
  shift-negative-value shift-op-parentheses shift-overflow shift-sign-overflow shorten-64-to-32
  sign-compare sign-conversion sign-promo signed-enum-bitfield signed-unsigned-wchar
  single-bit-bitfield-constant-conversion sizeof-array-argument sizeof-array-decay
  sizeof-array-div sizeof-pointer-div sizeof-pointer-memaccess slash-u-filename slh-asm-goto
  sometimes-uninitialized source-mgr source-uses-openacc source-uses-openmp spir-compat
  spirv-compat stack-exhausted stack-protector static-float-init static-in-inline
  static-inline-explicit-instantiation static-local-in-inline static-self-init
  stdlibcxx-not-found strict-aliasing strict-aliasing=0 strict-aliasing=1 strict-aliasing=2
  strict-overflow strict-overflow=0 strict-overflow=1 strict-overflow=2 strict-overflow=3
  strict-overflow=4 strict-overflow=5 strict-potentially-direct-selector strict-prototypes
  strict-selector-match string-compare string-concatenation string-conversion string-plus-char
  string-plus-int strlcpy-strlcat-size strncat-size suggest-destructor-override suggest-override
  super-class-method-mismatch suspicious-bzero suspicious-memaccess swift-name-attribute switch
  switch-bool switch-default switch-enum sync-alignment sync-fetch-and-nand-semantics-changed
  synth tablegen tautological-bitwise-compare tautological-compare tautological-constant-compare
  tautological-constant-in-range-compare tautological-constant-out-of-range-compare
  tautological-negation-compare tautological-objc-bool-compare tautological-overlap-compare
  tautological-pointer-compare tautological-type-limit-compare tautological-undefined-compare
  tautological-unsigned-char-zero-compare tautological-unsigned-enum-zero-compare
  tautological-unsigned-zero-compare tautological-value-range-compare tcb-enforcement
  tentative-definition-incomplete-type thread-safety thread-safety-analysis
  thread-safety-attributes thread-safety-beta thread-safety-negative thread-safety-precise
  thread-safety-reference thread-safety-reference-return thread-safety-verbose trigraphs
  type-limits type-safety typedef-redefinition typename-missing unable-to-open-stats-file
  unaligned-access unaligned-qualifier-implicit-cast unavailable-declarations undeclared-selector
  undef undef-prefix undefined-bool-conversion undefined-func-template undefined-inline
  undefined-internal undefined-internal-type undefined-reinterpret-cast undefined-var-template
  underaligned-exception-object underlying-atomic-qualifier-ignored
  underlying-cv-qualifier-ignored unevaluated-expression unguarded-availability
  unguarded-availability-new unicode unicode-homoglyph unicode-whitespace unicode-zero-width
  uninitialized uninitialized-const-reference unknown-argument unknown-attributes
  unknown-cuda-version unknown-directives unknown-escape-sequence unknown-pragmas
  unknown-sanitizers unknown-warning-option unnamed-type-template-args
  unneeded-internal-declaration unneeded-member-function unqualified-std-cast-call
  unreachable-code unreachable-code-aggressive unreachable-code-break
  unreachable-code-fallthrough unreachable-code-generic-assoc unreachable-code-loop-increment
  unreachable-code-return unsafe-buffer-usage unsafe-buffer-usage-in-container unsequenced
  unsupported-abi unsupported-abs unsupported-availability-guard unsupported-cb
  unsupported-compiler-option unsupported-cpu-feature unsupported-dll-base-class-template
  unsupported-friend unsupported-gpopt unsupported-nan unsupported-target-opt
  unsupported-visibility unusable-partial-specialization unused unused-argument
  unused-but-set-parameter unused-but-set-variable unused-command-line-argument unused-comparison
  unused-const-variable unused-exception-parameter unused-function unused-getter-return-value
  unused-label unused-lambda-capture unused-local-typedef unused-local-typedefs unused-macros
  unused-member-function unused-parameter unused-private-field unused-property-ivar unused-result
  unused-template unused-value unused-variable unused-volatile-lvalue use-of-temporary-allocation
  used-but-marked-unused user-defined-literals user-defined-warnings varargs
  variadic-macro-arguments-omitted variadic-macros vec-elem-size vector-conversion
  vector-conversions vexing-parse visibility vla vla-cxx-extension vla-extension
  vla-extension-static-assert void-pointer-to-enum-cast void-pointer-to-int-cast
  void-ptr-dereference volatile-register-var wasm-exception-spec weak-template-vtables
  weak-vtables writable-strings write-strings xor-used-as-pow zero-as-null-pointer-constant
  zero-length-array"

/-- Whether an option for warnings, as it is written with its dash, names a group. -/
def namesWarnings (option : String) : Bool :=
  option.startsWith "-W" && warningNames.contains (String.ofList (option.toList.drop 2))

end HeaderBindings
