import HeaderBindings.C.Language
import HeaderBindings.C.Target

/-!
What a header can ask about the compiler: its language features, the attributes that it knows and
the functions that are built into it.
-/

namespace HeaderBindings

/-- A name without the two underscores around it. -/
def bareName (name : String) : String :=
  if name.startsWith "__" && name.endsWith "__" && 4 < name.length then
    String.ofList ((name.toList.drop 2).dropLast.dropLast)
  else name

/-- Words of a text between blanks and line ends. -/
def wordsOf (text : String) : List String :=
  (text.splitToList fun c => c = ' ' || c = '\n').filter (· ≠ "")

/-- Features that every dialect has. -/
def commonFeatures : List String := wordsOf "
  assume_nonnull attribute_analyzer_noreturn attribute_availability
  attribute_availability_with_message attribute_availability_app_extension
  attribute_availability_with_version_underscores attribute_availability_tvos
  attribute_availability_watchos attribute_availability_driverkit
  attribute_availability_with_strict attribute_availability_with_replacement
  attribute_availability_in_templates attribute_availability_swift
  attribute_cf_returns_not_retained attribute_cf_returns_retained
  attribute_cf_returns_on_parameters attribute_deprecated_with_message
  attribute_deprecated_with_replacement attribute_ext_vector_type
  attribute_ns_returns_not_retained attribute_ns_returns_retained attribute_ns_consumes_self
  attribute_ns_consumed attribute_cf_consumed attribute_objc_ivar_unused
  attribute_objc_method_family attribute_overloadable attribute_unavailable_with_message
  attribute_unused_on_fields attribute_diagnose_if_objc c_thread_safety_attributes
  enumerator_attributes generalized_swift_name gnu_asm gnu_asm_goto_with_outputs
  gnu_asm_goto_with_outputs_full matrix_types_scalar_division nullability nullability_on_arrays
  nullability_on_classes nullability_nullable_result ownership_holds ownership_returns
  ownership_takes objc_bool pragma_clang_attribute_namespaces
  pragma_clang_attribute_external_declaration swiftcc swiftasynccc tls"

/-- Features of the later dialects, which the earlier ones have as extensions. -/
def laterFeatures : List String := wordsOf "
  c_alignas c_alignof c_atomic c_generic_selections c_static_assert c_thread_local"

def otherExtensions : List String := wordsOf "
  overloadable_unmarked statement_attributes_with_gnu_syntax cxx_binary_literals cxx_fixed_enum
  define_target_os_macros"

/-- Attributes by their bare names. -/
def knownAttributes : List String := wordsOf "
  abi_tag acquire_capability acquire_shared_capability acquired_after acquired_before
  address_space alias align aligned alloc_align alloc_size always_inline always_destroy
  analyzer_noreturn annotate annotate_type argument_with_type_tag
  artificial assert_capability assert_shared_capability assume assume_aligned availability
  available_only_in_default_eval_method blocking
  blocks bpf_preserve_access_index btf_decl_tag btf_type_tag callable_when callback capability
  carries_dependency cdecl cf_audited_transfer cf_consumed cf_returns_not_retained
  cf_returns_retained cf_unknown_transfer cleanup cold common const constructor consumable
  consumable_auto_cast_state consumable_set_state_on_read convergent cpu_dispatch cpu_specific
  deprecated designated_init destructor diagnose_as_builtin diagnose_if disable_sanitizer_instrumentation
  disable_tail_calls enable_if enforce_tcb enforce_tcb_leaf enum_extensibility error
  exclude_from_explicit_instantiation exclusive_lock_function exclusive_locks_required
  exclusive_trylock_function export_name ext_vector_type external_source_symbol fallthrough
  fastcall flag_enum flatten force_align_arg_pointer format format_arg function_return gnu_inline guard
  guarded_by guarded_var hot ibaction iboutlet iboutletcollection ifunc init_priority
  init_seg intel_ocl_bicc internal_linkage interrupt lifetimebound leaf lock_returned lockable locks_excluded
  loader_uninitialized lto_visibility_public malloc matrix_type maybe_undef may_alias micromips
  mig_server_routine minsize mode model ms_abi ms_struct musttail naked
  no_address_safety_analysis no_builtin no_caller_saved_registers no_destroy
  no_instrument_function no_profile_instrument_function no_randomize_layout no_sanitize
  no_sanitize_address no_sanitize_memory no_sanitize_thread no_speculative_load_hardening
  no_split_stack no_stack_protector no_thread_safety_analysis no_unique_address nocf_check
  nocommon nodebug noderef noduplicate noescape noinline nomerge nonnull noreturn nosplitstack not_tail_called
  nothrow nouwtable nvptx_kernel ns_consumed ns_consumes_self ns_error_domain ns_returns_autoreleased
  ns_returns_not_retained ns_returns_retained objc_arc_weak_reference_unavailable objc_boxable
  objc_bridge objc_bridge_mutable objc_bridge_related objc_class_stub objc_designated_initializer
  objc_direct objc_direct_members objc_exception objc_externally_retained objc_gc
  objc_independent_class objc_method_family objc_non_lazy_class objc_non_runtime_protocol
  objc_nonlazy_class objc_ownership objc_precise_lifetime objc_protocol_requires_explicit_implementation
  objc_requires_property_definitions objc_requires_super objc_returns_inner_pointer
  objc_root_class objc_runtime_name objc_runtime_visible objc_subclassing_restricted
  optnone overloadable ownership_holds ownership_returns ownership_takes packed param_typestate
  pascal pass_dynamic_object_size pass_object_size patchable_function_entry pcs
  pointer_with_type_tag preserve_all preserve_most preferred_name preferred_type pt_guarded_by pt_guarded_var pure
  randomize_layout regcall regparm reinitializes release_capability release_generic_capability
  release_shared_capability require_constant_initialization requires_capability
  requires_shared_capability restrict retain return_typestate returns_nonnull returns_twice
  scoped_lockable section selectany sentinel set_typestate shared_capability
  shared_lock_function shared_locks_required shared_trylock_function speculative_load_hardening
  standalone_debug stdcall strict_guard_stack_check suppress swift_async swift_async_context
  swift_async_error swift_async_name swift_attr swift_bridge swift_bridged_typedef swift_context
  swift_error swift_error_result swift_indirect_result swift_name swift_newtype swift_objc_members
  swift_private swiftasynccall swiftcall sycl_kernel sysv_abi target target_clones target_version tcb
  test_typestate thiscall this_return tls_model transparent_union trivial_abi
  try_acquire_capability try_acquire_shared_capability type_tag_for_datatype type_visibility
  unavailable uninitialized unlock_function unsafe_buffer_usage unused use_handle used
  using_if_exists vecreturn vector_size vectorcall visibility
  warn_unused warn_unused_result warning weak weak_import weakref work_group_size_hint
  xray_always_instrument xray_log_args xray_never_instrument zero_call_used_regs
  acquire_handle release_handle"

/-- The attributes of the standard, with the dates of their texts. -/
def standardAttributes : List (String × String) :=
  [("deprecated", "201904L"), ("fallthrough", "201910L"), ("maybe_unused", "202106L"),
    ("nodiscard", "202003L"), ("noreturn", "202202L"), ("_Noreturn", "202202L")]

/-- Functions of the mathematics library that are built in for three types each. -/
def mathematicalFunctions : List String := wordsOf "
  acos acosh asin asinh atan atan2 atanh cabs cacos cacosh carg casin casinh catan catanh cbrt
  ccos ccosh ceil cexp cimag clog conj copysign cos cosh cpow cproj creal csin csinh csqrt ctan ctanh erf
  erfc exp exp2 expm1 fabs fdim floor fma fmax fmin fmod frexp hypot ilogb ldexp lgamma llrint
  llround log log10 log1p log2 logb lrint lround modf nan nearbyint nextafter nexttoward pow
  remainder remquo rint round roundeven scalbln scalbn sin sinh sqrt tan tanh tgamma trunc exp10 sincos"

/-- Functions of the library that are known by their own names and with the built-in mark. -/
def libraryFunctions : List String := wordsOf "
  abort abs alloca bcmp bcopy bzero calloc exit fprintf fscanf fputc fputs fwrite free index isalnum
  isalpha isascii isblank iscntrl isdigit isgraph islower isprint ispunct isspace isupper isxdigit
  labs llabs malloc memalign memccpy memchr memcmp memcpy memmove mempcpy memset printf putchar puts realloc
  rindex scanf snprintf sprintf sscanf stpcpy stpncpy strcasecmp strcat strchr strcmp strcpy
  strcspn strdup strlcat strlcpy strlen strncasecmp strncat strncmp strncpy strndup strpbrk
  strrchr strspn strstr strtod strtof strtok strtol strtold strtoll strtoul strtoull strxfrm toascii
  tolower toupper vfprintf vfscanf vprintf vscanf vsnprintf vsprintf vsscanf wcschr wcscmp
  wcslen wcsncmp wmemchr wmemcmp wmemcpy wmemmove setjmp longjmp _exit aligned_alloc
  siglongjmp sigsetjmp vfork getcontext savectx _longjmp _setjmp finite finitef finitel"

/-- Functions with the built-in mark and no other name. -/
def markedFunctions : List String := wordsOf "
  add_overflow addc addcb addcl addcll addcs addressof alloca_with_align alloca_uninitialized
  alloca_with_align_uninitialized align_down align_up
  annotation assume assume_aligned assume_separate_storage bit_cast bitreverse16 bitreverse32 bitreverse64 bitreverse8
  bswap16 bswap32 bswap64 call_with_static_chain canonicalize canonicalizef canonicalizel
  char_memchr choose_expr classify_type clear_padding clrsb clrsbl clrsbll clz clzl clzll clzs complex
  constant_p convertvector coro_alloc coro_begin coro_destroy coro_done coro_end coro_frame
  coro_free coro_id coro_noop coro_promise coro_resume coro_size coro_suspend coro_align cpu_init cpu_is
  cpu_supports ctz ctzl ctzll ctzs debugtrap dump_struct dwarf_cfa dwarf_sp_column
  dynamic_object_size eh_return eh_return_data_regno elementwise_abs elementwise_add_sat
  elementwise_bitreverse elementwise_canonicalize elementwise_ceil elementwise_copysign
  elementwise_cos elementwise_exp elementwise_exp2 elementwise_floor elementwise_fma
  elementwise_log elementwise_log10 elementwise_log2 elementwise_max elementwise_min
  elementwise_nearbyint elementwise_pow elementwise_rint elementwise_round
  elementwise_roundeven elementwise_sin elementwise_sqrt elementwise_sub_sat elementwise_trunc
  expect expect_with_probability extend_pointer extract_return_addr fabsf128 ffs ffsl ffsll
  flt_rounds fpclassify frame_address frob_return_addr function_start FILE
  FUNCTION LINE COLUMN FILE_NAME source_location
  get_device_side_mangled_name has_attribute huge_val huge_valf huge_valf128 huge_vall inf inff inff128 infl
  init_dwarf_reg_size_table inline_asm is_aligned isfinite isfpclass isgreater isgreaterequal
  isinf isinf_sign isless islessequal islessgreater isnan isnormal issubnormal iszero
  issignaling isunordered launder load_half load_halff longjmp matrix_column_major_load matrix_column_major_store
  matrix_transpose mul_overflow nanf128 nans nansf nansf128 nansl nondeterministic_value nontemporal_load
  nontemporal_store object_size offsetof operator_delete operator_new os_log_format
  os_log_format_buffer_size parity parityl parityll popcount popcountl popcountll powi powif
  powil prefetch preserve_access_index preserve_field_info preserve_enum_value preserve_type_info
  readcyclecounter reduce_add reduce_and reduce_max reduce_min reduce_mul reduce_or
  reduce_xor return_address rotateleft16 rotateleft32 rotateleft64 rotateleft8 rotateright16
  rotateright32 rotateright64 rotateright8 sadd_overflow saddl_overflow saddll_overflow
  set_flt_rounds setjmp shuffle_vector shufflevector signbit signbitf signbitl smul_overflow
  smull_overflow smulll_overflow sponentry ssub_overflow ssubl_overflow ssubll_overflow stdarg_start
  store_half store_halff sub_overflow subc subcb subcl subcll subcs
  thread_pointer trap types_compatible_p uadd_overflow uaddl_overflow uaddll_overflow
  umul_overflow umull_overflow umulll_overflow unpredictable unreachable unwind_init
  usub_overflow usubl_overflow usubll_overflow va_arg va_arg_pack va_copy va_end va_list va_start verbose_trap
  vsnprintf wcslen wmemcmp
  __memcpy_chk ___memcpy_chk __memmove_chk ___memmove_chk ___memset_chk ___memccpy_chk
  ___mempcpy_chk ___snprintf_chk ___sprintf_chk ___stpcpy_chk ___stpncpy_chk ___strcat_chk
  ___strcpy_chk ___strlcat_chk ___strlcpy_chk ___strncat_chk ___strncpy_chk ___vsnprintf_chk
  ___vsprintf_chk ___fprintf_chk ___printf_chk ___vfprintf_chk ___vprintf_chk
  ___CFStringMakeConstantString ___NSStringMakeConstantString
  ia32_pause ia32_rdtsc ia32_mfence ia32_lfence ia32_sfence"

/-- Functions for atomic access, with their marks. -/
def atomicFunctions : List String := wordsOf "
  __atomic_add_fetch __atomic_always_lock_free __atomic_and_fetch __atomic_clear
  __atomic_compare_exchange __atomic_compare_exchange_n __atomic_exchange __atomic_exchange_n
  __atomic_fetch_add __atomic_fetch_and __atomic_fetch_max __atomic_fetch_min __atomic_fetch_nand
  __atomic_fetch_or __atomic_fetch_sub __atomic_fetch_xor __atomic_is_lock_free __atomic_load
  __atomic_load_n __atomic_max_fetch __atomic_min_fetch __atomic_nand_fetch __atomic_or_fetch
  __atomic_signal_fence __atomic_store __atomic_store_n __atomic_sub_fetch __atomic_test_and_set
  __atomic_thread_fence __atomic_xor_fetch __c11_atomic_compare_exchange_strong
  __c11_atomic_compare_exchange_weak __c11_atomic_exchange __c11_atomic_fetch_add
  __c11_atomic_fetch_and __c11_atomic_fetch_max __c11_atomic_fetch_min __c11_atomic_fetch_nand
  __c11_atomic_fetch_or __c11_atomic_fetch_sub __c11_atomic_fetch_xor __c11_atomic_init
  __c11_atomic_is_lock_free __c11_atomic_load __c11_atomic_signal_fence __c11_atomic_store
  __c11_atomic_thread_fence __sync_add_and_fetch __sync_and_and_fetch
  __sync_bool_compare_and_swap __sync_fetch_and_add __sync_fetch_and_and __sync_fetch_and_nand
  __sync_fetch_and_or __sync_fetch_and_sub __sync_fetch_and_umax __sync_fetch_and_umin
  __sync_fetch_and_max __sync_fetch_and_min __sync_fetch_and_xor __sync_lock_release
  __sync_lock_test_and_set __sync_nand_and_fetch __sync_or_and_fetch __sync_sub_and_fetch
  __sync_swap __sync_synchronize __sync_val_compare_and_swap __sync_xor_and_fetch
  __arithmetic_fence __fence __warn_memset_zero_len __va_start"

/-- Words of the preprocessor that count as built-in functions. -/
def targetQueries : List String := wordsOf "
  __is_target_arch __is_target_vendor __is_target_os __is_target_environment
  __is_target_variant_os __is_target_variant_environment"

def hasFeature (language : Language) (blocks : Bool) (name : String) : Bool :=
  let name := bareName name
  commonFeatures.contains name || (2011 ≤ language.edition && laterFeatures.contains name)
    || (blocks && name = "blocks")

def hasExtension (language : Language) (blocks : Bool) (name : String) : Bool :=
  hasFeature language blocks name || laterFeatures.contains (bareName name)
    || otherExtensions.contains (bareName name)

def hasAttribute (name : String) : Bool := knownAttributes.contains (bareName name)

/-- A mathematical function with the letter of its type. -/
def isMathematical (name : String) : Bool :=
  mathematicalFunctions.contains name
    || ((name.endsWith "f" || name.endsWith "l")
      && mathematicalFunctions.contains (String.ofList name.toList.dropLast))

def builtInMark : String := "__builtin_"

def hasBuiltIn (name : String) : Bool :=
  if name.startsWith builtInMark then
    let rest := String.ofList (name.toList.drop builtInMark.length)
    markedFunctions.contains rest || libraryFunctions.contains rest || isMathematical rest
  else libraryFunctions.contains name || isMathematical name || atomicFunctions.contains name
    || targetQueries.contains name

/-- The value of a question about an attribute in double brackets. -/
def bracketedAttribute (scope? : Option String) (name : String) : String :=
  match scope?.map bareName with
  | none => (standardAttributes.lookup (bareName name)).getD "0"
  | some "gnu" | some "clang" | some "_Clang" =>
    if hasAttribute name then "1" else "0"
  | some _ => "0"

def Machine.names : Machine → List String
  | .x86_64 => ["x86_64", "amd64", "x86_64h"]
  | .i386 => ["i386", "i486", "i586", "i686", "x86"]
  | .aarch64 => ["aarch64", "arm64", "arm64e"]
  | .arm => ["arm"]
  | .riscv64 => ["riscv64"]
  | .riscv32 => ["riscv32"]
  | .powerpc64 => ["powerpc64le", "ppc64le"]

def OperatingSystem.names : OperatingSystem → List String
  | .linux => ["linux"]
  | .darwin => ["darwin", "macos", "macosx"]
  | .windows => ["windows", "win32"]
  | .none => ["none"]

/-- Whether a question about the target holds. -/
def Target.answers (target : Target) (question name : String) : Bool :=
  let name := name.toLower
  match question with
  | "__is_target_arch" => target.machine.names.contains name
  | "__is_target_vendor" => name = "unknown"
  | "__is_target_os" => target.system.names.contains name
  | "__is_target_environment" => target.system = .linux && name = "gnu"
  | _ => false

end HeaderBindings
