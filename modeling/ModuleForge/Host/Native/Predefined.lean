import ModuleForge.Host.Native.Order

/-!
# What is defined from the start

The names that every program finds defined: sizes and limits of types, the system and the compiler,
and what the standard of the language brings.
-/
namespace ModuleForge.Host.Native.Predefined

/-- Definitions in every language. -/
def common : List String := [
  "_LP64 1",
  "__ATOMIC_ACQUIRE 2",
  "__ATOMIC_ACQ_REL 4",
  "__ATOMIC_CONSUME 1",
  "__ATOMIC_RELAXED 0",
  "__ATOMIC_RELEASE 3",
  "__ATOMIC_SEQ_CST 5",
  "__BIGGEST_ALIGNMENT__ 16",
  "__BYTE_ORDER__ __ORDER_LITTLE_ENDIAN__",
  "__CHAR16_TYPE__ short unsigned int",
  "__CHAR32_TYPE__ unsigned int",
  "__CHAR_BIT__ 8",
  "__DBL_DECIMAL_DIG__ 17",
  "__DBL_DENORM_MIN__ ((double)4.94065645841246544176568792868221372e-324L)",
  "__DBL_DIG__ 15",
  "__DBL_EPSILON__ ((double)2.22044604925031308084726333618164062e-16L)",
  "__DBL_HAS_DENORM__ 1",
  "__DBL_HAS_INFINITY__ 1",
  "__DBL_HAS_QUIET_NAN__ 1",
  "__DBL_IS_IEC_60559__ 1",
  "__DBL_MANT_DIG__ 53",
  "__DBL_MAX_10_EXP__ 308",
  "__DBL_MAX_EXP__ 1024",
  "__DBL_MAX__ ((double)1.79769313486231570814527423731704357e+308L)",
  "__DBL_MIN_10_EXP__ (-307)",
  "__DBL_MIN_EXP__ (-1021)",
  "__DBL_MIN__ ((double)2.22507385850720138309023271733240406e-308L)",
  "__DBL_NORM_MAX__ ((double)1.79769313486231570814527423731704357e+308L)",
  "__DECIMAL_DIG__ 21",
  "__ELF__ 1",
  "__FINITE_MATH_ONLY__ 0",
  "__FLOAT_WORD_ORDER__ __ORDER_LITTLE_ENDIAN__",
  "__FLT_DECIMAL_DIG__ 9",
  "__FLT_DENORM_MIN__ 1.40129846432481707092372958328991613e-45F",
  "__FLT_DIG__ 6",
  "__FLT_EPSILON__ 1.19209289550781250000000000000000000e-7F",
  "__FLT_HAS_DENORM__ 1",
  "__FLT_HAS_INFINITY__ 1",
  "__FLT_HAS_QUIET_NAN__ 1",
  "__FLT_IS_IEC_60559__ 1",
  "__FLT_MANT_DIG__ 24",
  "__FLT_MAX_10_EXP__ 38",
  "__FLT_MAX_EXP__ 128",
  "__FLT_MAX__ 3.40282346638528859811704183484516925e+38F",
  "__FLT_MIN_10_EXP__ (-37)",
  "__FLT_MIN_EXP__ (-125)",
  "__FLT_MIN__ 1.17549435082228750796873653722224568e-38F",
  "__FLT_NORM_MAX__ 3.40282346638528859811704183484516925e+38F",
  "__FLT_RADIX__ 2",
  "__GCC_CONSTRUCTIVE_SIZE 64",
  "__GCC_DESTRUCTIVE_SIZE 64",
  "__GNUC_EXECUTION_CHARSET_NAME \"UTF-8\"",
  "__GNUC_MINOR__ 2",
  "__GNUC_PATCHLEVEL__ 0",
  "__GNUC_WIDE_EXECUTION_CHARSET_NAME \"UTF-32LE\"",
  "__GNUC__ 12",
  "__GXX_ABI_VERSION 1017",
  "__INT16_C(c) c",
  "__INT16_MAX__ 0x7fff",
  "__INT16_TYPE__ short int",
  "__INT32_C(c) c",
  "__INT32_MAX__ 0x7fffffff",
  "__INT32_TYPE__ int",
  "__INT64_C(c) c ## L",
  "__INT64_MAX__ 0x7fffffffffffffffL",
  "__INT64_TYPE__ long int",
  "__INT8_C(c) c",
  "__INT8_MAX__ 0x7f",
  "__INT8_TYPE__ signed char",
  "__INTMAX_C(c) c ## L",
  "__INTMAX_MAX__ 0x7fffffffffffffffL",
  "__INTMAX_TYPE__ long int",
  "__INTMAX_WIDTH__ 64",
  "__INTPTR_MAX__ 0x7fffffffffffffffL",
  "__INTPTR_TYPE__ long int",
  "__INTPTR_WIDTH__ 64",
  "__INT_FAST16_MAX__ 0x7fffffffffffffffL",
  "__INT_FAST16_TYPE__ long int",
  "__INT_FAST16_WIDTH__ 64",
  "__INT_FAST32_MAX__ 0x7fffffffffffffffL",
  "__INT_FAST32_TYPE__ long int",
  "__INT_FAST32_WIDTH__ 64",
  "__INT_FAST64_MAX__ 0x7fffffffffffffffL",
  "__INT_FAST64_TYPE__ long int",
  "__INT_FAST64_WIDTH__ 64",
  "__INT_FAST8_MAX__ 0x7f",
  "__INT_FAST8_TYPE__ signed char",
  "__INT_FAST8_WIDTH__ 8",
  "__INT_LEAST16_MAX__ 0x7fff",
  "__INT_LEAST16_TYPE__ short int",
  "__INT_LEAST16_WIDTH__ 16",
  "__INT_LEAST32_MAX__ 0x7fffffff",
  "__INT_LEAST32_TYPE__ int",
  "__INT_LEAST32_WIDTH__ 32",
  "__INT_LEAST64_MAX__ 0x7fffffffffffffffL",
  "__INT_LEAST64_TYPE__ long int",
  "__INT_LEAST64_WIDTH__ 64",
  "__INT_LEAST8_MAX__ 0x7f",
  "__INT_LEAST8_TYPE__ signed char",
  "__INT_LEAST8_WIDTH__ 8",
  "__INT_MAX__ 0x7fffffff",
  "__INT_WIDTH__ 32",
  "__LDBL_DIG__ 18",
  "__LDBL_EPSILON__ 1.08420217248550443400745280086994171e-19L",
  "__LDBL_MANT_DIG__ 64",
  "__LDBL_MAX_10_EXP__ 4932",
  "__LDBL_MAX__ 1.79769313486231570814527423731704357e+308L",
  "__LDBL_MIN__ 2.22507385850720138309023271733240406e-308L",
  "__LONG_LONG_MAX__ 0x7fffffffffffffffLL",
  "__LONG_LONG_WIDTH__ 64",
  "__LONG_MAX__ 0x7fffffffffffffffL",
  "__LONG_WIDTH__ 64",
  "__LP64__ 1",
  "__MMX__ 1",
  "__ORDER_BIG_ENDIAN__ 4321",
  "__ORDER_LITTLE_ENDIAN__ 1234",
  "__ORDER_PDP_ENDIAN__ 3412",
  "__PIC__ 2",
  "__PTRDIFF_MAX__ 0x7fffffffffffffffL",
  "__PTRDIFF_TYPE__ long int",
  "__PTRDIFF_WIDTH__ 64",
  "__REGISTER_PREFIX__ ",
  "__SCHAR_MAX__ 0x7f",
  "__SCHAR_WIDTH__ 8",
  "__SHRT_MAX__ 0x7fff",
  "__SHRT_WIDTH__ 16",
  "__SIG_ATOMIC_MAX__ 0x7fffffff",
  "__SIG_ATOMIC_MIN__ (-__SIG_ATOMIC_MAX__ - 1)",
  "__SIG_ATOMIC_TYPE__ int",
  "__SIG_ATOMIC_WIDTH__ 32",
  "__SIZEOF_DOUBLE__ 8",
  "__SIZEOF_FLOAT128__ 16",
  "__SIZEOF_FLOAT80__ 16",
  "__SIZEOF_FLOAT__ 4",
  "__SIZEOF_INT128__ 16",
  "__SIZEOF_INT__ 4",
  "__SIZEOF_LONG_DOUBLE__ 16",
  "__SIZEOF_LONG_LONG__ 8",
  "__SIZEOF_LONG__ 8",
  "__SIZEOF_POINTER__ 8",
  "__SIZEOF_PTRDIFF_T__ 8",
  "__SIZEOF_SHORT__ 2",
  "__SIZEOF_SIZE_T__ 8",
  "__SIZEOF_WCHAR_T__ 4",
  "__SIZEOF_WINT_T__ 4",
  "__SIZE_MAX__ 0xffffffffffffffffUL",
  "__SIZE_TYPE__ long unsigned int",
  "__SIZE_WIDTH__ 64",
  "__SSE2_MATH__ 1",
  "__SSE2__ 1",
  "__SSE_MATH__ 1",
  "__SSE__ 1",
  "__STDC_HOSTED__ 1",
  "__STDC_IEC_559_COMPLEX__ 1",
  "__STDC_IEC_559__ 1",
  "__STDC_IEC_60559_BFP__ 201404L",
  "__STDC_IEC_60559_COMPLEX__ 201404L",
  "__STDC_ISO_10646__ 201706L",
  "__STDC__ 1",
  "__UINT16_C(c) c",
  "__UINT16_MAX__ 0xffff",
  "__UINT16_TYPE__ short unsigned int",
  "__UINT32_C(c) c ## U",
  "__UINT32_MAX__ 0xffffffffU",
  "__UINT32_TYPE__ unsigned int",
  "__UINT64_C(c) c ## UL",
  "__UINT64_MAX__ 0xffffffffffffffffUL",
  "__UINT64_TYPE__ long unsigned int",
  "__UINT8_C(c) c",
  "__UINT8_MAX__ 0xff",
  "__UINT8_TYPE__ unsigned char",
  "__UINTMAX_C(c) c ## UL",
  "__UINTMAX_MAX__ 0xffffffffffffffffUL",
  "__UINTMAX_TYPE__ long unsigned int",
  "__UINTPTR_MAX__ 0xffffffffffffffffUL",
  "__UINTPTR_TYPE__ long unsigned int",
  "__UINT_FAST16_MAX__ 0xffffffffffffffffUL",
  "__UINT_FAST16_TYPE__ long unsigned int",
  "__UINT_FAST32_MAX__ 0xffffffffffffffffUL",
  "__UINT_FAST32_TYPE__ long unsigned int",
  "__UINT_FAST64_MAX__ 0xffffffffffffffffUL",
  "__UINT_FAST64_TYPE__ long unsigned int",
  "__UINT_FAST8_MAX__ 0xff",
  "__UINT_FAST8_TYPE__ unsigned char",
  "__UINT_LEAST16_MAX__ 0xffff",
  "__UINT_LEAST16_TYPE__ short unsigned int",
  "__UINT_LEAST32_MAX__ 0xffffffffU",
  "__UINT_LEAST32_TYPE__ unsigned int",
  "__UINT_LEAST64_MAX__ 0xffffffffffffffffUL",
  "__UINT_LEAST64_TYPE__ long unsigned int",
  "__UINT_LEAST8_MAX__ 0xff",
  "__UINT_LEAST8_TYPE__ unsigned char",
  "__USER_LABEL_PREFIX__ ",
  "__VERSION__ \"12.2.0\"",
  "__WCHAR_MAX__ 0x7fffffff",
  "__WCHAR_MIN__ (-__WCHAR_MAX__ - 1)",
  "__WCHAR_TYPE__ int",
  "__WCHAR_WIDTH__ 32",
  "__WINT_MAX__ 0xffffffffU",
  "__WINT_MIN__ 0U",
  "__WINT_TYPE__ unsigned int",
  "__WINT_WIDTH__ 32",
  "__amd64 1",
  "__amd64__ 1",
  "__code_model_small__ 1",
  "__gnu_linux__ 1",
  "__k8 1",
  "__k8__ 1",
  "__linux 1",
  "__linux__ 1",
  "__pic__ 2",
  "__unix 1",
  "__unix__ 1",
  "__x86_64 1",
  "__x86_64__ 1"]

/-- Parts of the language with the numbers that they have from a year on. -/
def features : List (String × List (Nat × Nat)) := [
  ("aggregate_bases", [(2017, 201603)]),
  ("aggregate_nsdmi", [(2014, 201304)]),
  ("aggregate_paren_init", [(2020, 201902)]),
  ("alias_templates", [(2011, 200704)]),
  ("aligned_new", [(2017, 201606)]),
  ("attributes", [(2011, 200809)]),
  ("binary_literals", [(1998, 201304)]),
  ("capture_star_this", [(2017, 201603)]),
  ("char8_t", [(2020, 201811)]),
  ("concepts", [(2020, 202002)]),
  ("conditional_explicit", [(2020, 201806)]),
  ("consteval", [(2020, 201811)]),
  ("constexpr", [(2011, 200704), (2014, 201304), (2017, 201603), (2020, 202002)]),
  ("constexpr_dynamic_alloc", [(2020, 201907)]),
  ("constexpr_in_decltype", [(2020, 201711)]),
  ("constinit", [(2020, 201907)]),
  ("decltype", [(2011, 200707)]),
  ("decltype_auto", [(2014, 201304)]),
  ("deduction_guides", [(2017, 201703), (2020, 201907)]),
  ("delegating_constructors", [(2011, 200604)]),
  ("designated_initializers", [(2020, 201707)]),
  ("digit_separators", [(2014, 201309)]),
  ("enumerator_attributes", [(2017, 201411)]),
  ("exceptions", [(1998, 199711)]),
  ("fold_expressions", [(2017, 201603)]),
  ("generic_lambdas", [(2014, 201304), (2020, 201707)]),
  ("guaranteed_copy_elision", [(2017, 201606)]),
  ("hex_float", [(1998, 201603)]),
  ("if_constexpr", [(2017, 201606)]),
  ("impl_coroutine", [(2020, 201902)]),
  ("impl_destroying_delete", [(2020, 201806)]),
  ("impl_three_way_comparison", [(2020, 201907)]),
  ("inheriting_constructors", [(2011, 201511)]),
  ("init_captures", [(2014, 201304), (2020, 201803)]),
  ("initializer_lists", [(2011, 200806)]),
  ("inline_variables", [(2017, 201606)]),
  ("lambdas", [(2011, 200907)]),
  ("namespace_attributes", [(2017, 201411)]),
  ("nested_namespace_definitions", [(2017, 201411)]),
  ("noexcept_function_type", [(2017, 201510)]),
  ("nontype_template_args", [(2017, 201411), (2020, 201911)]),
  ("nontype_template_parameter_auto", [(2017, 201606)]),
  ("nontype_template_parameter_class", [(2020, 201806)]),
  ("nsdmi", [(2011, 200809)]),
  ("range_based_for", [(2011, 200907), (2017, 201603)]),
  ("raw_strings", [(2011, 200710)]),
  ("ref_qualifiers", [(2011, 200710)]),
  ("return_type_deduction", [(2014, 201304)]),
  ("rtti", [(1998, 199711)]),
  ("runtime_arrays", [(1998, 198712)]),
  ("rvalue_reference", [(2011, 200610)]),
  ("rvalue_references", [(2011, 200610)]),
  ("sized_deallocation", [(2014, 201309)]),
  ("static_assert", [(2011, 200410), (2017, 201411)]),
  ("structured_bindings", [(2017, 201606)]),
  ("template_auto", [(2017, 201606)]),
  ("template_template_args", [(2017, 201611)]),
  ("threadsafe_static_init", [(1998, 200806)]),
  ("unicode_characters", [(2011, 200704), (2017, 201411)]),
  ("unicode_literals", [(2011, 200710)]),
  ("user_defined_literals", [(2011, 200809)]),
  ("using_enum", [(2020, 201907)]),
  ("variable_templates", [(2014, 201304)]),
  ("variadic_templates", [(2011, 200704)]),
  ("variadic_using", [(2017, 201611)])]

/-- The numbers of standards, by their years. -/
def versions : Language → List (Nat × Nat)
  | .cpp => [(1998, 199711), (2011, 201103), (2014, 201402), (2017, 201703), (2020, 202002), (2023, 202100)]
  | .c => [(1999, 199901), (2011, 201112), (2017, 201710), (2023, 202000)]

/-- The last number for a year. -/
def latest? (numbers : List (Nat × Nat)) (year : Nat) : Option Nat :=
  (numbers.filter (·.1 ≤ year)).getLast?.map (·.2)

/-- Definitions in a language. -/
def ofLanguage (l : Language) (standard : Nat) : List String :=
  let version := (latest? (versions l) standard).toList
  match l with
  | .c => version.map (fun n => "__STDC_VERSION__ " ++ toString n ++ "L")
  | .cpp =>
    version.map (fun n => "__cplusplus " ++ toString n ++ "L")
      ++ ["__GNUG__ 12", "_GNU_SOURCE 1", "__EXCEPTIONS 1", "__GXX_RTTI 1", "__GXX_WEAK__ 1", "__DEPRECATED 1",
        "__STDCPP_DEFAULT_NEW_ALIGNMENT__ 16", "__STDCPP_THREADS__ 1",
        "__GLIBCXX_TYPE_INT_N_0 __int128", "__GLIBCXX_BITSIZE_INT_N_0 128"]
      ++ (if 2011 ≤ standard then ["__GXX_EXPERIMENTAL_CXX0X__ 1"] else [])
      ++ (if 2020 ≤ standard then ["__CHAR8_TYPE__ unsigned char"] else [])
      ++ features.filterMap fun (name, numbers) =>
        (latest? numbers standard).map fun n => "__cpp_" ++ name ++ " " ++ toString n ++ "L"

/-- All that is defined for an order. -/
def all (o : Order) (r : Reading) : List String :=
  let isStrict := o.standard.any fun name => !"gnu".toList.isPrefixOf name.toList
  common ++ ofLanguage r.language r.standard
    ++ (if isStrict then ["__STRICT_ANSI__ 1"] else ["linux 1", "unix 1"])
    ++ (if 2011 ≤ r.standard then ["__STDC_UTF_16__ 1", "__STDC_UTF_32__ 1"] else [])
    ++ [if 1999 ≤ r.standard then "__GNUC_STDC_INLINE__ 1" else "__GNUC_GNU_INLINE__ 1"]
    ++ [if o.optimizes then "__OPTIMIZE__ 1" else "__NO_INLINE__ 1"]

end ModuleForge.Host.Native.Predefined
