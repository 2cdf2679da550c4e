/-!
# Headers under all others

Facts about types, exceptions, limits, and the plain headers under the names they have in the
namespace of the library.
-/
namespace ModuleForge.Host.Native.Headers

/-- The headers by their names. -/
def foundation : List (String × String) := [
  ("cassert", "#include <assert.h>
"),

  ("cctype", "#pragma once
#include <ctype.h>
namespace std <%
using ::isalnum;
using ::isalpha;
using ::isblank;
using ::iscntrl;
using ::isdigit;
using ::isgraph;
using ::islower;
using ::isprint;
using ::ispunct;
using ::isspace;
using ::isupper;
using ::isxdigit;
using ::tolower;
using ::toupper;
%>
"),

  ("cerrno", "#pragma once
#include <errno.h>
"),

  ("cfloat", "#pragma once
#include <float.h>
"),

  ("cinttypes", "#pragma once
#include <inttypes.h>
namespace std <%
using ::strtoimax;
using ::strtoumax;
%>
"),

  ("climits", "#pragma once
#include <limits.h>
"),

  ("clocale", "#pragma once
#include <locale.h>
namespace std <%
using ::setlocale;
%>
"),

  ("csetjmp", "#pragma once
#include <setjmp.h>
"),

  ("csignal", "#pragma once
#include <signal.h>
namespace std <%
using ::sig_atomic_t;
using ::signal;
using ::raise;
%>
"),

  ("cstdarg", "#pragma once
#include <stdarg.h>
namespace std <%
using ::va_list;
%>
"),

  ("cstdbool", "#pragma once
#include <stdbool.h>
"),

  ("cstddef", "#pragma once
#include <stddef.h>
namespace std <%
using ::size_t;
using ::ptrdiff_t;
using ::max_align_t;
#if __cplusplus >= 201703L
enum class byte : unsigned char <%%>;
template <class I> constexpr I to_integer(byte b) noexcept <% return static_cast<I>(b); %>
constexpr byte operator|(byte a, byte b) noexcept <% return static_cast<byte>(static_cast<unsigned>(a) | static_cast<unsigned>(b)); %>
constexpr byte operator&(byte a, byte b) noexcept <% return static_cast<byte>(static_cast<unsigned>(a) & static_cast<unsigned>(b)); %>
constexpr byte operator^(byte a, byte b) noexcept <% return static_cast<byte>(static_cast<unsigned>(a) ^ static_cast<unsigned>(b)); %>
constexpr byte operator~(byte a) noexcept <% return static_cast<byte>(~static_cast<unsigned>(a)); %>
constexpr byte operator<<(byte a, int n) noexcept <% return static_cast<byte>(static_cast<unsigned>(a) << n); %>
constexpr byte operator>>(byte a, int n) noexcept <% return static_cast<byte>(static_cast<unsigned>(a) >> n); %>
#endif
%>
#define __GLIBCXX__ 20220819
#define _GLIBCXX_RELEASE 12
"),

  ("cstdint", "#pragma once
#include <stdint.h>
namespace std <%
using ::int8_t;
using ::int16_t;
using ::int32_t;
using ::int64_t;
using ::uint8_t;
using ::uint16_t;
using ::uint32_t;
using ::uint64_t;
using ::int_least8_t;
using ::int_least16_t;
using ::int_least32_t;
using ::int_least64_t;
using ::uint_least8_t;
using ::uint_least16_t;
using ::uint_least32_t;
using ::uint_least64_t;
using ::int_fast8_t;
using ::int_fast16_t;
using ::int_fast32_t;
using ::int_fast64_t;
using ::uint_fast8_t;
using ::uint_fast16_t;
using ::uint_fast32_t;
using ::uint_fast64_t;
using ::intptr_t;
using ::uintptr_t;
using ::intmax_t;
using ::uintmax_t;
%>
"),

  ("cstdio", "#pragma once
#include <stdio.h>
namespace std <%
using ::FILE;
using ::fpos_t;
using ::size_t;
using ::remove;
using ::rename;
using ::tmpfile;
using ::tmpnam;
using ::fclose;
using ::fflush;
using ::fopen;
using ::freopen;
using ::setbuf;
using ::setvbuf;
using ::fprintf;
using ::printf;
using ::sprintf;
using ::snprintf;
using ::vfprintf;
using ::vprintf;
using ::vsprintf;
using ::vsnprintf;
using ::fscanf;
using ::scanf;
using ::sscanf;
using ::fgetc;
using ::getc;
using ::getchar;
using ::fputc;
using ::putc;
using ::putchar;
using ::fgets;
using ::fputs;
using ::puts;
using ::ungetc;
using ::fread;
using ::fwrite;
using ::fseek;
using ::ftell;
using ::rewind;
using ::fgetpos;
using ::fsetpos;
using ::clearerr;
using ::feof;
using ::ferror;
using ::perror;
%>
"),

  ("cstdlib", "#pragma once
#include <stdlib.h>
namespace std <%
using ::div_t;
using ::ldiv_t;
using ::lldiv_t;
using ::atof;
using ::atoi;
using ::atol;
using ::atoll;
using ::strtod;
using ::strtof;
using ::strtol;
using ::strtoul;
using ::strtoll;
using ::strtoull;
using ::rand;
using ::srand;
using ::malloc;
using ::calloc;
using ::realloc;
using ::free;
using ::abort;
using ::atexit;
using ::exit;
using ::quick_exit;
using ::_Exit;
using ::getenv;
using ::system;
using ::bsearch;
using ::qsort;
using ::abs;
using ::labs;
using ::llabs;
using ::div;
using ::ldiv;
using ::lldiv;
using ::size_t;
%>
"),

  ("cstring", "#pragma once
#include <string.h>
namespace std <%
using ::memcpy;
using ::memmove;
using ::memset;
using ::memcmp;
using ::memchr;
using ::strchr;
using ::strrchr;
using ::strpbrk;
using ::strstr;
using ::strcpy;
using ::strncpy;
using ::strcat;
using ::strncat;
using ::strcmp;
using ::strncmp;
using ::strcoll;
using ::strxfrm;
using ::strcspn;
using ::strspn;
using ::strlen;
using ::strtok;
using ::strerror;
using ::size_t;
%>
"),

  ("ctime", "#pragma once
#include <time.h>
namespace std <%
using ::clock_t;
using ::time_t;
using ::tm;
using ::timespec;
using ::clock;
using ::time;
using ::difftime;
using ::mktime;
using ::strftime;
using ::gmtime;
using ::localtime;
using ::asctime;
using ::ctime;
using ::size_t;
%>
"),

  ("cuchar", "#pragma once
#include <uchar.h>
"),

  ("cwchar", "#pragma once
#include <wchar.h>
namespace std <%
using ::wint_t;
using ::mbstate_t;
using ::wcslen;
using ::wcscpy;
using ::wcscat;
using ::wcscmp;
using ::wcsncmp;
using ::wmemcpy;
using ::wmemset;
%>
"),

  ("cwctype", "#pragma once
#include <wctype.h>
namespace std <%
using ::iswalpha;
using ::iswdigit;
using ::iswspace;
using ::towlower;
using ::towupper;
%>
"),

  ("exception", "#pragma once
#include <cstddef>
#include <type_traits>
namespace std <%
class exception <%
public:
  exception() noexcept <%%>
  exception(const exception &) = default;
  exception &operator=(const exception &) = default;
  virtual ~exception() <%%>
  virtual const char *what() const noexcept <% return \"std::exception\"; %>
%>;
class bad_exception : public exception <% public: const char *what() const noexcept override <% return \"std::bad_exception\"; %> %>;
typedef void (*terminate_handler)();
inline void terminate() noexcept <% __support_end(); %>
inline int uncaught_exceptions() noexcept <% return 0; %>
inline bool uncaught_exception() noexcept <% return false; %>
class exception_ptr <%
  __support_object *__held;
  void __drop() <% if (__held && --__held->uses == 0) <% if (__held->destroy) __held->destroy(__held + 1); __support_free(__held); %> %>
public:
  exception_ptr() noexcept : __held(0) <%%>
  exception_ptr(decltype(nullptr)) noexcept : __held(0) <%%>
  explicit exception_ptr(__support_object *o) noexcept : __held(o) <% if (o) o->uses++; %>
  exception_ptr(const exception_ptr &o) noexcept : __held(o.__held) <% if (__held) __held->uses++; %>
  exception_ptr(exception_ptr &&o) noexcept : __held(o.__held) <% o.__held = 0; %>
  ~exception_ptr() <% __drop(); %>
  exception_ptr &operator=(const exception_ptr &o) noexcept <% if (o.__held) o.__held->uses++; __drop(); __held = o.__held; return *this; %>
  explicit operator bool() const noexcept <% return __held != 0; %>
  bool operator==(const exception_ptr &o) const noexcept <% return __held == o.__held; %>
  bool operator!=(const exception_ptr &o) const noexcept <% return __held != o.__held; %>
  __support_object *__object() const noexcept <% return __held; %>
%>;
inline exception_ptr current_exception() noexcept <% return exception_ptr(__support_caught); %>
[[noreturn]] inline void rethrow_exception(exception_ptr p) <%
  __support_object *o = p.__object();
  if (!o) terminate();
  o->uses++;
  __support_raise(o + 1);
  __builtin_unreachable();
%>
template <class E> exception_ptr make_exception_ptr(E e) noexcept <% try <% throw e; %> catch (...) <% return current_exception(); %> %>
class nested_exception <%
  exception_ptr __inner;
public:
  nested_exception() noexcept : __inner(current_exception()) <%%>
  virtual ~nested_exception() <%%>
  [[noreturn]] void rethrow_nested() const <% rethrow_exception(__inner); %>
  exception_ptr nested_ptr() const noexcept <% return __inner; %>
%>;
template <class T> struct __nesting : T, nested_exception <% explicit __nesting(const T &t) : T(t) <%%> %>;
template <class T> [[noreturn]] void throw_with_nested(T &&t) <% throw __nesting<typename remove_cv<typename remove_reference<T>::type>::type>(t); %>
template <class E> void rethrow_if_nested(const E &e) <% const nested_exception *n = dynamic_cast<const nested_exception *>(&e); if (n && n->nested_ptr()) n->rethrow_nested(); %>
%>
#include <typeinfo>
"),

  ("limits", "#pragma once
#include <climits>
#include <cfloat>
namespace std <%
enum float_round_style <% round_indeterminate = -1, round_toward_zero = 0, round_to_nearest = 1, round_toward_infinity = 2, round_toward_neg_infinity = 3 %>;
template <class T> struct numeric_limits <%
  static constexpr bool is_specialized = false, is_signed = false, is_integer = false, is_exact = false, has_infinity = false, has_quiet_NaN = false;
  static constexpr T min() noexcept <% return T(); %>
  static constexpr T max() noexcept <% return T(); %>
  static constexpr T lowest() noexcept <% return T(); %>
%>;
#define __WHOLE(T, S, LOW, HIGH, BITS, TEN) template <> struct numeric_limits<T> <% \\
  static constexpr bool is_specialized = true, is_signed = S, is_integer = true, is_exact = true, has_infinity = false, has_quiet_NaN = false, is_bounded = true, is_modulo = !S, is_iec559 = false, traps = true; \\
  static constexpr int digits = BITS, digits10 = TEN, radix = 2, max_digits10 = 0, min_exponent = 0, max_exponent = 0; \\
  static constexpr T min() noexcept <% return LOW; %> static constexpr T max() noexcept <% return HIGH; %> static constexpr T lowest() noexcept <% return LOW; %> \\
  static constexpr T epsilon() noexcept <% return 0; %> static constexpr T infinity() noexcept <% return 0; %> static constexpr T quiet_NaN() noexcept <% return 0; %> %>;
__WHOLE(bool, false, false, true, 1, 0)
__WHOLE(char, true, CHAR_MIN, CHAR_MAX, 7, 2)
__WHOLE(signed char, true, SCHAR_MIN, SCHAR_MAX, 7, 2)
__WHOLE(unsigned char, false, 0, UCHAR_MAX, 8, 2)
__WHOLE(wchar_t, true, INT_MIN, INT_MAX, 31, 9)
__WHOLE(char16_t, false, 0, USHRT_MAX, 16, 4)
__WHOLE(char32_t, false, 0, UINT_MAX, 32, 9)
__WHOLE(short, true, SHRT_MIN, SHRT_MAX, 15, 4)
__WHOLE(unsigned short, false, 0, USHRT_MAX, 16, 4)
__WHOLE(int, true, INT_MIN, INT_MAX, 31, 9)
__WHOLE(unsigned int, false, 0, UINT_MAX, 32, 9)
__WHOLE(long, true, LONG_MIN, LONG_MAX, 63, 18)
__WHOLE(unsigned long, false, 0, ULONG_MAX, 64, 19)
__WHOLE(long long, true, LLONG_MIN, LLONG_MAX, 63, 18)
__WHOLE(unsigned long long, false, 0, ULLONG_MAX, 64, 19)
#undef __WHOLE
#define __FRACTION(T, LOW, HIGH, EPS, TINY, BITS, TEN, MAXTEN, INF, EXPLOW, EXPHIGH) template <> struct numeric_limits<T> <% \\
  static constexpr bool is_specialized = true, is_signed = true, is_integer = false, is_exact = false, has_infinity = true, has_quiet_NaN = true, has_signaling_NaN = true, is_bounded = true, is_modulo = false, is_iec559 = true, traps = false; \\
  static constexpr int digits = BITS, digits10 = TEN, max_digits10 = MAXTEN, radix = 2, min_exponent = EXPLOW, max_exponent = EXPHIGH; \\
  static constexpr T min() noexcept <% return LOW; %> static constexpr T max() noexcept <% return HIGH; %> static constexpr T lowest() noexcept <% return -HIGH; %> \\
  static constexpr T epsilon() noexcept <% return EPS; %> static constexpr T round_error() noexcept <% return 0.5; %> static constexpr T infinity() noexcept <% return INF; %> \\
  static constexpr T quiet_NaN() noexcept <% return INF - INF; %> static constexpr T denorm_min() noexcept <% return TINY; %> %>;
__FRACTION(float, FLT_MIN, FLT_MAX, FLT_EPSILON, FLT_TRUE_MIN, 24, 6, 9, __builtin_huge_valf(), -125, 128)
__FRACTION(double, DBL_MIN, DBL_MAX, DBL_EPSILON, DBL_TRUE_MIN, 53, 15, 17, __builtin_huge_val(), -1021, 1024)
__FRACTION(long double, DBL_MIN, DBL_MAX, LDBL_EPSILON, DBL_TRUE_MIN, 64, 18, 21, __builtin_huge_val(), -16381, 16384)
#undef __FRACTION
%>
"),

  ("stdexcept", "#pragma once
#include <exception>
#include <string>
namespace std <%
class logic_error : public exception <%
  string __text;
public:
  explicit logic_error(const string &s) : __text(s) <%%>
  explicit logic_error(const char *s) : __text(s) <%%>
  const char *what() const noexcept override <% return __text.c_str(); %>
%>;
class runtime_error : public exception <%
  string __text;
public:
  explicit runtime_error(const string &s) : __text(s) <%%>
  explicit runtime_error(const char *s) : __text(s) <%%>
  const char *what() const noexcept override <% return __text.c_str(); %>
%>;
class domain_error : public logic_error <% public: using logic_error::logic_error; explicit domain_error(const string &s) : logic_error(s) <%%> %>;
class invalid_argument : public logic_error <% public: using logic_error::logic_error; explicit invalid_argument(const string &s) : logic_error(s) <%%> %>;
class length_error : public logic_error <% public: using logic_error::logic_error; explicit length_error(const string &s) : logic_error(s) <%%> %>;
class out_of_range : public logic_error <% public: using logic_error::logic_error; explicit out_of_range(const string &s) : logic_error(s) <%%> %>;
class range_error : public runtime_error <% public: using runtime_error::runtime_error; explicit range_error(const string &s) : runtime_error(s) <%%> %>;
class overflow_error : public runtime_error <% public: using runtime_error::runtime_error; explicit overflow_error(const string &s) : runtime_error(s) <%%> %>;
class underflow_error : public runtime_error <% public: using runtime_error::runtime_error; explicit underflow_error(const string &s) : runtime_error(s) <%%> %>;
inline void __throw_out_of_range(const char *s) <% throw out_of_range(s); %>
inline void __throw_length_error(const char *s) <% throw length_error(s); %>
inline void __throw_logic_error(const char *s) <% throw logic_error(s); %>
inline void __throw_invalid_argument(const char *s) <% throw invalid_argument(s); %>
%>
"),

  ("type_traits", "#pragma once
#include <cstddef>
namespace std <%
template <class T, T v> struct integral_constant <%
  static constexpr T value = v;
  typedef T value_type;
  typedef integral_constant<T, v> type;
  constexpr operator T() const noexcept <% return v; %>
  constexpr T operator()() const noexcept <% return v; %>
%>;
typedef integral_constant<bool, true> true_type;
typedef integral_constant<bool, false> false_type;
template <bool B> using bool_constant = integral_constant<bool, B>;
template <bool B, class T, class F> struct conditional <% typedef T type; %>;
template <class T, class F> struct conditional<false, T, F> <% typedef F type; %>;
template <bool B, class T, class F> using conditional_t = typename conditional<B, T, F>::type;
template <bool B, class T = void> struct enable_if <%%>;
template <class T> struct enable_if<true, T> <% typedef T type; %>;
template <bool B, class T = void> using enable_if_t = typename enable_if<B, T>::type;
template <class... T> using void_t = void;
template <class T> struct type_identity <% typedef T type; %>;
template <class T> using type_identity_t = typename type_identity<T>::type;
template <class T> struct remove_const <% typedef T type; %>;
template <class T> struct remove_const<const T> <% typedef T type; %>;
template <class T> struct remove_volatile <% typedef T type; %>;
template <class T> struct remove_cv <% typedef typename remove_const<T>::type type; %>;
template <class T> struct remove_reference <% typedef T type; %>;
template <class T> struct remove_reference<T &> <% typedef T type; %>;
template <class T> struct remove_reference<T &&> <% typedef T type; %>;
template <class T> struct remove_pointer <% typedef T type; %>;
template <class T> struct remove_pointer<T *> <% typedef T type; %>;
template <class T> struct remove_pointer<T *const> <% typedef T type; %>;
template <class T> struct remove_extent <% typedef T type; %>;
template <class T> struct remove_extent<T[]> <% typedef T type; %>;
template <class T, size_t N> struct remove_extent<T[N]> <% typedef T type; %>;
template <class T> struct remove_all_extents <% typedef T type; %>;
template <class T> struct remove_all_extents<T[]> <% typedef typename remove_all_extents<T>::type type; %>;
template <class T, size_t N> struct remove_all_extents<T[N]> <% typedef typename remove_all_extents<T>::type type; %>;
template <class T> struct remove_cvref <% typedef typename remove_cv<typename remove_reference<T>::type>::type type; %>;
template <class T> using remove_const_t = typename remove_const<T>::type;
template <class T> using remove_volatile_t = T;
template <class T> using remove_cv_t = typename remove_cv<T>::type;
template <class T> using remove_reference_t = typename remove_reference<T>::type;
template <class T> using remove_pointer_t = typename remove_pointer<T>::type;
template <class T> using remove_extent_t = typename remove_extent<T>::type;
template <class T> using remove_all_extents_t = typename remove_all_extents<T>::type;
template <class T> using remove_cvref_t = typename remove_cvref<T>::type;
template <class T> struct is_void : false_type <%%>;
template <> struct is_void<void> : true_type <%%>;
template <> struct is_void<const void> : true_type <%%>;
template <class T> struct add_const <% typedef const T type; %>;
template <class T> struct add_volatile <% typedef T type; %>;
template <class T> struct add_cv <% typedef const T type; %>;
template <class T, bool V = is_void<T>::value> struct add_lvalue_reference <% typedef T &type; %>;
template <class T> struct add_lvalue_reference<T, true> <% typedef T type; %>;
template <class T, bool V = is_void<T>::value> struct add_rvalue_reference <% typedef T &&type; %>;
template <class T> struct add_rvalue_reference<T, true> <% typedef T type; %>;
template <class T> struct add_pointer <% typedef typename remove_reference<T>::type *type; %>;
template <class T> using add_const_t = const T;
template <class T> using add_lvalue_reference_t = typename add_lvalue_reference<T>::type;
template <class T> using add_rvalue_reference_t = typename add_rvalue_reference<T>::type;
template <class T> using add_pointer_t = typename add_pointer<T>::type;
template <class T> typename add_rvalue_reference<T>::type declval() noexcept;
template <class A, class B> struct is_same : false_type <%%>;
template <class A> struct is_same<A, A> : true_type <%%>;
template <class T> struct is_const : false_type <%%>;
template <class T> struct is_const<const T> : true_type <%%>;
template <class T> struct is_volatile : false_type <%%>;
template <class T> struct is_reference : false_type <%%>;
template <class T> struct is_reference<T &> : true_type <%%>;
template <class T> struct is_reference<T &&> : true_type <%%>;
template <class T> struct is_lvalue_reference : false_type <%%>;
template <class T> struct is_lvalue_reference<T &> : true_type <%%>;
template <class T> struct is_rvalue_reference : false_type <%%>;
template <class T> struct is_rvalue_reference<T &&> : true_type <%%>;
template <class T> struct __is_plain_pointer : false_type <%%>;
template <class T> struct __is_plain_pointer<T *> : true_type <%%>;
template <class T> struct is_pointer : __is_plain_pointer<typename remove_cv<T>::type> <%%>;
template <class T> struct is_null_pointer : is_same<typename remove_cv<T>::type, nullptr_t> <%%>;
template <class T> struct is_array : false_type <%%>;
template <class T> struct is_array<T[]> : true_type <%%>;
template <class T, size_t N> struct is_array<T[N]> : true_type <%%>;
template <class T> struct is_bounded_array : false_type <%%>;
template <class T, size_t N> struct is_bounded_array<T[N]> : true_type <%%>;
template <class T> struct is_unbounded_array : false_type <%%>;
template <class T> struct is_unbounded_array<T[]> : true_type <%%>;
template <class T> struct rank : integral_constant<size_t, 0> <%%>;
template <class T> struct rank<T[]> : integral_constant<size_t, rank<T>::value + 1> <%%>;
template <class T, size_t N> struct rank<T[N]> : integral_constant<size_t, rank<T>::value + 1> <%%>;
template <class T, unsigned I = 0> struct extent : integral_constant<size_t, 0> <%%>;
template <class T, size_t N> struct extent<T[N], 0> : integral_constant<size_t, N> <%%>;
template <class T, size_t N, unsigned I> struct extent<T[N], I> : extent<T, I - 1> <%%>;
template <class T> struct __is_plain_integral : false_type <%%>;
template <> struct __is_plain_integral<bool> : true_type <%%>;
template <> struct __is_plain_integral<char> : true_type <%%>;
template <> struct __is_plain_integral<signed char> : true_type <%%>;
template <> struct __is_plain_integral<unsigned char> : true_type <%%>;
template <> struct __is_plain_integral<wchar_t> : true_type <%%>;
template <> struct __is_plain_integral<char16_t> : true_type <%%>;
template <> struct __is_plain_integral<char32_t> : true_type <%%>;
template <> struct __is_plain_integral<short> : true_type <%%>;
template <> struct __is_plain_integral<unsigned short> : true_type <%%>;
template <> struct __is_plain_integral<int> : true_type <%%>;
template <> struct __is_plain_integral<unsigned int> : true_type <%%>;
template <> struct __is_plain_integral<long> : true_type <%%>;
template <> struct __is_plain_integral<unsigned long> : true_type <%%>;
template <> struct __is_plain_integral<long long> : true_type <%%>;
template <> struct __is_plain_integral<unsigned long long> : true_type <%%>;
template <class T> struct is_integral : __is_plain_integral<typename remove_cv<T>::type> <%%>;
template <class T> struct __is_plain_floating : false_type <%%>;
template <> struct __is_plain_floating<float> : true_type <%%>;
template <> struct __is_plain_floating<double> : true_type <%%>;
template <> struct __is_plain_floating<long double> : true_type <%%>;
template <class T> struct is_floating_point : __is_plain_floating<typename remove_cv<T>::type> <%%>;
template <class T> struct is_arithmetic : bool_constant<is_integral<T>::value || is_floating_point<T>::value> <%%>;
template <class T> struct is_enum : bool_constant<__is_enum(T)> <%%>;
template <class T> struct is_scoped_enum : bool_constant<__is_scoped_enum(T)> <%%>;
template <class T> struct is_union : bool_constant<__is_union(T)> <%%>;
template <class T> struct is_class : bool_constant<__is_class(T)> <%%>;
template <class T> struct is_function : false_type <%%>;
template <class R, class... A> struct is_function<R(A...)> : true_type <%%>;
template <class R, class... A> struct is_function<R(A...) const> : true_type <%%>;
template <class T> struct is_member_pointer : false_type <%%>;
template <class T, class C> struct is_member_pointer<T C::*> : true_type <%%>;
template <class T> struct is_member_function_pointer : false_type <%%>;
template <class T, class C> struct is_member_function_pointer<T C::*> : is_function<T> <%%>;
template <class T> struct is_member_object_pointer : false_type <%%>;
template <class T, class C> struct is_member_object_pointer<T C::*> : bool_constant<!is_function<T>::value> <%%>;
template <class T> struct is_fundamental : bool_constant<is_arithmetic<T>::value || is_void<T>::value || is_null_pointer<T>::value> <%%>;
template <class T> struct is_compound : bool_constant<!is_fundamental<T>::value> <%%>;
template <class T> struct is_scalar : bool_constant<is_arithmetic<T>::value || is_enum<T>::value || is_pointer<T>::value || is_member_pointer<T>::value || is_null_pointer<T>::value> <%%>;
template <class T> struct is_object : bool_constant<!is_function<T>::value && !is_reference<T>::value && !is_void<T>::value> <%%>;
template <class T, bool A = is_arithmetic<T>::value> struct __is_below : false_type <%%>;
template <class T> struct __is_below<T, true> : bool_constant<(T(-1) < T(0))> <%%>;
template <class T> struct is_signed : __is_below<T> <%%>;
template <class T> struct is_unsigned : bool_constant<is_arithmetic<T>::value && !is_signed<T>::value> <%%>;
template <class T> struct is_empty : bool_constant<__is_empty(T)> <%%>;
template <class T> struct is_polymorphic : bool_constant<__is_polymorphic(T)> <%%>;
template <class T> struct is_abstract : bool_constant<__is_abstract(T)> <%%>;
template <class T> struct is_final : bool_constant<__is_final(T)> <%%>;
template <class T> struct is_aggregate : bool_constant<__is_aggregate(T)> <%%>;
template <class T> struct is_trivial : bool_constant<__is_trivial(T)> <%%>;
template <class T> struct is_pod : bool_constant<__is_pod(T)> <%%>;
template <class T> struct is_standard_layout : bool_constant<__is_standard_layout(T)> <%%>;
template <class T> struct is_literal_type : bool_constant<__is_literal_type(T)> <%%>;
template <class T> struct is_trivially_copyable : bool_constant<__is_trivially_copyable(T)> <%%>;
template <class T> struct is_destructible : bool_constant<__is_destructible(T)> <%%>;
template <class T> struct is_trivially_destructible : bool_constant<__has_trivial_destructor(T)> <%%>;
template <class T> struct is_nothrow_destructible : is_destructible<T> <%%>;
template <class T> struct has_virtual_destructor : bool_constant<__has_virtual_destructor(T)> <%%>;
template <class T, class... A> struct is_constructible : bool_constant<__is_constructible(T, A...)> <%%>;
template <class T, class... A> struct is_nothrow_constructible : bool_constant<__is_nothrow_constructible(T, A...)> <%%>;
template <class T, class... A> struct is_trivially_constructible : bool_constant<__is_trivially_constructible(T, A...)> <%%>;
template <class T> struct is_default_constructible : is_constructible<T> <%%>;
template <class T> struct is_nothrow_default_constructible : is_nothrow_constructible<T> <%%>;
template <class T> struct is_trivially_default_constructible : is_trivially_constructible<T> <%%>;
template <class T> struct is_copy_constructible : is_constructible<T, const T &> <%%>;
template <class T> struct is_nothrow_copy_constructible : is_nothrow_constructible<T, const T &> <%%>;
template <class T> struct is_trivially_copy_constructible : is_trivially_constructible<T, const T &> <%%>;
template <class T> struct is_move_constructible : is_constructible<T, T &&> <%%>;
template <class T> struct is_nothrow_move_constructible : is_nothrow_constructible<T, T &&> <%%>;
template <class T> struct is_trivially_move_constructible : is_trivially_constructible<T, T &&> <%%>;
template <class T, class U> struct is_assignable : bool_constant<__is_assignable(T, U)> <%%>;
template <class T, class U> struct is_nothrow_assignable : bool_constant<__is_assignable(T, U)> <%%>;
template <class T> struct is_copy_assignable : is_assignable<T &, const T &> <%%>;
template <class T> struct is_move_assignable : is_assignable<T &, T &&> <%%>;
template <class T> struct is_nothrow_copy_assignable : is_assignable<T &, const T &> <%%>;
template <class T> struct is_nothrow_move_assignable : is_assignable<T &, T &&> <%%>;
template <class T> struct is_trivially_copy_assignable : bool_constant<__is_trivially_assignable(T &, const T &)> <%%>;
template <class T> struct is_trivially_move_assignable : bool_constant<__is_trivially_assignable(T &, T &&)> <%%>;
template <class A, class B> struct is_base_of : bool_constant<__is_base_of(A, B)> <%%>;
template <class A, class B> struct is_convertible : bool_constant<__is_convertible(A, B)> <%%>;
template <class A, class B> struct is_nothrow_convertible : bool_constant<__is_convertible(A, B)> <%%>;
template <class T> struct is_swappable : true_type <%%>;
template <class T> struct is_nothrow_swappable : true_type <%%>;
template <class T> struct alignment_of : integral_constant<size_t, alignof(T)> <%%>;
template <class... B> struct conjunction : true_type <%%>;
template <class B> struct conjunction<B> : B <%%>;
template <class B, class... R> struct conjunction<B, R...> : conditional<bool(B::value), conjunction<R...>, B>::type <%%>;
template <class... B> struct disjunction : false_type <%%>;
template <class B> struct disjunction<B> : B <%%>;
template <class B, class... R> struct disjunction<B, R...> : conditional<bool(B::value), B, disjunction<R...>>::type <%%>;
template <class B> struct negation : bool_constant<!bool(B::value)> <%%>;
template <class T, bool A = is_array<T>::value, bool F = is_function<T>::value> struct __decayed <% typedef typename remove_cv<T>::type type; %>;
template <class T> struct __decayed<T, true, false> <% typedef typename remove_extent<T>::type *type; %>;
template <class T> struct __decayed<T, false, true> <% typedef T *type; %>;
template <class T> struct decay <% typedef typename __decayed<typename remove_reference<T>::type>::type type; %>;
template <class T> using decay_t = typename decay<T>::type;
template <class T> struct make_unsigned <% typedef T type; %>;
template <> struct make_unsigned<char> <% typedef unsigned char type; %>;
template <> struct make_unsigned<signed char> <% typedef unsigned char type; %>;
template <> struct make_unsigned<short> <% typedef unsigned short type; %>;
template <> struct make_unsigned<int> <% typedef unsigned int type; %>;
template <> struct make_unsigned<long> <% typedef unsigned long type; %>;
template <> struct make_unsigned<long long> <% typedef unsigned long long type; %>;
template <class T> struct make_signed <% typedef T type; %>;
template <> struct make_signed<char> <% typedef signed char type; %>;
template <> struct make_signed<unsigned char> <% typedef signed char type; %>;
template <> struct make_signed<unsigned short> <% typedef short type; %>;
template <> struct make_signed<unsigned int> <% typedef int type; %>;
template <> struct make_signed<unsigned long> <% typedef long type; %>;
template <> struct make_signed<unsigned long long> <% typedef long long type; %>;
template <class T> using make_unsigned_t = typename make_unsigned<T>::type;
template <class T> using make_signed_t = typename make_signed<T>::type;
template <class T, bool E = is_enum<T>::value> struct underlying_type <%%>;
template <class T> struct underlying_type<T, true> <% typedef __underlying_type(T) type; %>;
template <class T> using underlying_type_t = typename underlying_type<T>::type;
template <class... T> struct common_type <%%>;
template <class T> struct common_type<T> <% typedef typename decay<T>::type type; %>;
template <class A, class B> struct common_type<A, B> <% typedef typename decay<decltype(true ? declval<A>() : declval<B>())>::type type; %>;
template <class A, class B, class C, class... R> struct common_type<A, B, C, R...> <% typedef typename common_type<typename common_type<A, B>::type, C, R...>::type type; %>;
template <class... T> using common_type_t = typename common_type<T...>::type;
template <class F, class... A> struct __called <% typedef decltype(declval<F>()(declval<A>()...)) type; %>;
template <class T, class C, class O, class... A> struct __called<T C::*, O, A...> <% typedef decltype((declval<O>().*declval<T C::*>())(declval<A>()...)) type; %>;
template <class F, class... A> struct invoke_result : __called<F, A...> <%%>;
template <class F, class... A> using invoke_result_t = typename invoke_result<F, A...>::type;
template <class F> struct result_of;
template <class F, class... A> struct result_of<F(A...)> : invoke_result<F, A...> <%%>;
template <class F> using result_of_t = typename result_of<F>::type;
template <class V, class F, class... A> struct __can_call : false_type <%%>;
template <class F, class... A> struct __can_call<void_t<decltype(declval<F>()(declval<A>()...))>, F, A...> : true_type <%%>;
template <class F, class... A> struct is_invocable : __can_call<void, F, A...> <%%>;
template <class R, class F, class... A> struct is_invocable_r : __can_call<void, F, A...> <%%>;
template <size_t N, size_t A = 8> struct aligned_storage <% struct type <% alignas(A) unsigned char data[N]; %>; %>;
template <size_t N, size_t A = 8> using aligned_storage_t = typename aligned_storage<N, A>::type;
constexpr bool is_constant_evaluated() noexcept <% return __builtin_is_constant_evaluated(); %>
#if __cplusplus >= 201703L
template <class A, class B> inline constexpr bool is_same_v = is_same<A, B>::value;
template <class T> inline constexpr bool is_void_v = is_void<T>::value;
template <class T> inline constexpr bool is_null_pointer_v = is_null_pointer<T>::value;
template <class T> inline constexpr bool is_const_v = is_const<T>::value;
template <class T> inline constexpr bool is_volatile_v = false;
template <class T> inline constexpr bool is_reference_v = is_reference<T>::value;
template <class T> inline constexpr bool is_lvalue_reference_v = is_lvalue_reference<T>::value;
template <class T> inline constexpr bool is_rvalue_reference_v = is_rvalue_reference<T>::value;
template <class T> inline constexpr bool is_pointer_v = is_pointer<T>::value;
template <class T> inline constexpr bool is_array_v = is_array<T>::value;
template <class T> inline constexpr bool is_integral_v = is_integral<T>::value;
template <class T> inline constexpr bool is_floating_point_v = is_floating_point<T>::value;
template <class T> inline constexpr bool is_arithmetic_v = is_arithmetic<T>::value;
template <class T> inline constexpr bool is_enum_v = is_enum<T>::value;
template <class T> inline constexpr bool is_scoped_enum_v = is_scoped_enum<T>::value;
template <class T> inline constexpr bool is_union_v = is_union<T>::value;
template <class T> inline constexpr bool is_class_v = is_class<T>::value;
template <class T> inline constexpr bool is_function_v = is_function<T>::value;
template <class T> inline constexpr bool is_fundamental_v = is_fundamental<T>::value;
template <class T> inline constexpr bool is_compound_v = is_compound<T>::value;
template <class T> inline constexpr bool is_scalar_v = is_scalar<T>::value;
template <class T> inline constexpr bool is_object_v = is_object<T>::value;
template <class T> inline constexpr bool is_member_pointer_v = is_member_pointer<T>::value;
template <class T> inline constexpr bool is_member_function_pointer_v = is_member_function_pointer<T>::value;
template <class T> inline constexpr bool is_signed_v = is_signed<T>::value;
template <class T> inline constexpr bool is_unsigned_v = is_unsigned<T>::value;
template <class T> inline constexpr bool is_empty_v = is_empty<T>::value;
template <class T> inline constexpr bool is_polymorphic_v = is_polymorphic<T>::value;
template <class T> inline constexpr bool is_abstract_v = is_abstract<T>::value;
template <class T> inline constexpr bool is_final_v = is_final<T>::value;
template <class T> inline constexpr bool is_aggregate_v = is_aggregate<T>::value;
template <class T> inline constexpr bool is_trivial_v = is_trivial<T>::value;
template <class T> inline constexpr bool is_pod_v = is_pod<T>::value;
template <class T> inline constexpr bool is_standard_layout_v = is_standard_layout<T>::value;
template <class T> inline constexpr bool is_trivially_copyable_v = is_trivially_copyable<T>::value;
template <class T> inline constexpr bool is_destructible_v = is_destructible<T>::value;
template <class T> inline constexpr bool is_trivially_destructible_v = is_trivially_destructible<T>::value;
template <class T> inline constexpr bool has_virtual_destructor_v = has_virtual_destructor<T>::value;
template <class T, class... A> inline constexpr bool is_constructible_v = is_constructible<T, A...>::value;
template <class T, class... A> inline constexpr bool is_nothrow_constructible_v = is_nothrow_constructible<T, A...>::value;
template <class T> inline constexpr bool is_default_constructible_v = is_default_constructible<T>::value;
template <class T> inline constexpr bool is_copy_constructible_v = is_copy_constructible<T>::value;
template <class T> inline constexpr bool is_move_constructible_v = is_move_constructible<T>::value;
template <class T> inline constexpr bool is_nothrow_move_constructible_v = is_nothrow_move_constructible<T>::value;
template <class T> inline constexpr bool is_trivially_copy_constructible_v = is_trivially_copy_constructible<T>::value;
template <class T, class U> inline constexpr bool is_assignable_v = is_assignable<T, U>::value;
template <class T> inline constexpr bool is_copy_assignable_v = is_copy_assignable<T>::value;
template <class T> inline constexpr bool is_move_assignable_v = is_move_assignable<T>::value;
template <class T> inline constexpr bool is_nothrow_move_assignable_v = is_nothrow_move_assignable<T>::value;
template <class A, class B> inline constexpr bool is_base_of_v = is_base_of<A, B>::value;
template <class A, class B> inline constexpr bool is_convertible_v = is_convertible<A, B>::value;
template <class F, class... A> inline constexpr bool is_invocable_v = is_invocable<F, A...>::value;
template <class R, class F, class... A> inline constexpr bool is_invocable_r_v = is_invocable_r<R, F, A...>::value;
template <class T> inline constexpr size_t alignment_of_v = alignment_of<T>::value;
template <class T> inline constexpr size_t rank_v = rank<T>::value;
template <class T, unsigned I = 0> inline constexpr size_t extent_v = extent<T, I>::value;
template <class... B> inline constexpr bool conjunction_v = conjunction<B...>::value;
template <class... B> inline constexpr bool disjunction_v = disjunction<B...>::value;
template <class B> inline constexpr bool negation_v = negation<B>::value;
#endif
%>
"),

  ("typeinfo", "#pragma once
#include <exception>
namespace std <%
class bad_cast : public exception <% public: const char *what() const noexcept override <% return \"std::bad_cast\"; %> %>;
class bad_typeid : public exception <% public: const char *what() const noexcept override <% return \"std::bad_typeid\"; %> %>;
class type_info <%
  const char *__name;
  unsigned long __bases;
  bool __same(const type_info &o) const noexcept <% const char *a = __name, *b = o.__name; while (*a && *a == *b) <% ++a; ++b; %> return *a == *b; %>
public:
  type_info(const type_info &) = delete;
  type_info &operator=(const type_info &) = delete;
  const char *name() const noexcept <% return __name[0] == '*' ? __name + 1 : __name; %>
  bool operator==(const type_info &o) const noexcept <% return this == &o || __same(o); %>
  bool operator!=(const type_info &o) const noexcept <% return !(*this == o); %>
  bool before(const type_info &o) const noexcept <% const char *a = __name, *b = o.__name; while (*a && *a == *b) <% ++a; ++b; %> return (unsigned char)*a < (unsigned char)*b; %>
  size_t hash_code() const noexcept <% size_t h = 0xc70f6907ul; for (const char *a = __name; *a; ++a) h = (h ^ (unsigned char)*a) * 1099511628211ul; return h; %>
%>;
inline void *__cast_reference(void *p, const void *kind) <% void *q = __support_cast(p, kind); if (!q) throw bad_cast(); return q; %>
%>
")]

end ModuleForge.Host.Native.Headers
