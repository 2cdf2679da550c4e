/-!
# Headers of plain functions

What both languages may include: the functions of the system, the limits of numbers, and the names
of fixed widths.
-/
namespace ModuleForge.Host.Native.Headers

/-- The headers by their names. -/
def plain : List (String × String) := [
  ("alloca.h", "#pragma once
#define alloca(n) __builtin_alloca(n)
"),

  ("assert.h", "#undef assert
#ifdef NDEBUG
#define assert(e) ((void)0)
#else
#ifdef __cplusplus
extern \"C\" void __assert_fail(const char *, const char *, unsigned int, const char *) __attribute__((noreturn));
#define assert(e) (static_cast<bool>(e) ? void(0) : __assert_fail(#e, __FILE__, __LINE__, __extension__ __PRETTY_FUNCTION__))
#else
void __assert_fail(const char *, const char *, unsigned int, const char *) __attribute__((noreturn));
#define assert(e) ((e) ? (void)0 : __assert_fail(#e, __FILE__, __LINE__, __func__))
#endif
#endif
#ifndef __cplusplus
#undef static_assert
#define static_assert _Static_assert
#endif
"),

  ("ctype.h", "#pragma once
#ifdef __cplusplus
extern \"C\" <%
#endif
int isalnum(int);
int isalpha(int);
int isblank(int);
int iscntrl(int);
int isdigit(int);
int isgraph(int);
int islower(int);
int isprint(int);
int ispunct(int);
int isspace(int);
int isupper(int);
int isxdigit(int);
int isascii(int);
int tolower(int);
int toupper(int);
int toascii(int);
#ifdef __cplusplus
%>
#endif
"),

  ("dlfcn.h", "#pragma once
#include <stddef.h>
#define RTLD_LAZY 1
#define RTLD_NOW 2
#define RTLD_GLOBAL 0x100
#define RTLD_LOCAL 0
#define RTLD_DEFAULT ((void *)0)
#define RTLD_NEXT ((void *)-1l)
#ifdef __cplusplus
extern \"C\" <%
#endif
void *dlopen(const char *, int);
int dlclose(void *);
void *dlsym(void *, const char *);
char *dlerror(void);
#ifdef __cplusplus
%>
#endif
"),

  ("errno.h", "#pragma once
#ifdef __cplusplus
extern \"C\" <%
#endif
int *__errno_location(void);
#ifdef __cplusplus
%>
#endif
#define errno (*__errno_location())
#define EPERM 1
#define ENOENT 2
#define ESRCH 3
#define EINTR 4
#define EIO 5
#define ENXIO 6
#define E2BIG 7
#define ENOEXEC 8
#define EBADF 9
#define ECHILD 10
#define EAGAIN 11
#define EWOULDBLOCK 11
#define ENOMEM 12
#define EACCES 13
#define EFAULT 14
#define EBUSY 16
#define EEXIST 17
#define EXDEV 18
#define ENODEV 19
#define ENOTDIR 20
#define EISDIR 21
#define EINVAL 22
#define ENFILE 23
#define EMFILE 24
#define ENOTTY 25
#define ETXTBSY 26
#define EFBIG 27
#define ENOSPC 28
#define ESPIPE 29
#define EROFS 30
#define EMLINK 31
#define EPIPE 32
#define EDOM 33
#define ERANGE 34
#define EDEADLK 35
#define ENAMETOOLONG 36
#define ENOLCK 37
#define ENOSYS 38
#define ENOTEMPTY 39
#define ELOOP 40
#define ENOMSG 42
#define EPROTO 71
#define EBADMSG 74
#define EOVERFLOW 75
#define EILSEQ 84
#define ENOTSOCK 88
#define EMSGSIZE 90
#define ENOTSUP 95
#define EOPNOTSUPP 95
#define EADDRINUSE 98
#define ECONNRESET 104
#define ENOBUFS 105
#define EISCONN 106
#define ENOTCONN 107
#define ETIMEDOUT 110
#define ECONNREFUSED 111
#define EALREADY 114
#define EINPROGRESS 115
#define ECANCELED 125
"),

  ("fcntl.h", "#pragma once
#include <sys/types.h>
#define O_RDONLY 0
#define O_WRONLY 1
#define O_RDWR 2
#define O_CREAT 0100
#define O_EXCL 0200
#define O_NOCTTY 0400
#define O_TRUNC 01000
#define O_APPEND 02000
#define O_NONBLOCK 04000
#define O_CLOEXEC 02000000
#define O_DIRECTORY 0200000
#define F_DUPFD 0
#define F_GETFD 1
#define F_SETFD 2
#define F_GETFL 3
#define F_SETFL 4
#define FD_CLOEXEC 1
#ifdef __cplusplus
extern \"C\" <%
#endif
int open(const char *, int, ...);
int creat(const char *, mode_t);
int fcntl(int, int, ...);
#ifdef __cplusplus
%>
#endif
"),

  ("features.h", "#pragma once
#define __GLIBC__ 2
#define __GLIBC_MINOR__ 36
#define __GLIBC_PREREQ(maj, min) ((__GLIBC__ << 16) + __GLIBC_MINOR__ >= ((maj) << 16) + (min))
"),

  ("float.h", "#pragma once
#define FLT_RADIX 2
#define FLT_MANT_DIG __FLT_MANT_DIG__
#define DBL_MANT_DIG __DBL_MANT_DIG__
#define LDBL_MANT_DIG __LDBL_MANT_DIG__
#define FLT_DIG __FLT_DIG__
#define DBL_DIG __DBL_DIG__
#define LDBL_DIG __LDBL_DIG__
#define FLT_MIN_EXP __FLT_MIN_EXP__
#define DBL_MIN_EXP __DBL_MIN_EXP__
#define FLT_MIN_10_EXP __FLT_MIN_10_EXP__
#define DBL_MIN_10_EXP __DBL_MIN_10_EXP__
#define FLT_MAX_EXP __FLT_MAX_EXP__
#define DBL_MAX_EXP __DBL_MAX_EXP__
#define FLT_MAX_10_EXP __FLT_MAX_10_EXP__
#define DBL_MAX_10_EXP __DBL_MAX_10_EXP__
#define FLT_MAX __FLT_MAX__
#define DBL_MAX __DBL_MAX__
#define LDBL_MAX __LDBL_MAX__
#define FLT_EPSILON __FLT_EPSILON__
#define DBL_EPSILON __DBL_EPSILON__
#define LDBL_EPSILON __LDBL_EPSILON__
#define FLT_MIN __FLT_MIN__
#define DBL_MIN __DBL_MIN__
#define LDBL_MIN __LDBL_MIN__
#define FLT_TRUE_MIN __FLT_DENORM_MIN__
#define DBL_TRUE_MIN __DBL_DENORM_MIN__
#define FLT_DECIMAL_DIG __FLT_DECIMAL_DIG__
#define DBL_DECIMAL_DIG __DBL_DECIMAL_DIG__
#define DECIMAL_DIG __DECIMAL_DIG__
#define FLT_EVAL_METHOD 0
#define FLT_ROUNDS 1
"),

  ("inttypes.h", "#pragma once
#include <stdint.h>
#define PRId8 \"d\"
#define PRId16 \"d\"
#define PRId32 \"d\"
#define PRId64 \"ld\"
#define PRIi8 \"i\"
#define PRIi16 \"i\"
#define PRIi32 \"i\"
#define PRIi64 \"li\"
#define PRIo8 \"o\"
#define PRIo16 \"o\"
#define PRIo32 \"o\"
#define PRIo64 \"lo\"
#define PRIu8 \"u\"
#define PRIu16 \"u\"
#define PRIu32 \"u\"
#define PRIu64 \"lu\"
#define PRIx8 \"x\"
#define PRIx16 \"x\"
#define PRIx32 \"x\"
#define PRIx64 \"lx\"
#define PRIX8 \"X\"
#define PRIX16 \"X\"
#define PRIX32 \"X\"
#define PRIX64 \"lX\"
#define PRIdMAX \"ld\"
#define PRIuMAX \"lu\"
#define PRIxMAX \"lx\"
#define PRIdPTR \"ld\"
#define PRIuPTR \"lu\"
#define PRIxPTR \"lx\"
#define SCNd32 \"d\"
#define SCNd64 \"ld\"
#define SCNu32 \"u\"
#define SCNu64 \"lu\"
#define SCNx32 \"x\"
#define SCNx64 \"lx\"
#ifdef __cplusplus
extern \"C\" <%
#endif
intmax_t strtoimax(const char *, char **, int);
uintmax_t strtoumax(const char *, char **, int);
intmax_t imaxabs(intmax_t);
#ifdef __cplusplus
%>
#endif
"),

  ("iso646.h", "#pragma once
#ifndef __cplusplus
#define and &&
#define and_eq &=
#define bitand &
#define bitor |
#define compl ~
#define not !
#define not_eq !=
#define or ||
#define or_eq |=
#define xor ^
#define xor_eq ^=
#endif
"),

  ("limits.h", "#pragma once
#define CHAR_BIT 8
#define SCHAR_MIN (-128)
#define SCHAR_MAX 127
#define UCHAR_MAX 255
#define CHAR_MIN (-128)
#define CHAR_MAX 127
#define MB_LEN_MAX 16
#define SHRT_MIN (-32768)
#define SHRT_MAX 32767
#define USHRT_MAX 65535
#define INT_MIN (-2147483647 - 1)
#define INT_MAX 2147483647
#define UINT_MAX 4294967295U
#define LONG_MIN (-9223372036854775807L - 1L)
#define LONG_MAX 9223372036854775807L
#define ULONG_MAX 18446744073709551615UL
#define LLONG_MIN (-9223372036854775807LL - 1LL)
#define LLONG_MAX 9223372036854775807LL
#define ULLONG_MAX 18446744073709551615ULL
#define LONG_LONG_MIN LLONG_MIN
#define LONG_LONG_MAX LLONG_MAX
#define ULONG_LONG_MAX ULLONG_MAX
#define SSIZE_MAX LONG_MAX
#define PATH_MAX 4096
#define NAME_MAX 255
#define PIPE_BUF 4096
#define IOV_MAX 1024
"),

  ("locale.h", "#pragma once
#define LC_CTYPE 0
#define LC_NUMERIC 1
#define LC_TIME 2
#define LC_COLLATE 3
#define LC_MONETARY 4
#define LC_MESSAGES 5
#define LC_ALL 6
#ifdef __cplusplus
extern \"C\" <%
#endif
char *setlocale(int, const char *);
#ifdef __cplusplus
%>
#endif
"),

  ("malloc.h", "#pragma once
#include <stdlib.h>
#include <stdio.h>
#ifdef __cplusplus
extern \"C\" <%
#endif
size_t malloc_usable_size(void *);
void *memalign(size_t, size_t);
#ifdef __cplusplus
%>
#endif
"),

  ("math.h", "#pragma once
typedef float float_t;
typedef double double_t;
#define HUGE_VAL (__builtin_huge_val())
#define HUGE_VALF (__builtin_huge_valf())
#define INFINITY (__builtin_inff())
#define NAN (__builtin_nanf(\"\"))
#define FP_NAN 0
#define FP_INFINITE 1
#define FP_ZERO 2
#define FP_SUBNORMAL 3
#define FP_NORMAL 4
#define M_E 2.7182818284590452354
#define M_LOG2E 1.4426950408889634074
#define M_LOG10E 0.43429448190325182765
#define M_LN2 0.69314718055994530942
#define M_LN10 2.30258509299404568402
#define M_PI 3.14159265358979323846
#define M_PI_2 1.57079632679489661923
#define M_PI_4 0.78539816339744830962
#define M_1_PI 0.31830988618379067154
#define M_2_PI 0.63661977236758134308
#define M_2_SQRTPI 1.12837916709551257390
#define M_SQRT2 1.41421356237309504880
#define M_SQRT1_2 0.70710678118654752440
#ifdef __cplusplus
extern \"C\" <%
#endif
#define __FUN1(f) double f(double); float f##f(float); long double f##l(long double);
#define __FUN2(f) double f(double, double); float f##f(float, float); long double f##l(long double, long double);
__FUN1(acos) __FUN1(asin) __FUN1(atan) __FUN1(cos) __FUN1(sin) __FUN1(tan)
__FUN1(acosh) __FUN1(asinh) __FUN1(atanh) __FUN1(cosh) __FUN1(sinh) __FUN1(tanh)
__FUN1(exp) __FUN1(exp2) __FUN1(expm1) __FUN1(log) __FUN1(log10) __FUN1(log1p) __FUN1(log2) __FUN1(logb)
__FUN1(cbrt) __FUN1(fabs) __FUN1(sqrt) __FUN1(erf) __FUN1(erfc) __FUN1(lgamma) __FUN1(tgamma)
__FUN1(ceil) __FUN1(floor) __FUN1(nearbyint) __FUN1(rint) __FUN1(round) __FUN1(trunc)
__FUN2(atan2) __FUN2(hypot) __FUN2(pow) __FUN2(fmod) __FUN2(remainder) __FUN2(copysign) __FUN2(nextafter)
__FUN2(fdim) __FUN2(fmax) __FUN2(fmin)
#undef __FUN1
#undef __FUN2
double frexp(double, int *);
float frexpf(float, int *);
double ldexp(double, int);
float ldexpf(float, int);
double modf(double, double *);
float modff(float, float *);
double scalbn(double, int);
double scalbln(double, long);
int ilogb(double);
long lrint(double);
long lrintf(float);
long long llrint(double);
long lround(double);
long lroundf(float);
long long llround(double);
long long llroundf(float);
double fma(double, double, double);
float fmaf(float, float, float);
double remquo(double, double, int *);
double nan(const char *);
void sincos(double, double *, double *);
#ifdef __cplusplus
%>
#endif
#ifndef __cplusplus
#define fpclassify(x) (__builtin_fpclassify(FP_NAN, FP_INFINITE, FP_NORMAL, FP_SUBNORMAL, FP_ZERO, x))
#define isfinite(x) __builtin_isfinite(x)
#define isinf(x) __builtin_isinf_sign(x)
#define isnan(x) __builtin_isnan(x)
#define isnormal(x) __builtin_isnormal(x)
#define signbit(x) __builtin_signbit(x)
#define isgreater(x, y) __builtin_isgreater(x, y)
#define isgreaterequal(x, y) __builtin_isgreaterequal(x, y)
#define isless(x, y) __builtin_isless(x, y)
#define islessequal(x, y) __builtin_islessequal(x, y)
#define isunordered(x, y) __builtin_isunordered(x, y)
#elif !defined(__CMATH)
#include <cmath>
using std::isnan;
using std::isinf;
using std::isfinite;
using std::isnormal;
using std::signbit;
using std::fpclassify;
using std::abs;
using std::acos; using std::asin; using std::atan; using std::atan2; using std::cos; using std::sin; using std::tan;
using std::acosh; using std::asinh; using std::atanh; using std::cosh; using std::sinh; using std::tanh;
using std::exp; using std::log; using std::log10; using std::log2; using std::sqrt; using std::cbrt; using std::pow; using std::fabs;
using std::ceil; using std::floor; using std::fmod; using std::round; using std::trunc; using std::hypot;
using std::fmin; using std::fmax; using std::lround; using std::llround;
#endif
"),

  ("memory.h", "#pragma once
#include <string.h>
"),

  ("pthread.h", "#pragma once
#include <sys/types.h>
#include <time.h>
typedef union <% char __size[56]; long __align; %> pthread_attr_t;
typedef union <% char __size[40]; long __align; %> pthread_mutex_t;
typedef union <% char __size[4]; int __align; %> pthread_mutexattr_t;
typedef union <% char __size[48]; long __align; %> pthread_cond_t;
typedef union <% char __size[4]; int __align; %> pthread_condattr_t;
typedef unsigned int pthread_key_t;
typedef int pthread_once_t;
#define PTHREAD_MUTEX_INITIALIZER <% <% 0 %> %>
#define PTHREAD_COND_INITIALIZER <% <% 0 %> %>
#define PTHREAD_ONCE_INIT 0
#define PTHREAD_MUTEX_NORMAL 0
#define PTHREAD_MUTEX_RECURSIVE 1
#ifdef __cplusplus
extern \"C\" <%
#endif
int pthread_create(pthread_t *, const pthread_attr_t *, void *(*)(void *), void *);
int pthread_join(pthread_t, void **);
int pthread_detach(pthread_t);
pthread_t pthread_self(void);
int pthread_equal(pthread_t, pthread_t);
void pthread_exit(void *) __attribute__((noreturn));
int pthread_once(pthread_once_t *, void (*)(void));
int pthread_mutex_init(pthread_mutex_t *, const pthread_mutexattr_t *);
int pthread_mutex_destroy(pthread_mutex_t *);
int pthread_mutex_lock(pthread_mutex_t *);
int pthread_mutex_trylock(pthread_mutex_t *);
int pthread_mutex_unlock(pthread_mutex_t *);
int pthread_cond_init(pthread_cond_t *, const pthread_condattr_t *);
int pthread_cond_destroy(pthread_cond_t *);
int pthread_cond_wait(pthread_cond_t *, pthread_mutex_t *);
int pthread_cond_signal(pthread_cond_t *);
int pthread_cond_broadcast(pthread_cond_t *);
int pthread_key_create(pthread_key_t *, void (*)(void *));
int pthread_key_delete(pthread_key_t);
void *pthread_getspecific(pthread_key_t);
int pthread_setspecific(pthread_key_t, const void *);
#ifdef __cplusplus
%>
#endif
"),

  ("sched.h", "#pragma once
#ifdef __cplusplus
extern \"C\" <%
#endif
int sched_yield(void);
#ifdef __cplusplus
%>
#endif
"),

  ("setjmp.h", "#pragma once
typedef void *jmp_buf[8];
#define setjmp(b) __builtin_setjmp(b)
#define longjmp(b, v) __builtin_longjmp(b, 1)
"),

  ("signal.h", "#pragma once
#include <sys/types.h>
typedef int sig_atomic_t;
typedef void (*__sighandler_t)(int);
typedef __sighandler_t sighandler_t;
typedef struct <% unsigned long __val[16]; %> sigset_t;
#define SIG_ERR ((__sighandler_t)-1)
#define SIG_DFL ((__sighandler_t)0)
#define SIG_IGN ((__sighandler_t)1)
#define SIGHUP 1
#define SIGINT 2
#define SIGQUIT 3
#define SIGILL 4
#define SIGTRAP 5
#define SIGABRT 6
#define SIGBUS 7
#define SIGFPE 8
#define SIGKILL 9
#define SIGUSR1 10
#define SIGSEGV 11
#define SIGUSR2 12
#define SIGPIPE 13
#define SIGALRM 14
#define SIGTERM 15
#define SIGCHLD 17
#define SIGCONT 18
#define SIGSTOP 19
#define SIGTSTP 20
#ifdef __cplusplus
extern \"C\" <%
#endif
__sighandler_t signal(int, __sighandler_t);
int raise(int);
int kill(pid_t, int);
int sigemptyset(sigset_t *);
int sigfillset(sigset_t *);
int sigaddset(sigset_t *, int);
int sigdelset(sigset_t *, int);
int sigprocmask(int, const sigset_t *, sigset_t *);
#ifdef __cplusplus
%>
#endif
"),

  ("stdalign.h", "#pragma once
#ifndef __cplusplus
#define alignas _Alignas
#define alignof _Alignof
#endif
#define __alignas_is_defined 1
#define __alignof_is_defined 1
"),

  ("stdarg.h", "#pragma once
typedef __builtin_va_list va_list;
typedef __builtin_va_list __gnuc_va_list;
#define va_start(v, l) __builtin_va_start(v, l)
#define va_end(v) __builtin_va_end(v)
#define va_arg(v, l) __builtin_va_arg(v, l)
#define va_copy(d, s) __builtin_va_copy(d, s)
#define __va_copy(d, s) __builtin_va_copy(d, s)
"),

  ("stdatomic.h", "#pragma once
#include <stdint.h>
typedef enum <% memory_order_relaxed = 0, memory_order_consume = 1, memory_order_acquire = 2, memory_order_release = 3, memory_order_acq_rel = 4, memory_order_seq_cst = 5 %> memory_order;
typedef int atomic_int;
typedef unsigned int atomic_uint;
typedef long atomic_long;
typedef unsigned long atomic_ulong;
typedef long long atomic_llong;
typedef unsigned long long atomic_ullong;
typedef char atomic_char;
typedef short atomic_short;
typedef _Bool atomic_bool;
typedef size_t atomic_size_t;
typedef intptr_t atomic_intptr_t;
typedef uintptr_t atomic_uintptr_t;
typedef struct <% _Bool __val; %> atomic_flag;
#define ATOMIC_FLAG_INIT <% 0 %>
#define ATOMIC_VAR_INIT(v) (v)
#define atomic_init(p, v) ((void)(*(p) = (v)))
#define atomic_store(p, v) ((void)(*(p) = (v)))
#define atomic_store_explicit(p, v, o) ((void)(*(p) = (v)))
#define atomic_load(p) (*(p))
#define atomic_load_explicit(p, o) (*(p))
#define atomic_exchange(p, v) __atomic_exchange_n(p, v, 5)
#define atomic_fetch_add(p, v) __atomic_fetch_add(p, v, 5)
#define atomic_fetch_add_explicit(p, v, o) __atomic_fetch_add(p, v, 5)
#define atomic_fetch_sub(p, v) __atomic_fetch_sub(p, v, 5)
#define atomic_fetch_sub_explicit(p, v, o) __atomic_fetch_sub(p, v, 5)
#define atomic_fetch_or(p, v) __atomic_fetch_or(p, v, 5)
#define atomic_fetch_and(p, v) __atomic_fetch_and(p, v, 5)
#define atomic_fetch_xor(p, v) __atomic_fetch_xor(p, v, 5)
#define atomic_compare_exchange_strong(p, e, v) __atomic_compare_exchange_n(p, e, v, 0, 5, 5)
#define atomic_compare_exchange_weak(p, e, v) __atomic_compare_exchange_n(p, e, v, 1, 5, 5)
#define atomic_flag_test_and_set(p) __atomic_exchange_n(&(p)->__val, 1, 5)
#define atomic_flag_clear(p) ((void)((p)->__val = 0))
#define atomic_thread_fence(o) ((void)0)
#define atomic_signal_fence(o) ((void)0)
"),

  ("stdbool.h", "#pragma once
#ifndef __cplusplus
#define bool _Bool
#define true 1
#define false 0
#endif
#define __bool_true_false_are_defined 1
"),

  ("stddef.h", "#pragma once
typedef __SIZE_TYPE__ size_t;
typedef __PTRDIFF_TYPE__ ptrdiff_t;
#ifndef __cplusplus
typedef __WCHAR_TYPE__ wchar_t;
#endif
typedef struct <% long long __a __attribute__((aligned(8))); long double __b __attribute__((aligned(16))); %> max_align_t;
#ifdef __cplusplus
#define NULL __null
#if __cplusplus >= 201103L
namespace std <% typedef decltype(nullptr) nullptr_t; %>
using std::nullptr_t;
#endif
#else
#define NULL ((void *)0)
#endif
#define offsetof(type, member) __builtin_offsetof(type, member)
"),

  ("stdint.h", "#pragma once
#include <sys/types.h>
typedef unsigned char uint8_t;
typedef unsigned short uint16_t;
typedef unsigned int uint32_t;
typedef unsigned long uint64_t;
typedef signed char int_least8_t;
typedef short int_least16_t;
typedef int int_least32_t;
typedef long int_least64_t;
typedef unsigned char uint_least8_t;
typedef unsigned short uint_least16_t;
typedef unsigned int uint_least32_t;
typedef unsigned long uint_least64_t;
typedef signed char int_fast8_t;
typedef long int_fast16_t;
typedef long int_fast32_t;
typedef long int_fast64_t;
typedef unsigned char uint_fast8_t;
typedef unsigned long uint_fast16_t;
typedef unsigned long uint_fast32_t;
typedef unsigned long uint_fast64_t;
typedef long intptr_t;
typedef unsigned long uintptr_t;
typedef long intmax_t;
typedef unsigned long uintmax_t;
#define INT8_MIN (-128)
#define INT16_MIN (-32767-1)
#define INT32_MIN (-2147483647-1)
#define INT64_MIN (-9223372036854775807L-1)
#define INT8_MAX (127)
#define INT16_MAX (32767)
#define INT32_MAX (2147483647)
#define INT64_MAX (9223372036854775807L)
#define UINT8_MAX (255)
#define UINT16_MAX (65535)
#define UINT32_MAX (4294967295U)
#define UINT64_MAX (18446744073709551615UL)
#define INT_LEAST8_MIN INT8_MIN
#define INT_LEAST16_MIN INT16_MIN
#define INT_LEAST32_MIN INT32_MIN
#define INT_LEAST64_MIN INT64_MIN
#define INT_LEAST8_MAX INT8_MAX
#define INT_LEAST16_MAX INT16_MAX
#define INT_LEAST32_MAX INT32_MAX
#define INT_LEAST64_MAX INT64_MAX
#define UINT_LEAST8_MAX UINT8_MAX
#define UINT_LEAST16_MAX UINT16_MAX
#define UINT_LEAST32_MAX UINT32_MAX
#define UINT_LEAST64_MAX UINT64_MAX
#define INT_FAST8_MIN INT8_MIN
#define INT_FAST16_MIN INT64_MIN
#define INT_FAST32_MIN INT64_MIN
#define INT_FAST64_MIN INT64_MIN
#define INT_FAST8_MAX INT8_MAX
#define INT_FAST16_MAX INT64_MAX
#define INT_FAST32_MAX INT64_MAX
#define INT_FAST64_MAX INT64_MAX
#define UINT_FAST8_MAX UINT8_MAX
#define UINT_FAST16_MAX UINT64_MAX
#define UINT_FAST32_MAX UINT64_MAX
#define UINT_FAST64_MAX UINT64_MAX
#define INTPTR_MIN INT64_MIN
#define INTPTR_MAX INT64_MAX
#define UINTPTR_MAX UINT64_MAX
#define INTMAX_MIN INT64_MIN
#define INTMAX_MAX INT64_MAX
#define UINTMAX_MAX UINT64_MAX
#define PTRDIFF_MIN INT64_MIN
#define PTRDIFF_MAX INT64_MAX
#define SIZE_MAX UINT64_MAX
#define SIG_ATOMIC_MIN INT32_MIN
#define SIG_ATOMIC_MAX INT32_MAX
#ifndef WCHAR_MAX
#define WCHAR_MIN __WCHAR_MIN__
#define WCHAR_MAX __WCHAR_MAX__
#endif
#define WINT_MIN (0u)
#define WINT_MAX (4294967295u)
#define INT8_C(c) c
#define INT16_C(c) c
#define INT32_C(c) c
#define INT64_C(c) c ## L
#define UINT8_C(c) c
#define UINT16_C(c) c
#define UINT32_C(c) c ## U
#define UINT64_C(c) c ## UL
#define INTMAX_C(c) c ## L
#define UINTMAX_C(c) c ## UL
"),

  ("stdio.h", "#pragma once
#include <stddef.h>
#include <stdarg.h>
#include <sys/types.h>
typedef struct _IO_FILE FILE;
typedef struct <% long __pos; long __state; %> fpos_t;
#define EOF (-1)
#define BUFSIZ 8192
#define FILENAME_MAX 4096
#define FOPEN_MAX 16
#define L_tmpnam 20
#define TMP_MAX 238328
#define P_tmpdir \"/tmp\"
#define SEEK_SET 0
#define SEEK_CUR 1
#define SEEK_END 2
#define _IOFBF 0
#define _IOLBF 1
#define _IONBF 2
#ifdef __cplusplus
extern \"C\" <%
#endif
extern FILE *stdin;
extern FILE *stdout;
extern FILE *stderr;
#define stdin stdin
#define stdout stdout
#define stderr stderr
int remove(const char *);
int rename(const char *, const char *);
FILE *tmpfile(void);
char *tmpnam(char *);
int fclose(FILE *);
int fflush(FILE *);
FILE *fopen(const char *, const char *);
FILE *freopen(const char *, const char *, FILE *);
FILE *fdopen(int, const char *);
FILE *popen(const char *, const char *);
int pclose(FILE *);
void setbuf(FILE *, char *);
int setvbuf(FILE *, char *, int, size_t);
void setlinebuf(FILE *);
int fprintf(FILE *, const char *, ...);
int printf(const char *, ...);
int sprintf(char *, const char *, ...);
int snprintf(char *, size_t, const char *, ...);
int vfprintf(FILE *, const char *, va_list);
int vprintf(const char *, va_list);
int vsprintf(char *, const char *, va_list);
int vsnprintf(char *, size_t, const char *, va_list);
int asprintf(char **, const char *, ...);
int vasprintf(char **, const char *, va_list);
int dprintf(int, const char *, ...);
int vdprintf(int, const char *, va_list);
int fscanf(FILE *, const char *, ...);
int scanf(const char *, ...);
int sscanf(const char *, const char *, ...);
int fgetc(FILE *);
int getc(FILE *);
int getchar(void);
int fputc(int, FILE *);
int putc(int, FILE *);
int putchar(int);
char *fgets(char *, int, FILE *);
int fputs(const char *, FILE *);
int puts(const char *);
int ungetc(int, FILE *);
size_t fread(void *, size_t, size_t, FILE *);
size_t fwrite(const void *, size_t, size_t, FILE *);
ssize_t getline(char **, size_t *, FILE *);
ssize_t getdelim(char **, size_t *, int, FILE *);
int fseek(FILE *, long, int);
long ftell(FILE *);
void rewind(FILE *);
int fseeko(FILE *, off_t, int);
off_t ftello(FILE *);
int fgetpos(FILE *, fpos_t *);
int fsetpos(FILE *, const fpos_t *);
void clearerr(FILE *);
int feof(FILE *);
int ferror(FILE *);
int fileno(FILE *);
void perror(const char *);
FILE *fmemopen(void *, size_t, const char *);
FILE *open_memstream(char **, size_t *);
#ifdef __cplusplus
%>
#endif
"),

  ("stdlib.h", "#pragma once
#include <stddef.h>
#include <sys/types.h>
#define EXIT_SUCCESS 0
#define EXIT_FAILURE 1
#define RAND_MAX 2147483647
#define MB_CUR_MAX ((size_t)1)
typedef struct <% int quot; int rem; %> div_t;
typedef struct <% long quot; long rem; %> ldiv_t;
typedef struct <% long long quot; long long rem; %> lldiv_t;
typedef int (*__compar_fn_t)(const void *, const void *);
#ifdef __cplusplus
extern \"C\" <%
#endif
double atof(const char *);
int atoi(const char *);
long atol(const char *);
long long atoll(const char *);
double strtod(const char *, char **);
float strtof(const char *, char **);
long strtol(const char *, char **, int);
unsigned long strtoul(const char *, char **, int);
long long strtoll(const char *, char **, int);
unsigned long long strtoull(const char *, char **, int);
int rand(void);
void srand(unsigned int);
int rand_r(unsigned int *);
long random(void);
void srandom(unsigned int);
double drand48(void);
void srand48(long);
long lrand48(void);
void *malloc(size_t);
void *calloc(size_t, size_t);
void *realloc(void *, size_t);
void *reallocarray(void *, size_t, size_t);
void free(void *);
void *aligned_alloc(size_t, size_t);
int posix_memalign(void **, size_t, size_t);
void abort(void) __attribute__((noreturn));
int atexit(void (*)(void));
int at_quick_exit(void (*)(void));
void exit(int) __attribute__((noreturn));
void quick_exit(int) __attribute__((noreturn));
void _Exit(int) __attribute__((noreturn));
char *getenv(const char *);
char *secure_getenv(const char *);
int putenv(char *);
int setenv(const char *, const char *, int);
int unsetenv(const char *);
int clearenv(void);
int mkstemp(char *);
char *mkdtemp(char *);
char *mktemp(char *);
int system(const char *);
char *realpath(const char *, char *);
void *bsearch(const void *, const void *, size_t, size_t, __compar_fn_t);
void qsort(void *, size_t, size_t, __compar_fn_t);
void qsort_r(void *, size_t, size_t, int (*)(const void *, const void *, void *), void *);
int abs(int);
long labs(long);
long long llabs(long long);
div_t div(int, int);
ldiv_t ldiv(long, long);
lldiv_t lldiv(long long, long long);
int mblen(const char *, size_t);
int mbtowc(wchar_t *, const char *, size_t);
int wctomb(char *, wchar_t);
size_t mbstowcs(wchar_t *, const char *, size_t);
size_t wcstombs(char *, const wchar_t *, size_t);
int getloadavg(double *, int);
#ifdef __cplusplus
%>
inline long abs(long __i) <% return __builtin_labs(__i); %>
inline long long abs(long long __i) <% return __builtin_llabs(__i); %>
inline double abs(double __x) <% return __builtin_fabs(__x); %>
inline float abs(float __x) <% return __builtin_fabsf(__x); %>
#endif
"),

  ("stdnoreturn.h", "#pragma once
#ifndef __cplusplus
#define noreturn _Noreturn
#endif
"),

  ("string.h", "#pragma once
#include <stddef.h>
#ifdef __cplusplus
extern \"C\" <%
#endif
void *memcpy(void *, const void *, size_t);
void *memmove(void *, const void *, size_t);
void *memset(void *, int, size_t);
int memcmp(const void *, const void *, size_t);
#ifndef __cplusplus
void *memchr(const void *, int, size_t);
char *strchr(const char *, int);
char *strrchr(const char *, int);
char *strpbrk(const char *, const char *);
char *strstr(const char *, const char *);
#endif
char *strcpy(char *, const char *);
char *strncpy(char *, const char *, size_t);
char *strcat(char *, const char *);
char *strncat(char *, const char *, size_t);
int strcmp(const char *, const char *);
int strncmp(const char *, const char *, size_t);
int strcoll(const char *, const char *);
size_t strxfrm(char *, const char *, size_t);
size_t strcspn(const char *, const char *);
size_t strspn(const char *, const char *);
size_t strlen(const char *);
size_t strnlen(const char *, size_t);
char *strtok(char *, const char *);
char *strtok_r(char *, const char *, char **);
char *strdup(const char *);
char *strndup(const char *, size_t);
char *strerror(int);
int strerror_r(int, char *, size_t);
char *strsignal(int);
char *stpcpy(char *, const char *);
char *stpncpy(char *, const char *, size_t);
char *strsep(char **, const char *);
void *mempcpy(void *, const void *, size_t);
void *memmem(const void *, size_t, const void *, size_t);
void bzero(void *, size_t);
void bcopy(const void *, void *, size_t);
int bcmp(const void *, const void *, size_t);
int strcasecmp(const char *, const char *);
int strncasecmp(const char *, const char *, size_t);
char *index(const char *, int);
char *rindex(const char *, int);
int ffs(int);
#ifdef _GNU_SOURCE
#ifndef __cplusplus
void *memrchr(const void *, int, size_t);
char *strchrnul(const char *, int);
char *strcasestr(const char *, const char *);
#endif
#endif
#ifdef __cplusplus
%>
extern \"C++\" <%
inline void *memchr(void *__s, int __c, unsigned long __n) <% return __builtin_memchr(__s, __c, __n); %>
inline const void *memchr(const void *__s, int __c, unsigned long __n) <% return __builtin_memchr(__s, __c, __n); %>
inline char *strchr(char *__s, int __c) <% return __builtin_strchr(__s, __c); %>
inline const char *strchr(const char *__s, int __c) <% return __builtin_strchr(__s, __c); %>
inline char *strrchr(char *__s, int __c) <% return __builtin_strrchr(__s, __c); %>
inline const char *strrchr(const char *__s, int __c) <% return __builtin_strrchr(__s, __c); %>
inline char *strpbrk(char *__s, const char *__a) <% return __builtin_strpbrk(__s, __a); %>
inline const char *strpbrk(const char *__s, const char *__a) <% return __builtin_strpbrk(__s, __a); %>
inline char *strstr(char *__s, const char *__a) <% return __builtin_strstr(__s, __a); %>
inline const char *strstr(const char *__s, const char *__a) <% return __builtin_strstr(__s, __a); %>
%>
#endif
"),

  ("strings.h", "#pragma once
#include <string.h>
"),

  ("sys/stat.h", "#pragma once
#include <sys/types.h>
#include <time.h>
struct stat <% dev_t st_dev; ino_t st_ino; nlink_t st_nlink; mode_t st_mode; uid_t st_uid; gid_t st_gid; int __pad0; dev_t st_rdev; off_t st_size; blksize_t st_blksize; blkcnt_t st_blocks; struct timespec st_atim; struct timespec st_mtim; struct timespec st_ctim; long __unused[3]; %>;
#define st_atime st_atim.tv_sec
#define st_mtime st_mtim.tv_sec
#define st_ctime st_ctim.tv_sec
#define S_IFMT 0170000
#define S_IFDIR 0040000
#define S_IFCHR 0020000
#define S_IFREG 0100000
#define S_IFLNK 0120000
#define S_ISDIR(m) (((m) & S_IFMT) == S_IFDIR)
#define S_ISREG(m) (((m) & S_IFMT) == S_IFREG)
#define S_ISLNK(m) (((m) & S_IFMT) == S_IFLNK)
#define S_ISCHR(m) (((m) & S_IFMT) == S_IFCHR)
#define S_IRUSR 0400
#define S_IWUSR 0200
#define S_IXUSR 0100
#define S_IRWXU 0700
#define S_IRGRP 040
#define S_IWGRP 020
#define S_IXGRP 010
#define S_IRWXG 070
#define S_IROTH 04
#define S_IWOTH 02
#define S_IXOTH 01
#define S_IRWXO 07
#ifdef __cplusplus
extern \"C\" <%
#endif
int stat(const char *, struct stat *);
int fstat(int, struct stat *);
int lstat(const char *, struct stat *);
int chmod(const char *, mode_t);
mode_t umask(mode_t);
int mkdir(const char *, mode_t);
#ifdef __cplusplus
%>
#endif
"),

  ("sys/time.h", "#pragma once
#include <time.h>
struct timeval <% time_t tv_sec; suseconds_t tv_usec; %>;
struct timezone <% int tz_minuteswest; int tz_dsttime; %>;
#ifdef __cplusplus
extern \"C\" <%
#endif
int gettimeofday(struct timeval *, void *);
#ifdef __cplusplus
%>
#endif
"),

  ("sys/types.h", "#pragma once
#include <stddef.h>
typedef signed char int8_t;
typedef short int16_t;
typedef int int32_t;
typedef long int64_t;
typedef unsigned char u_int8_t;
typedef unsigned short u_int16_t;
typedef unsigned int u_int32_t;
typedef unsigned long u_int64_t;
typedef unsigned char u_char;
typedef unsigned short u_short;
typedef unsigned int u_int;
typedef unsigned long u_long;
typedef unsigned short ushort;
typedef unsigned int uint;
typedef unsigned long ulong;
typedef long ssize_t;
typedef long off_t;
typedef long time_t;
typedef long clock_t;
typedef int clockid_t;
typedef int pid_t;
typedef unsigned int uid_t;
typedef unsigned int gid_t;
typedef unsigned int mode_t;
typedef unsigned int id_t;
typedef unsigned long dev_t;
typedef unsigned long ino_t;
typedef unsigned long nlink_t;
typedef long blksize_t;
typedef long blkcnt_t;
typedef long suseconds_t;
typedef unsigned int useconds_t;
typedef int key_t;
typedef unsigned long pthread_t;
"),

  ("sys/wait.h", "#pragma once
#include <sys/types.h>
#define WNOHANG 1
#define WUNTRACED 2
#define WEXITSTATUS(s) (((s) & 0xff00) >> 8)
#define WTERMSIG(s) ((s) & 0x7f)
#define WIFEXITED(s) (WTERMSIG(s) == 0)
#define WIFSIGNALED(s) (((signed char)(((s) & 0x7f) + 1) >> 1) > 0)
#ifdef __cplusplus
extern \"C\" <%
#endif
pid_t wait(int *);
pid_t waitpid(pid_t, int *, int);
#ifdef __cplusplus
%>
#endif
"),

  ("time.h", "#pragma once
#include <stddef.h>
#include <sys/types.h>
struct timespec <% time_t tv_sec; long tv_nsec; %>;
struct tm <% int tm_sec; int tm_min; int tm_hour; int tm_mday; int tm_mon; int tm_year; int tm_wday; int tm_yday; int tm_isdst; long tm_gmtoff; const char *tm_zone; %>;
#define CLOCKS_PER_SEC ((clock_t)1000000)
#define CLOCK_REALTIME 0
#define CLOCK_MONOTONIC 1
#define CLOCK_PROCESS_CPUTIME_ID 2
#define CLOCK_THREAD_CPUTIME_ID 3
#define TIME_UTC 1
#ifdef __cplusplus
extern \"C\" <%
#endif
clock_t clock(void);
time_t time(time_t *);
double difftime(time_t, time_t);
time_t mktime(struct tm *);
time_t timegm(struct tm *);
size_t strftime(char *, size_t, const char *, const struct tm *);
struct tm *gmtime(const time_t *);
struct tm *localtime(const time_t *);
struct tm *gmtime_r(const time_t *, struct tm *);
struct tm *localtime_r(const time_t *, struct tm *);
char *asctime(const struct tm *);
char *ctime(const time_t *);
char *ctime_r(const time_t *, char *);
void tzset(void);
int nanosleep(const struct timespec *, struct timespec *);
int clock_gettime(clockid_t, struct timespec *);
int clock_getres(clockid_t, struct timespec *);
int timespec_get(struct timespec *, int);
#ifdef __cplusplus
%>
#endif
"),

  ("uchar.h", "#pragma once
#include <wchar.h>
#ifndef __cplusplus
typedef unsigned short char16_t;
typedef unsigned int char32_t;
#endif
"),

  ("unistd.h", "#pragma once
#include <stddef.h>
#include <sys/types.h>
typedef long intptr_t;
#define STDIN_FILENO 0
#define STDOUT_FILENO 1
#define STDERR_FILENO 2
#define F_OK 0
#define X_OK 1
#define W_OK 2
#define R_OK 4
#ifndef SEEK_SET
#define SEEK_SET 0
#define SEEK_CUR 1
#define SEEK_END 2
#endif
#define _SC_PAGESIZE 30
#define _SC_PAGE_SIZE 30
#define _SC_CLK_TCK 2
#define _SC_OPEN_MAX 4
#define _SC_NPROCESSORS_CONF 83
#define _SC_NPROCESSORS_ONLN 84
#ifdef __cplusplus
extern \"C\" <%
#endif
extern char **environ;
int access(const char *, int);
off_t lseek(int, off_t, int);
int close(int);
ssize_t read(int, void *, size_t);
ssize_t write(int, const void *, size_t);
ssize_t pread(int, void *, size_t, off_t);
ssize_t pwrite(int, const void *, size_t, off_t);
int pipe(int [2]);
unsigned int alarm(unsigned int);
unsigned int sleep(unsigned int);
int usleep(useconds_t);
int pause(void);
int chdir(const char *);
char *getcwd(char *, size_t);
int dup(int);
int dup2(int, int);
pid_t fork(void);
int execve(const char *, char *const [], char *const []);
int execv(const char *, char *const []);
int execvp(const char *, char *const []);
int execl(const char *, const char *, ...);
int execlp(const char *, const char *, ...);
void _exit(int) __attribute__((noreturn));
pid_t getpid(void);
pid_t getppid(void);
uid_t getuid(void);
uid_t geteuid(void);
gid_t getgid(void);
gid_t getegid(void);
int isatty(int);
int link(const char *, const char *);
int symlink(const char *, const char *);
ssize_t readlink(const char *, char *, size_t);
int unlink(const char *);
int rmdir(const char *);
int truncate(const char *, off_t);
int ftruncate(int, off_t);
int fsync(int);
void sync(void);
long sysconf(int);
int getpagesize(void);
int gethostname(char *, size_t);
long syscall(long, ...);
#ifdef __cplusplus
%>
#endif
"),

  ("wchar.h", "#pragma once
#include <stddef.h>
typedef unsigned int wint_t;
typedef struct <% int __count; unsigned int __value; %> mbstate_t;
#define WEOF (0xffffffffu)
#ifndef WCHAR_MAX
#define WCHAR_MIN __WCHAR_MIN__
#define WCHAR_MAX __WCHAR_MAX__
#endif
#ifdef __cplusplus
extern \"C\" <%
#endif
size_t wcslen(const wchar_t *);
wchar_t *wcscpy(wchar_t *, const wchar_t *);
wchar_t *wcscat(wchar_t *, const wchar_t *);
int wcscmp(const wchar_t *, const wchar_t *);
int wcsncmp(const wchar_t *, const wchar_t *, size_t);
wchar_t *wmemcpy(wchar_t *, const wchar_t *, size_t);
wchar_t *wmemset(wchar_t *, wchar_t, size_t);
#ifdef __cplusplus
%>
#endif
"),

  ("wctype.h", "#pragma once
#include <wchar.h>
#ifdef __cplusplus
extern \"C\" <%
#endif
int iswalpha(wint_t);
int iswdigit(wint_t);
int iswspace(wint_t);
wint_t towlower(wint_t);
wint_t towupper(wint_t);
#ifdef __cplusplus
%>
#endif
")]

end ModuleForge.Host.Native.Headers
