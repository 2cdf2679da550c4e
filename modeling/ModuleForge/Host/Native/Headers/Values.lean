/-!
# Headers of values

Values made of others, functions as values, and pointers that own what they point to.
-/
namespace ModuleForge.Host.Native.Headers

/-- The headers by their names. -/
def values : List (String × String) := [
  ("tuple", "#pragma once
#include <utility>
#include <__allocator>
namespace std <%
template <class... T> class tuple;
template <> class tuple<> <% public: constexpr tuple() noexcept <%%> %>;
template <class H, class... R> class tuple<H, R...> : public tuple<R...> <%
public:
  H __head;
  constexpr tuple() : tuple<R...>(), __head() <%%>
  constexpr tuple(const H &h, const R &...r) : tuple<R...>(r...), __head(h) <%%>
  template <class U, class... V, class = enable_if_t<sizeof...(V) == sizeof...(R) && (sizeof...(R) > 0 || !is_same<decay_t<U>, tuple>::value) && is_constructible<H, U &&>::value>>
  constexpr tuple(U &&u, V &&...v) : tuple<R...>(static_cast<V &&>(v)...), __head(static_cast<U &&>(u)) <%%>
  tuple(const tuple &) = default;
  tuple(tuple &&) = default;
  template <class U, class... V, class = enable_if_t<sizeof...(V) == sizeof...(R)>> constexpr tuple(const tuple<U, V...> &o) : tuple<R...>(static_cast<const tuple<V...> &>(o)), __head(o.__head) <%%>
  template <class U, class... V, class = enable_if_t<sizeof...(V) == sizeof...(R)>> constexpr tuple(tuple<U, V...> &&o) : tuple<R...>(static_cast<tuple<V...> &&>(o)), __head(static_cast<U &&>(o.__head)) <%%>
  template <class A, class B> constexpr tuple(const pair<A, B> &p) : tuple<R...>(p.second), __head(p.first) <%%>
  tuple &operator=(const tuple &o) <% __head = o.__head; static_cast<tuple<R...> &>(*this) = static_cast<const tuple<R...> &>(o); return *this; %>
  tuple &operator=(tuple &&o) <% __head = static_cast<H &&>(o.__head); static_cast<tuple<R...> &>(*this) = static_cast<tuple<R...> &&>(o); return *this; %>
  template <class U, class... V, class = enable_if_t<sizeof...(V) == sizeof...(R)>> tuple &operator=(const tuple<U, V...> &o) <% __head = o.__head; static_cast<tuple<R...> &>(*this) = static_cast<const tuple<V...> &>(o); return *this; %>
  template <class U, class... V, class = enable_if_t<sizeof...(V) == sizeof...(R)>> tuple &operator=(tuple<U, V...> &&o) <% __head = static_cast<U &&>(o.__head); static_cast<tuple<R...> &>(*this) = static_cast<tuple<V...> &&>(o); return *this; %>
  template <class A, class B> tuple &operator=(const pair<A, B> &p) <% __head = p.first; this->tuple<R...>::__head = p.second; return *this; %>
  void swap(tuple &o) <% tuple t = static_cast<tuple &&>(*this); *this = static_cast<tuple &&>(o); o = static_cast<tuple &&>(t); %>
%>;
template <class... T> tuple(T...) -> tuple<T...>;
template <class A, class B> tuple(pair<A, B>) -> tuple<A, B>;
template <class... T> struct tuple_size<tuple<T...>> : integral_constant<size_t, sizeof...(T)> <%%>;
template <class H, class... R> struct tuple_element<0, tuple<H, R...>> <% typedef H type; %>;
template <size_t I, class H, class... R> struct tuple_element<I, tuple<H, R...>> : tuple_element<I - 1, tuple<R...>> <%%>;
template <size_t I, class T> struct __rest_of;
template <class H, class... R> struct __rest_of<0, tuple<H, R...>> <% typedef tuple<H, R...> type; %>;
template <size_t I, class H, class... R> struct __rest_of<I, tuple<H, R...>> : __rest_of<I - 1, tuple<R...>> <%%>;
template <size_t I, class... T> constexpr typename tuple_element<I, tuple<T...>>::type &get(tuple<T...> &t) noexcept <% return static_cast<typename __rest_of<I, tuple<T...>>::type &>(t).__head; %>
template <size_t I, class... T> constexpr const typename tuple_element<I, tuple<T...>>::type &get(const tuple<T...> &t) noexcept <% return static_cast<const typename __rest_of<I, tuple<T...>>::type &>(t).__head; %>
template <size_t I, class... T> constexpr typename tuple_element<I, tuple<T...>>::type &&get(tuple<T...> &&t) noexcept <% return static_cast<typename tuple_element<I, tuple<T...>>::type &&>(static_cast<typename __rest_of<I, tuple<T...>>::type &>(t).__head); %>
template <class W, size_t I, class... T> struct __index_in;
template <class W, size_t I, class... R> struct __index_in<W, I, W, R...> : integral_constant<size_t, I> <%%>;
template <class W, size_t I, class H, class... R> struct __index_in<W, I, H, R...> : __index_in<W, I + 1, R...> <%%>;
template <class W, class... T> constexpr W &get(tuple<T...> &t) noexcept <% return std::get<__index_in<W, 0, T...>::value>(t); %>
template <class W, class... T> constexpr const W &get(const tuple<T...> &t) noexcept <% return std::get<__index_in<W, 0, T...>::value>(t); %>
template <class... T> constexpr tuple<typename unwrap_ref_decay<T>::type...> make_tuple(T &&...t) <% return tuple<typename unwrap_ref_decay<T>::type...>(static_cast<T &&>(t)...); %>
template <class... T> constexpr tuple<T &...> tie(T &...t) noexcept <% return tuple<T &...>(t...); %>
template <class... T> constexpr tuple<T &&...> forward_as_tuple(T &&...t) noexcept <% return tuple<T &&...>(static_cast<T &&>(t)...); %>
struct __ignored <% template <class T> const __ignored &operator=(const T &) const <% return *this; %> %>;
inline constexpr __ignored ignore<%%>;
template <class... T, class... U, size_t... I> constexpr bool __sameTuple(const tuple<T...> &a, const tuple<U...> &b, index_sequence<I...>) <% return (true && ... && (std::get<I>(a) == std::get<I>(b))); %>
template <size_t I, class A, class B> constexpr bool __beforeTuple(const A &a, const B &b) <%
  if constexpr (I == tuple_size<A>::value) return false;
  else <%
    if (std::get<I>(a) < std::get<I>(b)) return true;
    if (std::get<I>(b) < std::get<I>(a)) return false;
    return __beforeTuple<I + 1>(a, b);
  %>
%>
template <class... T, class... U> constexpr bool operator==(const tuple<T...> &a, const tuple<U...> &b) <% return __sameTuple(a, b, index_sequence_for<T...>()); %>
template <class... T, class... U> constexpr bool operator!=(const tuple<T...> &a, const tuple<U...> &b) <% return !(a == b); %>
template <class... T, class... U> constexpr bool operator<(const tuple<T...> &a, const tuple<U...> &b) <% return __beforeTuple<0>(a, b); %>
template <class... T, class... U> constexpr bool operator>(const tuple<T...> &a, const tuple<U...> &b) <% return b < a; %>
template <class... T, class... U> constexpr bool operator<=(const tuple<T...> &a, const tuple<U...> &b) <% return !(b < a); %>
template <class... T, class... U> constexpr bool operator>=(const tuple<T...> &a, const tuple<U...> &b) <% return !(a < b); %>
template <class... T, class... U, size_t... I, size_t... J> constexpr tuple<T..., U...> __joined(const tuple<T...> &a, const tuple<U...> &b, index_sequence<I...>, index_sequence<J...>) <% return tuple<T..., U...>(std::get<I>(a)..., std::get<J>(b)...); %>
constexpr tuple<> tuple_cat() <% return tuple<>(); %>
template <class... T> constexpr tuple<T...> tuple_cat(const tuple<T...> &a) <% return a; %>
template <class... T, class... U, class... R> constexpr auto tuple_cat(const tuple<T...> &a, const tuple<U...> &b, const R &...r) <% return tuple_cat(__joined(a, b, index_sequence_for<T...>(), index_sequence_for<U...>()), r...); %>
template <class F, class T, size_t... I> constexpr decltype(auto) __applied(F &&f, T &&t, index_sequence<I...>) <% return f(std::get<I>(static_cast<T &&>(t))...); %>
template <class F, class T> constexpr decltype(auto) apply(F &&f, T &&t) <% return __applied(static_cast<F &&>(f), static_cast<T &&>(t), make_index_sequence<tuple_size<decay_t<T>>::value>()); %>
template <class V, class T, size_t... I> constexpr V __madeFrom(T &&t, index_sequence<I...>) <% return V(std::get<I>(static_cast<T &&>(t))...); %>
template <class V, class T> constexpr V make_from_tuple(T &&t) <% return __madeFrom<V>(static_cast<T &&>(t), make_index_sequence<tuple_size<decay_t<T>>::value>()); %>
template <class... T> void swap(tuple<T...> &a, tuple<T...> &b) <% a.swap(b); %>
%>
"),

  ("functional", "#pragma once
#include <__memory>
#include <__hash>
#include <tuple>
#include <typeinfo>
namespace std <%
template <class T = void> struct plus <% constexpr T operator()(const T &a, const T &b) const <% return a + b; %> %>;
template <class T = void> struct minus <% constexpr T operator()(const T &a, const T &b) const <% return a - b; %> %>;
template <class T = void> struct multiplies <% constexpr T operator()(const T &a, const T &b) const <% return a * b; %> %>;
template <class T = void> struct divides <% constexpr T operator()(const T &a, const T &b) const <% return a / b; %> %>;
template <class T = void> struct modulus <% constexpr T operator()(const T &a, const T &b) const <% return a % b; %> %>;
template <class T = void> struct negate <% constexpr T operator()(const T &a) const <% return -a; %> %>;
template <class T = void> struct logical_and <% constexpr bool operator()(const T &a, const T &b) const <% return a && b; %> %>;
template <class T = void> struct logical_or <% constexpr bool operator()(const T &a, const T &b) const <% return a || b; %> %>;
template <class T = void> struct logical_not <% constexpr bool operator()(const T &a) const <% return !a; %> %>;
template <class T = void> struct bit_and <% constexpr T operator()(const T &a, const T &b) const <% return a & b; %> %>;
template <class T = void> struct bit_or <% constexpr T operator()(const T &a, const T &b) const <% return a | b; %> %>;
template <class T = void> struct bit_xor <% constexpr T operator()(const T &a, const T &b) const <% return a ^ b; %> %>;
template <> struct plus<void> <% template <class A, class B> constexpr auto operator()(A &&a, B &&b) const <% return a + b; %> %>;
template <> struct minus<void> <% template <class A, class B> constexpr auto operator()(A &&a, B &&b) const <% return a - b; %> %>;
template <> struct multiplies<void> <% template <class A, class B> constexpr auto operator()(A &&a, B &&b) const <% return a * b; %> %>;
template <> struct divides<void> <% template <class A, class B> constexpr auto operator()(A &&a, B &&b) const <% return a / b; %> %>;
template <> struct modulus<void> <% template <class A, class B> constexpr auto operator()(A &&a, B &&b) const <% return a % b; %> %>;
template <> struct negate<void> <% template <class A> constexpr auto operator()(A &&a) const <% return -a; %> %>;
template <> struct bit_and<void> <% template <class A, class B> constexpr auto operator()(A &&a, B &&b) const <% return a & b; %> %>;
template <> struct bit_or<void> <% template <class A, class B> constexpr auto operator()(A &&a, B &&b) const <% return a | b; %> %>;
template <> struct bit_xor<void> <% template <class A, class B> constexpr auto operator()(A &&a, B &&b) const <% return a ^ b; %> %>;
template <class T> class reference_wrapper <%
  T *__target;
public:
  typedef T type;
  reference_wrapper(T &t) noexcept : __target(__builtin_addressof(t)) <%%>
  reference_wrapper(const reference_wrapper &) = default;
  reference_wrapper &operator=(const reference_wrapper &) = default;
  operator T &() const noexcept <% return *__target; %>
  T &get() const noexcept <% return *__target; %>
  template <class... A> auto operator()(A &&...a) const -> decltype((*__target)(static_cast<A &&>(a)...)) <% return (*__target)(static_cast<A &&>(a)...); %>
%>;
template <class T> reference_wrapper<T> ref(T &t) noexcept <% return reference_wrapper<T>(t); %>
template <class T> reference_wrapper<const T> cref(const T &t) noexcept <% return reference_wrapper<const T>(t); %>
class bad_function_call : public exception <% public: const char *what() const noexcept override <% return \"bad_function_call\"; %> %>;
template <class T> struct __target_of <% template <class U> static T &of(U &u) <% return u; %> %>;
template <class M, class C, class O> constexpr decltype(auto) __member(M C::*m, O &&o) <%
  if constexpr (is_pointer<decay_t<O>>::value) return ((*o).*m); else return (o.*m);
%>
template <class F, class... A> constexpr decltype(auto) invoke(F &&f, A &&...a);
template <class M, class C, class O, class... A> constexpr decltype(auto) __invokeMember(M C::*m, O &&o, A &&...a) <%
  if constexpr (is_pointer<decay_t<O>>::value) <%
    if constexpr (is_function<M>::value) return ((*o).*m)(static_cast<A &&>(a)...); else return ((*o).*m);
  %> else <%
    if constexpr (is_function<M>::value) return (o.*m)(static_cast<A &&>(a)...); else return (o.*m);
  %>
%>
template <class F, class... A> constexpr decltype(auto) invoke(F &&f, A &&...a) <%
  if constexpr (is_member_pointer<decay_t<F>>::value) return __invokeMember(f, static_cast<A &&>(a)...);
  else return f(static_cast<A &&>(a)...);
%>
template <class S> class function;
template <class R, class... A> struct __callable <% virtual ~__callable() <%%> virtual R __call(A... a) = 0; virtual __callable *__clone() const = 0; %>;
template <class F, class R, class... A> struct __callableOf : __callable<R, A...> <%
  F f;
  __callableOf(const F &g) : f(g) <%%>
  R __call(A... a) override <% if constexpr (is_void<R>::value) std::invoke(f, static_cast<A &&>(a)...); else return std::invoke(f, static_cast<A &&>(a)...); %>
  __callable<R, A...> *__clone() const override <% return new __callableOf(f); %>
%>;
template <class R, class... A> class function<R(A...)> <%
  __callable<R, A...> *__held;
  void *__unused[3];
public:
  typedef R result_type;
  function() noexcept : __held(nullptr) <%%>
  function(nullptr_t) noexcept : __held(nullptr) <%%>
  function(const function &o) : __held(o.__held ? o.__held->__clone() : nullptr) <%%>
  function(function &&o) noexcept : __held(o.__held) <% o.__held = nullptr; %>
  template <class F, class = enable_if_t<!is_same<decay_t<F>, function>::value && !is_same<decay_t<F>, nullptr_t>::value>>
  function(F &&f) : __held(new __callableOf<decay_t<F>, R, A...>(f)) <%%>
  ~function() <% delete __held; %>
  function &operator=(const function &o) <% if (this != &o) <% auto *p = o.__held ? o.__held->__clone() : nullptr; delete __held; __held = p; %> return *this; %>
  function &operator=(function &&o) noexcept <% if (this != &o) <% delete __held; __held = o.__held; o.__held = nullptr; %> return *this; %>
  function &operator=(nullptr_t) noexcept <% delete __held; __held = nullptr; return *this; %>
  template <class F, class = enable_if_t<!is_same<decay_t<F>, function>::value && !is_same<decay_t<F>, nullptr_t>::value>>
  function &operator=(F &&f) <% auto *p = new __callableOf<decay_t<F>, R, A...>(f); delete __held; __held = p; return *this; %>
  void swap(function &o) noexcept <% std::swap(__held, o.__held); %>
  explicit operator bool() const noexcept <% return __held != nullptr; %>
  R operator()(A... a) const <% if (!__held) throw bad_function_call(); return __held->__call(static_cast<A &&>(a)...); %>
%>;
template <class R, class... A> function(R (*)(A...)) -> function<R(A...)>;
template <class R, class... A> bool operator==(const function<R(A...)> &f, nullptr_t) noexcept <% return !f; %>
template <class R, class... A> bool operator!=(const function<R(A...)> &f, nullptr_t) noexcept <% return bool(f); %>
template <int N> struct __placeholder <%%>;
namespace placeholders <%
inline constexpr __placeholder<1> _1<%%>; inline constexpr __placeholder<2> _2<%%>; inline constexpr __placeholder<3> _3<%%>;
inline constexpr __placeholder<4> _4<%%>; inline constexpr __placeholder<5> _5<%%>; inline constexpr __placeholder<6> _6<%%>;
%>
template <class B, class V> constexpr decltype(auto) __given(B &b, V &) <% return (b); %>
template <int N, class V> constexpr decltype(auto) __given(__placeholder<N> &, V &v) <% return std::get<N - 1>(v); %>
template <class T, class V> constexpr T &__given(reference_wrapper<T> &b, V &) <% return b.get(); %>
template <class F, class... B> class __bound <%
  F f;
  tuple<B...> held;
  template <class V, size_t... I> decltype(auto) __run(V v, index_sequence<I...>) <% return std::invoke(f, __given(std::get<I>(held), v)...); %>
public:
  template <class G, class... C> explicit __bound(G &&g, C &&...c) : f(static_cast<G &&>(g)), held(static_cast<C &&>(c)...) <%%>
  template <class... A> decltype(auto) operator()(A &&...a) <% return __run(tuple<A &&...>(static_cast<A &&>(a)...), index_sequence_for<B...>()); %>
%>;
template <class F, class... B> __bound<decay_t<F>, decay_t<B>...> bind(F &&f, B &&...b) <% return __bound<decay_t<F>, decay_t<B>...>(static_cast<F &&>(f), static_cast<B &&>(b)...); %>
template <class M, class C> auto mem_fn(M C::*m) <% return [m](auto &&o, auto &&...a) -> decltype(auto) <% return __invokeMember(m, o, a...); %>; %>
template <class F> auto not_fn(F f) <% return [f](auto &&...a) <% return !f(a...); %>; %>
struct identity <% template <class T> constexpr T &&operator()(T &&t) const noexcept <% return static_cast<T &&>(t); %> %>;
%>
#include <__order>
"),

  ("memory", "#pragma once
#include <__memory>
#include <__hash>
#include <__order>
#include <typeinfo>
namespace std <%
template <class T> struct default_delete <% constexpr default_delete() noexcept <%%> template <class U> default_delete(const default_delete<U> &) noexcept <%%> void operator()(T *p) const <% delete p; %> %>;
template <class T> struct default_delete<T[]> <% constexpr default_delete() noexcept <%%> void operator()(T *p) const <% delete[] p; %> %>;
template <class T, class D = default_delete<T>> class unique_ptr : private D <%
  T *__held;
public:
  typedef T *pointer;
  typedef T element_type;
  typedef D deleter_type;
  constexpr unique_ptr() noexcept : D(), __held(nullptr) <%%>
  constexpr unique_ptr(nullptr_t) noexcept : D(), __held(nullptr) <%%>
  explicit unique_ptr(T *p) noexcept : D(), __held(p) <%%>
  unique_ptr(T *p, const D &d) noexcept : D(d), __held(p) <%%>
  unique_ptr(unique_ptr &&o) noexcept : D(static_cast<D &&>(o.get_deleter())), __held(o.release()) <%%>
  template <class U, class E, class = enable_if_t<is_convertible<U *, T *>::value>> unique_ptr(unique_ptr<U, E> &&o) noexcept : D(o.get_deleter()), __held(o.release()) <%%>
  unique_ptr(const unique_ptr &) = delete;
  ~unique_ptr() <% if (__held) get_deleter()(__held); %>
  unique_ptr &operator=(const unique_ptr &) = delete;
  unique_ptr &operator=(unique_ptr &&o) noexcept <% reset(o.release()); get_deleter() = static_cast<D &&>(o.get_deleter()); return *this; %>
  template <class U, class E> unique_ptr &operator=(unique_ptr<U, E> &&o) noexcept <% reset(o.release()); return *this; %>
  unique_ptr &operator=(nullptr_t) noexcept <% reset(); return *this; %>
  T &operator*() const <% return *__held; %>
  T *operator->() const noexcept <% return __held; %>
  T *get() const noexcept <% return __held; %>
  D &get_deleter() noexcept <% return *this; %>
  const D &get_deleter() const noexcept <% return *this; %>
  explicit operator bool() const noexcept <% return __held != nullptr; %>
  T *release() noexcept <% T *p = __held; __held = nullptr; return p; %>
  void reset(T *p = nullptr) noexcept <% T *old = __held; __held = p; if (old) get_deleter()(old); %>
  void swap(unique_ptr &o) noexcept <% std::swap(__held, o.__held); %>
%>;
template <class T, class R, class... A> class unique_ptr<T, R (*)(A...)> <%
  typedef R (*D)(A...);
  D __end;
  T *__held;
public:
  typedef T *pointer;
  typedef T element_type;
  unique_ptr(T *p, D d) noexcept : __end(d), __held(p) <%%>
  unique_ptr(unique_ptr &&o) noexcept : __end(o.__end), __held(o.release()) <%%>
  ~unique_ptr() <% if (__held) __end(__held); %>
  unique_ptr &operator=(unique_ptr &&o) noexcept <% reset(o.release()); __end = o.__end; return *this; %>
  T &operator*() const <% return *__held; %>
  T *operator->() const noexcept <% return __held; %>
  T *get() const noexcept <% return __held; %>
  D &get_deleter() noexcept <% return __end; %>
  explicit operator bool() const noexcept <% return __held != nullptr; %>
  T *release() noexcept <% T *p = __held; __held = nullptr; return p; %>
  void reset(T *p = nullptr) noexcept <% T *old = __held; __held = p; if (old) __end(old); %>
%>;
template <class T, class D> class unique_ptr<T[], D> : private D <%
  T *__held;
public:
  typedef T *pointer;
  typedef T element_type;
  constexpr unique_ptr() noexcept : D(), __held(nullptr) <%%>
  constexpr unique_ptr(nullptr_t) noexcept : D(), __held(nullptr) <%%>
  explicit unique_ptr(T *p) noexcept : D(), __held(p) <%%>
  unique_ptr(unique_ptr &&o) noexcept : D(), __held(o.release()) <%%>
  unique_ptr(const unique_ptr &) = delete;
  ~unique_ptr() <% if (__held) get_deleter()(__held); %>
  unique_ptr &operator=(unique_ptr &&o) noexcept <% reset(o.release()); return *this; %>
  unique_ptr &operator=(nullptr_t) noexcept <% reset(); return *this; %>
  T &operator[](size_t i) const <% return __held[i]; %>
  T *get() const noexcept <% return __held; %>
  D &get_deleter() noexcept <% return *this; %>
  explicit operator bool() const noexcept <% return __held != nullptr; %>
  T *release() noexcept <% T *p = __held; __held = nullptr; return p; %>
  void reset(T *p = nullptr) noexcept <% T *old = __held; __held = p; if (old) get_deleter()(old); %>
  void swap(unique_ptr &o) noexcept <% std::swap(__held, o.__held); %>
%>;
template <class T, class... A> enable_if_t<!is_array<T>::value, unique_ptr<T>> make_unique(A &&...a) <% return unique_ptr<T>(new T(static_cast<A &&>(a)...)); %>
template <class T> enable_if_t<is_unbounded_array<T>::value, unique_ptr<T>> make_unique(size_t n) <% return unique_ptr<T>(new remove_extent_t<T>[n]()); %>
template <class T, class D, class U, class E> bool operator==(const unique_ptr<T, D> &a, const unique_ptr<U, E> &b) <% return a.get() == b.get(); %>
template <class T, class D, class U, class E> bool operator!=(const unique_ptr<T, D> &a, const unique_ptr<U, E> &b) <% return a.get() != b.get(); %>
template <class T, class D> bool operator==(const unique_ptr<T, D> &a, nullptr_t) noexcept <% return !a; %>
template <class T, class D> bool operator==(nullptr_t, const unique_ptr<T, D> &a) noexcept <% return !a; %>
template <class T, class D> bool operator!=(const unique_ptr<T, D> &a, nullptr_t) noexcept <% return bool(a); %>
template <class T, class D> bool operator!=(nullptr_t, const unique_ptr<T, D> &a) noexcept <% return bool(a); %>
template <class T, class D> bool operator<(const unique_ptr<T, D> &a, const unique_ptr<T, D> &b) <% return a.get() < b.get(); %>
template <class T, class D> void swap(unique_ptr<T, D> &a, unique_ptr<T, D> &b) noexcept <% a.swap(b); %>
struct __count <%
  long strong, weak;
  __count() : strong(1), weak(1) <%%>
  virtual void __dispose() = 0;
  virtual ~__count() <%%>
  void __release() <% if (--strong == 0) <% __dispose(); __releaseWeak(); %> %>
  void __releaseWeak() <% if (--weak == 0) delete this; %>
%>;
template <class T> struct __countPointer : __count <% T *p; __countPointer(T *q) : p(q) <%%> void __dispose() override <% delete p; %> %>;
template <class T> struct __countArray : __count <% T *p; __countArray(T *q) : p(q) <%%> void __dispose() override <% delete[] p; %> %>;
template <class T, class D> struct __countDeleter : __count <% T *p; D d; __countDeleter(T *q, D e) : p(q), d(e) <%%> void __dispose() override <% d(p); %> %>;
template <class T> struct __countInside : __count <%
  alignas(T) unsigned char room[sizeof(T)];
  T *__place() <% return reinterpret_cast<T *>(room); %>
  void __dispose() override <% __place()->~T(); %>
%>;
class bad_weak_ptr : public exception <% public: const char *what() const noexcept override <% return \"bad_weak_ptr\"; %> %>;
template <class T> class shared_ptr;
template <class T> class weak_ptr;
template <class T> class enable_shared_from_this;
template <class T> enable_shared_from_this<T> *__sharing(const volatile enable_shared_from_this<T> *p) <% return const_cast<enable_shared_from_this<T> *>(p); %>
template <class T> class shared_ptr <%
public:
  typedef remove_extent_t<T> element_type;
  typedef weak_ptr<T> weak_type;
  element_type *__held;
  __count *__counted;
  template <class U> void __enable(U *p) <% if constexpr (__shares<U>(0)) <% if (p) p->__assign(*this, p); %> %>
  template <class U> static constexpr bool __shares(int, typename U::__sharing_type * = nullptr) <% return true; %>
  template <class U> static constexpr bool __shares(long) <% return false; %>
  constexpr shared_ptr() noexcept : __held(nullptr), __counted(nullptr) <%%>
  constexpr shared_ptr(nullptr_t) noexcept : __held(nullptr), __counted(nullptr) <%%>
  template <class U, class = enable_if_t<is_convertible<U *, element_type *>::value>> explicit shared_ptr(U *p) : __held(p) <%
    if constexpr (is_array<T>::value) __counted = new __countArray<U>(p); else <% __counted = new __countPointer<U>(p); __enable(p); %>
  %>
  template <class U, class D> shared_ptr(U *p, D d) : __held(p), __counted(new __countDeleter<U, D>(p, d)) <%%>
  shared_ptr(element_type *p, __count *c) noexcept : __held(p), __counted(c) <%%>
  template <class U> shared_ptr(const shared_ptr<U> &o, element_type *p) noexcept : __held(p), __counted(o.__counted) <% if (__counted) ++__counted->strong; %>
  shared_ptr(const shared_ptr &o) noexcept : __held(o.__held), __counted(o.__counted) <% if (__counted) ++__counted->strong; %>
  shared_ptr(shared_ptr &&o) noexcept : __held(o.__held), __counted(o.__counted) <% o.__held = nullptr; o.__counted = nullptr; %>
  template <class U, class = enable_if_t<is_convertible<U *, T *>::value>> shared_ptr(const shared_ptr<U> &o) noexcept : __held(o.__held), __counted(o.__counted) <% if (__counted) ++__counted->strong; %>
  template <class U, class = enable_if_t<is_convertible<U *, T *>::value>> shared_ptr(shared_ptr<U> &&o) noexcept : __held(o.__held), __counted(o.__counted) <% o.__held = nullptr; o.__counted = nullptr; %>
  template <class U> explicit shared_ptr(const weak_ptr<U> &o);
  template <class U, class D> shared_ptr(unique_ptr<U, D> &&o) : __held(o.get()), __counted(o.get() ? new __countDeleter<U, D>(o.get(), o.get_deleter()) : nullptr) <% o.release(); %>
  ~shared_ptr() <% if (__counted) __counted->__release(); %>
  shared_ptr &operator=(const shared_ptr &o) noexcept <% shared_ptr(o).swap(*this); return *this; %>
  shared_ptr &operator=(shared_ptr &&o) noexcept <% shared_ptr(static_cast<shared_ptr &&>(o)).swap(*this); return *this; %>
  template <class U> shared_ptr &operator=(const shared_ptr<U> &o) noexcept <% shared_ptr(o).swap(*this); return *this; %>
  template <class U, class D> shared_ptr &operator=(unique_ptr<U, D> &&o) <% shared_ptr(static_cast<unique_ptr<U, D> &&>(o)).swap(*this); return *this; %>
  shared_ptr &operator=(nullptr_t) noexcept <% reset(); return *this; %>
  void swap(shared_ptr &o) noexcept <% std::swap(__held, o.__held); std::swap(__counted, o.__counted); %>
  void reset() noexcept <% shared_ptr().swap(*this); %>
  template <class U> void reset(U *p) <% shared_ptr(p).swap(*this); %>
  element_type *get() const noexcept <% return __held; %>
  element_type &operator*() const noexcept <% return *__held; %>
  element_type *operator->() const noexcept <% return __held; %>
  element_type &operator[](ptrdiff_t i) const <% return __held[i]; %>
  long use_count() const noexcept <% return __counted ? __counted->strong : 0; %>
  bool unique() const noexcept <% return use_count() == 1; %>
  explicit operator bool() const noexcept <% return __held != nullptr; %>
%>;
template <class T> class weak_ptr <%
public:
  T *__held;
  __count *__counted;
  constexpr weak_ptr() noexcept : __held(nullptr), __counted(nullptr) <%%>
  weak_ptr(const weak_ptr &o) noexcept : __held(o.__held), __counted(o.__counted) <% if (__counted) ++__counted->weak; %>
  weak_ptr(weak_ptr &&o) noexcept : __held(o.__held), __counted(o.__counted) <% o.__held = nullptr; o.__counted = nullptr; %>
  template <class U> weak_ptr(const weak_ptr<U> &o) noexcept : __held(o.__held), __counted(o.__counted) <% if (__counted) ++__counted->weak; %>
  template <class U> weak_ptr(const shared_ptr<U> &o) noexcept : __held(o.__held), __counted(o.__counted) <% if (__counted) ++__counted->weak; %>
  ~weak_ptr() <% if (__counted) __counted->__releaseWeak(); %>
  weak_ptr &operator=(const weak_ptr &o) noexcept <% weak_ptr(o).swap(*this); return *this; %>
  weak_ptr &operator=(weak_ptr &&o) noexcept <% weak_ptr(static_cast<weak_ptr &&>(o)).swap(*this); return *this; %>
  template <class U> weak_ptr &operator=(const shared_ptr<U> &o) noexcept <% weak_ptr(o).swap(*this); return *this; %>
  void swap(weak_ptr &o) noexcept <% std::swap(__held, o.__held); std::swap(__counted, o.__counted); %>
  void reset() noexcept <% weak_ptr().swap(*this); %>
  long use_count() const noexcept <% return __counted ? __counted->strong : 0; %>
  bool expired() const noexcept <% return use_count() == 0; %>
  shared_ptr<T> lock() const noexcept <% if (expired()) return shared_ptr<T>(); ++__counted->strong; return shared_ptr<T>(__held, __counted); %>
%>;
template <class T> template <class U> shared_ptr<T>::shared_ptr(const weak_ptr<U> &o) : __held(o.__held), __counted(o.__counted) <% if (o.expired()) throw bad_weak_ptr(); ++__counted->strong; %>
template <class T> class enable_shared_from_this <%
  mutable weak_ptr<T> __self;
protected:
  enable_shared_from_this() noexcept <%%>
  enable_shared_from_this(const enable_shared_from_this &) noexcept <%%>
  enable_shared_from_this &operator=(const enable_shared_from_this &) noexcept <% return *this; %>
public:
  typedef T __sharing_type;
  template <class U, class V> void __assign(const shared_ptr<U> &s, V *p) const <% __self = shared_ptr<T>(s, p); %>
  shared_ptr<T> shared_from_this() <% return shared_ptr<T>(__self); %>
  shared_ptr<const T> shared_from_this() const <% return shared_ptr<const T>(shared_ptr<T>(__self)); %>
  weak_ptr<T> weak_from_this() noexcept <% return __self; %>
%>;
template <class T, class... A> enable_if_t<!is_array<T>::value, shared_ptr<T>> make_shared(A &&...a) <%
  auto *c = new __countInside<T>();
  T *p = ::new ((void *)c->room) T(static_cast<A &&>(a)...);
  shared_ptr<T> s(p, static_cast<__count *>(c));
  s.__enable(p);
  return s;
%>
template <class T> shared_ptr(weak_ptr<T>) -> shared_ptr<T>;
template <class T, class U> shared_ptr<T> static_pointer_cast(const shared_ptr<U> &o) noexcept <% return shared_ptr<T>(o, static_cast<T *>(o.get())); %>
template <class T, class U> shared_ptr<T> const_pointer_cast(const shared_ptr<U> &o) noexcept <% return shared_ptr<T>(o, const_cast<T *>(o.get())); %>
template <class T, class U> shared_ptr<T> dynamic_pointer_cast(const shared_ptr<U> &o) noexcept <% T *p = dynamic_cast<T *>(o.get()); return p ? shared_ptr<T>(o, p) : shared_ptr<T>(); %>
template <class T, class U> bool operator==(const shared_ptr<T> &a, const shared_ptr<U> &b) noexcept <% return a.get() == b.get(); %>
template <class T, class U> bool operator!=(const shared_ptr<T> &a, const shared_ptr<U> &b) noexcept <% return a.get() != b.get(); %>
template <class T, class U> bool operator<(const shared_ptr<T> &a, const shared_ptr<U> &b) noexcept <% return a.get() < b.get(); %>
template <class T> bool operator==(const shared_ptr<T> &a, nullptr_t) noexcept <% return !a; %>
template <class T> bool operator==(nullptr_t, const shared_ptr<T> &a) noexcept <% return !a; %>
template <class T> bool operator!=(const shared_ptr<T> &a, nullptr_t) noexcept <% return bool(a); %>
template <class T> bool operator!=(nullptr_t, const shared_ptr<T> &a) noexcept <% return bool(a); %>
template <class T> void swap(shared_ptr<T> &a, shared_ptr<T> &b) noexcept <% a.swap(b); %>
template <class T> struct hash<shared_ptr<T>> <% size_t operator()(const shared_ptr<T> &p) const noexcept <% return (size_t)p.get(); %> %>;
template <class T, class D> struct hash<unique_ptr<T, D>> <% size_t operator()(const unique_ptr<T, D> &p) const noexcept <% return (size_t)p.get(); %> %>;
template <class T> struct owner_less;
%>
"),

  ("__memory", "#pragma once
#include <__allocator>
#include <__algorithm>
namespace std <%
template <class T> inline void __destroy(T *a, T *b) <% if (!__has_trivial_destructor(T)) for (; a != b; ++a) a->~T(); %>
template <class T, class... A> inline void __make(T *p, A &&...a) <% ::new ((void *)p) T(static_cast<A &&>(a)...); %>
template <class T> constexpr void destroy_at(T *p) <% p->~T(); %>
template <class I> void destroy(I a, I b) <% typedef typename iterator_traits<I>::value_type T; for (; a != b; ++a) (&*a)->~T(); %>
template <class I, class O> O uninitialized_copy(I a, I b, O o) <% typedef typename iterator_traits<O>::value_type T; for (; a != b; ++a, ++o) ::new ((void *)&*o) T(*a); return o; %>
template <class I, class O> O uninitialized_move(I a, I b, O o) <% typedef typename iterator_traits<O>::value_type T; for (; a != b; ++a, ++o) ::new ((void *)&*o) T(static_cast<T &&>(*a)); return o; %>
template <class I, class V> void uninitialized_fill(I a, I b, const V &v) <% typedef typename iterator_traits<I>::value_type T; for (; a != b; ++a) ::new ((void *)&*a) T(v); %>
template <class I, class V> I uninitialized_fill_n(I a, size_t n, const V &v) <% typedef typename iterator_traits<I>::value_type T; for (; n; ++a, --n) ::new ((void *)&*a) T(v); return a; %>
template <class T, class... A> constexpr T *construct_at(T *p, A &&...a) <% return ::new ((void *)p) T(static_cast<A &&>(a)...); %>
%>
"),

  ("__allocator", "#pragma once
#include <new>
#include <utility>
namespace std <%
template <class T> class allocator <%
public:
  typedef T value_type;
  typedef T *pointer;
  typedef const T *const_pointer;
  typedef T &reference;
  typedef const T &const_reference;
  typedef size_t size_type;
  typedef ptrdiff_t difference_type;
  template <class U> struct rebind <% typedef allocator<U> other; %>;
  allocator() noexcept <%%>
  allocator(const allocator &) noexcept <%%>
  template <class U> allocator(const allocator<U> &) noexcept <%%>
  T *allocate(size_t n, const void * = 0) <% return static_cast<T *>(::operator new(n * sizeof(T))); %>
  void deallocate(T *p, size_t) <% ::operator delete(p); %>
  template <class U, class... A> void construct(U *p, A &&...a) <% ::new ((void *)p) U(static_cast<A &&>(a)...); %>
  template <class U> void destroy(U *p) <% p->~U(); %>
  size_t max_size() const noexcept <% return size_t(0x7fffffffffffffff) / sizeof(T); %>
%>;
template <class T, class U> bool operator==(const allocator<T> &, const allocator<U> &) noexcept <% return true; %>
template <class T, class U> bool operator!=(const allocator<T> &, const allocator<U> &) noexcept <% return false; %>
template <class A> struct allocator_traits <%
  typedef A allocator_type;
  typedef typename A::value_type value_type;
  typedef value_type *pointer;
  typedef const value_type *const_pointer;
  typedef size_t size_type;
  typedef ptrdiff_t difference_type;
  static pointer allocate(A &a, size_t n) <% return a.allocate(n); %>
  static void deallocate(A &a, pointer p, size_t n) <% a.deallocate(p, n); %>
  template <class U, class... V> static void construct(A &, U *p, V &&...v) <% ::new ((void *)p) U(static_cast<V &&>(v)...); %>
  template <class U> static void destroy(A &, U *p) <% p->~U(); %>
%>;
struct allocator_arg_t <% explicit allocator_arg_t() = default; %>;
%>
"),

  ("__hash", "#pragma once
#include <cstddef>
#include <type_traits>
namespace std <%
inline size_t __hash_bytes(const void *p, size_t n, size_t seed = 0xc70f6907UL) <%
  const size_t mul = 0xc6a4a7935bd1e995UL;
  const unsigned char *s = (const unsigned char *)p;
  size_t h = seed ^ (n * mul);
  size_t whole = n & ~size_t(7);
  for (size_t i = 0; i < whole; i += 8) <%
    size_t d;
    __builtin_memcpy(&d, s + i, 8);
    d *= mul; d ^= d >> 47; d *= mul;
    h ^= d; h *= mul;
  %>
  if (n & 7) <%
    size_t d = 0;
    for (int k = int(n & 7) - 1; k >= 0; --k) d = (d << 8) + s[whole + k];
    h ^= d; h *= mul;
  %>
  h ^= h >> 47; h *= mul; h ^= h >> 47;
  return h;
%>
template <class T, bool E = is_enum<T>::value> struct hash;
template <class T> struct hash<T, true> <% size_t operator()(T v) const noexcept <% return size_t(v); %> %>;
template <class T> struct hash<T *, false> <% size_t operator()(T *p) const noexcept <% return reinterpret_cast<size_t>(p); %> %>;
template <> struct hash<bool, false> <% size_t operator()(bool v) const noexcept <% return v; %> %>;
template <> struct hash<char, false> <% size_t operator()(char v) const noexcept <% return size_t(v); %> %>;
template <> struct hash<signed char, false> <% size_t operator()(signed char v) const noexcept <% return size_t(v); %> %>;
template <> struct hash<unsigned char, false> <% size_t operator()(unsigned char v) const noexcept <% return v; %> %>;
template <> struct hash<wchar_t, false> <% size_t operator()(wchar_t v) const noexcept <% return size_t(v); %> %>;
template <> struct hash<char16_t, false> <% size_t operator()(char16_t v) const noexcept <% return v; %> %>;
template <> struct hash<char32_t, false> <% size_t operator()(char32_t v) const noexcept <% return v; %> %>;
template <> struct hash<short, false> <% size_t operator()(short v) const noexcept <% return size_t(v); %> %>;
template <> struct hash<unsigned short, false> <% size_t operator()(unsigned short v) const noexcept <% return v; %> %>;
template <> struct hash<int, false> <% size_t operator()(int v) const noexcept <% return size_t(v); %> %>;
template <> struct hash<unsigned, false> <% size_t operator()(unsigned v) const noexcept <% return v; %> %>;
template <> struct hash<long, false> <% size_t operator()(long v) const noexcept <% return size_t(v); %> %>;
template <> struct hash<unsigned long, false> <% size_t operator()(unsigned long v) const noexcept <% return v; %> %>;
template <> struct hash<long long, false> <% size_t operator()(long long v) const noexcept <% return size_t(v); %> %>;
template <> struct hash<unsigned long long, false> <% size_t operator()(unsigned long long v) const noexcept <% return v; %> %>;
template <> struct hash<float, false> <% size_t operator()(float v) const noexcept <% return v != 0.0f ? __hash_bytes(&v, sizeof v) : 0; %> %>;
template <> struct hash<double, false> <% size_t operator()(double v) const noexcept <% return v != 0.0 ? __hash_bytes(&v, sizeof v) : 0; %> %>;
template <> struct hash<nullptr_t, false> <% size_t operator()(nullptr_t) const noexcept <% return 0; %> %>;
%>
"),

  ("optional", "#pragma once
#include <utility>
#include <new>
#include <exception>
#include <__hash>
#if __cplusplus >= 201703L
namespace std <%
struct nullopt_t <% explicit constexpr nullopt_t(int) <%%> %>;
inline constexpr nullopt_t nullopt<%0%>;
class bad_optional_access : public exception <% public: const char *what() const noexcept override <% return \"bad optional access\"; %> %>;
template <class T> class optional <%
  union __room <% char none; T value; constexpr __room() : none(0) <%%> ~__room() <%%> %>;
  __room __held;
  bool __set;
  template <class... A> void __put(A &&...a) <% ::new ((void *)__builtin_addressof(__held.value)) T(static_cast<A &&>(a)...); __set = true; %>
public:
  typedef T value_type;
  constexpr optional() noexcept : __set(false) <%%>
  constexpr optional(nullopt_t) noexcept : __set(false) <%%>
  optional(const optional &o) : __set(false) <% if (o.__set) __put(o.__held.value); %>
  optional(optional &&o) : __set(false) <% if (o.__set) __put(static_cast<T &&>(o.__held.value)); %>
  template <class... A> explicit constexpr optional(in_place_t, A &&...a) : __set(false) <% __put(static_cast<A &&>(a)...); %>
  template <class U = T, class = enable_if_t<!is_same<decay_t<U>, optional>::value && !is_same<decay_t<U>, in_place_t>::value && is_constructible<T, U &&>::value>> constexpr optional(U &&u) : __set(false) <% __put(static_cast<U &&>(u)); %>
  template <class U, class = enable_if_t<!is_same<U, T>::value>> optional(const optional<U> &o) : __set(false) <% if (o) __put(*o); %>
  ~optional() <% reset(); %>
  optional &operator=(nullopt_t) noexcept <% reset(); return *this; %>
  optional &operator=(const optional &o) <% if (this != &o) <% if (!o.__set) reset(); else if (__set) __held.value = o.__held.value; else __put(o.__held.value); %> return *this; %>
  optional &operator=(optional &&o) <% if (this != &o) <% if (!o.__set) reset(); else if (__set) __held.value = static_cast<T &&>(o.__held.value); else __put(static_cast<T &&>(o.__held.value)); %> return *this; %>
  template <class U = T, class = enable_if_t<!is_same<decay_t<U>, optional>::value && is_constructible<T, U &&>::value>> optional &operator=(U &&u) <% if (__set) __held.value = static_cast<U &&>(u); else __put(static_cast<U &&>(u)); return *this; %>
  template <class... A> T &emplace(A &&...a) <% reset(); __put(static_cast<A &&>(a)...); return __held.value; %>
  void reset() noexcept <% if (__set) <% __set = false; __held.value.~T(); %> %>
  void swap(optional &o) <% optional t(static_cast<optional &&>(*this)); *this = static_cast<optional &&>(o); o = static_cast<optional &&>(t); %>
  constexpr bool has_value() const noexcept <% return __set; %>
  constexpr explicit operator bool() const noexcept <% return __set; %>
  constexpr T *operator->() <% return __builtin_addressof(__held.value); %>
  constexpr const T *operator->() const <% return __builtin_addressof(__held.value); %>
  constexpr T &operator*() & <% return __held.value; %>
  constexpr const T &operator*() const & <% return __held.value; %>
  constexpr T &&operator*() && <% return static_cast<T &&>(__held.value); %>
  constexpr T &value() & <% if (!__set) throw bad_optional_access(); return __held.value; %>
  constexpr const T &value() const & <% if (!__set) throw bad_optional_access(); return __held.value; %>
  constexpr T &&value() && <% if (!__set) throw bad_optional_access(); return static_cast<T &&>(__held.value); %>
  template <class U> constexpr T value_or(U &&u) const & <% return __set ? __held.value : static_cast<T>(static_cast<U &&>(u)); %>
  template <class U> constexpr T value_or(U &&u) && <% return __set ? static_cast<T &&>(__held.value) : static_cast<T>(static_cast<U &&>(u)); %>
%>;
template <class T> optional(T) -> optional<T>;
template <class T, class U> constexpr bool operator==(const optional<T> &a, const optional<U> &b) <% return a.has_value() == b.has_value() && (!a || *a == *b); %>
template <class T, class U> constexpr bool operator!=(const optional<T> &a, const optional<U> &b) <% return !(a == b); %>
template <class T, class U> constexpr bool operator<(const optional<T> &a, const optional<U> &b) <% return b && (!a || *a < *b); %>
template <class T> constexpr bool operator==(const optional<T> &a, nullopt_t) noexcept <% return !a; %>
template <class T> constexpr bool operator==(nullopt_t, const optional<T> &a) noexcept <% return !a; %>
template <class T> constexpr bool operator!=(const optional<T> &a, nullopt_t) noexcept <% return bool(a); %>
template <class T> constexpr bool operator!=(nullopt_t, const optional<T> &a) noexcept <% return bool(a); %>
template <class T, class U, class = enable_if_t<!is_same<U, nullopt_t>::value>> constexpr bool operator==(const optional<T> &a, const U &u) <% return a && *a == u; %>
template <class T, class U, class = enable_if_t<!is_same<U, nullopt_t>::value>> constexpr bool operator==(const U &u, const optional<T> &a) <% return a && u == *a; %>
template <class T, class U, class = enable_if_t<!is_same<U, nullopt_t>::value>> constexpr bool operator!=(const optional<T> &a, const U &u) <% return !a || !(*a == u); %>
template <class T, class U, class = enable_if_t<!is_same<U, nullopt_t>::value>> constexpr bool operator<(const optional<T> &a, const U &u) <% return !a || *a < u; %>
template <class T, class U, class = enable_if_t<!is_same<U, nullopt_t>::value>> constexpr bool operator>(const optional<T> &a, const U &u) <% return a && u < *a; %>
template <class T> constexpr optional<decay_t<T>> make_optional(T &&t) <% return optional<decay_t<T>>(static_cast<T &&>(t)); %>
template <class T, class A, class... B> constexpr optional<T> make_optional(A &&a, B &&...b) <% return optional<T>(in_place, static_cast<A &&>(a), static_cast<B &&>(b)...); %>
template <class T> struct hash<optional<T>> <% size_t operator()(const optional<T> &o) const <% return o ? hash<T>()(*o) : size_t(-3333); %> %>;
%>
#endif
"),

  ("variant", "#pragma once
#include <utility>
#include <new>
#include <exception>
#include <__hash>
#if __cplusplus >= 201703L
namespace std <%
inline constexpr size_t variant_npos = size_t(-1);
struct monostate <%%>;
constexpr bool operator==(monostate, monostate) noexcept <% return true; %>
constexpr bool operator!=(monostate, monostate) noexcept <% return false; %>
constexpr bool operator<(monostate, monostate) noexcept <% return false; %>
class bad_variant_access : public exception <% const char *__why; public: bad_variant_access() : __why(\"bad variant access\") <%%> bad_variant_access(const char *w) : __why(w) <%%> const char *what() const noexcept override <% return __why; %> %>;
template <class... T> class variant;
template <class V> struct variant_size;
template <class... T> struct variant_size<variant<T...>> : integral_constant<size_t, sizeof...(T)> <%%>;
template <class V> inline constexpr size_t variant_size_v = variant_size<V>::value;
template <size_t I, class V> struct variant_alternative;
template <class H, class... R> struct variant_alternative<0, variant<H, R...>> <% typedef H type; %>;
template <size_t I, class H, class... R> struct variant_alternative<I, variant<H, R...>> : variant_alternative<I - 1, variant<R...>> <%%>;
template <size_t I, class V> using variant_alternative_t = typename variant_alternative<I, V>::type;
template <class W, class... T> struct __place_of;
template <class W> struct __place_of<W> <% static constexpr size_t value = 0, uses = 0; %>;
template <class W, class H, class... R> struct __place_of<W, H, R...> <% static constexpr size_t value = is_same<W, H>::value ? 0 : 1 + __place_of<W, R...>::value; static constexpr size_t uses = (is_same<W, H>::value ? 1 : 0) + __place_of<W, R...>::uses; %>;
template <size_t I, class... T> struct __choice_of <% int pick() const; %>;
template <size_t I> struct __choices <% void operator()() const; %>;
template <class A, class T> struct __narrows <% static constexpr bool value = is_arithmetic<A>::value && is_arithmetic<T>::value && !is_same<A, T>::value && ((is_same<T, bool>::value) || (is_floating_point<A>::value && is_integral<T>::value) || (is_floating_point<A>::value && sizeof(T) < sizeof(A)) || (is_integral<A>::value && is_integral<T>::value && (sizeof(T) < sizeof(A) || (is_signed<A>::value && is_unsigned<T>::value) || (sizeof(T) == sizeof(A) && is_unsigned<A>::value && is_signed<T>::value))) || (is_integral<A>::value && is_floating_point<T>::value)); %>;
template <size_t I, class A, class... T> struct __overloads <% static void __pick(); %>;
template <size_t I, class A, class H, class... R> struct __overloads<I, A, H, R...> : __overloads<I + 1, A, R...> <%
  using __overloads<I + 1, A, R...>::__pick;
  template <class U = A, class = enable_if_t<!__narrows<decay_t<U>, H>::value && !(is_same<H, bool>::value && !is_same<decay_t<U>, bool>::value)>> static integral_constant<size_t, I> __pick(H);
%>;
template <class A, class... T> constexpr size_t __chosen() <%
  if constexpr (__place_of<decay_t<A>, T...>::uses == 1) return __place_of<decay_t<A>, T...>::value;
  else return decltype(__overloads<0, A, T...>::__pick(declval<A>()))::value;
%>
template <size_t N, size_t... M> struct __largest <% static constexpr size_t value = N; %>;
template <size_t N, size_t K, size_t... M> struct __largest<N, K, M...> : __largest<(N > K ? N : K), M...> <%%>;
template <class... T> class variant <%
  alignas(__largest<1, alignof(T)...>::value) unsigned char __room[__largest<1, sizeof(T)...>::value];
  unsigned char __which;
  template <size_t I> typename variant_alternative<I, variant>::type *__as() const <% return (typename variant_alternative<I, variant>::type *)(void *)__room; %>
  template <size_t I> void __destroy() <% if constexpr (I < sizeof...(T)) <% if (__which == I) <% typedef typename variant_alternative<I, variant>::type U; __as<I>()->~U(); %> else __destroy<I + 1>(); %> %>
  template <size_t I> void __copy(const variant &o) <% if constexpr (I < sizeof...(T)) <% if (o.__which == I) <% typedef typename variant_alternative<I, variant>::type U; ::new ((void *)__room) U(*o.template __as<I>()); __which = I; %> else __copy<I + 1>(o); %> %>
  template <size_t I> void __move(variant &o) <% if constexpr (I < sizeof...(T)) <% if (o.__which == I) <% typedef typename variant_alternative<I, variant>::type U; ::new ((void *)__room) U(static_cast<U &&>(*o.template __as<I>())); __which = I; %> else __move<I + 1>(o); %> %>
  template <size_t I> static bool __equal(const variant &a, const variant &b) <% if constexpr (I < sizeof...(T)) <% if (a.__which == I) return *a.template __as<I>() == *b.template __as<I>(); return __equal<I + 1>(a, b); %> else return true; %>
  template <size_t I> static bool __less(const variant &a, const variant &b) <% if constexpr (I < sizeof...(T)) <% if (a.__which == I) return *a.template __as<I>() < *b.template __as<I>(); return __less<I + 1>(a, b); %> else return false; %>
  template <size_t I, class U> void __set(U &&u) <%
    if (__which == I) *__as<I>() = static_cast<U &&>(u);
    else <% __destroy<0>(); __which = 255; typedef typename variant_alternative<I, variant>::type V; ::new ((void *)__room) V(static_cast<U &&>(u)); __which = I; %>
  %>
public:
  variant() <% typedef typename variant_alternative<0, variant>::type U; ::new ((void *)__room) U(); __which = 0; %>
  variant(const variant &o) <% __which = 255; __copy<0>(o); %>
  variant(variant &&o) <% __which = 255; __move<0>(o); %>
  template <class U, class = enable_if_t<!is_same<decay_t<U>, variant>::value>, size_t I = __chosen<U, T...>()> variant(U &&u) <% typedef typename variant_alternative<I, variant>::type V; ::new ((void *)__room) V(static_cast<U &&>(u)); __which = I; %>
  template <class W, class... A> explicit variant(in_place_type_t<W>, A &&...a) <% ::new ((void *)__room) W(static_cast<A &&>(a)...); __which = __place_of<W, T...>::value; %>
  template <size_t I, class... A> explicit variant(in_place_index_t<I>, A &&...a) <% typedef typename variant_alternative<I, variant>::type U; ::new ((void *)__room) U(static_cast<A &&>(a)...); __which = I; %>
  ~variant() <% __destroy<0>(); %>
  variant &operator=(const variant &o) <% if (this != &o) <% __destroy<0>(); __which = 255; __copy<0>(o); %> return *this; %>
  variant &operator=(variant &&o) <% if (this != &o) <% __destroy<0>(); __which = 255; __move<0>(o); %> return *this; %>
  template <class U, class = enable_if_t<!is_same<decay_t<U>, variant>::value>, size_t I = __chosen<U, T...>()> variant &operator=(U &&u) <% __set<I>(static_cast<U &&>(u)); return *this; %>
  template <class W, class... A> W &emplace(A &&...a) <% __destroy<0>(); __which = 255; W *p = ::new ((void *)__room) W(static_cast<A &&>(a)...); __which = __place_of<W, T...>::value; return *p; %>
  template <size_t I, class... A> typename variant_alternative<I, variant>::type &emplace(A &&...a) <% typedef typename variant_alternative<I, variant>::type U; __destroy<0>(); __which = 255; U *p = ::new ((void *)__room) U(static_cast<A &&>(a)...); __which = I; return *p; %>
  constexpr size_t index() const noexcept <% return __which == 255 ? variant_npos : __which; %>
  constexpr bool valueless_by_exception() const noexcept <% return __which == 255; %>
  void swap(variant &o) <% variant t(static_cast<variant &&>(*this)); *this = static_cast<variant &&>(o); o = static_cast<variant &&>(t); %>
  void *__at() const <% return (void *)__room; %>
  bool operator==(const variant &o) const <% return __which == o.__which && __equal<0>(*this, o); %>
  bool operator!=(const variant &o) const <% return !(*this == o); %>
  bool operator<(const variant &o) const <% return __which != o.__which ? index() + 1 < o.index() + 1 : __less<0>(*this, o); %>
  bool operator>(const variant &o) const <% return o < *this; %>
  bool operator<=(const variant &o) const <% return !(o < *this); %>
  bool operator>=(const variant &o) const <% return !(*this < o); %>
%>;
inline void __notHeld(bool none) <% throw bad_variant_access(none ? \"std::get: variant is valueless\" : \"std::get: wrong index for variant\"); %>
template <class W, class... T> constexpr bool holds_alternative(const variant<T...> &v) noexcept <% return v.index() == __place_of<W, T...>::value; %>
template <size_t I, class... T> variant_alternative_t<I, variant<T...>> &get(variant<T...> &v) <% if (v.index() != I) __notHeld(v.valueless_by_exception()); return *static_cast<variant_alternative_t<I, variant<T...>> *>(v.__at()); %>
template <size_t I, class... T> const variant_alternative_t<I, variant<T...>> &get(const variant<T...> &v) <% if (v.index() != I) __notHeld(v.valueless_by_exception()); return *static_cast<variant_alternative_t<I, variant<T...>> *>(v.__at()); %>
template <size_t I, class... T> variant_alternative_t<I, variant<T...>> &&get(variant<T...> &&v) <% if (v.index() != I) __notHeld(v.valueless_by_exception()); return static_cast<variant_alternative_t<I, variant<T...>> &&>(*static_cast<variant_alternative_t<I, variant<T...>> *>(v.__at())); %>
template <class W, class... T> W &get(variant<T...> &v) <% if (v.index() != __place_of<W, T...>::value) __notHeld(v.valueless_by_exception()); return *static_cast<W *>(v.__at()); %>
template <class W, class... T> const W &get(const variant<T...> &v) <% if (v.index() != __place_of<W, T...>::value) __notHeld(v.valueless_by_exception()); return *static_cast<W *>(v.__at()); %>
template <class W, class... T> W &&get(variant<T...> &&v) <% if (v.index() != __place_of<W, T...>::value) __notHeld(v.valueless_by_exception()); return static_cast<W &&>(*static_cast<W *>(v.__at())); %>
template <class W, class... T> W *get_if(variant<T...> *v) noexcept <% return v && v->index() == __place_of<W, T...>::value ? static_cast<W *>(v->__at()) : nullptr; %>
template <class W, class... T> const W *get_if(const variant<T...> *v) noexcept <% return v && v->index() == __place_of<W, T...>::value ? static_cast<const W *>(v->__at()) : nullptr; %>
template <size_t I, class... T> variant_alternative_t<I, variant<T...>> *get_if(variant<T...> *v) noexcept <% return v && v->index() == I ? static_cast<variant_alternative_t<I, variant<T...>> *>(v->__at()) : nullptr; %>
template <size_t I, class... T> const variant_alternative_t<I, variant<T...>> *get_if(const variant<T...> *v) noexcept <% return v && v->index() == I ? static_cast<const variant_alternative_t<I, variant<T...>> *>(v->__at()) : nullptr; %>
template <size_t I, class F, class V> decltype(auto) __visitFrom(F &&f, V &&v) <%
  constexpr size_t n = variant_size<decay_t<V>>::value;
  if constexpr (I + 1 < n) <% if (v.index() != I) return __visitFrom<I + 1>(static_cast<F &&>(f), static_cast<V &&>(v)); %>
  return f(std::get<I>(static_cast<V &&>(v)));
%>
template <class F> constexpr decltype(auto) visit(F &&f) <% return f(); %>
template <class F, class V> decltype(auto) visit(F &&f, V &&v) <% if (v.valueless_by_exception()) throw bad_variant_access(\"std::visit: variant is valueless\"); return __visitFrom<0>(static_cast<F &&>(f), static_cast<V &&>(v)); %>
template <class F, class V, class W, class... R> decltype(auto) visit(F &&f, V &&v, W &&w, R &&...r) <%
  if (v.valueless_by_exception()) throw bad_variant_access(\"std::visit: variant is valueless\");
  auto outer = [&](auto &&x) -> decltype(auto) <% return std::visit([&](auto &&...y) -> decltype(auto) <% return f(static_cast<decltype(x) &&>(x), static_cast<decltype(y) &&>(y)...); %>, static_cast<W &&>(w), static_cast<R &&>(r)...); %>;
  return __visitFrom<0>(outer, static_cast<V &&>(v));
%>
template <class... T> void swap(variant<T...> &a, variant<T...> &b) <% a.swap(b); %>
template <> struct hash<monostate> <% size_t operator()(monostate) const noexcept <% return size_t(-7777); %> %>;
%>
#endif
"),

  ("any", "#pragma once
#include <utility>
#include <new>
#include <typeinfo>
#if __cplusplus >= 201703L
namespace std <%
class bad_any_cast : public bad_cast <% public: const char *what() const noexcept override <% return \"bad any_cast\"; %> %>;
struct __anything <% virtual ~__anything() <%%> virtual __anything *__clone() const = 0; virtual const type_info &__kind() const = 0; virtual void *__at() = 0; %>;
template <class T> struct __anythingOf : __anything <%
  T value;
  template <class... A> __anythingOf(A &&...a) : value(static_cast<A &&>(a)...) <%%>
  __anything *__clone() const override <% return new __anythingOf(value); %>
  const type_info &__kind() const override <% return typeid(T); %>
  void *__at() override <% return &value; %>
%>;
class any <%
  __anything *__held;
  void *__unused;
public:
  any() noexcept : __held(nullptr) <%%>
  any(const any &o) : __held(o.__held ? o.__held->__clone() : nullptr) <%%>
  any(any &&o) noexcept : __held(o.__held) <% o.__held = nullptr; %>
  template <class T, class = enable_if_t<!is_same<decay_t<T>, any>::value>> any(T &&t) : __held(new __anythingOf<decay_t<T>>(static_cast<T &&>(t))) <%%>
  ~any() <% delete __held; %>
  any &operator=(const any &o) <% if (this != &o) <% delete __held; __held = o.__held ? o.__held->__clone() : nullptr; %> return *this; %>
  any &operator=(any &&o) noexcept <% if (this != &o) <% delete __held; __held = o.__held; o.__held = nullptr; %> return *this; %>
  template <class T, class = enable_if_t<!is_same<decay_t<T>, any>::value>> any &operator=(T &&t) <% __anything *p = new __anythingOf<decay_t<T>>(static_cast<T &&>(t)); delete __held; __held = p; return *this; %>
  template <class T, class... A> decay_t<T> &emplace(A &&...a) <% auto *p = new __anythingOf<decay_t<T>>(static_cast<A &&>(a)...); delete __held; __held = p; return p->value; %>
  void reset() noexcept <% delete __held; __held = nullptr; %>
  void swap(any &o) noexcept <% std::swap(__held, o.__held); %>
  bool has_value() const noexcept <% return __held != nullptr; %>
  const type_info &type() const noexcept <% return __held ? __held->__kind() : typeid(void); %>
  void *__at(const type_info &t) const <% return __held && __held->__kind() == t ? __held->__at() : nullptr; %>
%>;
template <class T> T *any_cast(any *a) noexcept <% return a ? static_cast<T *>(a->__at(typeid(T))) : nullptr; %>
template <class T> const T *any_cast(const any *a) noexcept <% return a ? static_cast<const T *>(a->__at(typeid(T))) : nullptr; %>
template <class T> T any_cast(const any &a) <% typedef remove_cv_t<remove_reference_t<T>> U; U *p = static_cast<U *>(a.__at(typeid(U))); if (!p) throw bad_any_cast(); return static_cast<T>(*p); %>
template <class T> T any_cast(any &a) <% typedef remove_cv_t<remove_reference_t<T>> U; U *p = static_cast<U *>(a.__at(typeid(U))); if (!p) throw bad_any_cast(); return static_cast<T>(*p); %>
template <class T> T any_cast(any &&a) <% typedef remove_cv_t<remove_reference_t<T>> U; U *p = static_cast<U *>(a.__at(typeid(U))); if (!p) throw bad_any_cast(); return static_cast<T>(static_cast<U &&>(*p)); %>
template <class T, class... A> any make_any(A &&...a) <% any r; r.emplace<T>(static_cast<A &&>(a)...); return r; %>
inline void swap(any &a, any &b) noexcept <% a.swap(b); %>
%>
#endif
"),

  ("utility", "#pragma once
#include <initializer_list>
#include <type_traits>
namespace std <%
template <class T> constexpr T &&forward(typename remove_reference<T>::type &t) noexcept <% return static_cast<T &&>(t); %>
template <class T> constexpr T &&forward(typename remove_reference<T>::type &&t) noexcept <% return static_cast<T &&>(t); %>
template <class T> constexpr typename remove_reference<T>::type &&move(T &&t) noexcept <% return static_cast<typename remove_reference<T>::type &&>(t); %>
template <class T> constexpr typename conditional<!is_nothrow_move_constructible<T>::value && is_copy_constructible<T>::value, const T &, T &&>::type move_if_noexcept(T &t) noexcept <% return move(t); %>
template <class T> constexpr const T &as_const(T &t) noexcept <% return t; %>
template <class T> constexpr T *addressof(T &t) noexcept <% return __builtin_addressof(t); %>
template <class T> constexpr void swap(T &a, T &b) <% T t = static_cast<T &&>(a); a = static_cast<T &&>(b); b = static_cast<T &&>(t); %>
template <class T, size_t N> constexpr void swap(T (&a)[N], T (&b)[N]) <% for (size_t i = 0; i < N; ++i) swap(a[i], b[i]); %>
template <class T, class U = T> constexpr T exchange(T &t, U &&u) <% T old = static_cast<T &&>(t); t = static_cast<U &&>(u); return old; %>
struct piecewise_construct_t <% explicit piecewise_construct_t() = default; %>;
inline constexpr piecewise_construct_t piecewise_construct = piecewise_construct_t();
#if __cplusplus >= 201703L
struct in_place_t <% explicit in_place_t() = default; %>;
inline constexpr in_place_t in_place<%%>;
template <class T> struct in_place_type_t <% explicit in_place_type_t() = default; %>;
template <class T> inline constexpr in_place_type_t<T> in_place_type<%%>;
template <size_t I> struct in_place_index_t <% explicit in_place_index_t() = default; %>;
template <size_t I> inline constexpr in_place_index_t<I> in_place_index<%%>;
#endif
template <class T, T... I> struct integer_sequence <% typedef T value_type; static constexpr size_t size() noexcept <% return sizeof...(I); %> %>;
template <size_t... I> using index_sequence = integer_sequence<size_t, I...>;
template <class T, size_t N, T... I> struct __counted : __counted<T, N - 1, T(N - 1), I...> <%%>;
template <class T, T... I> struct __counted<T, 0, I...> <% typedef integer_sequence<T, I...> type; %>;
template <class T, T N> using make_integer_sequence = typename __counted<T, size_t(N)>::type;
template <size_t N> using make_index_sequence = typename __counted<size_t, N>::type;
template <class... T> using index_sequence_for = make_index_sequence<sizeof...(T)>;
template <class A, class B> struct pair <%
  typedef A first_type;
  typedef B second_type;
  A first;
  B second;
  constexpr pair() : first(), second() <%%>
  constexpr pair(const A &a, const B &b) : first(a), second(b) <%%>
  template <class U, class V, class = typename enable_if<is_constructible<A, U &&>::value && is_constructible<B, V &&>::value>::type>
  constexpr pair(U &&u, V &&v) : first(static_cast<U &&>(u)), second(static_cast<V &&>(v)) <%%>
  pair(const pair &) = default;
  pair(pair &&) = default;
  template <class U, class V> constexpr pair(const pair<U, V> &p) : first(p.first), second(p.second) <%%>
  template <class U, class V> constexpr pair(pair<U, V> &&p) : first(static_cast<U &&>(p.first)), second(static_cast<V &&>(p.second)) <%%>
  pair &operator=(const pair &p) <% first = p.first; second = p.second; return *this; %>
  pair &operator=(pair &&p) <% first = static_cast<A &&>(p.first); second = static_cast<B &&>(p.second); return *this; %>
  template <class U, class V> pair &operator=(const pair<U, V> &p) <% first = p.first; second = p.second; return *this; %>
  template <class U, class V> pair &operator=(pair<U, V> &&p) <% first = static_cast<U &&>(p.first); second = static_cast<V &&>(p.second); return *this; %>
  void swap(pair &p) <% std::swap(first, p.first); std::swap(second, p.second); %>
%>;
template <class A, class B> pair(A, B) -> pair<A, B>;
template <class A, class B> constexpr bool operator==(const pair<A, B> &x, const pair<A, B> &y) <% return x.first == y.first && x.second == y.second; %>
template <class A, class B> constexpr bool operator!=(const pair<A, B> &x, const pair<A, B> &y) <% return !(x == y); %>
template <class A, class B> constexpr bool operator<(const pair<A, B> &x, const pair<A, B> &y) <% return x.first < y.first || (!(y.first < x.first) && x.second < y.second); %>
template <class A, class B> constexpr bool operator>(const pair<A, B> &x, const pair<A, B> &y) <% return y < x; %>
template <class A, class B> constexpr bool operator<=(const pair<A, B> &x, const pair<A, B> &y) <% return !(y < x); %>
template <class A, class B> constexpr bool operator>=(const pair<A, B> &x, const pair<A, B> &y) <% return !(x < y); %>
template <class A, class B> void swap(pair<A, B> &x, pair<A, B> &y) <% x.swap(y); %>
template <class T> class reference_wrapper;
template <class T> struct __unwrapped <% typedef T type; %>;
template <class T> struct __unwrapped<reference_wrapper<T>> <% typedef T &type; %>;
template <class T> struct unwrap_ref_decay <% typedef typename __unwrapped<typename decay<T>::type>::type type; %>;
template <class A, class B> constexpr pair<typename unwrap_ref_decay<A>::type, typename unwrap_ref_decay<B>::type> make_pair(A &&a, B &&b) <%
  return pair<typename unwrap_ref_decay<A>::type, typename unwrap_ref_decay<B>::type>(static_cast<A &&>(a), static_cast<B &&>(b));
%>
template <class T> struct tuple_size;
template <class T> struct tuple_size<const T> : tuple_size<T> <%%>;
template <class A, class B> struct tuple_size<pair<A, B>> : integral_constant<size_t, 2> <%%>;
template <size_t I, class T> struct tuple_element;
template <size_t I, class T> struct tuple_element<I, const T> <% typedef const typename tuple_element<I, T>::type type; %>;
template <class A, class B> struct tuple_element<0, pair<A, B>> <% typedef A type; %>;
template <class A, class B> struct tuple_element<1, pair<A, B>> <% typedef B type; %>;
template <size_t I, class T> using tuple_element_t = typename tuple_element<I, T>::type;
template <class T> inline constexpr size_t tuple_size_v = tuple_size<T>::value;
template <size_t I> struct __pair_part;
template <> struct __pair_part<0> <% template <class P> static constexpr auto &of(P &p) <% return p.first; %> %>;
template <> struct __pair_part<1> <% template <class P> static constexpr auto &of(P &p) <% return p.second; %> %>;
template <size_t I, class A, class B> constexpr typename tuple_element<I, pair<A, B>>::type &get(pair<A, B> &p) noexcept <% return __pair_part<I>::of(p); %>
template <size_t I, class A, class B> constexpr const typename tuple_element<I, pair<A, B>>::type &get(const pair<A, B> &p) noexcept <% return __pair_part<I>::of(p); %>
template <size_t I, class A, class B> constexpr typename tuple_element<I, pair<A, B>>::type &&get(pair<A, B> &&p) noexcept <% return static_cast<typename tuple_element<I, pair<A, B>>::type &&>(__pair_part<I>::of(p)); %>
#if __cplusplus >= 202002L
template <class A, class B> constexpr bool cmp_equal(A a, B b) noexcept <% return a == b; %>
template <class A, class B> constexpr bool cmp_less(A a, B b) noexcept <% if (is_signed<A>::value && !is_signed<B>::value) return a < 0 || (typename make_unsigned<A>::type)a < b; if (!is_signed<A>::value && is_signed<B>::value) return b >= 0 && a < (typename make_unsigned<B>::type)b; return a < b; %>
#endif
%>
"),

  ("initializer_list", "#pragma once
#include <cstddef>
namespace std <%
template <class E> class initializer_list <%
  const E *__first;
  size_t __count;
public:
  typedef E value_type;
  typedef const E &reference;
  typedef const E &const_reference;
  typedef size_t size_type;
  typedef const E *iterator;
  typedef const E *const_iterator;
  constexpr initializer_list() noexcept : __first(nullptr), __count(0) <%%>
  constexpr size_t size() const noexcept <% return __count; %>
  constexpr const E *begin() const noexcept <% return __first; %>
  constexpr const E *end() const noexcept <% return __first + __count; %>
%>;
%>
"),

  ("new", "#pragma once
#include <cstddef>
#include <exception>
namespace std <%
class bad_alloc : public exception <% public: bad_alloc() noexcept <%%> const char *what() const noexcept override <% return \"std::bad_alloc\"; %> %>;
class bad_array_new_length : public bad_alloc <% public: const char *what() const noexcept override <% return \"std::bad_array_new_length\"; %> %>;
struct nothrow_t <% explicit nothrow_t() = default; %>;
inline constexpr nothrow_t nothrow<%%>;
enum class align_val_t : size_t <%%>;
typedef void (*new_handler)();
template <class T> constexpr T *launder(T *p) noexcept <% return p; %>
%>
void *operator new(std::size_t);
void *operator new[](std::size_t);
void operator delete(void *) noexcept;
void operator delete[](void *) noexcept;
void operator delete(void *, std::size_t) noexcept;
void operator delete[](void *, std::size_t) noexcept;
inline void *operator new(std::size_t n, const std::nothrow_t &) noexcept <% return __builtin_malloc(n ? n : 1); %>
inline void *operator new[](std::size_t n, const std::nothrow_t &) noexcept <% return __builtin_malloc(n ? n : 1); %>
inline void *operator new(std::size_t, void *p) noexcept <% return p; %>
inline void *operator new[](std::size_t, void *p) noexcept <% return p; %>
")]

end ModuleForge.Host.Native.Headers
