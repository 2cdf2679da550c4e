/-!
# Headers of containers

Sequences, trees and tables that own what they hold.
-/
namespace ModuleForge.Host.Native.Headers

/-- The headers by their names. -/
def containers : List (String × String) := [
  ("vector", "#pragma once
#include <__memory>
#include <stdexcept>
#include <__compare>
namespace std <%
template <class T, class A = allocator<T>> class vector <%
  T *__first;
  T *__last;
  T *__bound;
  static T *__take(size_t n) <% return n ? static_cast<T *>(::operator new(n * sizeof(T))) : nullptr; %>
  void __drop() <% __destroy(__first, __last); if (__first) ::operator delete(__first); %>
  size_t __more(size_t n, const char *what) const <%
    if (max_size() - size() < n) __throw_length_error(what);
    size_t m = size() + (size() > n ? size() : n);
    return m < size() || m > max_size() ? max_size() : m;
  %>
  static void __shift(T *a, T *b, T *to) <% for (; a != b; ++a, ++to) <% __make(to, static_cast<T &&>(*a)); a->~T(); %> %>
  void __resettle(size_t n) <%
    T *p = __take(n);
    size_t k = size();
    __shift(__first, __last, p);
    if (__first) ::operator delete(__first);
    __first = p;
    __last = p + k;
    __bound = p + n;
  %>
  T *__gap(size_t i, size_t n, const char *what) <%
    size_t k = size();
    if (n > size_t(__bound - __last)) <%
      size_t m = __more(n, what);
      T *p = __take(m);
      __shift(__first, __first + i, p);
      __shift(__first + i, __last, p + i + n);
      if (__first) ::operator delete(__first);
      __first = p;
      __bound = p + m;
    %> else
      for (size_t j = k; j > i; --j) <% __make(__first + j - 1 + n, static_cast<T &&>(__first[j - 1])); __first[j - 1].~T(); %>
    __last = __first + k + n;
    return __first + i;
  %>
public:
  typedef T value_type;
  typedef A allocator_type;
  typedef size_t size_type;
  typedef ptrdiff_t difference_type;
  typedef T &reference;
  typedef const T &const_reference;
  typedef T *pointer;
  typedef const T *const_pointer;
  typedef T *iterator;
  typedef const T *const_iterator;
  typedef std::reverse_iterator<iterator> reverse_iterator;
  typedef std::reverse_iterator<const_iterator> const_reverse_iterator;
  vector() noexcept : __first(nullptr), __last(nullptr), __bound(nullptr) <%%>
  explicit vector(const A &) noexcept : __first(nullptr), __last(nullptr), __bound(nullptr) <%%>
  explicit vector(size_t n, const A & = A()) : __first(nullptr), __last(nullptr), __bound(nullptr) <%
    if (n > max_size()) __throw_length_error(\"cannot create std::vector larger than max_size()\");
    __first = __take(n);
    __last = __bound = __first + n;
    for (T *p = __first; p != __last; ++p) __make(p);
  %>
  vector(size_t n, const T &v, const A & = A()) : __first(nullptr), __last(nullptr), __bound(nullptr) <%
    if (n > max_size()) __throw_length_error(\"cannot create std::vector larger than max_size()\");
    __first = __take(n);
    __last = __bound = __first + n;
    for (T *p = __first; p != __last; ++p) __make(p, v);
  %>
  template <class I, class = __needs_iterator<I>> vector(I a, I b, const A & = A()) : __first(nullptr), __last(nullptr), __bound(nullptr) <% __assign(a, b, typename iterator_traits<I>::iterator_category()); %>
  template <class I> void __assign(I a, I b, input_iterator_tag) <% for (; a != b; ++a) push_back(*a); %>
  template <class I> void __assign(I a, I b, forward_iterator_tag) <%
    size_t n = std::distance(a, b);
    __first = __take(n);
    __last = __bound = __first + n;
    for (T *p = __first; a != b; ++a, ++p) __make(p, *a);
  %>
  vector(const vector &v) : __first(nullptr), __last(nullptr), __bound(nullptr) <% __assign(v.begin(), v.end(), random_access_iterator_tag()); %>
  vector(vector &&v) noexcept : __first(v.__first), __last(v.__last), __bound(v.__bound) <% v.__first = v.__last = v.__bound = nullptr; %>
  vector(initializer_list<T> l, const A & = A()) : __first(nullptr), __last(nullptr), __bound(nullptr) <% __assign(l.begin(), l.end(), random_access_iterator_tag()); %>
  ~vector() <% __drop(); %>
  vector &operator=(const vector &v) <% if (this != &v) assign(v.begin(), v.end()); return *this; %>
  vector &operator=(vector &&v) noexcept <% if (this != &v) <% __drop(); __first = v.__first; __last = v.__last; __bound = v.__bound; v.__first = v.__last = v.__bound = nullptr; %> return *this; %>
  vector &operator=(initializer_list<T> l) <% assign(l.begin(), l.end()); return *this; %>
  template <class I, class = __needs_iterator<I>> void assign(I a, I b) <%
    size_t n = std::distance(a, b);
    if (n > capacity()) <% vector t(a, b); swap(t); return; %>
    T *p = __first;
    for (; p != __last && a != b; ++a, ++p) *p = *a;
    if (a == b) <% __destroy(p, __last); __last = p; %>
    else for (; a != b; ++a) <% __make(__last, *a); ++__last; %>
  %>
  void assign(size_t n, const T &v) <% if (n > capacity()) <% vector t(n, v); swap(t); return; %> T w(v); clear(); while (n--) <% __make(__last, w); ++__last; %> %>
  void assign(initializer_list<T> l) <% assign(l.begin(), l.end()); %>
  A get_allocator() const <% return A(); %>
  T &at(size_t i) <% __range(i); return __first[i]; %>
  const T &at(size_t i) const <% __range(i); return __first[i]; %>
  void __range(size_t i) const <% if (i >= size()) <% char t[128]; __builtin_snprintf(t, 128, \"vector::_M_range_check: __n (which is %zu) >= this->size() (which is %zu)\", i, size()); __throw_out_of_range(t); %> %>
  T &operator[](size_t i) noexcept <% return __first[i]; %>
  const T &operator[](size_t i) const noexcept <% return __first[i]; %>
  T &front() noexcept <% return *__first; %>
  const T &front() const noexcept <% return *__first; %>
  T &back() noexcept <% return __last[-1]; %>
  const T &back() const noexcept <% return __last[-1]; %>
  T *data() noexcept <% return __first; %>
  const T *data() const noexcept <% return __first; %>
  iterator begin() noexcept <% return __first; %>
  const_iterator begin() const noexcept <% return __first; %>
  iterator end() noexcept <% return __last; %>
  const_iterator end() const noexcept <% return __last; %>
  const_iterator cbegin() const noexcept <% return __first; %>
  const_iterator cend() const noexcept <% return __last; %>
  reverse_iterator rbegin() noexcept <% return reverse_iterator(__last); %>
  const_reverse_iterator rbegin() const noexcept <% return const_reverse_iterator(__last); %>
  reverse_iterator rend() noexcept <% return reverse_iterator(__first); %>
  const_reverse_iterator rend() const noexcept <% return const_reverse_iterator(__first); %>
  const_reverse_iterator crbegin() const noexcept <% return const_reverse_iterator(__last); %>
  const_reverse_iterator crend() const noexcept <% return const_reverse_iterator(__first); %>
  bool empty() const noexcept <% return __first == __last; %>
  size_t size() const noexcept <% return size_t(__last - __first); %>
  size_t max_size() const noexcept <% return size_t(0x7fffffffffffffff) / sizeof(T); %>
  size_t capacity() const noexcept <% return size_t(__bound - __first); %>
  void reserve(size_t n) <% if (n > max_size()) __throw_length_error(\"vector::reserve\"); if (n > capacity()) __resettle(n); %>
  void shrink_to_fit() <% if (capacity() > size()) __resettle(size()); %>
  void clear() noexcept <% __destroy(__first, __last); __last = __first; %>
  void push_back(const T &v) <% if (__last == __bound) <% T w(v); __gap(size(), 1, \"vector::_M_realloc_insert\"); __make(__last - 1, static_cast<T &&>(w)); %> else <% __make(__last, v); ++__last; %> %>
  void push_back(T &&v) <% emplace_back(static_cast<T &&>(v)); %>
  template <class... V> T &emplace_back(V &&...v) <%
    if (__last == __bound) <%
      size_t m = __more(1, \"vector::_M_realloc_insert\"), k = size();
      T *p = __take(m);
      __make(p + k, static_cast<V &&>(v)...);
      __shift(__first, __last, p);
      if (__first) ::operator delete(__first);
      __first = p;
      __last = p + k;
      __bound = p + m;
    %> else __make(__last, static_cast<V &&>(v)...);
    ++__last;
    return __last[-1];
  %>
  void pop_back() noexcept <% --__last; __last->~T(); %>
  iterator insert(const_iterator p, const T &v) <% T w(v); T *q = __gap(p - __first, 1, \"vector::_M_realloc_insert\"); __make(q, static_cast<T &&>(w)); return q; %>
  iterator insert(const_iterator p, T &&v) <% T w(static_cast<T &&>(v)); T *q = __gap(p - __first, 1, \"vector::_M_realloc_insert\"); __make(q, static_cast<T &&>(w)); return q; %>
  iterator insert(const_iterator p, size_t n, const T &v) <% T w(v); T *q = __gap(p - __first, n, \"vector::_M_fill_insert\"); for (size_t i = 0; i < n; ++i) __make(q + i, w); return q; %>
  template <class I, class = __needs_iterator<I>> iterator insert(const_iterator p, I a, I b) <% vector t(a, b); T *q = __gap(p - __first, t.size(), \"vector::_M_range_insert\"); for (size_t i = 0; i < t.size(); ++i) __make(q + i, static_cast<T &&>(t[i])); return q; %>
  iterator insert(const_iterator p, initializer_list<T> l) <% return insert(p, l.begin(), l.end()); %>
  template <class... V> iterator emplace(const_iterator p, V &&...v) <% T w(static_cast<V &&>(v)...); T *q = __gap(p - __first, 1, \"vector::_M_realloc_insert\"); __make(q, static_cast<T &&>(w)); return q; %>
  iterator erase(const_iterator p) <% return erase(p, p + 1); %>
  iterator erase(const_iterator a, const_iterator b) <%
    T *to = __first + (a - __first), *from = __first + (b - __first), *q = to;
    if (to != from) <% for (; from != __last; ++from, ++to) *to = static_cast<T &&>(*from); __destroy(to, __last); __last = to; %>
    return q;
  %>
  void resize(size_t n) <% if (n < size()) <% __destroy(__first + n, __last); __last = __first + n; %> else <% size_t k = size(); if (n > capacity()) __resettle(__more(n - k, \"vector::_M_default_append\")); for (; k < n; ++k) <% __make(__last); ++__last; %> %> %>
  void resize(size_t n, const T &v) <% if (n < size()) <% __destroy(__first + n, __last); __last = __first + n; %> else if (n > size()) insert(end(), n - size(), v); %>
  void swap(vector &v) noexcept <% std::swap(__first, v.__first); std::swap(__last, v.__last); std::swap(__bound, v.__bound); %>
%>;
template <class A> class vector<bool, A> <%
  vector<unsigned char> __bits;
public:
  typedef bool value_type;
  typedef size_t size_type;
  typedef ptrdiff_t difference_type;
  typedef bool &reference;
  typedef bool const_reference;
  typedef bool *iterator;
  typedef const bool *const_iterator;
  vector() <%%>
  explicit vector(size_t n, bool v = false) : __bits(n, (unsigned char)v) <%%>
  vector(initializer_list<bool> l) <% for (bool b : l) push_back(b); %>
  template <class I, class = __needs_iterator<I>> vector(I a, I b) <% for (; a != b; ++a) push_back(*a); %>
  bool &operator[](size_t i) <% return *(bool *)&__bits[i]; %>
  bool operator[](size_t i) const <% return __bits[i]; %>
  bool &at(size_t i) <% return *(bool *)&__bits.at(i); %>
  bool at(size_t i) const <% return __bits.at(i); %>
  bool &front() <% return (*this)[0]; %>
  bool &back() <% return (*this)[size() - 1]; %>
  bool *begin() <% return (bool *)__bits.data(); %>
  bool *end() <% return begin() + size(); %>
  const bool *begin() const <% return (const bool *)__bits.data(); %>
  const bool *end() const <% return begin() + size(); %>
  size_t size() const <% return __bits.size(); %>
  size_t capacity() const <% return (__bits.capacity() + 63) / 64 * 64; %>
  bool empty() const <% return __bits.empty(); %>
  void push_back(bool b) <% __bits.push_back(b); %>
  template <class V> void emplace_back(V v) <% __bits.push_back(bool(v)); %>
  void pop_back() <% __bits.pop_back(); %>
  void clear() <% __bits.clear(); %>
  void reserve(size_t n) <% __bits.reserve(n); %>
  void resize(size_t n, bool v = false) <% __bits.resize(n, (unsigned char)v); %>
  void assign(size_t n, bool v) <% __bits.assign(n, (unsigned char)v); %>
  void flip() <% for (unsigned char &b : __bits) b = !b; %>
  bool *insert(const bool *p, bool v) <% return (bool *)__bits.insert((const unsigned char *)p, (unsigned char)v); %>
  bool *erase(const bool *p) <% return (bool *)__bits.erase((const unsigned char *)p); %>
  void swap(vector &v) <% __bits.swap(v.__bits); %>
  friend bool operator==(const vector &a, const vector &b) <% return a.__bits == b.__bits; %>
  friend bool operator!=(const vector &a, const vector &b) <% return !(a == b); %>
%>;
template <class I> vector(I, I) -> vector<typename iterator_traits<I>::value_type>;
template <class T> vector(initializer_list<T>) -> vector<T>;
template <class T> vector(size_t, T) -> vector<T>;
template <class T, class A> bool operator==(const vector<T, A> &a, const vector<T, A> &b) <% return a.size() == b.size() && __same(a.begin(), a.end(), b.begin()); %>
template <class T, class A> bool operator!=(const vector<T, A> &a, const vector<T, A> &b) <% return !(a == b); %>
template <class T, class A> bool operator<(const vector<T, A> &a, const vector<T, A> &b) <% return __before(a.begin(), a.end(), b.begin(), b.end()); %>
template <class T, class A> bool operator>(const vector<T, A> &a, const vector<T, A> &b) <% return b < a; %>
template <class T, class A> bool operator<=(const vector<T, A> &a, const vector<T, A> &b) <% return !(b < a); %>
template <class T, class A> bool operator>=(const vector<T, A> &a, const vector<T, A> &b) <% return !(a < b); %>
template <class T, class A> void swap(vector<T, A> &a, vector<T, A> &b) noexcept <% a.swap(b); %>
#if __cplusplus >= 202002L
template <class T, class A, class V> size_t erase(vector<T, A> &c, const V &v) <% size_t k = 0, n = c.size(); for (size_t i = 0; i < n; ++i) if (!(c[i] == v)) <% if (k != i) c[k] = static_cast<T &&>(c[i]); ++k; %> c.erase(c.begin() + k, c.end()); return n - k; %>
template <class T, class A, class P> size_t erase_if(vector<T, A> &c, P p) <% size_t k = 0, n = c.size(); for (size_t i = 0; i < n; ++i) if (!p(c[i])) <% if (k != i) c[k] = static_cast<T &&>(c[i]); ++k; %> c.erase(c.begin() + k, c.end()); return n - k; %>
#endif
%>
"),

  ("array", "#pragma once
#include <__iterator>
#include <__compare>
#include <stdexcept>
namespace std <%
template <class T, size_t N> struct array <%
  typedef T value_type;
  typedef T &reference;
  typedef const T &const_reference;
  typedef T *iterator;
  typedef const T *const_iterator;
  typedef T *pointer;
  typedef const T *const_pointer;
  typedef size_t size_type;
  typedef ptrdiff_t difference_type;
  typedef std::reverse_iterator<iterator> reverse_iterator;
  typedef std::reverse_iterator<const_iterator> const_reverse_iterator;
  T __items[N ? N : 1];
  void fill(const T &v) <% for (size_t i = 0; i < N; ++i) __items[i] = v; %>
  void swap(array &o) <% for (size_t i = 0; i < N; ++i) std::swap(__items[i], o.__items[i]); %>
  constexpr iterator begin() noexcept <% return __items; %>
  constexpr const_iterator begin() const noexcept <% return __items; %>
  constexpr iterator end() noexcept <% return __items + N; %>
  constexpr const_iterator end() const noexcept <% return __items + N; %>
  constexpr const_iterator cbegin() const noexcept <% return __items; %>
  constexpr const_iterator cend() const noexcept <% return __items + N; %>
  reverse_iterator rbegin() noexcept <% return reverse_iterator(end()); %>
  const_reverse_iterator rbegin() const noexcept <% return const_reverse_iterator(end()); %>
  reverse_iterator rend() noexcept <% return reverse_iterator(begin()); %>
  const_reverse_iterator rend() const noexcept <% return const_reverse_iterator(begin()); %>
  constexpr size_t size() const noexcept <% return N; %>
  constexpr size_t max_size() const noexcept <% return N; %>
  constexpr bool empty() const noexcept <% return N == 0; %>
  constexpr T &operator[](size_t i) noexcept <% return __items[i]; %>
  constexpr const T &operator[](size_t i) const noexcept <% return __items[i]; %>
  constexpr T &at(size_t i) <% if (i >= N) __bad(i); return __items[i]; %>
  constexpr const T &at(size_t i) const <% if (i >= N) __bad(i); return __items[i]; %>
  static void __bad(size_t i) <% char t[128]; __builtin_snprintf(t, 128, \"array::at: __n (which is %zu) >= _Nm (which is %zu)\", i, N); __throw_out_of_range(t); %>
  constexpr T &front() noexcept <% return __items[0]; %>
  constexpr const T &front() const noexcept <% return __items[0]; %>
  constexpr T &back() noexcept <% return __items[N - 1]; %>
  constexpr const T &back() const noexcept <% return __items[N - 1]; %>
  constexpr T *data() noexcept <% return __items; %>
  constexpr const T *data() const noexcept <% return __items; %>
%>;
template <class T, class... U> array(T, U...) -> array<T, 1 + sizeof...(U)>;
template <class T, size_t N> constexpr bool operator==(const array<T, N> &a, const array<T, N> &b) <% return __same(a.begin(), a.end(), b.begin()); %>
template <class T, size_t N> constexpr bool operator!=(const array<T, N> &a, const array<T, N> &b) <% return !(a == b); %>
template <class T, size_t N> constexpr bool operator<(const array<T, N> &a, const array<T, N> &b) <% return __before(a.begin(), a.end(), b.begin(), b.end()); %>
template <class T, size_t N> constexpr bool operator>(const array<T, N> &a, const array<T, N> &b) <% return b < a; %>
template <class T, size_t N> constexpr bool operator<=(const array<T, N> &a, const array<T, N> &b) <% return !(b < a); %>
template <class T, size_t N> constexpr bool operator>=(const array<T, N> &a, const array<T, N> &b) <% return !(a < b); %>
template <class T, size_t N> void swap(array<T, N> &a, array<T, N> &b) <% a.swap(b); %>
template <class T, size_t N> struct tuple_size<array<T, N>> : integral_constant<size_t, N> <%%>;
template <size_t I, class T, size_t N> struct tuple_element<I, array<T, N>> <% typedef T type; %>;
template <size_t I, class T, size_t N> constexpr T &get(array<T, N> &a) noexcept <% return a.__items[I]; %>
template <size_t I, class T, size_t N> constexpr const T &get(const array<T, N> &a) noexcept <% return a.__items[I]; %>
template <size_t I, class T, size_t N> constexpr T &&get(array<T, N> &&a) noexcept <% return static_cast<T &&>(a.__items[I]); %>
%>
"),

  ("list", "#pragma once
#include <__memory>
#include <__compare>
#include <initializer_list>
namespace std <%
struct __ring <% __ring *next, *before; %>;
template <class T> struct __ringNode : __ring <% T value; template <class... A> __ringNode(A &&...a) : value(static_cast<A &&>(a)...) <%%> %>;
template <class V> struct __ringIterator <%
  typedef bidirectional_iterator_tag iterator_category;
  typedef typename remove_const<V>::type value_type;
  typedef ptrdiff_t difference_type;
  typedef V *pointer;
  typedef V &reference;
  __ring *at;
  __ringIterator() : at(nullptr) <%%>
  explicit __ringIterator(__ring *x) : at(x) <%%>
  __ringIterator(const __ringIterator<value_type> &o) : at(o.at) <%%>
  V &operator*() const <% return static_cast<__ringNode<value_type> *>(at)->value; %>
  V *operator->() const <% return &static_cast<__ringNode<value_type> *>(at)->value; %>
  __ringIterator &operator++() <% at = at->next; return *this; %>
  __ringIterator operator++(int) <% __ringIterator t(at); at = at->next; return t; %>
  __ringIterator &operator--() <% at = at->before; return *this; %>
  __ringIterator operator--(int) <% __ringIterator t(at); at = at->before; return t; %>
%>;
template <class V, class W> bool operator==(const __ringIterator<V> &a, const __ringIterator<W> &b) <% return a.at == b.at; %>
template <class V, class W> bool operator!=(const __ringIterator<V> &a, const __ringIterator<W> &b) <% return a.at != b.at; %>
template <class T, class A = allocator<T>> class list <%
  typedef __ringNode<T> __node;
  __ring __end;
  size_t __count;
  void __start() <% __end.next = __end.before = &__end; __count = 0; %>
  static void __hook(__ring *x, __ring *at) <% x->next = at; x->before = at->before; at->before->next = x; at->before = x; %>
  static void __unhook(__ring *x) <% x->before->next = x->next; x->next->before = x->before; %>
  template <class... B> __ring *__add(__ring *at, B &&...b) <% __ring *x = new __node(static_cast<B &&>(b)...); __hook(x, at); ++__count; return x; %>
  void __drop(__ring *x) <% __unhook(x); delete static_cast<__node *>(x); --__count; %>
  static void __carry(__ring *at, __ring *a, __ring *b) <%
    if (a == b || at == b) return;
    __ring *last = b->before;
    a->before->next = b; b->before = a->before;
    a->before = at->before; at->before->next = a;
    last->next = at; at->before = last;
  %>
  static T &__at(__ring *x) <% return static_cast<__node *>(x)->value; %>
public:
  typedef T value_type;
  typedef A allocator_type;
  typedef size_t size_type;
  typedef ptrdiff_t difference_type;
  typedef T &reference;
  typedef const T &const_reference;
  typedef T *pointer;
  typedef const T *const_pointer;
  typedef __ringIterator<T> iterator;
  typedef __ringIterator<const T> const_iterator;
  typedef std::reverse_iterator<iterator> reverse_iterator;
  typedef std::reverse_iterator<const_iterator> const_reverse_iterator;
  list() <% __start(); %>
  explicit list(size_t n) <% __start(); while (n--) __add(&__end); %>
  list(size_t n, const T &v) <% __start(); while (n--) __add(&__end, v); %>
  template <class I, class = typename iterator_traits<I>::iterator_category> list(I a, I b) <% __start(); for (; a != b; ++a) __add(&__end, *a); %>
  list(initializer_list<T> l) <% __start(); for (const T &v : l) __add(&__end, v); %>
  list(const list &o) <% __start(); for (const T &v : o) __add(&__end, v); %>
  list(list &&o) <% __start(); splice(end(), o); %>
  ~list() <% clear(); %>
  list &operator=(const list &o) <% if (this != &o) assign(o.begin(), o.end()); return *this; %>
  list &operator=(list &&o) <% if (this != &o) <% clear(); splice(end(), o); %> return *this; %>
  list &operator=(initializer_list<T> l) <% assign(l.begin(), l.end()); return *this; %>
  template <class I, class = typename iterator_traits<I>::iterator_category> void assign(I a, I b) <% list t(a, b); swap(t); %>
  void assign(size_t n, const T &v) <% list t(n, v); swap(t); %>
  void assign(initializer_list<T> l) <% assign(l.begin(), l.end()); %>
  iterator begin() noexcept <% return iterator(__end.next); %>
  iterator end() noexcept <% return iterator(&__end); %>
  const_iterator begin() const noexcept <% return const_iterator(__end.next); %>
  const_iterator end() const noexcept <% return const_iterator(const_cast<__ring *>(&__end)); %>
  const_iterator cbegin() const noexcept <% return begin(); %>
  const_iterator cend() const noexcept <% return end(); %>
  reverse_iterator rbegin() noexcept <% return reverse_iterator(end()); %>
  reverse_iterator rend() noexcept <% return reverse_iterator(begin()); %>
  const_reverse_iterator rbegin() const noexcept <% return const_reverse_iterator(end()); %>
  const_reverse_iterator rend() const noexcept <% return const_reverse_iterator(begin()); %>
  bool empty() const noexcept <% return __count == 0; %>
  size_t size() const noexcept <% return __count; %>
  size_t max_size() const noexcept <% return size_t(-1) / 2 / sizeof(__node); %>
  T &front() <% return __at(__end.next); %>
  const T &front() const <% return __at(__end.next); %>
  T &back() <% return __at(__end.before); %>
  const T &back() const <% return __at(__end.before); %>
  void push_back(const T &v) <% __add(&__end, v); %>
  void push_back(T &&v) <% __add(&__end, static_cast<T &&>(v)); %>
  void push_front(const T &v) <% __add(__end.next, v); %>
  void push_front(T &&v) <% __add(__end.next, static_cast<T &&>(v)); %>
  template <class... B> T &emplace_back(B &&...b) <% return __at(__add(&__end, static_cast<B &&>(b)...)); %>
  template <class... B> T &emplace_front(B &&...b) <% return __at(__add(__end.next, static_cast<B &&>(b)...)); %>
  template <class... B> iterator emplace(const_iterator i, B &&...b) <% return iterator(__add(i.at, static_cast<B &&>(b)...)); %>
  void pop_back() <% __drop(__end.before); %>
  void pop_front() <% __drop(__end.next); %>
  iterator insert(const_iterator i, const T &v) <% return iterator(__add(i.at, v)); %>
  iterator insert(const_iterator i, T &&v) <% return iterator(__add(i.at, static_cast<T &&>(v))); %>
  iterator insert(const_iterator i, size_t n, const T &v) <% __ring *before = i.at->before; while (n--) __add(i.at, v); return iterator(before->next); %>
  template <class I, class = typename iterator_traits<I>::iterator_category> iterator insert(const_iterator i, I a, I b) <% __ring *before = i.at->before; for (; a != b; ++a) __add(i.at, *a); return iterator(before->next); %>
  iterator insert(const_iterator i, initializer_list<T> l) <% return insert(i, l.begin(), l.end()); %>
  iterator erase(const_iterator i) <% __ring *n = i.at->next; __drop(i.at); return iterator(n); %>
  iterator erase(const_iterator a, const_iterator b) <% while (a != b) a = erase(a); return iterator(b.at); %>
  void clear() noexcept <% while (__count) __drop(__end.next); %>
  void resize(size_t n) <% while (__count > n) pop_back(); while (__count < n) __add(&__end); %>
  void resize(size_t n, const T &v) <% while (__count > n) pop_back(); while (__count < n) __add(&__end, v); %>
  void swap(list &o) <% list t(static_cast<list &&>(o)); o.splice(o.end(), *this); splice(end(), t); %>
  void splice(const_iterator i, list &o) <% if (this == &o || !o.__count) return; __carry(i.at, o.__end.next, &o.__end); __count += o.__count; o.__count = 0; %>
  void splice(const_iterator i, list &&o) <% splice(i, o); %>
  void splice(const_iterator i, list &o, const_iterator j) <% if (i.at == j.at || i.at == j.at->next) return; __carry(i.at, j.at, j.at->next); ++__count; --o.__count; %>
  void splice(const_iterator i, list &o, const_iterator a, const_iterator b) <% size_t n = 0; for (const_iterator k = a; k != b; ++k) ++n; __carry(i.at, a.at, b.at); __count += n; o.__count -= n; %>
  size_t remove(const T &v) <% T w(v); return remove_if([&w](const T &x) <% return x == w; %>); %>
  template <class P> size_t remove_if(P p) <% size_t n = 0; for (__ring *x = __end.next; x != &__end;) <% __ring *y = x->next; if (p(__at(x))) <% __drop(x); ++n; %> x = y; %> return n; %>
  size_t unique() <% return unique([](const T &a, const T &b) <% return a == b; %>); %>
  template <class P> size_t unique(P p) <% size_t n = 0; if (!__count) return 0; for (__ring *x = __end.next; x->next != &__end;) if (p(__at(x), __at(x->next))) <% __drop(x->next); ++n; %> else x = x->next; return n; %>
  void merge(list &o) <% merge(o, [](const T &a, const T &b) <% return a < b; %>); %>
  void merge(list &&o) <% merge(o); %>
  template <class C> void merge(list &o, C c) <%
    if (this == &o) return;
    __ring *a = __end.next, *b = o.__end.next;
    while (a != &__end && b != &o.__end) if (c(__at(b), __at(a))) <% __ring *n = b->next; __carry(a, b, n); b = n; %> else a = a->next;
    if (b != &o.__end) __carry(&__end, b, &o.__end);
    __count += o.__count;
    o.__count = 0;
  %>
  void sort() <% sort([](const T &a, const T &b) <% return a < b; %>); %>
  template <class C> void sort(C c) <%
    if (__count < 2) return;
    list other;
    size_t half = __count / 2;
    __ring *m = __end.next;
    for (size_t i = 0; i < half; ++i) m = m->next;
    other.splice(other.end(), *this, const_iterator(m), const_iterator(&__end));
    sort(c);
    other.sort(c);
    merge(other, c);
  %>
  void reverse() noexcept <% __ring *x = &__end; do <% __ring *n = x->next; x->next = x->before; x->before = n; x = n; %> while (x != &__end); %>
%>;
template <class I> list(I, I) -> list<typename iterator_traits<I>::value_type>;
template <class T, class A> bool operator==(const list<T, A> &a, const list<T, A> &b) <% return a.size() == b.size() && __same(a.begin(), a.end(), b.begin()); %>
template <class T, class A> bool operator!=(const list<T, A> &a, const list<T, A> &b) <% return !(a == b); %>
template <class T, class A> bool operator<(const list<T, A> &a, const list<T, A> &b) <% return __before(a.begin(), a.end(), b.begin(), b.end()); %>
template <class T, class A> bool operator>(const list<T, A> &a, const list<T, A> &b) <% return b < a; %>
template <class T, class A> bool operator<=(const list<T, A> &a, const list<T, A> &b) <% return !(b < a); %>
template <class T, class A> bool operator>=(const list<T, A> &a, const list<T, A> &b) <% return !(a < b); %>
template <class T, class A> void swap(list<T, A> &a, list<T, A> &b) <% a.swap(b); %>
%>
"),

  ("forward_list", "#pragma once
#include <__memory>
#include <__compare>
#include <initializer_list>
namespace std <%
struct __single <% __single *next; %>;
template <class T> struct __singleNode : __single <% T value; template <class... A> __singleNode(A &&...a) : value(static_cast<A &&>(a)...) <%%> %>;
template <class V> struct __singleIterator <%
  typedef forward_iterator_tag iterator_category;
  typedef typename remove_const<V>::type value_type;
  typedef ptrdiff_t difference_type;
  typedef V *pointer;
  typedef V &reference;
  __single *at;
  __singleIterator() : at(nullptr) <%%>
  explicit __singleIterator(__single *x) : at(x) <%%>
  __singleIterator(const __singleIterator<value_type> &o) : at(o.at) <%%>
  V &operator*() const <% return static_cast<__singleNode<value_type> *>(at)->value; %>
  V *operator->() const <% return &static_cast<__singleNode<value_type> *>(at)->value; %>
  __singleIterator &operator++() <% at = at->next; return *this; %>
  __singleIterator operator++(int) <% __singleIterator t(at); at = at->next; return t; %>
%>;
template <class V, class W> bool operator==(const __singleIterator<V> &a, const __singleIterator<W> &b) <% return a.at == b.at; %>
template <class V, class W> bool operator!=(const __singleIterator<V> &a, const __singleIterator<W> &b) <% return a.at != b.at; %>
template <class T, class A = allocator<T>> class forward_list <%
  typedef __singleNode<T> __node;
  __single __front;
  template <class... B> static __single *__add(__single *at, B &&...b) <% __single *x = new __node(static_cast<B &&>(b)...); x->next = at->next; at->next = x; return x; %>
  static void __drop(__single *at) <% __single *x = at->next; at->next = x->next; delete static_cast<__node *>(x); %>
  static T &__at(__single *x) <% return static_cast<__node *>(x)->value; %>
public:
  typedef T value_type;
  typedef size_t size_type;
  typedef ptrdiff_t difference_type;
  typedef T &reference;
  typedef const T &const_reference;
  typedef __singleIterator<T> iterator;
  typedef __singleIterator<const T> const_iterator;
  forward_list() <% __front.next = nullptr; %>
  explicit forward_list(size_t n) <% __front.next = nullptr; while (n--) __add(&__front); %>
  forward_list(size_t n, const T &v) <% __front.next = nullptr; while (n--) __add(&__front, v); %>
  template <class I, class = typename iterator_traits<I>::iterator_category> forward_list(I a, I b) <% __front.next = nullptr; insert_after(before_begin(), a, b); %>
  forward_list(initializer_list<T> l) <% __front.next = nullptr; insert_after(before_begin(), l.begin(), l.end()); %>
  forward_list(const forward_list &o) <% __front.next = nullptr; insert_after(before_begin(), o.begin(), o.end()); %>
  forward_list(forward_list &&o) <% __front.next = o.__front.next; o.__front.next = nullptr; %>
  ~forward_list() <% clear(); %>
  forward_list &operator=(const forward_list &o) <% if (this != &o) <% clear(); insert_after(before_begin(), o.begin(), o.end()); %> return *this; %>
  forward_list &operator=(forward_list &&o) <% if (this != &o) <% clear(); __front.next = o.__front.next; o.__front.next = nullptr; %> return *this; %>
  iterator before_begin() noexcept <% return iterator(&__front); %>
  const_iterator before_begin() const noexcept <% return const_iterator(const_cast<__single *>(&__front)); %>
  iterator begin() noexcept <% return iterator(__front.next); %>
  iterator end() noexcept <% return iterator(nullptr); %>
  const_iterator begin() const noexcept <% return const_iterator(__front.next); %>
  const_iterator end() const noexcept <% return const_iterator(nullptr); %>
  bool empty() const noexcept <% return !__front.next; %>
  T &front() <% return __at(__front.next); %>
  const T &front() const <% return __at(__front.next); %>
  void push_front(const T &v) <% __add(&__front, v); %>
  void push_front(T &&v) <% __add(&__front, static_cast<T &&>(v)); %>
  template <class... B> T &emplace_front(B &&...b) <% return __at(__add(&__front, static_cast<B &&>(b)...)); %>
  void pop_front() <% __drop(&__front); %>
  iterator insert_after(const_iterator i, const T &v) <% return iterator(__add(i.at, v)); %>
  template <class I, class = typename iterator_traits<I>::iterator_category> iterator insert_after(const_iterator i, I a, I b) <% __single *x = i.at; for (; a != b; ++a) x = __add(x, *a); return iterator(x); %>
  template <class... B> iterator emplace_after(const_iterator i, B &&...b) <% return iterator(__add(i.at, static_cast<B &&>(b)...)); %>
  iterator erase_after(const_iterator i) <% __drop(i.at); return iterator(i.at->next); %>
  iterator erase_after(const_iterator a, const_iterator b) <% while (a.at->next != b.at) __drop(a.at); return iterator(b.at); %>
  void clear() noexcept <% while (__front.next) __drop(&__front); %>
  void swap(forward_list &o) noexcept <% std::swap(__front.next, o.__front.next); %>
  size_t remove(const T &v) <% T w(v); return remove_if([&w](const T &x) <% return x == w; %>); %>
  template <class P> size_t remove_if(P p) <% size_t n = 0; for (__single *x = &__front; x->next;) if (p(__at(x->next))) <% __drop(x); ++n; %> else x = x->next; return n; %>
  void reverse() noexcept <% __single *r = nullptr, *x = __front.next; while (x) <% __single *n = x->next; x->next = r; r = x; x = n; %> __front.next = r; %>
  void sort() <% sort([](const T &a, const T &b) <% return a < b; %>); %>
  template <class C> void sort(C c) <% __front.next = __sorted(__front.next, c); %>
private:
  template <class C> static __single *__sorted(__single *a, C c) <%
    if (!a || !a->next) return a;
    __single *slow = a, *fast = a->next;
    while (fast && fast->next) <% slow = slow->next; fast = fast->next->next; %>
    __single *b = slow->next;
    slow->next = nullptr;
    a = __sorted(a, c);
    b = __sorted(b, c);
    __single front, *last = &front;
    while (a && b) if (c(__at(b), __at(a))) <% last->next = b; last = b; b = b->next; %> else <% last->next = a; last = a; a = a->next; %>
    last->next = a ? a : b;
    return front.next;
  %>
%>;
template <class T, class A> bool operator==(const forward_list<T, A> &a, const forward_list<T, A> &b) <% auto i = a.begin(); auto j = b.begin(); for (; i != a.end() && j != b.end(); ++i, ++j) if (!(*i == *j)) return false; return i == a.end() && j == b.end(); %>
template <class T, class A> bool operator!=(const forward_list<T, A> &a, const forward_list<T, A> &b) <% return !(a == b); %>
%>
"),

  ("deque", "#pragma once
#include <__memory>
#include <__compare>
#include <initializer_list>
#include <stdexcept>
namespace std <%
template <class T, class A = allocator<T>> class deque;
template <class V> struct __dequeIterator <%
  typedef random_access_iterator_tag iterator_category;
  typedef typename remove_const<V>::type value_type;
  typedef ptrdiff_t difference_type;
  typedef V *pointer;
  typedef V &reference;
  value_type *const *rows;
  size_t at;
  static constexpr size_t width = sizeof(value_type) < 512 ? 512 / sizeof(value_type) : 1;
  __dequeIterator() : rows(nullptr), at(0) <%%>
  __dequeIterator(value_type *const *r, size_t i) : rows(r), at(i) <%%>
  __dequeIterator(const __dequeIterator<value_type> &o) : rows(o.rows), at(o.at) <%%>
  V &operator*() const <% return rows[at / width][at % width]; %>
  V *operator->() const <% return &rows[at / width][at % width]; %>
  V &operator[](ptrdiff_t n) const <% return *(*this + n); %>
  __dequeIterator &operator++() <% ++at; return *this; %>
  __dequeIterator operator++(int) <% __dequeIterator t(*this); ++at; return t; %>
  __dequeIterator &operator--() <% --at; return *this; %>
  __dequeIterator operator--(int) <% __dequeIterator t(*this); --at; return t; %>
  __dequeIterator &operator+=(ptrdiff_t n) <% at += n; return *this; %>
  __dequeIterator &operator-=(ptrdiff_t n) <% at -= n; return *this; %>
  __dequeIterator operator+(ptrdiff_t n) const <% return __dequeIterator(rows, at + n); %>
  __dequeIterator operator-(ptrdiff_t n) const <% return __dequeIterator(rows, at - n); %>
%>;
template <class V> __dequeIterator<V> operator+(ptrdiff_t n, const __dequeIterator<V> &i) <% return i + n; %>
template <class V, class W> ptrdiff_t operator-(const __dequeIterator<V> &a, const __dequeIterator<W> &b) <% return ptrdiff_t(a.at - b.at); %>
template <class V, class W> bool operator==(const __dequeIterator<V> &a, const __dequeIterator<W> &b) <% return a.at == b.at; %>
template <class V, class W> bool operator!=(const __dequeIterator<V> &a, const __dequeIterator<W> &b) <% return a.at != b.at; %>
template <class V, class W> bool operator<(const __dequeIterator<V> &a, const __dequeIterator<W> &b) <% return a.at < b.at; %>
template <class V, class W> bool operator>(const __dequeIterator<V> &a, const __dequeIterator<W> &b) <% return a.at > b.at; %>
template <class V, class W> bool operator<=(const __dequeIterator<V> &a, const __dequeIterator<W> &b) <% return a.at <= b.at; %>
template <class V, class W> bool operator>=(const __dequeIterator<V> &a, const __dequeIterator<W> &b) <% return a.at >= b.at; %>
template <class T, class A> class deque <%
  static constexpr size_t __wide = sizeof(T) < 512 ? 512 / sizeof(T) : 1;
  T **__rows;
  size_t __height, __first, __count;
  size_t __unused[6];
  T *__row(size_t i) <% size_t r = i / __wide; if (!__rows[r]) __rows[r] = static_cast<T *>(::operator new(__wide * sizeof(T))); return __rows[r] + i % __wide; %>
  T &__at(size_t i) const <% size_t k = __first + i; return __rows[k / __wide][k % __wide]; %>
  void __start() <% __rows = nullptr; __height = __first = __count = 0; %>
  void __widen(size_t front, size_t back) <%
    size_t lead = front ? front + __height : 0, tail = back ? back + __height : 0;
    size_t h = __height + lead + tail;
    T **r = static_cast<T **>(::operator new(h * sizeof(T *)));
    for (size_t i = 0; i < h; ++i) r[i] = i >= lead && i < lead + __height ? __rows[i - lead] : nullptr;
    if (__rows) ::operator delete(__rows);
    __rows = r;
    __height = h;
    __first += lead * __wide;
  %>
  T *__roomBack() <% if (__first + __count == __height * __wide) __widen(0, 1); return __row(__first + __count); %>
  T *__roomFront() <% if (__first == 0) __widen(1, 0); return __row(__first - 1); %>
  void __free() <% clear(); for (size_t i = 0; i < __height; ++i) if (__rows[i]) ::operator delete(__rows[i]); if (__rows) ::operator delete(__rows); %>
  void __takeFrom(deque &o) <% __rows = o.__rows; __height = o.__height; __first = o.__first; __count = o.__count; o.__start(); %>
public:
  typedef T value_type;
  typedef A allocator_type;
  typedef size_t size_type;
  typedef ptrdiff_t difference_type;
  typedef T &reference;
  typedef const T &const_reference;
  typedef T *pointer;
  typedef const T *const_pointer;
  typedef __dequeIterator<T> iterator;
  typedef __dequeIterator<const T> const_iterator;
  typedef std::reverse_iterator<iterator> reverse_iterator;
  typedef std::reverse_iterator<const_iterator> const_reverse_iterator;
  deque() <% __start(); %>
  explicit deque(size_t n) <% __start(); resize(n); %>
  deque(size_t n, const T &v) <% __start(); while (n--) push_back(v); %>
  template <class I, class = typename iterator_traits<I>::iterator_category> deque(I a, I b) <% __start(); for (; a != b; ++a) push_back(*a); %>
  deque(initializer_list<T> l) <% __start(); for (const T &v : l) push_back(v); %>
  deque(const deque &o) <% __start(); for (size_t i = 0; i < o.__count; ++i) push_back(o.__at(i)); %>
  deque(deque &&o) <% __takeFrom(o); %>
  ~deque() <% __free(); %>
  deque &operator=(const deque &o) <% if (this != &o) <% clear(); for (size_t i = 0; i < o.__count; ++i) push_back(o.__at(i)); %> return *this; %>
  deque &operator=(deque &&o) <% if (this != &o) <% __free(); __takeFrom(o); %> return *this; %>
  deque &operator=(initializer_list<T> l) <% clear(); for (const T &v : l) push_back(v); return *this; %>
  void assign(size_t n, const T &v) <% T w(v); clear(); while (n--) push_back(w); %>
  template <class I, class = typename iterator_traits<I>::iterator_category> void assign(I a, I b) <% clear(); for (; a != b; ++a) push_back(*a); %>
  iterator begin() noexcept <% return iterator(__rows, __first); %>
  iterator end() noexcept <% return iterator(__rows, __first + __count); %>
  const_iterator begin() const noexcept <% return const_iterator(__rows, __first); %>
  const_iterator end() const noexcept <% return const_iterator(__rows, __first + __count); %>
  const_iterator cbegin() const noexcept <% return begin(); %>
  const_iterator cend() const noexcept <% return end(); %>
  reverse_iterator rbegin() noexcept <% return reverse_iterator(end()); %>
  reverse_iterator rend() noexcept <% return reverse_iterator(begin()); %>
  const_reverse_iterator rbegin() const noexcept <% return const_reverse_iterator(end()); %>
  const_reverse_iterator rend() const noexcept <% return const_reverse_iterator(begin()); %>
  bool empty() const noexcept <% return __count == 0; %>
  size_t size() const noexcept <% return __count; %>
  size_t max_size() const noexcept <% return size_t(-1) / 2 / sizeof(T); %>
  T &operator[](size_t i) <% return __at(i); %>
  const T &operator[](size_t i) const <% return __at(i); %>
  T &at(size_t i) <% __check(i); return __at(i); %>
  const T &at(size_t i) const <% __check(i); return __at(i); %>
  T &front() <% return __at(0); %>
  const T &front() const <% return __at(0); %>
  T &back() <% return __at(__count - 1); %>
  const T &back() const <% return __at(__count - 1); %>
  void push_back(const T &v) <% ::new ((void *)__roomBack()) T(v); ++__count; %>
  void push_back(T &&v) <% ::new ((void *)__roomBack()) T(static_cast<T &&>(v)); ++__count; %>
  void push_front(const T &v) <% ::new ((void *)__roomFront()) T(v); --__first; ++__count; %>
  void push_front(T &&v) <% ::new ((void *)__roomFront()) T(static_cast<T &&>(v)); --__first; ++__count; %>
  template <class... B> T &emplace_back(B &&...b) <% ::new ((void *)__roomBack()) T(static_cast<B &&>(b)...); ++__count; return back(); %>
  template <class... B> T &emplace_front(B &&...b) <% ::new ((void *)__roomFront()) T(static_cast<B &&>(b)...); --__first; ++__count; return front(); %>
  void pop_back() <% back().~T(); --__count; %>
  void pop_front() <% front().~T(); ++__first; --__count; %>
  template <class... B> iterator emplace(const_iterator i, B &&...b) <%
    size_t k = i.at - __first;
    T v(static_cast<B &&>(b)...);
    if (k == __count) push_back(static_cast<T &&>(v));
    else if (k == 0) push_front(static_cast<T &&>(v));
    else <%
      push_back(static_cast<T &&>(back()));
      for (size_t j = __count - 2; j > k; --j) __at(j) = static_cast<T &&>(__at(j - 1));
      __at(k) = static_cast<T &&>(v);
    %>
    return begin() + k;
  %>
  iterator insert(const_iterator i, const T &v) <% return emplace(i, v); %>
  iterator insert(const_iterator i, T &&v) <% return emplace(i, static_cast<T &&>(v)); %>
  iterator insert(const_iterator i, size_t n, const T &v) <% size_t k = i.at - __first; T w(v); for (size_t j = 0; j < n; ++j) emplace(const_iterator(__rows, __first + k), w); return begin() + k; %>
  template <class I, class = typename iterator_traits<I>::iterator_category> iterator insert(const_iterator i, I a, I b) <% size_t k = i.at - __first, j = k; for (; a != b; ++a, ++j) emplace(const_iterator(__rows, __first + j), *a); return begin() + k; %>
  iterator insert(const_iterator i, initializer_list<T> l) <% return insert(i, l.begin(), l.end()); %>
  iterator erase(const_iterator i) <% return erase(i, i + 1); %>
  iterator erase(const_iterator a, const_iterator b) <%
    size_t k = a.at - __first, n = b.at - a.at;
    if (n) <%
      for (size_t j = k; j + n < __count; ++j) __at(j) = static_cast<T &&>(__at(j + n));
      while (n--) pop_back();
    %>
    return begin() + k;
  %>
  void clear() noexcept <% while (__count) pop_back(); %>
  void resize(size_t n) <% while (__count > n) pop_back(); while (__count < n) emplace_back(); %>
  void resize(size_t n, const T &v) <% while (__count > n) pop_back(); while (__count < n) push_back(v); %>
  void shrink_to_fit() <%%>
  void swap(deque &o) <% deque t(static_cast<deque &&>(o)); o = static_cast<deque &&>(*this); *this = static_cast<deque &&>(t); %>
private:
  void __check(size_t i) const <% if (i >= __count) <% char b[128]; __builtin_snprintf(b, sizeof b, \"deque::_M_range_check: __n (which is %lu)>= this->size() (which is %lu)\", i, __count); __throw_out_of_range(b); %> %>
%>;
template <class I> deque(I, I) -> deque<typename iterator_traits<I>::value_type>;
template <class T, class A> bool operator==(const deque<T, A> &a, const deque<T, A> &b) <% return a.size() == b.size() && __same(a.begin(), a.end(), b.begin()); %>
template <class T, class A> bool operator!=(const deque<T, A> &a, const deque<T, A> &b) <% return !(a == b); %>
template <class T, class A> bool operator<(const deque<T, A> &a, const deque<T, A> &b) <% return __before(a.begin(), a.end(), b.begin(), b.end()); %>
template <class T, class A> void swap(deque<T, A> &a, deque<T, A> &b) <% a.swap(b); %>
%>
"),

  ("stack", "#pragma once
#include <deque>
namespace std <%
template <class T, class S = deque<T>> class stack <%
protected:
  S c;
public:
  typedef S container_type;
  typedef T value_type;
  typedef size_t size_type;
  typedef T &reference;
  typedef const T &const_reference;
  stack() : c() <%%>
  explicit stack(const S &s) : c(s) <%%>
  explicit stack(S &&s) : c(static_cast<S &&>(s)) <%%>
  bool empty() const <% return c.empty(); %>
  size_t size() const <% return c.size(); %>
  T &top() <% return c.back(); %>
  const T &top() const <% return c.back(); %>
  void push(const T &v) <% c.push_back(v); %>
  void push(T &&v) <% c.push_back(static_cast<T &&>(v)); %>
  template <class... B> decltype(auto) emplace(B &&...b) <% return c.emplace_back(static_cast<B &&>(b)...); %>
  void pop() <% c.pop_back(); %>
  void swap(stack &o) <% std::swap(c, o.c); %>
  friend bool operator==(const stack &a, const stack &b) <% return a.c == b.c; %>
  friend bool operator!=(const stack &a, const stack &b) <% return !(a.c == b.c); %>
%>;
%>
"),

  ("queue", "#pragma once
#include <deque>
#include <vector>
#include <algorithm>
namespace std <%
template <class T, class S = deque<T>> class queue <%
protected:
  S c;
public:
  typedef S container_type;
  typedef T value_type;
  typedef size_t size_type;
  typedef T &reference;
  typedef const T &const_reference;
  queue() : c() <%%>
  explicit queue(const S &s) : c(s) <%%>
  explicit queue(S &&s) : c(static_cast<S &&>(s)) <%%>
  bool empty() const <% return c.empty(); %>
  size_t size() const <% return c.size(); %>
  T &front() <% return c.front(); %>
  const T &front() const <% return c.front(); %>
  T &back() <% return c.back(); %>
  const T &back() const <% return c.back(); %>
  void push(const T &v) <% c.push_back(v); %>
  void push(T &&v) <% c.push_back(static_cast<T &&>(v)); %>
  template <class... B> decltype(auto) emplace(B &&...b) <% return c.emplace_back(static_cast<B &&>(b)...); %>
  void pop() <% c.pop_front(); %>
  void swap(queue &o) <% std::swap(c, o.c); %>
  friend bool operator==(const queue &a, const queue &b) <% return a.c == b.c; %>
  friend bool operator!=(const queue &a, const queue &b) <% return !(a.c == b.c); %>
%>;
template <class T, class S = vector<T>, class C = less<T>> class priority_queue <%
protected:
  S c;
  C comp;
public:
  typedef S container_type;
  typedef T value_type;
  typedef C value_compare;
  typedef size_t size_type;
  typedef T &reference;
  typedef const T &const_reference;
  priority_queue() : c(), comp() <%%>
  explicit priority_queue(const C &f) : c(), comp(f) <%%>
  priority_queue(const C &f, const S &s) : c(s), comp(f) <% std::make_heap(c.begin(), c.end(), comp); %>
  template <class I, class = typename iterator_traits<I>::iterator_category> priority_queue(I a, I b, const C &f = C()) : c(a, b), comp(f) <% std::make_heap(c.begin(), c.end(), comp); %>
  bool empty() const <% return c.empty(); %>
  size_t size() const <% return c.size(); %>
  const T &top() const <% return c.front(); %>
  void push(const T &v) <% c.push_back(v); std::push_heap(c.begin(), c.end(), comp); %>
  void push(T &&v) <% c.push_back(static_cast<T &&>(v)); std::push_heap(c.begin(), c.end(), comp); %>
  template <class... B> void emplace(B &&...b) <% c.emplace_back(static_cast<B &&>(b)...); std::push_heap(c.begin(), c.end(), comp); %>
  void pop() <% std::pop_heap(c.begin(), c.end(), comp); c.pop_back(); %>
  void swap(priority_queue &o) <% std::swap(c, o.c); std::swap(comp, o.comp); %>
%>;
%>
"),

  ("__tree", "#pragma once
#include <__memory>
#include <__order>
#include <__compare>
#include <stdexcept>
namespace std <%
struct __link <% __link *left, *right, *parent; unsigned long priority; %>;
inline __link *__leftmost(__link *x) <% while (x->left) x = x->left; return x; %>
inline __link *__rightmost(__link *x) <% while (x->right) x = x->right; return x; %>
inline __link *__following(__link *x) <%
  if (x->right) return __leftmost(x->right);
  while (x->parent && x == x->parent->right) x = x->parent;
  return x->parent;
%>
inline __link *__preceding(__link *x) <%
  if (x->left) return __rightmost(x->left);
  while (x->parent && x == x->parent->left) x = x->parent;
  return x->parent;
%>
inline void __replaceChild(__link *x, __link *y) <%
  __link *p = x->parent;
  if (p->left == x) p->left = y; else p->right = y;
  if (y) y->parent = p;
%>
inline void __turnRight(__link *x) <% __link *y = x->left; __replaceChild(x, y); x->left = y->right; if (y->right) y->right->parent = x; y->right = x; x->parent = y; %>
inline void __turnLeft(__link *x) <% __link *y = x->right; __replaceChild(x, y); x->right = y->left; if (y->left) y->left->parent = x; y->left = x; x->parent = y; %>
inline unsigned long __chance = 88172645463325252ul;
inline void __settleLink(__link *top, __link *x) <%
  __chance ^= __chance << 13; __chance ^= __chance >> 7; __chance ^= __chance << 17;
  x->priority = __chance;
  while (x->parent != top && x->parent->priority < x->priority) <% if (x == x->parent->left) __turnRight(x->parent); else __turnLeft(x->parent); %>
%>
inline void __removeLink(__link *x) <%
  while (x->left && x->right) <% if (x->left->priority < x->right->priority) __turnLeft(x); else __turnRight(x); %>
  __replaceChild(x, x->left ? x->left : x->right);
%>
template <class V> struct __treeNode : __link <% V value; template <class... A> __treeNode(A &&...a) : value(static_cast<A &&>(a)...) <%%> %>;
template <class V> struct __treeIterator <%
  typedef bidirectional_iterator_tag iterator_category;
  typedef typename remove_const<V>::type value_type;
  typedef ptrdiff_t difference_type;
  typedef V *pointer;
  typedef V &reference;
  __link *at;
  __treeIterator() : at(nullptr) <%%>
  explicit __treeIterator(__link *x) : at(x) <%%>
  __treeIterator(const __treeIterator<value_type> &o) : at(o.at) <%%>
  V &operator*() const <% return static_cast<__treeNode<value_type> *>(at)->value; %>
  V *operator->() const <% return &static_cast<__treeNode<value_type> *>(at)->value; %>
  __treeIterator &operator++() <% at = __following(at); return *this; %>
  __treeIterator operator++(int) <% __treeIterator t(at); at = __following(at); return t; %>
  __treeIterator &operator--() <% at = __preceding(at); return *this; %>
  __treeIterator operator--(int) <% __treeIterator t(at); at = __preceding(at); return t; %>
%>;
template <class V, class W> bool operator==(const __treeIterator<V> &a, const __treeIterator<W> &b) <% return a.at == b.at; %>
template <class V, class W> bool operator!=(const __treeIterator<V> &a, const __treeIterator<W> &b) <% return a.at != b.at; %>
struct __firstOf <% template <class P> const typename P::first_type &operator()(const P &p) const <% return p.first; %> %>;
struct __selfOf <% template <class T> const T &operator()(const T &t) const <% return t; %> %>;
template <class K, class V, class G, class C, bool M> class __tree <%
protected:
  typedef __treeNode<V> __node;
  __link __top;
  size_t __count;
  C __order;
  const K &__keyOf(const __link *x) const <% return G()(static_cast<const __node *>(x)->value); %>
  static void __dropAll(__link *x) <% while (x) <% __dropAll(x->right); __link *n = x->left; delete static_cast<__node *>(x); x = n; %> %>
  void __reset() <% __top.left = __top.right = __top.parent = nullptr; __count = 0; %>
  static __link *__copyOf(const __link *x, __link *parent) <%
    if (!x) return nullptr;
    __node *n = new __node(static_cast<const __node *>(x)->value);
    n->priority = x->priority;
    n->parent = parent;
    n->left = __copyOf(x->left, n);
    n->right = __copyOf(x->right, n);
    return n;
  %>
  void __takeFrom(__tree &o) <% __reset(); __top.left = o.__top.left; if (__top.left) __top.left->parent = &__top; __count = o.__count; o.__reset(); %>
  template <class Q> __link *__lower(const Q &k) const <% __link *r = const_cast<__link *>(&__top), *x = __top.left; while (x) if (!__order(__keyOf(x), k)) <% r = x; x = x->left; %> else x = x->right; return r; %>
  template <class Q> __link *__upper(const Q &k) const <% __link *r = const_cast<__link *>(&__top), *x = __top.left; while (x) if (__order(k, __keyOf(x))) <% r = x; x = x->left; %> else x = x->right; return r; %>
  template <class Q> __link *__find(const Q &k) const <% __link *r = __lower(k); return r != &__top && !__order(k, __keyOf(r)) ? r : const_cast<__link *>(&__top); %>
  pair<__link *, bool> __place(__node *n) <%
    const K &k = __keyOf(n);
    __link *p = &__top, **at = &__top.left;
    if (!M) <%
      __link *r = __find(k);
      if (r != &__top) return pair<__link *, bool>(r, false);
    %>
    while (*at) <% p = *at; at = __order(k, __keyOf(p)) ? &p->left : &p->right; %>
    n->left = n->right = nullptr;
    n->parent = p;
    *at = n;
    __settleLink(&__top, n);
    ++__count;
    return pair<__link *, bool>(n, true);
  %>
  template <class... A> pair<__link *, bool> __add(A &&...a) <%
    __node *n = new __node(static_cast<A &&>(a)...);
    pair<__link *, bool> r = __place(n);
    if (!r.second) delete n;
    return r;
  %>
public:
  typedef K key_type;
  typedef V value_type;
  typedef size_t size_type;
  typedef ptrdiff_t difference_type;
  typedef C key_compare;
  typedef V &reference;
  typedef const V &const_reference;
  typedef V *pointer;
  typedef const V *const_pointer;
  typedef typename conditional<is_same<K, V>::value, __treeIterator<const V>, __treeIterator<V>>::type iterator;
  typedef __treeIterator<const V> const_iterator;
  typedef std::reverse_iterator<iterator> reverse_iterator;
  typedef std::reverse_iterator<const_iterator> const_reverse_iterator;
  __tree() : __order() <% __reset(); %>
  explicit __tree(const C &c) : __order(c) <% __reset(); %>
  __tree(const __tree &o) : __order(o.__order) <% __reset(); __top.left = __copyOf(o.__top.left, &__top); __count = o.__count; %>
  __tree(__tree &&o) : __order(o.__order) <% __takeFrom(o); %>
  ~__tree() <% __dropAll(__top.left); %>
  __tree &operator=(const __tree &o) <% if (this != &o) <% clear(); __order = o.__order; __top.left = __copyOf(o.__top.left, &__top); __count = o.__count; %> return *this; %>
  __tree &operator=(__tree &&o) <% if (this != &o) <% clear(); __order = o.__order; __takeFrom(o); %> return *this; %>
  iterator begin() noexcept <% return iterator(__leftmost(&__top)); %>
  iterator end() noexcept <% return iterator(&__top); %>
  const_iterator begin() const noexcept <% return const_iterator(__leftmost(const_cast<__link *>(&__top))); %>
  const_iterator end() const noexcept <% return const_iterator(const_cast<__link *>(&__top)); %>
  const_iterator cbegin() const noexcept <% return begin(); %>
  const_iterator cend() const noexcept <% return end(); %>
  reverse_iterator rbegin() noexcept <% return reverse_iterator(end()); %>
  reverse_iterator rend() noexcept <% return reverse_iterator(begin()); %>
  const_reverse_iterator rbegin() const noexcept <% return const_reverse_iterator(end()); %>
  const_reverse_iterator rend() const noexcept <% return const_reverse_iterator(begin()); %>
  const_reverse_iterator crbegin() const noexcept <% return rbegin(); %>
  const_reverse_iterator crend() const noexcept <% return rend(); %>
  bool empty() const noexcept <% return __count == 0; %>
  size_t size() const noexcept <% return __count; %>
  size_t max_size() const noexcept <% return size_t(-1) / 2 / sizeof(__node); %>
  void clear() noexcept <% __dropAll(__top.left); __reset(); %>
  C key_comp() const <% return __order; %>
  iterator erase(const_iterator i) <% __link *x = i.at, *n = __following(x); __removeLink(x); delete static_cast<__node *>(x); --__count; return iterator(n); %>
  iterator erase(const_iterator a, const_iterator b) <% while (a != b) a = erase(a); return iterator(b.at); %>
  size_t erase(const K &k) <% size_t n = __count; __link *a = __lower(k), *b = __upper(k); while (a != b) a = erase(const_iterator(a)).at; return n - __count; %>
  iterator find(const K &k) <% return iterator(__find(k)); %>
  const_iterator find(const K &k) const <% return const_iterator(__find(k)); %>
  size_t count(const K &k) const <% size_t n = 0; for (__link *a = __lower(k), *b = __upper(k); a != b; a = __following(a)) ++n; return n; %>
  bool contains(const K &k) const <% return __find(k) != &__top; %>
  iterator lower_bound(const K &k) <% return iterator(__lower(k)); %>
  const_iterator lower_bound(const K &k) const <% return const_iterator(__lower(k)); %>
  iterator upper_bound(const K &k) <% return iterator(__upper(k)); %>
  const_iterator upper_bound(const K &k) const <% return const_iterator(__upper(k)); %>
  pair<iterator, iterator> equal_range(const K &k) <% return pair<iterator, iterator>(lower_bound(k), upper_bound(k)); %>
  pair<const_iterator, const_iterator> equal_range(const K &k) const <% return pair<const_iterator, const_iterator>(lower_bound(k), upper_bound(k)); %>
  template <class Q, class D = C, class = typename D::is_transparent> iterator find(const Q &k) <% return iterator(__find(k)); %>
  template <class Q, class D = C, class = typename D::is_transparent> const_iterator find(const Q &k) const <% return const_iterator(__find(k)); %>
  template <class Q, class D = C, class = typename D::is_transparent> size_t count(const Q &k) const <% size_t n = 0; for (__link *a = __lower(k), *b = __upper(k); a != b; a = __following(a)) ++n; return n; %>
  template <class Q, class D = C, class = typename D::is_transparent> iterator lower_bound(const Q &k) <% return iterator(__lower(k)); %>
  template <class Q, class D = C, class = typename D::is_transparent> iterator upper_bound(const Q &k) <% return iterator(__upper(k)); %>
  void swap(__tree &o) <% __tree t(static_cast<__tree &&>(o)); o = static_cast<__tree &&>(*this); *this = static_cast<__tree &&>(t); %>
  template <class T> void merge(T &o) <%
    for (auto i = o.begin(); i != o.end();) <% auto n = i; ++n; if (M || !contains(G()(*i))) <% __add(*i); o.erase(i); %> i = n; %>
  %>
  bool operator==(const __tree &o) const <% return __count == o.__count && __same(begin(), end(), o.begin()); %>
  bool operator!=(const __tree &o) const <% return !(*this == o); %>
  bool operator<(const __tree &o) const <% return __before(begin(), end(), o.begin(), o.end()); %>
  bool operator>(const __tree &o) const <% return o < *this; %>
  bool operator<=(const __tree &o) const <% return !(o < *this); %>
  bool operator>=(const __tree &o) const <% return !(*this < o); %>
%>;
template <class K, class V, class G, class C, bool M> void swap(__tree<K, V, G, C, M> &a, __tree<K, V, G, C, M> &b) <% a.swap(b); %>
%>
"),

  ("map", "#pragma once
#include <__tree>
#include <initializer_list>
namespace std <%
template <class K, class T, class C = less<K>, class A = allocator<pair<const K, T>>> class map : public __tree<K, pair<const K, T>, __firstOf, C, false> <%
  typedef __tree<K, pair<const K, T>, __firstOf, C, false> __base;
public:
  typedef T mapped_type;
  typedef pair<const K, T> value_type;
  typedef A allocator_type;
  typedef typename __base::iterator iterator;
  typedef typename __base::const_iterator const_iterator;
  class value_compare <% C c; public: value_compare(C d) : c(d) <%%> bool operator()(const value_type &x, const value_type &y) const <% return c(x.first, y.first); %> %>;
  map() <%%>
  explicit map(const C &c, const A & = A()) : __base(c) <%%>
  template <class I> map(I a, I b, const C &c = C()) : __base(c) <% insert(a, b); %>
  map(initializer_list<value_type> l, const C &c = C()) : __base(c) <% insert(l.begin(), l.end()); %>
  map(const map &) = default;
  map(map &&) = default;
  map &operator=(const map &) = default;
  map &operator=(map &&) = default;
  map &operator=(initializer_list<value_type> l) <% this->clear(); insert(l.begin(), l.end()); return *this; %>
  value_compare value_comp() const <% return value_compare(this->__order); %>
  T &operator[](const K &k) <% __link *x = this->__find(k); if (x == &this->__top) x = this->__add(k, T()).first; return static_cast<__treeNode<value_type> *>(x)->value.second; %>
  T &operator[](K &&k) <% __link *x = this->__find(k); if (x == &this->__top) x = this->__add(static_cast<K &&>(k), T()).first; return static_cast<__treeNode<value_type> *>(x)->value.second; %>
  T &at(const K &k) <% __link *x = this->__find(k); if (x == &this->__top) __throw_out_of_range(\"map::at\"); return static_cast<__treeNode<value_type> *>(x)->value.second; %>
  const T &at(const K &k) const <% __link *x = this->__find(k); if (x == &this->__top) __throw_out_of_range(\"map::at\"); return static_cast<__treeNode<value_type> *>(x)->value.second; %>
  pair<iterator, bool> insert(const value_type &v) <% auto r = this->__add(v); return pair<iterator, bool>(iterator(r.first), r.second); %>
  pair<iterator, bool> insert(value_type &&v) <% auto r = this->__add(static_cast<value_type &&>(v)); return pair<iterator, bool>(iterator(r.first), r.second); %>
  template <class P, class = enable_if_t<is_constructible<value_type, P &&>::value>> pair<iterator, bool> insert(P &&p) <% auto r = this->__add(static_cast<P &&>(p)); return pair<iterator, bool>(iterator(r.first), r.second); %>
  iterator insert(const_iterator, const value_type &v) <% return iterator(this->__add(v).first); %>
  template <class I, class = typename iterator_traits<I>::iterator_category> void insert(I a, I b) <% for (; a != b; ++a) this->__add(*a); %>
  void insert(initializer_list<value_type> l) <% insert(l.begin(), l.end()); %>
  template <class... B> pair<iterator, bool> emplace(B &&...b) <% auto r = this->__add(static_cast<B &&>(b)...); return pair<iterator, bool>(iterator(r.first), r.second); %>
  template <class... B> iterator emplace_hint(const_iterator, B &&...b) <% return iterator(this->__add(static_cast<B &&>(b)...).first); %>
  template <class... B> pair<iterator, bool> try_emplace(const K &k, B &&...b) <% __link *x = this->__find(k); if (x != &this->__top) return pair<iterator, bool>(iterator(x), false); return pair<iterator, bool>(iterator(this->__add(k, T(static_cast<B &&>(b)...)).first), true); %>
  template <class... B> pair<iterator, bool> try_emplace(K &&k, B &&...b) <% __link *x = this->__find(k); if (x != &this->__top) return pair<iterator, bool>(iterator(x), false); return pair<iterator, bool>(iterator(this->__add(static_cast<K &&>(k), T(static_cast<B &&>(b)...)).first), true); %>
  template <class U> pair<iterator, bool> insert_or_assign(const K &k, U &&u) <% __link *x = this->__find(k); if (x != &this->__top) <% static_cast<__treeNode<value_type> *>(x)->value.second = static_cast<U &&>(u); return pair<iterator, bool>(iterator(x), false); %> return pair<iterator, bool>(iterator(this->__add(k, static_cast<U &&>(u)).first), true); %>
%>;
template <class K, class T, class C = less<K>, class A = allocator<pair<const K, T>>> class multimap : public __tree<K, pair<const K, T>, __firstOf, C, true> <%
  typedef __tree<K, pair<const K, T>, __firstOf, C, true> __base;
public:
  typedef T mapped_type;
  typedef pair<const K, T> value_type;
  typedef A allocator_type;
  typedef typename __base::iterator iterator;
  typedef typename __base::const_iterator const_iterator;
  multimap() <%%>
  explicit multimap(const C &c, const A & = A()) : __base(c) <%%>
  template <class I> multimap(I a, I b, const C &c = C()) : __base(c) <% insert(a, b); %>
  multimap(initializer_list<value_type> l, const C &c = C()) : __base(c) <% insert(l.begin(), l.end()); %>
  multimap(const multimap &) = default;
  multimap(multimap &&) = default;
  multimap &operator=(const multimap &) = default;
  multimap &operator=(multimap &&) = default;
  multimap &operator=(initializer_list<value_type> l) <% this->clear(); insert(l.begin(), l.end()); return *this; %>
  iterator insert(const value_type &v) <% return iterator(this->__add(v).first); %>
  iterator insert(value_type &&v) <% return iterator(this->__add(static_cast<value_type &&>(v)).first); %>
  template <class P, class = enable_if_t<is_constructible<value_type, P &&>::value>> iterator insert(P &&p) <% return iterator(this->__add(static_cast<P &&>(p)).first); %>
  template <class I, class = typename iterator_traits<I>::iterator_category> void insert(I a, I b) <% for (; a != b; ++a) this->__add(*a); %>
  void insert(initializer_list<value_type> l) <% insert(l.begin(), l.end()); %>
  template <class... B> iterator emplace(B &&...b) <% return iterator(this->__add(static_cast<B &&>(b)...).first); %>
%>;
%>
"),

  ("set", "#pragma once
#include <__tree>
#include <initializer_list>
namespace std <%
template <class K, class C = less<K>, class A = allocator<K>> class set : public __tree<K, K, __selfOf, C, false> <%
  typedef __tree<K, K, __selfOf, C, false> __base;
public:
  typedef A allocator_type;
  typedef C value_compare;
  typedef typename __base::iterator iterator;
  typedef typename __base::const_iterator const_iterator;
  set() <%%>
  explicit set(const C &c, const A & = A()) : __base(c) <%%>
  template <class I> set(I a, I b, const C &c = C()) : __base(c) <% insert(a, b); %>
  set(initializer_list<K> l, const C &c = C()) : __base(c) <% insert(l.begin(), l.end()); %>
  set(const set &) = default;
  set(set &&) = default;
  set &operator=(const set &) = default;
  set &operator=(set &&) = default;
  set &operator=(initializer_list<K> l) <% this->clear(); insert(l.begin(), l.end()); return *this; %>
  C value_comp() const <% return this->__order; %>
  pair<iterator, bool> insert(const K &v) <% auto r = this->__add(v); return pair<iterator, bool>(iterator(r.first), r.second); %>
  pair<iterator, bool> insert(K &&v) <% auto r = this->__add(static_cast<K &&>(v)); return pair<iterator, bool>(iterator(r.first), r.second); %>
  iterator insert(const_iterator, const K &v) <% return iterator(this->__add(v).first); %>
  template <class I, class = typename iterator_traits<I>::iterator_category> void insert(I a, I b) <% for (; a != b; ++a) this->__add(*a); %>
  void insert(initializer_list<K> l) <% insert(l.begin(), l.end()); %>
  template <class... B> pair<iterator, bool> emplace(B &&...b) <% auto r = this->__add(static_cast<B &&>(b)...); return pair<iterator, bool>(iterator(r.first), r.second); %>
  template <class... B> iterator emplace_hint(const_iterator, B &&...b) <% return iterator(this->__add(static_cast<B &&>(b)...).first); %>
%>;
template <class K, class C = less<K>, class A = allocator<K>> class multiset : public __tree<K, K, __selfOf, C, true> <%
  typedef __tree<K, K, __selfOf, C, true> __base;
public:
  typedef A allocator_type;
  typedef C value_compare;
  typedef typename __base::iterator iterator;
  typedef typename __base::const_iterator const_iterator;
  multiset() <%%>
  explicit multiset(const C &c, const A & = A()) : __base(c) <%%>
  template <class I> multiset(I a, I b, const C &c = C()) : __base(c) <% insert(a, b); %>
  multiset(initializer_list<K> l, const C &c = C()) : __base(c) <% insert(l.begin(), l.end()); %>
  multiset(const multiset &) = default;
  multiset(multiset &&) = default;
  multiset &operator=(const multiset &) = default;
  multiset &operator=(multiset &&) = default;
  multiset &operator=(initializer_list<K> l) <% this->clear(); insert(l.begin(), l.end()); return *this; %>
  iterator insert(const K &v) <% return iterator(this->__add(v).first); %>
  iterator insert(K &&v) <% return iterator(this->__add(static_cast<K &&>(v)).first); %>
  template <class I, class = typename iterator_traits<I>::iterator_category> void insert(I a, I b) <% for (; a != b; ++a) this->__add(*a); %>
  void insert(initializer_list<K> l) <% insert(l.begin(), l.end()); %>
  template <class... B> iterator emplace(B &&...b) <% return iterator(this->__add(static_cast<B &&>(b)...).first); %>
%>;
template <class I> set(I, I) -> set<typename iterator_traits<I>::value_type>;
template <class K> set(initializer_list<K>) -> set<K>;
%>
"),

  ("__table", "#pragma once
#include <__memory>
#include <__hash>
#include <__order>
#include <__compare>
#include <initializer_list>
#include <stdexcept>
namespace std <%
inline constexpr unsigned long __sizes[] = <%2, 3, 5, 7, 11, 13, 17, 19, 23, 29, 31, 37, 41, 43, 47, 53, 59, 61, 67, 71, 73, 79, 83, 89, 97, 103, 109, 113, 127, 137, 139, 149, 157, 167, 179, 193, 199, 211, 227, 241, 257, 277, 293, 313, 337, 359, 383, 409, 439, 467, 503, 541, 577, 619, 661, 709, 761, 823, 887, 953, 1031, 1109, 1193, 1289, 1381, 1493, 1613, 1741, 1879, 2029, 2179, 2357, 2549, 2753, 2971, 3209, 3469, 3739, 4027, 4349, 4703, 5087, 5503, 5953, 6427, 6949, 7517, 8123, 8783, 9497, 10273, 11113, 12011, 12983, 14033, 15173, 16411, 17749, 19183, 20753, 22447, 24281, 26267, 28411, 30727, 33223, 35933, 38873, 42043, 45481, 49201, 53201, 57557, 62233, 67307, 72817, 78779, 85229, 92203, 99733, 107897, 116731, 126271, 136607, 147793, 159871, 172933, 187091, 202409, 218971, 236897, 256279, 277261, 299951, 324503, 351061, 379787, 410857, 444487, 480881, 520241, 562841, 608903, 658753, 712697, 771049, 834181, 902483, 976369, 1056323, 1142821, 1236397, 1337629, 1447153, 1565659, 1693859, 1832561, 1982627, 2144977, 2320627, 2510653, 2716249, 2938679, 3179303, 3439651, 3721303, 4026031, 4355707, 4712381, 5098259, 5515729, 5967347, 6456007, 6984629, 7556579, 8175383, 8844859, 9569143, 10352717, 11200489, 12117689, 13109983, 14183539, 15345007, 16601593, 17961079, 19431899, 21023161, 22744717, 24607243, 26622317, 28802401, 31160981, 33712729, 36473443, 39460231, 42691603, 46187573, 49969847, 54061849, 58488943, 63278561, 68460391, 74066549, 80131819, 86693767, 93793069, 101473717, 109783337, 118773397, 128499677, 139022417, 150406843, 162723577, 176048909, 190465427, 206062531, 222936881, 241193053, 260944219, 282312799, 305431229, 330442829, 357502601, 386778277, 418451333, 452718089, 489790921, 529899637, 573292817, 620239453, 671030513, 725980837, 785430967, 849749479, 919334987, 994618837, 1076067617, 1164186217, 1259520799, 1362662261, 1474249943, 1594975441, 1725587117, 1866894511, 2019773507, 2185171673, 2364114217, 2557710269, 2767159799, 2993761039, 3238918481, 3504151727, 3791104843, 4101556399%>;
inline size_t __sizeFor(size_t n) <%
  static constexpr unsigned char small[] = <%2, 2, 2, 3, 5, 5, 7, 7, 11, 11, 11, 11, 13, 13%>;
  if (n < 14) return n == 0 ? 1 : small[n];
  size_t i = 0;
  while (__sizes[i] < n) ++i;
  return __sizes[i];
%>
struct __chain <% __chain *next; %>;
template <class V> struct __chainNode : __chain <% V value; size_t code; template <class... A> __chainNode(A &&...a) : value(static_cast<A &&>(a)...) <%%> %>;
template <class V> struct __chainIterator <%
  typedef forward_iterator_tag iterator_category;
  typedef typename remove_const<V>::type value_type;
  typedef ptrdiff_t difference_type;
  typedef V *pointer;
  typedef V &reference;
  __chain *at;
  __chainIterator() : at(nullptr) <%%>
  explicit __chainIterator(__chain *x) : at(x) <%%>
  __chainIterator(const __chainIterator<value_type> &o) : at(o.at) <%%>
  V &operator*() const <% return static_cast<__chainNode<value_type> *>(at)->value; %>
  V *operator->() const <% return &static_cast<__chainNode<value_type> *>(at)->value; %>
  __chainIterator &operator++() <% at = at->next; return *this; %>
  __chainIterator operator++(int) <% __chainIterator t(at); at = at->next; return t; %>
%>;
template <class V, class W> bool operator==(const __chainIterator<V> &a, const __chainIterator<W> &b) <% return a.at == b.at; %>
template <class V, class W> bool operator!=(const __chainIterator<V> &a, const __chainIterator<W> &b) <% return a.at != b.at; %>
struct __keyFirst <% template <class P> const typename P::first_type &operator()(const P &p) const <% return p.first; %> %>;
struct __keySelf <% template <class T> const T &operator()(const T &t) const <% return t; %> %>;
template <class K, class V, class G, class H, class E, bool M> class __table <%
protected:
  typedef __chainNode<V> __node;
  __chain **__slots;
  size_t __width;
  __chain __front;
  size_t __count;
  float __load;
  size_t __limit;
  __chain *__one;
  H __hasher;
  E __equal;
  void __start() <% __slots = &__one; __width = 1; __front.next = nullptr; __count = 0; __load = 1.0f; __limit = 0; __one = nullptr; %>
  static const K &__keyOf(const __chain *x) <% return G()(static_cast<const __node *>(x)->value); %>
  static size_t __codeOf(const __chain *x) <% return static_cast<const __node *>(x)->code; %>
  size_t __slotOf(const __chain *x) const <% return __codeOf(x) % __width; %>
  void __setWidth(size_t n) <%
    __chain **slots = n == 1 ? &__one : static_cast<__chain **>(::operator new(n * sizeof(__chain *)));
    for (size_t i = 0; i < n; ++i) slots[i] = nullptr;
    __chain *p = __front.next, *last = nullptr;
    __front.next = nullptr;
    size_t frontSlot = 0;
    while (p) <%
      __chain *next = p->next;
      size_t b = __codeOf(p) % n;
      if (M && last && __codeOf(last) % n == b && __codeOf(last) == __codeOf(p)) <%
        p->next = last->next;
        last->next = p;
        if (p->next && __codeOf(p->next) % n != b) slots[__codeOf(p->next) % n] = p;
      %> else if (!slots[b]) <%
        p->next = __front.next;
        __front.next = p;
        slots[b] = &__front;
        if (p->next) slots[frontSlot] = p;
        frontSlot = b;
      %> else <%
        p->next = slots[b]->next;
        slots[b]->next = p;
      %>
      last = p;
      p = next;
    %>
    if (__slots != &__one) ::operator delete(__slots);
    __slots = slots;
    __width = n;
  %>
  size_t __nextWidth(size_t n) <% if (n == 0) return 1; size_t w = __sizeFor(n); __limit = size_t(double(w) * double(__load)); return w; %>
  __chain *__findBefore(const K &k, size_t code) const <%
    size_t b = code % __width;
    __chain *before = __slots[b];
    if (!before) return nullptr;
    for (__chain *p = before->next; p && __codeOf(p) % __width == b; before = p, p = p->next) if (__codeOf(p) == code && __equal(k, __keyOf(p))) return before;
    return nullptr;
  %>
  __chain *__find(const K &k) const <% if (!__count) return nullptr; __chain *b = __findBefore(k, __hasher(k)); return b ? b->next : nullptr; %>
  void __makeRoom() <%
    if (__count + 1 > __limit) <%
      double least = double(__limit == 0 && __count + 1 < 11 ? 11 : __count + 1) / double(__load);
      if (least >= double(__width)) <%
        size_t wanted = size_t(least) + 1;
        __setWidth(__nextWidth(wanted > __width * 2 ? wanted : __width * 2));
      %> else __limit = size_t(double(__width) * double(__load));
    %>
  %>
  void __putFirst(__node *n) <%
    size_t b = n->code % __width;
    if (__slots[b]) <% n->next = __slots[b]->next; __slots[b]->next = n; %>
    else <%
      n->next = __front.next;
      __front.next = n;
      if (n->next) __slots[__slotOf(n->next)] = n;
      __slots[b] = &__front;
    %>
  %>
  pair<__chain *, bool> __place(__node *n) <%
    const K &k = __keyOf(n);
    n->code = __hasher(k);
    if (!M) <%
      __chain *before = __findBefore(k, n->code);
      if (before) return pair<__chain *, bool>(before->next, false);
      __makeRoom();
      __putFirst(n);
    %> else <%
      __makeRoom();
      __chain *before = __findBefore(k, n->code);
      if (before) <% n->next = before->next; before->next = n; %>
      else __putFirst(n);
    %>
    ++__count;
    return pair<__chain *, bool>(n, true);
  %>
  template <class... A> pair<__chain *, bool> __add(A &&...a) <%
    __node *n = new __node(static_cast<A &&>(a)...);
    pair<__chain *, bool> r = __place(n);
    if (!r.second) delete n;
    return r;
  %>
  __chain *__drop(__chain *x) <%
    size_t b = __slotOf(x);
    __chain *before = __slots[b];
    while (before->next != x) before = before->next;
    __chain *next = x->next;
    if (before == __slots[b]) <%
      if (!next || __slotOf(next) != b) <%
        if (next) __slots[__slotOf(next)] = __slots[b];
        __slots[b] = nullptr;
      %>
    %> else if (next && __slotOf(next) != b) __slots[__slotOf(next)] = before;
    before->next = next;
    delete static_cast<__node *>(x);
    --__count;
    return next;
  %>
  void __dropAll() <% for (__chain *p = __front.next; p;) <% __chain *n = p->next; delete static_cast<__node *>(p); p = n; %> __front.next = nullptr; __count = 0; %>
  void __free() <% __dropAll(); if (__slots != &__one) ::operator delete(__slots); %>
  void __copyFrom(const __table &o) <%
    __load = o.__load; __limit = o.__limit; __width = o.__width; __count = o.__count;
    __slots = __width == 1 ? &__one : static_cast<__chain **>(::operator new(__width * sizeof(__chain *)));
    for (size_t i = 0; i < __width; ++i) __slots[i] = nullptr;
    __chain *last = &__front;
    for (__chain *p = o.__front.next; p; p = p->next) <%
      __node *n = new __node(static_cast<__node *>(p)->value);
      n->code = __codeOf(p);
      n->next = nullptr;
      last->next = n;
      size_t b = __slotOf(n);
      if (!__slots[b]) __slots[b] = last;
      last = n;
    %>
  %>
  void __takeFrom(__table &o) <%
    __load = o.__load; __limit = o.__limit; __width = o.__width; __count = o.__count; __front.next = o.__front.next;
    if (o.__slots == &o.__one) <% __one = o.__one; __slots = &__one; %> else __slots = o.__slots;
    if (__front.next) __slots[__slotOf(__front.next)] = &__front;
    o.__start();
  %>
public:
  typedef K key_type;
  typedef V value_type;
  typedef size_t size_type;
  typedef ptrdiff_t difference_type;
  typedef H hasher;
  typedef E key_equal;
  typedef V &reference;
  typedef const V &const_reference;
  typedef V *pointer;
  typedef const V *const_pointer;
  typedef typename conditional<is_same<K, V>::value, __chainIterator<const V>, __chainIterator<V>>::type iterator;
  typedef __chainIterator<const V> const_iterator;
  __table() <% __start(); %>
  __table(size_t n, const H &h, const E &e) : __hasher(h), __equal(e) <% __start(); size_t w = __nextWidth(n); if (w > __width) __setWidth(w); %>
  __table(const __table &o) : __hasher(o.__hasher), __equal(o.__equal) <% __start(); __copyFrom(o); %>
  __table(__table &&o) : __hasher(o.__hasher), __equal(o.__equal) <% __start(); __takeFrom(o); %>
  ~__table() <% __free(); %>
  __table &operator=(const __table &o) <% if (this != &o) <% __free(); __start(); __copyFrom(o); %> return *this; %>
  __table &operator=(__table &&o) <% if (this != &o) <% __free(); __start(); __takeFrom(o); %> return *this; %>
  iterator begin() noexcept <% return iterator(__front.next); %>
  iterator end() noexcept <% return iterator(nullptr); %>
  const_iterator begin() const noexcept <% return const_iterator(__front.next); %>
  const_iterator end() const noexcept <% return const_iterator(nullptr); %>
  const_iterator cbegin() const noexcept <% return begin(); %>
  const_iterator cend() const noexcept <% return end(); %>
  bool empty() const noexcept <% return __count == 0; %>
  size_t size() const noexcept <% return __count; %>
  size_t max_size() const noexcept <% return size_t(-1) / 2 / sizeof(__node); %>
  void clear() noexcept <% __dropAll(); for (size_t i = 0; i < __width; ++i) __slots[i] = nullptr; %>
  size_t bucket_count() const noexcept <% return __width; %>
  size_t bucket(const K &k) const <% return __hasher(k) % __width; %>
  size_t bucket_size(size_t n) const <% size_t c = 0; for (__chain *p = __front.next; p; p = p->next) if (__slotOf(p) == n) ++c; return c; %>
  float load_factor() const noexcept <% return float(__count) / float(__width); %>
  float max_load_factor() const noexcept <% return __load; %>
  void max_load_factor(float f) <% __load = f; __limit = size_t(double(__width) * double(f)); %>
  void rehash(size_t n) <% size_t least = size_t(double(__count) / double(__load)) + 1; if (__count == 0) least = 0; size_t w = __nextWidth(n > least ? n : least); if (w != __width) __setWidth(w); %>
  void reserve(size_t n) <% double w = double(n) / double(__load); size_t k = size_t(w); rehash(double(k) < w ? k + 1 : k); %>
  H hash_function() const <% return __hasher; %>
  E key_eq() const <% return __equal; %>
  iterator find(const K &k) <% return iterator(__find(k)); %>
  const_iterator find(const K &k) const <% return const_iterator(__find(k)); %>
  size_t count(const K &k) const <% size_t n = 0; for (__chain *p = __find(k); p && __equal(k, __keyOf(p)); p = p->next) ++n; return n; %>
  bool contains(const K &k) const <% return __find(k) != nullptr; %>
  pair<iterator, iterator> equal_range(const K &k) <% __chain *p = __find(k), *q = p; while (q && __equal(k, __keyOf(q))) q = q->next; return pair<iterator, iterator>(iterator(p), iterator(q)); %>
  pair<const_iterator, const_iterator> equal_range(const K &k) const <% __chain *p = __find(k), *q = p; while (q && __equal(k, __keyOf(q))) q = q->next; return pair<const_iterator, const_iterator>(const_iterator(p), const_iterator(q)); %>
  iterator erase(const_iterator i) <% return iterator(__drop(i.at)); %>
  iterator erase(const_iterator a, const_iterator b) <% while (a != b) a = const_iterator(__drop(a.at)); return iterator(b.at); %>
  size_t erase(const K &k) <% size_t n = 0; __chain *p = __find(k); if (!p) return 0; __chain *q = p; while (q && __equal(k, __keyOf(q))) <% q = q->next; ++n; %> while (p != q) p = __drop(p); return n; %>
  void swap(__table &o) <% __table t(static_cast<__table &&>(o)); o = static_cast<__table &&>(*this); *this = static_cast<__table &&>(t); %>
  bool operator==(const __table &o) const <%
    if (__count != o.__count) return false;
    for (auto i = begin(); i != end(); ++i) <%
      if (count(G()(*i)) != o.count(G()(*i))) return false;
      bool found = false;
      auto r = o.equal_range(G()(*i));
      for (auto j = r.first; j != r.second; ++j) if (*i == *j) found = true;
      if (!found) return false;
    %>
    return true;
  %>
  bool operator!=(const __table &o) const <% return !(*this == o); %>
%>;
template <class K, class V, class G, class H, class E, bool M> void swap(__table<K, V, G, H, E, M> &a, __table<K, V, G, H, E, M> &b) <% a.swap(b); %>
%>
"),

  ("unordered_map", "#pragma once
#include <__table>
namespace std <%
template <class K, class T, class H = hash<K>, class E = equal_to<K>, class A = allocator<pair<const K, T>>> class unordered_map : public __table<K, pair<const K, T>, __keyFirst, H, E, false> <%
  typedef __table<K, pair<const K, T>, __keyFirst, H, E, false> __base;
  typedef __chainNode<pair<const K, T>> __node;
public:
  typedef T mapped_type;
  typedef pair<const K, T> value_type;
  typedef A allocator_type;
  typedef typename __base::iterator iterator;
  typedef typename __base::const_iterator const_iterator;
  unordered_map() <%%>
  explicit unordered_map(size_t n, const H &h = H(), const E &e = E()) : __base(n, h, e) <%%>
  template <class I, class = typename iterator_traits<I>::iterator_category> unordered_map(I a, I b, size_t n = 0, const H &h = H(), const E &e = E()) : __base(n, h, e) <% insert(a, b); %>
  unordered_map(initializer_list<value_type> l, size_t n = 0, const H &h = H(), const E &e = E()) : __base(n, h, e) <% insert(l.begin(), l.end()); %>
  unordered_map(const unordered_map &) = default;
  unordered_map(unordered_map &&) = default;
  unordered_map &operator=(const unordered_map &) = default;
  unordered_map &operator=(unordered_map &&) = default;
  unordered_map &operator=(initializer_list<value_type> l) <% this->clear(); if (this->__width < l.size()) this->rehash(l.size()); insert(l.begin(), l.end()); return *this; %>
  T &operator[](const K &k) <% __chain *x = this->__find(k); if (!x) x = this->__add(k, T()).first; return static_cast<__node *>(x)->value.second; %>
  T &operator[](K &&k) <% __chain *x = this->__find(k); if (!x) x = this->__add(static_cast<K &&>(k), T()).first; return static_cast<__node *>(x)->value.second; %>
  T &at(const K &k) <% __chain *x = this->__find(k); if (!x) __throw_out_of_range(\"_Map_base::at\"); return static_cast<__node *>(x)->value.second; %>
  const T &at(const K &k) const <% __chain *x = this->__find(k); if (!x) __throw_out_of_range(\"_Map_base::at\"); return static_cast<__node *>(x)->value.second; %>
  pair<iterator, bool> insert(const value_type &v) <% auto r = this->__add(v); return pair<iterator, bool>(iterator(r.first), r.second); %>
  pair<iterator, bool> insert(value_type &&v) <% auto r = this->__add(static_cast<value_type &&>(v)); return pair<iterator, bool>(iterator(r.first), r.second); %>
  template <class P, class = enable_if_t<is_constructible<value_type, P &&>::value>> pair<iterator, bool> insert(P &&p) <% auto r = this->__add(static_cast<P &&>(p)); return pair<iterator, bool>(iterator(r.first), r.second); %>
  template <class I, class = typename iterator_traits<I>::iterator_category> void insert(I a, I b) <% for (; a != b; ++a) this->__add(*a); %>
  void insert(initializer_list<value_type> l) <% insert(l.begin(), l.end()); %>
  template <class... B> pair<iterator, bool> emplace(B &&...b) <% auto r = this->__add(static_cast<B &&>(b)...); return pair<iterator, bool>(iterator(r.first), r.second); %>
  template <class... B> pair<iterator, bool> try_emplace(const K &k, B &&...b) <% __chain *x = this->__find(k); if (x) return pair<iterator, bool>(iterator(x), false); return pair<iterator, bool>(iterator(this->__add(k, T(static_cast<B &&>(b)...)).first), true); %>
  template <class... B> pair<iterator, bool> try_emplace(K &&k, B &&...b) <% __chain *x = this->__find(k); if (x) return pair<iterator, bool>(iterator(x), false); return pair<iterator, bool>(iterator(this->__add(static_cast<K &&>(k), T(static_cast<B &&>(b)...)).first), true); %>
  template <class U> pair<iterator, bool> insert_or_assign(const K &k, U &&u) <% __chain *x = this->__find(k); if (x) <% static_cast<__node *>(x)->value.second = static_cast<U &&>(u); return pair<iterator, bool>(iterator(x), false); %> return pair<iterator, bool>(iterator(this->__add(k, static_cast<U &&>(u)).first), true); %>
%>;
template <class K, class T, class H = hash<K>, class E = equal_to<K>, class A = allocator<pair<const K, T>>> class unordered_multimap : public __table<K, pair<const K, T>, __keyFirst, H, E, true> <%
  typedef __table<K, pair<const K, T>, __keyFirst, H, E, true> __base;
public:
  typedef T mapped_type;
  typedef pair<const K, T> value_type;
  typedef typename __base::iterator iterator;
  typedef typename __base::const_iterator const_iterator;
  unordered_multimap() <%%>
  explicit unordered_multimap(size_t n, const H &h = H(), const E &e = E()) : __base(n, h, e) <%%>
  template <class I, class = typename iterator_traits<I>::iterator_category> unordered_multimap(I a, I b, size_t n = 0, const H &h = H(), const E &e = E()) : __base(n > size_t(distance(a, b)) ? n : size_t(distance(a, b)), h, e) <% insert(a, b); %>
  unordered_multimap(initializer_list<value_type> l, size_t n = 0, const H &h = H(), const E &e = E()) : __base(n > l.size() ? n : l.size(), h, e) <% insert(l.begin(), l.end()); %>
  iterator insert(const value_type &v) <% return iterator(this->__add(v).first); %>
  template <class P, class = enable_if_t<is_constructible<value_type, P &&>::value>> iterator insert(P &&p) <% return iterator(this->__add(static_cast<P &&>(p)).first); %>
  template <class I, class = typename iterator_traits<I>::iterator_category> void insert(I a, I b) <% for (; a != b; ++a) this->__add(*a); %>
  template <class... B> iterator emplace(B &&...b) <% return iterator(this->__add(static_cast<B &&>(b)...).first); %>
%>;
%>
"),

  ("unordered_set", "#pragma once
#include <__table>
namespace std <%
template <class K, class H = hash<K>, class E = equal_to<K>, class A = allocator<K>> class unordered_set : public __table<K, K, __keySelf, H, E, false> <%
  typedef __table<K, K, __keySelf, H, E, false> __base;
public:
  typedef A allocator_type;
  typedef typename __base::iterator iterator;
  typedef typename __base::const_iterator const_iterator;
  unordered_set() <%%>
  explicit unordered_set(size_t n, const H &h = H(), const E &e = E()) : __base(n, h, e) <%%>
  template <class I, class = typename iterator_traits<I>::iterator_category> unordered_set(I a, I b, size_t n = 0, const H &h = H(), const E &e = E()) : __base(n, h, e) <% insert(a, b); %>
  unordered_set(initializer_list<K> l, size_t n = 0, const H &h = H(), const E &e = E()) : __base(n, h, e) <% insert(l.begin(), l.end()); %>
  unordered_set(const unordered_set &) = default;
  unordered_set(unordered_set &&) = default;
  unordered_set &operator=(const unordered_set &) = default;
  unordered_set &operator=(unordered_set &&) = default;
  unordered_set &operator=(initializer_list<K> l) <% this->clear(); if (this->__width < l.size()) this->rehash(l.size()); insert(l.begin(), l.end()); return *this; %>
  pair<iterator, bool> insert(const K &v) <% auto r = this->__add(v); return pair<iterator, bool>(iterator(r.first), r.second); %>
  pair<iterator, bool> insert(K &&v) <% auto r = this->__add(static_cast<K &&>(v)); return pair<iterator, bool>(iterator(r.first), r.second); %>
  template <class I, class = typename iterator_traits<I>::iterator_category> void insert(I a, I b) <% for (; a != b; ++a) this->__add(*a); %>
  void insert(initializer_list<K> l) <% insert(l.begin(), l.end()); %>
  template <class... B> pair<iterator, bool> emplace(B &&...b) <% auto r = this->__add(static_cast<B &&>(b)...); return pair<iterator, bool>(iterator(r.first), r.second); %>
%>;
template <class K, class H = hash<K>, class E = equal_to<K>, class A = allocator<K>> class unordered_multiset : public __table<K, K, __keySelf, H, E, true> <%
  typedef __table<K, K, __keySelf, H, E, true> __base;
public:
  typedef typename __base::iterator iterator;
  typedef typename __base::const_iterator const_iterator;
  unordered_multiset() <%%>
  explicit unordered_multiset(size_t n, const H &h = H(), const E &e = E()) : __base(n, h, e) <%%>
  template <class I, class = typename iterator_traits<I>::iterator_category> unordered_multiset(I a, I b, size_t n = 0, const H &h = H(), const E &e = E()) : __base(n > size_t(distance(a, b)) ? n : size_t(distance(a, b)), h, e) <% insert(a, b); %>
  unordered_multiset(initializer_list<K> l, size_t n = 0, const H &h = H(), const E &e = E()) : __base(n > l.size() ? n : l.size(), h, e) <% insert(l.begin(), l.end()); %>
  iterator insert(const K &v) <% return iterator(this->__add(v).first); %>
  iterator insert(K &&v) <% return iterator(this->__add(static_cast<K &&>(v)).first); %>
  template <class I, class = typename iterator_traits<I>::iterator_category> void insert(I a, I b) <% for (; a != b; ++a) this->__add(*a); %>
  template <class... B> iterator emplace(B &&...b) <% return iterator(this->__add(static_cast<B &&>(b)...).first); %>
%>;
%>
")]

end ModuleForge.Host.Native.Headers
