/-!
# Headers of texts

Texts, parts of texts, and numbers written down and read.
-/
namespace ModuleForge.Host.Native.Headers

/-- The headers by their names. -/
def texts : List (String × String) := [
  ("__string", "#pragma once
#include <cstring>
#include <cstdio>
#include <cstdlib>
#include <cerrno>
#include <__memory>
#include <__hash>
namespace std <%
void __throw_out_of_range(const char *);
void __throw_length_error(const char *);
void __throw_logic_error(const char *);
void __throw_invalid_argument(const char *);
template <class C> struct char_traits <%
  typedef C char_type;
  typedef int int_type;
  typedef long off_type;
  typedef long pos_type;
  static constexpr size_t length(const C *s) <% size_t n = 0; while (s[n] != C()) ++n; return n; %>
  static constexpr int compare(const C *a, const C *b, size_t n) <% for (size_t i = 0; i < n; ++i) <% if (a[i] < b[i]) return -1; if (b[i] < a[i]) return 1; %> return 0; %>
  static constexpr const C *find(const C *s, size_t n, const C &c) <% for (size_t i = 0; i < n; ++i) if (s[i] == c) return s + i; return nullptr; %>
  static constexpr C *move(C *a, const C *b, size_t n) <% __builtin_memmove(a, b, n * sizeof(C)); return a; %>
  static constexpr C *copy(C *a, const C *b, size_t n) <% __builtin_memcpy(a, b, n * sizeof(C)); return a; %>
  static constexpr C *assign(C *a, size_t n, C c) <% for (size_t i = 0; i < n; ++i) a[i] = c; return a; %>
  static constexpr void assign(C &a, const C &b) <% a = b; %>
  static constexpr bool eq(C a, C b) <% return a == b; %>
  static constexpr bool lt(C a, C b) <% return a < b; %>
  static constexpr C to_char_type(int i) <% return C(i); %>
  static constexpr int to_int_type(C c) <% return c; %>
  static constexpr int eof() <% return -1; %>
  static constexpr bool eq_int_type(int a, int b) <% return a == b; %>
  static constexpr int not_eof(int c) <% return c == -1 ? 0 : c; %>
%>;
template <> struct char_traits<char> <%
  typedef char char_type;
  typedef int int_type;
  typedef long off_type;
  typedef long pos_type;
  static constexpr size_t length(const char *s) <% return __builtin_strlen(s); %>
  static constexpr int compare(const char *a, const char *b, size_t n) <% return n ? __builtin_memcmp(a, b, n) : 0; %>
  static constexpr const char *find(const char *s, size_t n, const char &c) <% return n ? (const char *)__builtin_memchr(s, c, n) : nullptr; %>
  static char *move(char *a, const char *b, size_t n) <% if (n) __builtin_memmove(a, b, n); return a; %>
  static char *copy(char *a, const char *b, size_t n) <% if (n) __builtin_memcpy(a, b, n); return a; %>
  static char *assign(char *a, size_t n, char c) <% if (n) __builtin_memset(a, c, n); return a; %>
  static constexpr void assign(char &a, const char &b) <% a = b; %>
  static constexpr bool eq(char a, char b) <% return a == b; %>
  static constexpr bool lt(char a, char b) <% return (unsigned char)a < (unsigned char)b; %>
  static constexpr char to_char_type(int i) <% return char(i); %>
  static constexpr int to_int_type(char c) <% return (unsigned char)c; %>
  static constexpr int eof() <% return -1; %>
  static constexpr bool eq_int_type(int a, int b) <% return a == b; %>
  static constexpr int not_eof(int c) <% return c == -1 ? 0 : c; %>
%>;
#if __cplusplus >= 201703L
template <class C, class R = char_traits<C>> class basic_string_view <%
  size_t __size;
  const C *__data;
public:
  typedef R traits_type;
  typedef C value_type;
  typedef const C *pointer;
  typedef const C *const_pointer;
  typedef const C &reference;
  typedef const C &const_reference;
  typedef const C *const_iterator;
  typedef const_iterator iterator;
  typedef std::reverse_iterator<const_iterator> const_reverse_iterator;
  typedef const_reverse_iterator reverse_iterator;
  typedef size_t size_type;
  typedef ptrdiff_t difference_type;
  static constexpr size_t npos = size_t(-1);
  constexpr basic_string_view() noexcept : __size(0), __data(nullptr) <%%>
  constexpr basic_string_view(const basic_string_view &) noexcept = default;
  constexpr basic_string_view(const C *s) : __size(R::length(s)), __data(s) <%%>
  constexpr basic_string_view(const C *s, size_t n) : __size(n), __data(s) <%%>
  constexpr basic_string_view &operator=(const basic_string_view &) noexcept = default;
  constexpr const C *begin() const noexcept <% return __data; %>
  constexpr const C *end() const noexcept <% return __data + __size; %>
  constexpr const C *cbegin() const noexcept <% return __data; %>
  constexpr const C *cend() const noexcept <% return __data + __size; %>
  constexpr const_reverse_iterator rbegin() const <% return const_reverse_iterator(end()); %>
  constexpr const_reverse_iterator rend() const <% return const_reverse_iterator(begin()); %>
  constexpr size_t size() const noexcept <% return __size; %>
  constexpr size_t length() const noexcept <% return __size; %>
  constexpr size_t max_size() const noexcept <% return size_t(0x3fffffffffffffff); %>
  constexpr bool empty() const noexcept <% return __size == 0; %>
  constexpr const C &operator[](size_t i) const noexcept <% return __data[i]; %>
  constexpr const C &at(size_t i) const <% if (i >= __size) __throw_out_of_range(\"basic_string_view::at\"); return __data[i]; %>
  constexpr const C &front() const noexcept <% return __data[0]; %>
  constexpr const C &back() const noexcept <% return __data[__size - 1]; %>
  constexpr const C *data() const noexcept <% return __data; %>
  constexpr void remove_prefix(size_t n) noexcept <% __data += n; __size -= n; %>
  constexpr void remove_suffix(size_t n) noexcept <% __size -= n; %>
  constexpr void swap(basic_string_view &o) noexcept <% basic_string_view t = *this; *this = o; o = t; %>
  size_t copy(C *s, size_t n, size_t i = 0) const <% if (i > __size) __throw_out_of_range(\"basic_string_view::copy\"); if (n > __size - i) n = __size - i; R::copy(s, __data + i, n); return n; %>
  constexpr basic_string_view substr(size_t i = 0, size_t n = npos) const <% if (i > __size) __throw_out_of_range(\"basic_string_view::substr\"); return basic_string_view(__data + i, n < __size - i ? n : __size - i); %>
  constexpr int compare(basic_string_view o) const noexcept <% size_t n = __size < o.__size ? __size : o.__size; int r = R::compare(__data, o.__data, n); if (r == 0) r = __size < o.__size ? -1 : __size > o.__size ? 1 : 0; return r; %>
  constexpr int compare(size_t i, size_t n, basic_string_view o) const <% return substr(i, n).compare(o); %>
  constexpr bool starts_with(basic_string_view o) const noexcept <% return __size >= o.__size && R::compare(__data, o.__data, o.__size) == 0; %>
  constexpr bool starts_with(C c) const noexcept <% return __size && __data[0] == c; %>
  constexpr bool ends_with(basic_string_view o) const noexcept <% return __size >= o.__size && R::compare(__data + __size - o.__size, o.__data, o.__size) == 0; %>
  constexpr bool ends_with(C c) const noexcept <% return __size && __data[__size - 1] == c; %>
  constexpr size_t find(const C *s, size_t i, size_t n) const <% if (n == 0) return i <= __size ? i : npos; for (; i < __size && n <= __size - i; ++i) if (__data[i] == s[0] && R::compare(__data + i, s, n) == 0) return i; return npos; %>
  constexpr size_t find(basic_string_view o, size_t i = 0) const <% return find(o.__data, i, o.__size); %>
  constexpr size_t find(C c, size_t i = 0) const <% for (; i < __size; ++i) if (__data[i] == c) return i; return npos; %>
  constexpr size_t find(const C *s, size_t i = 0) const <% return find(s, i, R::length(s)); %>
  constexpr size_t rfind(basic_string_view o, size_t i = npos) const <% if (o.__size > __size) return npos; size_t k = __size - o.__size; if (i < k) k = i; for (;; --k) <% if (R::compare(__data + k, o.__data, o.__size) == 0) return k; if (k == 0) return npos; %> %>
  constexpr size_t rfind(C c, size_t i = npos) const <% for (size_t k = __size; k > 0; --k) if (k - 1 <= i && __data[k - 1] == c) return k - 1; return npos; %>
  constexpr size_t find_first_of(basic_string_view o, size_t i = 0) const <% for (; i < __size; ++i) if (o.find(__data[i]) != npos) return i; return npos; %>
  constexpr size_t find_first_not_of(basic_string_view o, size_t i = 0) const <% for (; i < __size; ++i) if (o.find(__data[i]) == npos) return i; return npos; %>
  constexpr size_t find_last_of(basic_string_view o, size_t i = npos) const <% for (size_t k = __size; k > 0; --k) if (k - 1 <= i && o.find(__data[k - 1]) != npos) return k - 1; return npos; %>
  constexpr size_t find_last_not_of(basic_string_view o, size_t i = npos) const <% for (size_t k = __size; k > 0; --k) if (k - 1 <= i && o.find(__data[k - 1]) == npos) return k - 1; return npos; %>
%>;
template <class C, class R> constexpr bool operator==(basic_string_view<C, R> a, basic_string_view<C, R> b) noexcept <% return a.size() == b.size() && a.compare(b) == 0; %>
template <class C, class R> constexpr bool operator==(basic_string_view<C, R> a, type_identity_t<basic_string_view<C, R>> b) noexcept <% return a.size() == b.size() && a.compare(b) == 0; %>
template <class C, class R> constexpr bool operator==(type_identity_t<basic_string_view<C, R>> a, basic_string_view<C, R> b) noexcept <% return a.size() == b.size() && a.compare(b) == 0; %>
template <class C, class R> constexpr bool operator!=(basic_string_view<C, R> a, basic_string_view<C, R> b) noexcept <% return !(a == b); %>
template <class C, class R> constexpr bool operator!=(basic_string_view<C, R> a, type_identity_t<basic_string_view<C, R>> b) noexcept <% return !(a == b); %>
template <class C, class R> constexpr bool operator!=(type_identity_t<basic_string_view<C, R>> a, basic_string_view<C, R> b) noexcept <% return !(a == b); %>
template <class C, class R> constexpr bool operator<(basic_string_view<C, R> a, basic_string_view<C, R> b) noexcept <% return a.compare(b) < 0; %>
template <class C, class R> constexpr bool operator>(basic_string_view<C, R> a, basic_string_view<C, R> b) noexcept <% return a.compare(b) > 0; %>
template <class C, class R> constexpr bool operator<=(basic_string_view<C, R> a, basic_string_view<C, R> b) noexcept <% return a.compare(b) <= 0; %>
template <class C, class R> constexpr bool operator>=(basic_string_view<C, R> a, basic_string_view<C, R> b) noexcept <% return a.compare(b) >= 0; %>
typedef basic_string_view<char> string_view;
typedef basic_string_view<wchar_t> wstring_view;
inline namespace literals <% inline namespace string_view_literals <%
constexpr string_view operator\"\"sv(const char *s, size_t n) noexcept <% return string_view(s, n); %>
%> %>
template <> struct hash<string_view> <% size_t operator()(string_view s) const noexcept <% return __hash_bytes(s.data(), s.size()); %> %>;
#endif
inline namespace __cxx11 <%
template <class C, class R = char_traits<C>, class A = allocator<C>> class basic_string <%
  C *__data;
  size_t __size;
  union <% C __local[16 / sizeof(C)]; size_t __room; %>;
  static constexpr size_t __inside = 16 / sizeof(C) - 1;
  bool __isLocal() const <% return __data == __local; %>
  void __release() <% if (!__isLocal()) ::operator delete(__data); %>
  static C *__take(size_t n) <% return static_cast<C *>(::operator new((n + 1) * sizeof(C))); %>
  void __start(const C *s, size_t n) <%
    if (n > __inside) <% __data = __take(n); __room = n; %> else __data = __local;
    R::copy(__data, s, n);
    __end(n);
  %>
  void __end(size_t n) <% __size = n; __data[n] = C(); %>
  size_t __more(size_t want) const <%
    size_t old = capacity();
    if (want > max_size()) __throw_length_error(\"basic_string::_M_create\");
    return want > old && want < 2 * old ? 2 * old : want;
  %>
  void __enlarge(size_t want) <%
    size_t n = __more(want);
    C *p = __take(n);
    R::copy(p, __data, __size + 1);
    __release();
    __data = p;
    __room = n;
  %>
  void __check(size_t i, const char *what) const <% if (i > __size) __throw_out_of_range(what); %>
  size_t __limit(size_t i, size_t n) const <% return n < __size - i ? n : __size - i; %>
public:
  typedef R traits_type;
  typedef C value_type;
  typedef A allocator_type;
  typedef size_t size_type;
  typedef ptrdiff_t difference_type;
  typedef C &reference;
  typedef const C &const_reference;
  typedef C *pointer;
  typedef const C *const_pointer;
  typedef C *iterator;
  typedef const C *const_iterator;
  typedef std::reverse_iterator<iterator> reverse_iterator;
  typedef std::reverse_iterator<const_iterator> const_reverse_iterator;
  static constexpr size_t npos = size_t(-1);
  basic_string() noexcept : __data(__local), __size(0) <% __local[0] = C(); %>
  explicit basic_string(const A &) noexcept : __data(__local), __size(0) <% __local[0] = C(); %>
  basic_string(const basic_string &s) <% __start(s.__data, s.__size); %>
  basic_string(basic_string &&s) noexcept <%
    if (s.__isLocal()) <% __data = __local; R::copy(__local, s.__local, s.__size + 1); %>
    else <% __data = s.__data; __room = s.__room; %>
    __size = s.__size;
    s.__data = s.__local;
    s.__end(0);
  %>
  basic_string(const C *s, const A & = A()) <%
    if (!s) __throw_logic_error(\"basic_string: construction from null is not valid\");
    __start(s, R::length(s));
  %>
  basic_string(const C *s, size_t n, const A & = A()) <% __start(s, n); %>
  basic_string(size_t n, C c, const A & = A()) <%
    if (n > max_size()) __throw_length_error(\"basic_string::_M_create\");
    if (n > __inside) <% __data = __take(n); __room = n; %> else __data = __local;
    R::assign(__data, n, c);
    __end(n);
  %>
  basic_string(const basic_string &s, size_t i, size_t n = npos) <%
    s.__check(i, \"basic_string::basic_string\");
    __start(s.__data + i, s.__limit(i, n));
  %>
  template <class I, class = __needs_iterator<I>> basic_string(I a, I b, const A & = A()) : __data(__local), __size(0) <% __local[0] = C(); for (; a != b; ++a) push_back(*a); %>
  basic_string(initializer_list<C> l, const A & = A()) <% __start(l.begin(), l.size()); %>
#if __cplusplus >= 201703L
  explicit basic_string(basic_string_view<C, R> v, const A & = A()) <% __start(v.data(), v.size()); %>
  basic_string &operator=(basic_string_view<C, R> v) <% return assign(v.data(), v.size()); %>
  operator basic_string_view<C, R>() const noexcept <% return basic_string_view<C, R>(__data, __size); %>
  basic_string &operator+=(basic_string_view<C, R> v) <% return append(v.data(), v.size()); %>
  basic_string &append(basic_string_view<C, R> v) <% return append(v.data(), v.size()); %>
  basic_string &assign(basic_string_view<C, R> v) <% return assign(v.data(), v.size()); %>
#endif
  ~basic_string() <% __release(); %>
  basic_string &operator=(const basic_string &s) <% if (this != &s) assign(s.__data, s.__size); return *this; %>
  basic_string &operator=(basic_string &&s) noexcept <%
    if (this == &s) return *this;
    if (s.__isLocal()) <% R::copy(__data, s.__data, s.__size); __end(s.__size); %>
    else <% __release(); __data = s.__data; __size = s.__size; __room = s.__room; s.__data = s.__local; %>
    s.__end(0);
    return *this;
  %>
  basic_string &operator=(const C *s) <% return assign(s, R::length(s)); %>
  basic_string &operator=(C c) <% return assign(&c, 1); %>
  basic_string &operator=(initializer_list<C> l) <% return assign(l.begin(), l.size()); %>
  iterator begin() noexcept <% return __data; %>
  const_iterator begin() const noexcept <% return __data; %>
  iterator end() noexcept <% return __data + __size; %>
  const_iterator end() const noexcept <% return __data + __size; %>
  const_iterator cbegin() const noexcept <% return __data; %>
  const_iterator cend() const noexcept <% return __data + __size; %>
  reverse_iterator rbegin() noexcept <% return reverse_iterator(end()); %>
  const_reverse_iterator rbegin() const noexcept <% return const_reverse_iterator(end()); %>
  reverse_iterator rend() noexcept <% return reverse_iterator(begin()); %>
  const_reverse_iterator rend() const noexcept <% return const_reverse_iterator(begin()); %>
  const_reverse_iterator crbegin() const noexcept <% return const_reverse_iterator(end()); %>
  const_reverse_iterator crend() const noexcept <% return const_reverse_iterator(begin()); %>
  size_t size() const noexcept <% return __size; %>
  size_t length() const noexcept <% return __size; %>
  size_t max_size() const noexcept <% return size_t(0x3fffffffffffffff) / sizeof(C); %>
  size_t capacity() const noexcept <% return __isLocal() ? size_t(__inside) : __room; %>
  bool empty() const noexcept <% return __size == 0; %>
  void reserve(size_t n = 0) <% if (n > capacity()) __enlarge(n); %>
  void shrink_to_fit() <% if (!__isLocal() && __size < __room) <% basic_string t(*this); swap(t); %> %>
  void resize(size_t n, C c = C()) <% if (n > __size) append(n - __size, c); else __end(n); %>
  void clear() noexcept <% __end(0); %>
  C &operator[](size_t i) <% return __data[i]; %>
  const C &operator[](size_t i) const noexcept <% return __data[i]; %>
  C &at(size_t i) <% if (i >= __size) __at(i); return __data[i]; %>
  const C &at(size_t i) const <% if (i >= __size) __at(i); return __data[i]; %>
  void __at(size_t i) const <% char t[128]; __builtin_snprintf(t, 128, \"basic_string::at: __n (which is %zu) >= this->size() (which is %zu)\", i, __size); __throw_out_of_range(t); %>
  void __bad(const char *where, size_t i) const <% char t[128]; __builtin_snprintf(t, 128, \"%s: __pos (which is %zu) > this->size() (which is %zu)\", where, i, __size); __throw_out_of_range(t); %>
  C &front() <% return __data[0]; %>
  const C &front() const noexcept <% return __data[0]; %>
  C &back() <% return __data[__size - 1]; %>
  const C &back() const noexcept <% return __data[__size - 1]; %>
  const C *c_str() const noexcept <% return __data; %>
  const C *data() const noexcept <% return __data; %>
  C *data() noexcept <% return __data; %>
  A get_allocator() const <% return A(); %>
  basic_string &append(const C *s, size_t n) <%
    if (__size + n > capacity()) <%
      size_t m = __more(__size + n);
      C *p = __take(m);
      R::copy(p, __data, __size);
      R::copy(p + __size, s, n);
      __release();
      __data = p;
      __room = m;
    %> else R::move(__data + __size, s, n);
    __end(__size + n);
    return *this;
  %>
  basic_string &append(const basic_string &s) <% return append(s.__data, s.__size); %>
  basic_string &append(const basic_string &s, size_t i, size_t n = npos) <% if (i > s.__size) s.__bad(\"basic_string::append\", i); return append(s.__data + i, s.__limit(i, n)); %>
  basic_string &append(const C *s) <% return append(s, R::length(s)); %>
  basic_string &append(size_t n, C c) <% if (__size + n > capacity()) __enlarge(__size + n); R::assign(__data + __size, n, c); __end(__size + n); return *this; %>
  basic_string &append(initializer_list<C> l) <% return append(l.begin(), l.size()); %>
  template <class I, class = __needs_iterator<I>> basic_string &append(I a, I b) <% for (; a != b; ++a) push_back(*a); return *this; %>
  void push_back(C c) <% if (__size + 1 > capacity()) __enlarge(__size + 1); __data[__size] = c; __end(__size + 1); %>
  void pop_back() <% __end(__size - 1); %>
  basic_string &operator+=(const basic_string &s) <% return append(s.__data, s.__size); %>
  basic_string &operator+=(const C *s) <% return append(s, R::length(s)); %>
  basic_string &operator+=(C c) <% push_back(c); return *this; %>
  basic_string &operator+=(initializer_list<C> l) <% return append(l.begin(), l.size()); %>
  basic_string &assign(const C *s, size_t n) <%
    if (n > capacity()) <% size_t m = __more(n); C *p = __take(m); R::copy(p, s, n); __release(); __data = p; __room = m; %>
    else R::move(__data, s, n);
    __end(n);
    return *this;
  %>
  basic_string &assign(const C *s) <% return assign(s, R::length(s)); %>
  basic_string &assign(const basic_string &s) <% return *this = s; %>
  basic_string &assign(basic_string &&s) <% return *this = static_cast<basic_string &&>(s); %>
  basic_string &assign(const basic_string &s, size_t i, size_t n = npos) <% if (i > s.__size) s.__bad(\"basic_string::assign\", i); return assign(s.__data + i, s.__limit(i, n)); %>
  basic_string &assign(size_t n, C c) <% clear(); return append(n, c); %>
  basic_string &assign(initializer_list<C> l) <% return assign(l.begin(), l.size()); %>
  template <class I, class = __needs_iterator<I>> basic_string &assign(I a, I b) <% basic_string t(a, b); swap(t); return *this; %>
  basic_string &replace(size_t i, size_t n, const C *s, size_t m) <%
    if (i > __size) __bad(\"basic_string::replace\", i);
    n = __limit(i, n);
    if (s >= __data && s <= __data + __size) <% basic_string t(s, m); return __replace(i, n, t.__data, m); %>
    return __replace(i, n, s, m);
  %>
  basic_string &__replace(size_t i, size_t n, const C *s, size_t m) <%
    size_t want = __size - n + m;
    if (want > capacity()) __enlarge(want);
    R::move(__data + i + m, __data + i + n, __size - i - n);
    R::copy(__data + i, s, m);
    __end(want);
    return *this;
  %>
  basic_string &replace(size_t i, size_t n, const basic_string &s) <% return replace(i, n, s.__data, s.__size); %>
  basic_string &replace(size_t i, size_t n, const basic_string &s, size_t k, size_t m = npos) <% if (k > s.__size) s.__bad(\"basic_string::replace\", k); return replace(i, n, s.__data + k, s.__limit(k, m)); %>
  basic_string &replace(size_t i, size_t n, const C *s) <% return replace(i, n, s, R::length(s)); %>
  basic_string &replace(size_t i, size_t n, size_t m, C c) <% basic_string t(m, c); return replace(i, n, t.__data, m); %>
  basic_string &replace(const_iterator a, const_iterator b, const basic_string &s) <% return replace(a - __data, b - a, s.__data, s.__size); %>
  basic_string &replace(const_iterator a, const_iterator b, const C *s) <% return replace(a - __data, b - a, s, R::length(s)); %>
  basic_string &insert(size_t i, const C *s, size_t n) <% if (i > __size) __bad(\"basic_string::insert\", i); return replace(i, 0, s, n); %>
  basic_string &insert(size_t i, const basic_string &s) <% return insert(i, s.__data, s.__size); %>
  basic_string &insert(size_t i, const basic_string &s, size_t k, size_t n = npos) <% if (k > s.__size) s.__bad(\"basic_string::insert\", k); return insert(i, s.__data + k, s.__limit(k, n)); %>
  basic_string &insert(size_t i, const C *s) <% return insert(i, s, R::length(s)); %>
  basic_string &insert(size_t i, size_t n, C c) <% basic_string t(n, c); return insert(i, t.__data, n); %>
  iterator insert(const_iterator p, C c) <% size_t i = p - __data; replace(i, 0, &c, 1); return __data + i; %>
  iterator insert(const_iterator p, size_t n, C c) <% size_t i = p - __data; insert(i, n, c); return __data + i; %>
  template <class I, class = __needs_iterator<I>> iterator insert(const_iterator p, I a, I b) <% size_t i = p - __data; basic_string t(a, b); insert(i, t); return __data + i; %>
  basic_string &erase(size_t i = 0, size_t n = npos) <% if (i > __size) __bad(\"basic_string::erase\", i); n = __limit(i, n); R::move(__data + i, __data + i + n, __size - i - n); __end(__size - n); return *this; %>
  iterator erase(const_iterator p) <% size_t i = p - __data; erase(i, 1); return __data + i; %>
  iterator erase(const_iterator a, const_iterator b) <% size_t i = a - __data; erase(i, b - a); return __data + i; %>
  size_t copy(C *s, size_t n, size_t i = 0) const <% if (i > __size) __bad(\"basic_string::copy\", i); n = __limit(i, n); R::copy(s, __data + i, n); return n; %>
  void swap(basic_string &s) noexcept <% basic_string t(static_cast<basic_string &&>(s)); s = static_cast<basic_string &&>(*this); *this = static_cast<basic_string &&>(t); %>
  basic_string substr(size_t i = 0, size_t n = npos) const <% if (i > __size) __bad(\"basic_string::substr\", i); return basic_string(__data + i, __limit(i, n)); %>
  size_t find(const C *s, size_t i, size_t n) const <% if (n == 0) return i <= __size ? i : npos; for (; i < __size && n <= __size - i; ++i) if (__data[i] == s[0] && R::compare(__data + i, s, n) == 0) return i; return npos; %>
  size_t find(const basic_string &s, size_t i = 0) const noexcept <% return find(s.__data, i, s.__size); %>
  size_t find(const C *s, size_t i = 0) const <% return find(s, i, R::length(s)); %>
  size_t find(C c, size_t i = 0) const noexcept <% for (; i < __size; ++i) if (__data[i] == c) return i; return npos; %>
  size_t rfind(const C *s, size_t i, size_t n) const <% if (n > __size) return npos; size_t k = __size - n; if (i < k) k = i; for (;; --k) <% if (R::compare(__data + k, s, n) == 0) return k; if (k == 0) return npos; %> %>
  size_t rfind(const basic_string &s, size_t i = npos) const noexcept <% return rfind(s.__data, i, s.__size); %>
  size_t rfind(const C *s, size_t i = npos) const <% return rfind(s, i, R::length(s)); %>
  size_t rfind(C c, size_t i = npos) const noexcept <% for (size_t k = __size; k > 0; --k) if (k - 1 <= i && __data[k - 1] == c) return k - 1; return npos; %>
  size_t __first(const C *s, size_t i, size_t n, bool in) const <% for (; i < __size; ++i) if ((R::find(s, n, __data[i]) != nullptr) == in) return i; return npos; %>
  size_t __last(const C *s, size_t i, size_t n, bool in) const <% for (size_t k = __size; k > 0; --k) if (k - 1 <= i && (R::find(s, n, __data[k - 1]) != nullptr) == in) return k - 1; return npos; %>
  size_t find_first_of(const basic_string &s, size_t i = 0) const noexcept <% return __first(s.__data, i, s.__size, true); %>
  size_t find_first_of(const C *s, size_t i = 0) const <% return __first(s, i, R::length(s), true); %>
  size_t find_first_of(C c, size_t i = 0) const noexcept <% return find(c, i); %>
  size_t find_last_of(const basic_string &s, size_t i = npos) const noexcept <% return __last(s.__data, i, s.__size, true); %>
  size_t find_last_of(const C *s, size_t i = npos) const <% return __last(s, i, R::length(s), true); %>
  size_t find_last_of(C c, size_t i = npos) const noexcept <% return rfind(c, i); %>
  size_t find_first_not_of(const basic_string &s, size_t i = 0) const noexcept <% return __first(s.__data, i, s.__size, false); %>
  size_t find_first_not_of(const C *s, size_t i = 0) const <% return __first(s, i, R::length(s), false); %>
  size_t find_first_not_of(C c, size_t i = 0) const noexcept <% return __first(&c, i, 1, false); %>
  size_t find_last_not_of(const basic_string &s, size_t i = npos) const noexcept <% return __last(s.__data, i, s.__size, false); %>
  size_t find_last_not_of(const C *s, size_t i = npos) const <% return __last(s, i, R::length(s), false); %>
  size_t find_last_not_of(C c, size_t i = npos) const noexcept <% return __last(&c, i, 1, false); %>
  static int __compare(const C *a, size_t n, const C *b, size_t m) <% int r = R::compare(a, b, n < m ? n : m); if (r) return r; long d = long(n) - long(m); return d > 2147483647 ? 2147483647 : d < -2147483647 - 1 ? -2147483647 - 1 : int(d); %>
  int compare(const basic_string &s) const <% return __compare(__data, __size, s.__data, s.__size); %>
  int compare(const C *s) const <% return __compare(__data, __size, s, R::length(s)); %>
  int compare(size_t i, size_t n, const basic_string &s) const <% if (i > __size) __bad(\"basic_string::compare\", i); return __compare(__data + i, __limit(i, n), s.__data, s.__size); %>
  int compare(size_t i, size_t n, const C *s) const <% if (i > __size) __bad(\"basic_string::compare\", i); return __compare(__data + i, __limit(i, n), s, R::length(s)); %>
#if __cplusplus >= 202002L
  bool starts_with(basic_string_view<C, R> v) const noexcept <% return basic_string_view<C, R>(__data, __size).starts_with(v); %>
  bool starts_with(C c) const noexcept <% return __size && __data[0] == c; %>
  bool starts_with(const C *s) const noexcept <% return basic_string_view<C, R>(__data, __size).starts_with(s); %>
  bool ends_with(basic_string_view<C, R> v) const noexcept <% return basic_string_view<C, R>(__data, __size).ends_with(v); %>
  bool ends_with(C c) const noexcept <% return __size && __data[__size - 1] == c; %>
  bool ends_with(const C *s) const noexcept <% return basic_string_view<C, R>(__data, __size).ends_with(s); %>
#endif
%>;
template <class C, class R, class A> basic_string<C, R, A> operator+(const basic_string<C, R, A> &a, const basic_string<C, R, A> &b) <% basic_string<C, R, A> t; t.reserve(a.size() + b.size()); t.append(a); t.append(b); return t; %>
template <class C, class R, class A> basic_string<C, R, A> operator+(const C *a, const basic_string<C, R, A> &b) <% basic_string<C, R, A> t; size_t n = R::length(a); t.reserve(n + b.size()); t.append(a, n); t.append(b); return t; %>
template <class C, class R, class A> basic_string<C, R, A> operator+(C a, const basic_string<C, R, A> &b) <% basic_string<C, R, A> t; t.reserve(1 + b.size()); t.push_back(a); t.append(b); return t; %>
template <class C, class R, class A> basic_string<C, R, A> operator+(const basic_string<C, R, A> &a, const C *b) <% basic_string<C, R, A> t(a); t.append(b); return t; %>
template <class C, class R, class A> basic_string<C, R, A> operator+(const basic_string<C, R, A> &a, C b) <% basic_string<C, R, A> t(a); t.push_back(b); return t; %>
template <class C, class R, class A> basic_string<C, R, A> operator+(basic_string<C, R, A> &&a, const basic_string<C, R, A> &b) <% return static_cast<basic_string<C, R, A> &&>(a.append(b)); %>
template <class C, class R, class A> basic_string<C, R, A> operator+(basic_string<C, R, A> &&a, basic_string<C, R, A> &&b) <% return static_cast<basic_string<C, R, A> &&>(a.append(b)); %>
template <class C, class R, class A> basic_string<C, R, A> operator+(const basic_string<C, R, A> &a, basic_string<C, R, A> &&b) <% return static_cast<basic_string<C, R, A> &&>(b.insert(0, a)); %>
template <class C, class R, class A> basic_string<C, R, A> operator+(const C *a, basic_string<C, R, A> &&b) <% return static_cast<basic_string<C, R, A> &&>(b.insert(0, a)); %>
template <class C, class R, class A> basic_string<C, R, A> operator+(C a, basic_string<C, R, A> &&b) <% return static_cast<basic_string<C, R, A> &&>(b.insert(0, 1, a)); %>
template <class C, class R, class A> basic_string<C, R, A> operator+(basic_string<C, R, A> &&a, const C *b) <% return static_cast<basic_string<C, R, A> &&>(a.append(b)); %>
template <class C, class R, class A> basic_string<C, R, A> operator+(basic_string<C, R, A> &&a, C b) <% a.push_back(b); return static_cast<basic_string<C, R, A> &&>(a); %>
template <class C, class R, class A> bool operator==(const basic_string<C, R, A> &a, const basic_string<C, R, A> &b) noexcept <% return a.size() == b.size() && a.compare(b) == 0; %>
template <class C, class R, class A> bool operator==(const basic_string<C, R, A> &a, const C *b) <% return a.compare(b) == 0; %>
template <class C, class R, class A> bool operator==(const C *a, const basic_string<C, R, A> &b) <% return b.compare(a) == 0; %>
template <class C, class R, class A> bool operator!=(const basic_string<C, R, A> &a, const basic_string<C, R, A> &b) noexcept <% return !(a == b); %>
template <class C, class R, class A> bool operator!=(const basic_string<C, R, A> &a, const C *b) <% return a.compare(b) != 0; %>
template <class C, class R, class A> bool operator!=(const C *a, const basic_string<C, R, A> &b) <% return b.compare(a) != 0; %>
template <class C, class R, class A> bool operator<(const basic_string<C, R, A> &a, const basic_string<C, R, A> &b) noexcept <% return a.compare(b) < 0; %>
template <class C, class R, class A> bool operator<(const basic_string<C, R, A> &a, const C *b) <% return a.compare(b) < 0; %>
template <class C, class R, class A> bool operator<(const C *a, const basic_string<C, R, A> &b) <% return b.compare(a) > 0; %>
template <class C, class R, class A> bool operator>(const basic_string<C, R, A> &a, const basic_string<C, R, A> &b) noexcept <% return a.compare(b) > 0; %>
template <class C, class R, class A> bool operator>(const basic_string<C, R, A> &a, const C *b) <% return a.compare(b) > 0; %>
template <class C, class R, class A> bool operator>(const C *a, const basic_string<C, R, A> &b) <% return b.compare(a) < 0; %>
template <class C, class R, class A> bool operator<=(const basic_string<C, R, A> &a, const basic_string<C, R, A> &b) noexcept <% return a.compare(b) <= 0; %>
template <class C, class R, class A> bool operator<=(const basic_string<C, R, A> &a, const C *b) <% return a.compare(b) <= 0; %>
template <class C, class R, class A> bool operator>=(const basic_string<C, R, A> &a, const basic_string<C, R, A> &b) noexcept <% return a.compare(b) >= 0; %>
template <class C, class R, class A> bool operator>=(const basic_string<C, R, A> &a, const C *b) <% return a.compare(b) >= 0; %>
template <class C, class R, class A> void swap(basic_string<C, R, A> &a, basic_string<C, R, A> &b) noexcept <% a.swap(b); %>
typedef basic_string<char> string;
typedef basic_string<wchar_t> wstring;
typedef basic_string<char16_t> u16string;
typedef basic_string<char32_t> u32string;
inline string __printed(const char *f, ...) <%
  char t[400];
  __builtin_va_list v;
  __builtin_va_start(v, f);
  int n = __builtin_vsnprintf(t, 400, f, v);
  __builtin_va_end(v);
  return string(t, n);
%>
inline string to_string(int v) <% return __printed(\"%d\", v); %>
inline string to_string(unsigned v) <% return __printed(\"%u\", v); %>
inline string to_string(long v) <% return __printed(\"%ld\", v); %>
inline string to_string(unsigned long v) <% return __printed(\"%lu\", v); %>
inline string to_string(long long v) <% return __printed(\"%lld\", v); %>
inline string to_string(unsigned long long v) <% return __printed(\"%llu\", v); %>
inline string to_string(float v) <% return __printed(\"%f\", (double)v); %>
inline string to_string(double v) <% return __printed(\"%f\", v); %>
inline string to_string(long double v) <% return __printed(\"%f\", (double)v); %>
template <class T, class F> T __numberIn(F f, const char *name, const string &s, size_t *at, int base) <%
  char *end;
  int before = errno;
  errno = 0;
  T v = f(s.c_str(), &end, base);
  if (end == s.c_str()) __throw_invalid_argument(name);
  if (errno == ERANGE) __throw_out_of_range(name);
  errno = before;
  if (at) *at = end - s.c_str();
  return v;
%>
inline int stoi(const string &s, size_t *at = nullptr, int base = 10) <%
  long v = __numberIn<long>(strtol, \"stoi\", s, at, base);
  if (v < -2147483647L - 1 || v > 2147483647L) __throw_out_of_range(\"stoi\");
  return int(v);
%>
inline long stol(const string &s, size_t *at = nullptr, int base = 10) <% return __numberIn<long>(strtol, \"stol\", s, at, base); %>
inline unsigned long stoul(const string &s, size_t *at = nullptr, int base = 10) <% return __numberIn<unsigned long>(strtoul, \"stoul\", s, at, base); %>
inline long long stoll(const string &s, size_t *at = nullptr, int base = 10) <% return __numberIn<long long>(strtoll, \"stoll\", s, at, base); %>
inline unsigned long long stoull(const string &s, size_t *at = nullptr, int base = 10) <% return __numberIn<unsigned long long>(strtoull, \"stoull\", s, at, base); %>
inline double __doubleIn(const char *s, char **end, int) <% return strtod(s, end); %>
inline double stod(const string &s, size_t *at = nullptr) <% return __numberIn<double>(__doubleIn, \"stod\", s, at, 0); %>
inline float stof(const string &s, size_t *at = nullptr) <% return (float)__numberIn<double>(__doubleIn, \"stof\", s, at, 0); %>
inline long double stold(const string &s, size_t *at = nullptr) <% return __numberIn<double>(__doubleIn, \"stold\", s, at, 0); %>
%>
template <> struct hash<string> <% size_t operator()(const string &s) const noexcept <% return __hash_bytes(s.data(), s.size()); %> %>;
inline namespace literals <% inline namespace string_literals <%
inline string operator\"\"s(const char *s, size_t n) <% return string(s, n); %>
%> %>
#if __cplusplus >= 202002L
template <class C, class R, class A, class V> size_t erase(basic_string<C, R, A> &s, const V &v) <% size_t n = 0, k = 0; for (size_t i = 0; i < s.size(); ++i) if (s[i] == v) ++n; else s[k++] = s[i]; s.resize(k); return n; %>
template <class C, class R, class A, class P> size_t erase_if(basic_string<C, R, A> &s, P p) <% size_t n = 0, k = 0; for (size_t i = 0; i < s.size(); ++i) if (p(s[i])) ++n; else s[k++] = s[i]; s.resize(k); return n; %>
#endif
%>
"),

  ("string", "#pragma once
#include <__string>
#include <stdexcept>
"),

  ("string_view", "#pragma once
#include <__string>
")]

end ModuleForge.Host.Native.Headers
