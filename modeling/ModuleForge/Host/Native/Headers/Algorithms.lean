/-!
# Headers of algorithms

What is done with ranges of values, and the mathematics of numbers.
-/
namespace ModuleForge.Host.Native.Headers

/-- The headers by their names. -/
def algorithms : List (String × String) := [
  ("__algorithm", "#pragma once
#include <__iterator>
#include <__compare>
namespace std <%
struct __less <% template <class A, class B> constexpr bool operator()(const A &a, const B &b) const <% return a < b; %> %>;
struct __equal <% template <class A, class B> constexpr bool operator()(const A &a, const B &b) const <% return a == b; %> %>;
template <class T> constexpr const T &min(const T &a, const T &b) <% return b < a ? b : a; %>
template <class T> constexpr const T &max(const T &a, const T &b) <% return a < b ? b : a; %>
template <class T, class C> constexpr const T &min(const T &a, const T &b, C c) <% return c(b, a) ? b : a; %>
template <class T, class C> constexpr const T &max(const T &a, const T &b, C c) <% return c(a, b) ? b : a; %>
template <class I, class J> constexpr void iter_swap(I a, J b) <% swap(*a, *b); %>
template <class I, class J> constexpr J swap_ranges(I a, I b, J c) <% for (; a != b; ++a, ++c) iter_swap(a, c); return c; %>
template <class I, class J, class P> constexpr pair<I, J> mismatch(I a, I b, J c, P p) <% while (a != b && p(*a, *c)) <% ++a; ++c; %> return pair<I, J>(a, c); %>
template <class I, class J> constexpr pair<I, J> mismatch(I a, I b, J c) <% return mismatch(a, b, c, __equal()); %>
template <class I, class J> constexpr pair<I, J> mismatch(I a, I b, J c, J d) <% while (a != b && c != d && *a == *c) <% ++a; ++c; %> return pair<I, J>(a, c); %>
template <class I, class J> constexpr bool equal(I a, I b, J c) <% for (; a != b; ++a, ++c) if (!(*a == *c)) return false; return true; %>
template <class I, class J> constexpr bool equal(I a, I b, J c, J d) <% for (; a != b && c != d; ++a, ++c) if (!(*a == *c)) return false; return a == b && c == d; %>
template <class I, class J, class P, class = enable_if_t<!is_same<J, P>::value>> constexpr bool equal(I a, I b, J c, P p) <% for (; a != b; ++a, ++c) if (!p(*a, *c)) return false; return true; %>
template <class I, class J> constexpr bool lexicographical_compare(I a, I b, J c, J d) <% return __before(a, b, c, d); %>
template <class I, class J, class C> constexpr bool lexicographical_compare(I a, I b, J c, J d, C f) <% for (; a != b && c != d; ++a, ++c) <% if (f(*a, *c)) return true; if (f(*c, *a)) return false; %> return a == b && c != d; %>
template <class I, class O> constexpr O copy(I a, I b, O o) <% for (; a != b; ++a, ++o) *o = *a; return o; %>
template <class I, class O> constexpr O copy_backward(I a, I b, O o) <% while (a != b) *--o = *--b; return o; %>
template <class I, class O> constexpr O move(I a, I b, O o) <% for (; a != b; ++a, ++o) *o = std::move(*a); return o; %>
template <class I, class O> constexpr O move_backward(I a, I b, O o) <% while (a != b) *--o = std::move(*--b); return o; %>
template <class I, class T> constexpr void fill(I a, I b, const T &v) <% for (; a != b; ++a) *a = v; %>
template <class I, class N, class T> constexpr I fill_n(I a, N n, const T &v) <% for (; n > 0; ++a, --n) *a = v; return a; %>
template <class I, class T, class C> constexpr I lower_bound(I a, I b, const T &v, C c) <% ptrdiff_t n = std::distance(a, b); while (n > 0) <% ptrdiff_t h = n / 2; I m = std::next(a, h); if (c(*m, v)) <% a = ++m; n -= h + 1; %> else n = h; %> return a; %>
template <class I, class T> constexpr I lower_bound(I a, I b, const T &v) <% return std::lower_bound(a, b, v, __less()); %>
%>
"),

  ("__order", "#pragma once
namespace std <%
template <class T = void> struct less <% typedef T first_argument_type; typedef bool result_type; constexpr bool operator()(const T &a, const T &b) const <% return a < b; %> %>;
template <class T = void> struct greater <% constexpr bool operator()(const T &a, const T &b) const <% return a > b; %> %>;
template <class T = void> struct less_equal <% constexpr bool operator()(const T &a, const T &b) const <% return a <= b; %> %>;
template <class T = void> struct greater_equal <% constexpr bool operator()(const T &a, const T &b) const <% return a >= b; %> %>;
template <class T = void> struct equal_to <% constexpr bool operator()(const T &a, const T &b) const <% return a == b; %> %>;
template <class T = void> struct not_equal_to <% constexpr bool operator()(const T &a, const T &b) const <% return a != b; %> %>;
template <> struct less<void> <% typedef int is_transparent; template <class A, class B> constexpr bool operator()(const A &a, const B &b) const <% return a < b; %> %>;
template <> struct greater<void> <% typedef int is_transparent; template <class A, class B> constexpr bool operator()(const A &a, const B &b) const <% return a > b; %> %>;
template <> struct less_equal<void> <% template <class A, class B> constexpr bool operator()(const A &a, const B &b) const <% return a <= b; %> %>;
template <> struct greater_equal<void> <% template <class A, class B> constexpr bool operator()(const A &a, const B &b) const <% return a >= b; %> %>;
template <> struct equal_to<void> <% template <class A, class B> constexpr bool operator()(const A &a, const B &b) const <% return a == b; %> %>;
template <> struct not_equal_to<void> <% template <class A, class B> constexpr bool operator()(const A &a, const B &b) const <% return a != b; %> %>;
%>
"),

  ("__compare", "#pragma once
namespace std <%
template <class I, class J> constexpr bool __same(I a, I b, J c) <% for (; a != b; ++a, ++c) if (!(*a == *c)) return false; return true; %>
template <class I, class J> constexpr bool __before(I a, I b, J c, J d) <% for (; a != b && c != d; ++a, ++c) <% if (*a < *c) return true; if (*c < *a) return false; %> return a == b && c != d; %>
%>
"),

  ("algorithm", "#pragma once
#include <__memory>
#include <__algorithm>
#include <__order>
#include <__compare>
namespace std <%
template <class I, class C> constexpr I min_element(I a, I b, C c) <% if (a == b) return a; I r = a; while (++a != b) if (c(*a, *r)) r = a; return r; %>
template <class I, class C> constexpr I max_element(I a, I b, C c) <% if (a == b) return a; I r = a; while (++a != b) if (c(*r, *a)) r = a; return r; %>
template <class I> constexpr I min_element(I a, I b) <% return min_element(a, b, __less()); %>
template <class I> constexpr I max_element(I a, I b) <% return max_element(a, b, __less()); %>
template <class T> constexpr pair<const T &, const T &> minmax(const T &a, const T &b) <% return b < a ? pair<const T &, const T &>(b, a) : pair<const T &, const T &>(a, b); %>
template <class I, class C> constexpr pair<I, I> minmax_element(I a, I b, C c) <% pair<I, I> r(a, a); if (a == b) return r; for (++a; a != b; ++a) <% if (c(*a, *r.first)) r.first = a; else if (!c(*a, *r.second)) r.second = a; %> return r; %>
template <class I> constexpr pair<I, I> minmax_element(I a, I b) <% return minmax_element(a, b, __less()); %>
template <class T> constexpr pair<T, T> minmax(initializer_list<T> l) <% auto p = minmax_element(l.begin(), l.end()); return pair<T, T>(*p.first, *p.second); %>
template <class T> constexpr T min(initializer_list<T> l) <% return *min_element(l.begin(), l.end()); %>
template <class T> constexpr T max(initializer_list<T> l) <% return *max_element(l.begin(), l.end()); %>
template <class T, class C> constexpr T min(initializer_list<T> l, C c) <% return *min_element(l.begin(), l.end(), c); %>
template <class T, class C> constexpr T max(initializer_list<T> l, C c) <% return *max_element(l.begin(), l.end(), c); %>
template <class I, class N, class O> constexpr O copy_n(I a, N n, O o) <% for (; n > 0; ++a, ++o, --n) *o = *a; return o; %>
template <class T> constexpr const T &clamp(const T &v, const T &lo, const T &hi) <% return v < lo ? lo : hi < v ? hi : v; %>
template <class T, class C> constexpr const T &clamp(const T &v, const T &lo, const T &hi, C c) <% return c(v, lo) ? lo : c(hi, v) ? hi : v; %>
template <class I, class F> constexpr F for_each(I a, I b, F f) <% for (; a != b; ++a) f(*a); return f; %>
template <class I, class N, class F> constexpr I for_each_n(I a, N n, F f) <% for (; n > 0; ++a, --n) f(*a); return a; %>
template <class I, class T> constexpr I find(I a, I b, const T &v) <% for (; a != b; ++a) if (*a == v) break; return a; %>
template <class I, class P> constexpr I find_if(I a, I b, P p) <% for (; a != b; ++a) if (p(*a)) break; return a; %>
template <class I, class P> constexpr I find_if_not(I a, I b, P p) <% for (; a != b; ++a) if (!p(*a)) break; return a; %>
template <class I, class P> constexpr bool all_of(I a, I b, P p) <% for (; a != b; ++a) if (!p(*a)) return false; return true; %>
template <class I, class P> constexpr bool any_of(I a, I b, P p) <% for (; a != b; ++a) if (p(*a)) return true; return false; %>
template <class I, class P> constexpr bool none_of(I a, I b, P p) <% for (; a != b; ++a) if (p(*a)) return false; return true; %>
template <class I, class T> constexpr ptrdiff_t count(I a, I b, const T &v) <% ptrdiff_t n = 0; for (; a != b; ++a) if (*a == v) ++n; return n; %>
template <class I, class P> constexpr ptrdiff_t count_if(I a, I b, P p) <% ptrdiff_t n = 0; for (; a != b; ++a) if (p(*a)) ++n; return n; %>
template <class I, class J, class P> constexpr I find_first_of(I a, I b, J c, J d, P p) <% for (; a != b; ++a) for (J k = c; k != d; ++k) if (p(*a, *k)) return a; return a; %>
template <class I, class J> constexpr I find_first_of(I a, I b, J c, J d) <% return find_first_of(a, b, c, d, __equal()); %>
template <class I, class P> constexpr I adjacent_find(I a, I b, P p) <% if (a == b) return b; I n = a; while (++n != b) <% if (p(*a, *n)) return a; a = n; %> return b; %>
template <class I> constexpr I adjacent_find(I a, I b) <% return adjacent_find(a, b, __equal()); %>
template <class I, class J, class P> constexpr I search(I a, I b, J c, J d, P p) <% for (;; ++a) <% I i = a; for (J j = c;; ++i, ++j) <% if (j == d) return a; if (i == b) return b; if (!p(*i, *j)) break; %> %> %>
template <class I, class J> constexpr I search(I a, I b, J c, J d) <% return search(a, b, c, d, __equal()); %>
template <class I, class N, class T> constexpr I search_n(I a, I b, N n, const T &v) <% for (; a != b; ++a) <% I i = a; N k = 0; while (k < n && i != b && *i == v) <% ++i; ++k; %> if (k == n) return a; if (i == b) return b; %> return b; %>
template <class I, class J> constexpr I find_end(I a, I b, J c, J d) <% I r = b; if (c == d) return b; for (;;) <% I n = search(a, b, c, d); if (n == b) return r; r = n; a = n; ++a; %> %>
template <class I, class O, class P> constexpr O copy_if(I a, I b, O o, P p) <% for (; a != b; ++a) if (p(*a)) <% *o = *a; ++o; %> return o; %>
template <class I, class O, class F> constexpr O transform(I a, I b, O o, F f) <% for (; a != b; ++a, ++o) *o = f(*a); return o; %>
template <class I, class J, class O, class F> constexpr O transform(I a, I b, J c, O o, F f) <% for (; a != b; ++a, ++c, ++o) *o = f(*a, *c); return o; %>
template <class I, class F> constexpr void generate(I a, I b, F f) <% for (; a != b; ++a) *a = f(); %>
template <class I, class N, class F> constexpr I generate_n(I a, N n, F f) <% for (; n > 0; ++a, --n) *a = f(); return a; %>
template <class I, class T> constexpr I remove(I a, I b, const T &v) <% a = std::find(a, b, v); if (a == b) return a; I r = a; while (++a != b) if (!(*a == v)) <% *r = std::move(*a); ++r; %> return r; %>
template <class I, class P> constexpr I remove_if(I a, I b, P p) <% a = std::find_if(a, b, p); if (a == b) return a; I r = a; while (++a != b) if (!p(*a)) <% *r = std::move(*a); ++r; %> return r; %>
template <class I, class O, class T> constexpr O remove_copy(I a, I b, O o, const T &v) <% for (; a != b; ++a) if (!(*a == v)) <% *o = *a; ++o; %> return o; %>
template <class I, class O, class P> constexpr O remove_copy_if(I a, I b, O o, P p) <% for (; a != b; ++a) if (!p(*a)) <% *o = *a; ++o; %> return o; %>
template <class I, class T> constexpr void replace(I a, I b, const T &v, const T &w) <% for (; a != b; ++a) if (*a == v) *a = w; %>
template <class I, class P, class T> constexpr void replace_if(I a, I b, P p, const T &w) <% for (; a != b; ++a) if (p(*a)) *a = w; %>
template <class I, class P> constexpr I unique(I a, I b, P p) <% a = adjacent_find(a, b, p); if (a == b) return b; I r = a; ++a; while (++a != b) if (!p(*r, *a)) *++r = std::move(*a); return ++r; %>
template <class I> constexpr I unique(I a, I b) <% return unique(a, b, __equal()); %>
template <class I, class O> constexpr O unique_copy(I a, I b, O o) <% if (a == b) return o; I p = a; *o = *a; ++o; while (++a != b) if (!(*p == *a)) <% p = a; *o = *a; ++o; %> return o; %>
template <class I> constexpr void reverse(I a, I b) <% while (a != b && a != --b) <% iter_swap(a, b); ++a; %> %>
template <class I, class O> constexpr O reverse_copy(I a, I b, O o) <% while (a != b) <% --b; *o = *b; ++o; %> return o; %>
template <class I> constexpr I rotate(I a, I m, I b) <%
  if (a == m) return b;
  if (m == b) return a;
  I r = std::next(a, std::distance(m, b));
  reverse(a, m); reverse(m, b); reverse(a, b);
  return r;
%>
template <class I, class O> constexpr O rotate_copy(I a, I m, I b, O o) <% return std::copy(a, m, std::copy(m, b, o)); %>
template <class I, class P> constexpr bool is_partitioned(I a, I b, P p) <% for (; a != b; ++a) if (!p(*a)) break; for (; a != b; ++a) if (p(*a)) return false; return true; %>
template <class I, class P> constexpr I partition(I a, I b, P p) <%
  for (;;) <%
    for (;;) if (a == b) return a; else if (p(*a)) ++a; else break;
    --b;
    for (;;) if (a == b) return a; else if (!p(*b)) --b; else break;
    iter_swap(a, b);
    ++a;
  %>
%>
template <class I, class P> I stable_partition(I a, I b, P p) <%
  typedef typename iterator_traits<I>::value_type T;
  size_t n = std::distance(a, b), k = 0;
  T **held = new T *[n];
  I r = a;
  for (I i = a; i != b; ++i) if (p(*i)) <% if (r != i) *r = std::move(*i); ++r; %> else held[k++] = new T(std::move(*i));
  I o = r;
  for (size_t i = 0; i < k; ++i, ++o) <% *o = std::move(*held[i]); delete held[i]; %>
  delete[] held;
  return r;
%>
template <class I, class O, class Q, class P> constexpr pair<O, Q> partition_copy(I a, I b, O o, Q q, P p) <% for (; a != b; ++a) if (p(*a)) <% *o = *a; ++o; %> else <% *q = *a; ++q; %> return pair<O, Q>(o, q); %>
template <class I, class P> constexpr I partition_point(I a, I b, P p) <% ptrdiff_t n = std::distance(a, b); while (n > 0) <% ptrdiff_t h = n / 2; I m = std::next(a, h); if (p(*m)) <% a = ++m; n -= h + 1; %> else n = h; %> return a; %>
template <class I, class T, class C> constexpr I upper_bound(I a, I b, const T &v, C c) <% ptrdiff_t n = std::distance(a, b); while (n > 0) <% ptrdiff_t h = n / 2; I m = std::next(a, h); if (!c(v, *m)) <% a = ++m; n -= h + 1; %> else n = h; %> return a; %>
template <class I, class T> constexpr I upper_bound(I a, I b, const T &v) <% return std::upper_bound(a, b, v, __less()); %>
template <class I, class T, class C> constexpr pair<I, I> equal_range(I a, I b, const T &v, C c) <% return pair<I, I>(std::lower_bound(a, b, v, c), std::upper_bound(a, b, v, c)); %>
template <class I, class T> constexpr pair<I, I> equal_range(I a, I b, const T &v) <% return std::equal_range(a, b, v, __less()); %>
template <class I, class T, class C> constexpr bool binary_search(I a, I b, const T &v, C c) <% I i = std::lower_bound(a, b, v, c); return i != b && !c(v, *i); %>
template <class I, class T> constexpr bool binary_search(I a, I b, const T &v) <% return std::binary_search(a, b, v, __less()); %>
template <class I, class J, class O, class C> constexpr O merge(I a, I b, J c, J d, O o, C f) <% while (a != b && c != d) <% if (f(*c, *a)) <% *o = *c; ++c; %> else <% *o = *a; ++a; %> ++o; %> return std::copy(c, d, std::copy(a, b, o)); %>
template <class I, class J, class O> constexpr O merge(I a, I b, J c, J d, O o) <% return std::merge(a, b, c, d, o, __less()); %>
template <class I, class J, class C> constexpr bool includes(I a, I b, J c, J d, C f) <% for (; c != d; ++a) <% if (a == b || f(*c, *a)) return false; if (!f(*a, *c)) ++c; %> return true; %>
template <class I, class J> constexpr bool includes(I a, I b, J c, J d) <% return std::includes(a, b, c, d, __less()); %>
template <class I, class J, class O, class C> constexpr O set_union(I a, I b, J c, J d, O o, C f) <% for (; a != b && c != d; ++o) <% if (f(*a, *c)) <% *o = *a; ++a; %> else if (f(*c, *a)) <% *o = *c; ++c; %> else <% *o = *a; ++a; ++c; %> %> return std::copy(c, d, std::copy(a, b, o)); %>
template <class I, class J, class O> constexpr O set_union(I a, I b, J c, J d, O o) <% return std::set_union(a, b, c, d, o, __less()); %>
template <class I, class J, class O, class C> constexpr O set_intersection(I a, I b, J c, J d, O o, C f) <% while (a != b && c != d) <% if (f(*a, *c)) ++a; else if (f(*c, *a)) ++c; else <% *o = *a; ++a; ++c; ++o; %> %> return o; %>
template <class I, class J, class O> constexpr O set_intersection(I a, I b, J c, J d, O o) <% return std::set_intersection(a, b, c, d, o, __less()); %>
template <class I, class J, class O, class C> constexpr O set_difference(I a, I b, J c, J d, O o, C f) <% while (a != b && c != d) <% if (f(*a, *c)) <% *o = *a; ++a; ++o; %> else if (f(*c, *a)) ++c; else <% ++a; ++c; %> %> return std::copy(a, b, o); %>
template <class I, class J, class O> constexpr O set_difference(I a, I b, J c, J d, O o) <% return std::set_difference(a, b, c, d, o, __less()); %>
template <class I, class J, class O> constexpr O set_symmetric_difference(I a, I b, J c, J d, O o) <% while (a != b && c != d) <% if (*a < *c) <% *o = *a; ++a; ++o; %> else if (*c < *a) <% *o = *c; ++c; ++o; %> else <% ++a; ++c; %> %> return std::copy(c, d, std::copy(a, b, o)); %>
template <class I, class C> constexpr void __rise(I a, ptrdiff_t hole, ptrdiff_t top, typename iterator_traits<I>::value_type v, C c) <%
  ptrdiff_t up = (hole - 1) / 2;
  while (hole > top && c(*(a + up), v)) <% *(a + hole) = std::move(*(a + up)); hole = up; up = (hole - 1) / 2; %>
  *(a + hole) = std::move(v);
%>
template <class I, class C> constexpr void __sink(I a, ptrdiff_t hole, ptrdiff_t n, typename iterator_traits<I>::value_type v, C c) <%
  ptrdiff_t top = hole, k = hole;
  while (k < (n - 1) / 2) <% k = 2 * (k + 1); if (c(*(a + k), *(a + (k - 1)))) --k; *(a + hole) = std::move(*(a + k)); hole = k; %>
  if ((n & 1) == 0 && k == (n - 2) / 2) <% k = 2 * (k + 1); *(a + hole) = std::move(*(a + (k - 1))); hole = k - 1; %>
  __rise(a, hole, top, std::move(v), c);
%>
template <class I, class C> constexpr void push_heap(I a, I b, C c) <% typename iterator_traits<I>::value_type v = std::move(*(b - 1)); __rise(a, b - a - 1, 0, std::move(v), c); %>
template <class I> constexpr void push_heap(I a, I b) <% push_heap(a, b, __less()); %>
template <class I, class C> constexpr void __popTo(I a, I b, I r, C c) <% typename iterator_traits<I>::value_type v = std::move(*r); *r = std::move(*a); __sink(a, 0, b - a, std::move(v), c); %>
template <class I, class C> constexpr void pop_heap(I a, I b, C c) <% if (b - a > 1) <% --b; __popTo(a, b, b, c); %> %>
template <class I> constexpr void pop_heap(I a, I b) <% pop_heap(a, b, __less()); %>
template <class I, class C> constexpr void make_heap(I a, I b, C c) <% ptrdiff_t n = b - a; if (n < 2) return; for (ptrdiff_t k = (n - 2) / 2;; --k) <% typename iterator_traits<I>::value_type v = std::move(*(a + k)); __sink(a, k, n, std::move(v), c); if (k == 0) return; %> %>
template <class I> constexpr void make_heap(I a, I b) <% make_heap(a, b, __less()); %>
template <class I, class C> constexpr void sort_heap(I a, I b, C c) <% while (b - a > 1) <% --b; __popTo(a, b, b, c); %> %>
template <class I> constexpr void sort_heap(I a, I b) <% sort_heap(a, b, __less()); %>
template <class I, class C> constexpr bool is_heap(I a, I b, C c) <% ptrdiff_t n = b - a; for (ptrdiff_t k = 1; k < n; ++k) if (c(a[(k - 1) / 2], a[k])) return false; return true; %>
template <class I> constexpr bool is_heap(I a, I b) <% return is_heap(a, b, __less()); %>
template <class I, class C> constexpr void __heapSelect(I a, I m, I b, C c) <% make_heap(a, m, c); for (I i = m; i < b; ++i) if (c(*i, *a)) __popTo(a, m, i, c); %>
template <class I, class C> constexpr void __insertBack(I i, C c) <% typename iterator_traits<I>::value_type v = std::move(*i); I n = i; --n; while (c(v, *n)) <% *i = std::move(*n); i = n; --n; %> *i = std::move(v); %>
template <class I, class C> constexpr void __insertionSort(I a, I b, C c) <%
  if (a == b) return;
  for (I i = a + 1; i != b; ++i)
    if (c(*i, *a)) <% typename iterator_traits<I>::value_type v = std::move(*i); std::move_backward(a, i, i + 1); *a = std::move(v); %>
    else __insertBack(i, c);
%>
template <class I, class C> constexpr void __medianToFirst(I r, I a, I b, I d, C c) <%
  if (c(*a, *b)) <% if (c(*b, *d)) iter_swap(r, b); else if (c(*a, *d)) iter_swap(r, d); else iter_swap(r, a); %>
  else if (c(*a, *d)) iter_swap(r, a);
  else if (c(*b, *d)) iter_swap(r, d);
  else iter_swap(r, b);
%>
template <class I, class C> constexpr I __cut(I a, I b, C c) <%
  I m = a + (b - a) / 2, p = a;
  __medianToFirst(a, a + 1, m, b - 1, c);
  ++a;
  for (;;) <%
    while (c(*a, *p)) ++a;
    --b;
    while (c(*p, *b)) --b;
    if (!(a < b)) return a;
    iter_swap(a, b);
    ++a;
  %>
%>
template <class I, class C> constexpr void __introSort(I a, I b, ptrdiff_t depth, C c) <%
  while (b - a > 16) <%
    if (depth == 0) <% __heapSelect(a, b, b, c); sort_heap(a, b, c); return; %>
    --depth;
    I k = __cut(a, b, c);
    __introSort(k, b, depth, c);
    b = k;
  %>
%>
constexpr ptrdiff_t __log2(ptrdiff_t n) <% ptrdiff_t k = 0; while (n > 1) <% n >>= 1; ++k; %> return k; %>
template <class I, class C> constexpr void sort(I a, I b, C c) <%
  if (a == b) return;
  __introSort(a, b, __log2(b - a) * 2, c);
  if (b - a > 16) <% __insertionSort(a, a + 16, c); for (I i = a + 16; i != b; ++i) __insertBack(i, c); %>
  else __insertionSort(a, b, c);
%>
template <class I> constexpr void sort(I a, I b) <% sort(a, b, __less()); %>
template <class I, class C> void stable_sort(I a, I b, C c) <%
  ptrdiff_t n = b - a;
  if (n < 2) return;
  if (n <= 8) <% __insertionSort(a, b, c); return; %>
  typedef typename iterator_traits<I>::value_type T;
  I m = a + n / 2;
  stable_sort(a, m, c);
  stable_sort(m, b, c);
  T *held = static_cast<T *>(::operator new(sizeof(T) * (n / 2)));
  ptrdiff_t k = n / 2, i = 0;
  for (ptrdiff_t j = 0; j < k; ++j) __make(held + j, std::move(a[j]));
  I o = a;
  while (i < k && m != b) <% if (c(*m, held[i])) <% *o = std::move(*m); ++m; %> else <% *o = std::move(held[i]); ++i; %> ++o; %>
  for (; i < k; ++i, ++o) *o = std::move(held[i]);
  __destroy(held, held + k);
  ::operator delete(held);
%>
template <class I> void stable_sort(I a, I b) <% stable_sort(a, b, __less()); %>
template <class I, class C> constexpr void partial_sort(I a, I m, I b, C c) <% __heapSelect(a, m, b, c); sort_heap(a, m, c); %>
template <class I> constexpr void partial_sort(I a, I m, I b) <% partial_sort(a, m, b, __less()); %>
template <class I, class C> constexpr void nth_element(I a, I k, I b, C c) <%
  if (a == b || k == b) return;
  ptrdiff_t depth = __log2(b - a) * 2;
  while (b - a > 3) <%
    if (depth == 0) <% __heapSelect(a, k + 1, b, c); iter_swap(a, k); return; %>
    --depth;
    I m = __cut(a, b, c);
    if (m <= k) a = m; else b = m;
  %>
  __insertionSort(a, b, c);
%>
template <class I> constexpr void nth_element(I a, I k, I b) <% nth_element(a, k, b, __less()); %>
template <class I, class C> constexpr I is_sorted_until(I a, I b, C c) <% if (a == b) return b; for (I n = a; ++n != b; a = n) if (c(*n, *a)) return n; return b; %>
template <class I> constexpr I is_sorted_until(I a, I b) <% return is_sorted_until(a, b, __less()); %>
template <class I, class C> constexpr bool is_sorted(I a, I b, C c) <% return is_sorted_until(a, b, c) == b; %>
template <class I> constexpr bool is_sorted(I a, I b) <% return is_sorted_until(a, b, __less()) == b; %>
template <class I, class C> void inplace_merge(I a, I m, I b, C c) <% stable_sort(a, b, c); %>
template <class I> void inplace_merge(I a, I m, I b) <% stable_sort(a, b, __less()); %>
template <class I, class C> constexpr bool next_permutation(I a, I b, C c) <%
  if (a == b) return false;
  I i = a;
  if (++i == b) return false;
  i = b; --i;
  for (;;) <%
    I k = i; --i;
    if (c(*i, *k)) <% I j = b; while (!c(*i, *--j)) <%%> iter_swap(i, j); std::reverse(k, b); return true; %>
    if (i == a) <% std::reverse(a, b); return false; %>
  %>
%>
template <class I> constexpr bool next_permutation(I a, I b) <% return next_permutation(a, b, __less()); %>
template <class I> constexpr bool prev_permutation(I a, I b) <% return next_permutation(a, b, greater<typename iterator_traits<I>::value_type>()); %>
template <class I, class C> constexpr bool prev_permutation(I a, I b, C c) <% return next_permutation(a, b, [c](const auto &x, const auto &y) <% return c(y, x); %>); %>
template <class I, class J> constexpr bool is_permutation(I a, I b, J c) <% J d = std::next(c, std::distance(a, b)); for (I i = a; i != b; ++i) if (std::count(a, b, *i) != std::count(c, d, *i)) return false; return true; %>
%>
#include <__random>
#if __cplusplus >= 202002L
#include <__ranges>
#endif
"),

  ("numeric", "#pragma once
#include <__iterator>
namespace std <%
template <class I, class T> constexpr T accumulate(I a, I b, T t) <% for (; a != b; ++a) t = static_cast<T &&>(t) + *a; return t; %>
template <class I, class T, class F> constexpr T accumulate(I a, I b, T t, F f) <% for (; a != b; ++a) t = f(static_cast<T &&>(t), *a); return t; %>
template <class I, class T> constexpr T reduce(I a, I b, T t) <% for (; a != b; ++a) t = t + *a; return t; %>
template <class I, class T, class F> constexpr T reduce(I a, I b, T t, F f) <% for (; a != b; ++a) t = f(t, *a); return t; %>
template <class I> constexpr typename iterator_traits<I>::value_type reduce(I a, I b) <% typename iterator_traits<I>::value_type t<%%>; for (; a != b; ++a) t = t + *a; return t; %>
template <class I, class J, class T> constexpr T inner_product(I a, I b, J c, T t) <% for (; a != b; ++a, ++c) t = t + *a * *c; return t; %>
template <class I, class J, class T, class F, class G> constexpr T inner_product(I a, I b, J c, T t, F f, G g) <% for (; a != b; ++a, ++c) t = f(t, g(*a, *c)); return t; %>
template <class I, class J, class T> constexpr T transform_reduce(I a, I b, J c, T t) <% for (; a != b; ++a, ++c) t = t + *a * *c; return t; %>
template <class I, class T, class F, class G> constexpr T transform_reduce(I a, I b, T t, F f, G g) <% for (; a != b; ++a) t = f(t, g(*a)); return t; %>
template <class I, class T> constexpr void iota(I a, I b, T t) <% for (; a != b; ++a, ++t) *a = t; %>
template <class I, class O> constexpr O partial_sum(I a, I b, O o) <% if (a == b) return o; typename iterator_traits<I>::value_type t = *a; *o = t; while (++a != b) <% t = t + *a; *++o = t; %> return ++o; %>
template <class I, class O, class F> constexpr O partial_sum(I a, I b, O o, F f) <% if (a == b) return o; typename iterator_traits<I>::value_type t = *a; *o = t; while (++a != b) <% t = f(t, *a); *++o = t; %> return ++o; %>
template <class I, class O> constexpr O inclusive_scan(I a, I b, O o) <% return partial_sum(a, b, o); %>
template <class I, class O, class T> constexpr O exclusive_scan(I a, I b, O o, T t) <% for (; a != b; ++a, ++o) <% T v = t; t = t + *a; *o = v; %> return o; %>
template <class I, class O> constexpr O adjacent_difference(I a, I b, O o) <% if (a == b) return o; typename iterator_traits<I>::value_type t = *a; *o = t; while (++a != b) <% typename iterator_traits<I>::value_type u = *a; *++o = u - t; t = u; %> return ++o; %>
template <class A, class B> constexpr common_type_t<A, B> gcd(A a, B b) <% typedef common_type_t<A, B> T; T x = a < 0 ? -T(a) : T(a), y = b < 0 ? -T(b) : T(b); while (y != 0) <% T t = x % y; x = y; y = t; %> return x; %>
template <class A, class B> constexpr common_type_t<A, B> lcm(A a, B b) <% typedef common_type_t<A, B> T; if (a == 0 || b == 0) return 0; T x = a < 0 ? -T(a) : T(a), y = b < 0 ? -T(b) : T(b); return x / gcd(x, y) * y; %>
#if __cplusplus >= 202002L
template <class T> constexpr enable_if_t<is_integral<T>::value, T> midpoint(T a, T b) noexcept <% typedef make_unsigned_t<T> U; return a > b ? T(a - T(U(U(a) - U(b)) / 2)) : T(a + T(U(U(b) - U(a)) / 2)); %>
template <class T> constexpr enable_if_t<is_floating_point<T>::value, T> midpoint(T a, T b) noexcept <% return (a + b) / 2; %>
#endif
%>
"),

  ("__random", "#pragma once
"),

  ("__ranges", "#pragma once
"),

  ("__iterator", "#pragma once
#include <utility>
namespace std <%
struct input_iterator_tag <%%>;
struct output_iterator_tag <%%>;
struct forward_iterator_tag : input_iterator_tag <%%>;
struct bidirectional_iterator_tag : forward_iterator_tag <%%>;
struct random_access_iterator_tag : bidirectional_iterator_tag <%%>;
template <class C, class T, class D = ptrdiff_t, class P = T *, class R = T &> struct iterator <%
  typedef C iterator_category; typedef T value_type; typedef D difference_type; typedef P pointer; typedef R reference;
%>;
template <class I> struct iterator_traits <%
  typedef typename I::iterator_category iterator_category;
  typedef typename I::value_type value_type;
  typedef typename I::difference_type difference_type;
  typedef typename I::pointer pointer;
  typedef typename I::reference reference;
%>;
template <class T> struct iterator_traits<T *> <%
  typedef random_access_iterator_tag iterator_category;
  typedef T value_type; typedef ptrdiff_t difference_type; typedef T *pointer; typedef T &reference;
%>;
template <class T> struct iterator_traits<const T *> <%
  typedef random_access_iterator_tag iterator_category;
  typedef T value_type; typedef ptrdiff_t difference_type; typedef const T *pointer; typedef const T &reference;
%>;
template <class I> constexpr ptrdiff_t __distance(I a, I b, input_iterator_tag) <% ptrdiff_t n = 0; while (a != b) <% ++a; ++n; %> return n; %>
template <class I> constexpr ptrdiff_t __distance(I a, I b, random_access_iterator_tag) <% return b - a; %>
template <class I> constexpr ptrdiff_t distance(I a, I b) <% return __distance(a, b, typename iterator_traits<I>::iterator_category()); %>
template <class I> constexpr void __advance(I &i, ptrdiff_t n, input_iterator_tag) <% while (n-- > 0) ++i; %>
template <class I> constexpr void __advance(I &i, ptrdiff_t n, bidirectional_iterator_tag) <% while (n > 0) <% ++i; --n; %> while (n < 0) <% --i; ++n; %> %>
template <class I> constexpr void __advance(I &i, ptrdiff_t n, random_access_iterator_tag) <% i += n; %>
template <class I, class D> constexpr void advance(I &i, D n) <% __advance(i, ptrdiff_t(n), typename iterator_traits<I>::iterator_category()); %>
template <class I> constexpr I next(I i, ptrdiff_t n = 1) <% advance(i, n); return i; %>
template <class I> constexpr I prev(I i, ptrdiff_t n = 1) <% advance(i, -n); return i; %>
template <class I> class reverse_iterator <%
protected:
  I current;
public:
  typedef I iterator_type;
  typedef typename iterator_traits<I>::iterator_category iterator_category;
  typedef typename iterator_traits<I>::value_type value_type;
  typedef typename iterator_traits<I>::difference_type difference_type;
  typedef typename iterator_traits<I>::pointer pointer;
  typedef typename iterator_traits<I>::reference reference;
  constexpr reverse_iterator() : current() <%%>
  constexpr explicit reverse_iterator(I i) : current(i) <%%>
  constexpr reverse_iterator(const reverse_iterator &o) : current(o.current) <%%>
  template <class J> constexpr reverse_iterator(const reverse_iterator<J> &o) : current(o.base()) <%%>
  reverse_iterator &operator=(const reverse_iterator &o) <% current = o.current; return *this; %>
  constexpr I base() const <% return current; %>
  constexpr reference operator*() const <% I t = current; return *--t; %>
  constexpr pointer operator->() const <% I t = current; --t; return &*t; %>
  constexpr reverse_iterator &operator++() <% --current; return *this; %>
  constexpr reverse_iterator operator++(int) <% reverse_iterator t = *this; --current; return t; %>
  constexpr reverse_iterator &operator--() <% ++current; return *this; %>
  constexpr reverse_iterator operator--(int) <% reverse_iterator t = *this; ++current; return t; %>
  constexpr reverse_iterator operator+(difference_type n) const <% return reverse_iterator(current - n); %>
  constexpr reverse_iterator operator-(difference_type n) const <% return reverse_iterator(current + n); %>
  constexpr reverse_iterator &operator+=(difference_type n) <% current -= n; return *this; %>
  constexpr reverse_iterator &operator-=(difference_type n) <% current += n; return *this; %>
  constexpr reference operator[](difference_type n) const <% return *(*this + n); %>
%>;
template <class I, class J> constexpr bool operator==(const reverse_iterator<I> &a, const reverse_iterator<J> &b) <% return a.base() == b.base(); %>
template <class I, class J> constexpr bool operator!=(const reverse_iterator<I> &a, const reverse_iterator<J> &b) <% return a.base() != b.base(); %>
template <class I, class J> constexpr bool operator<(const reverse_iterator<I> &a, const reverse_iterator<J> &b) <% return b.base() < a.base(); %>
template <class I, class J> constexpr bool operator>(const reverse_iterator<I> &a, const reverse_iterator<J> &b) <% return a.base() < b.base(); %>
template <class I, class J> constexpr bool operator<=(const reverse_iterator<I> &a, const reverse_iterator<J> &b) <% return !(a.base() < b.base()); %>
template <class I, class J> constexpr bool operator>=(const reverse_iterator<I> &a, const reverse_iterator<J> &b) <% return !(b.base() < a.base()); %>
template <class I, class J> constexpr ptrdiff_t operator-(const reverse_iterator<I> &a, const reverse_iterator<J> &b) <% return b.base() - a.base(); %>
template <class I> constexpr reverse_iterator<I> make_reverse_iterator(I i) <% return reverse_iterator<I>(i); %>
template <class C> constexpr auto begin(C &c) -> decltype(c.begin()) <% return c.begin(); %>
template <class C> constexpr auto begin(const C &c) -> decltype(c.begin()) <% return c.begin(); %>
template <class C> constexpr auto end(C &c) -> decltype(c.end()) <% return c.end(); %>
template <class C> constexpr auto end(const C &c) -> decltype(c.end()) <% return c.end(); %>
template <class T, size_t N> constexpr T *begin(T (&a)[N]) noexcept <% return a; %>
template <class T, size_t N> constexpr T *end(T (&a)[N]) noexcept <% return a + N; %>
template <class E> constexpr const E *begin(initializer_list<E> l) noexcept <% return l.begin(); %>
template <class E> constexpr const E *end(initializer_list<E> l) noexcept <% return l.end(); %>
template <class C> constexpr auto cbegin(const C &c) -> decltype(std::begin(c)) <% return std::begin(c); %>
template <class C> constexpr auto cend(const C &c) -> decltype(std::end(c)) <% return std::end(c); %>
template <class C> constexpr auto rbegin(C &c) -> decltype(c.rbegin()) <% return c.rbegin(); %>
template <class C> constexpr auto rend(C &c) -> decltype(c.rend()) <% return c.rend(); %>
template <class T, size_t N> constexpr reverse_iterator<T *> rbegin(T (&a)[N]) <% return reverse_iterator<T *>(a + N); %>
template <class T, size_t N> constexpr reverse_iterator<T *> rend(T (&a)[N]) <% return reverse_iterator<T *>(a); %>
#if __cplusplus >= 201703L
template <class C> constexpr auto size(const C &c) -> decltype(c.size()) <% return c.size(); %>
template <class T, size_t N> constexpr size_t size(const T (&)[N]) noexcept <% return N; %>
template <class C> constexpr auto empty(const C &c) -> decltype(c.empty()) <% return c.empty(); %>
template <class T, size_t N> constexpr bool empty(const T (&)[N]) noexcept <% return false; %>
template <class C> constexpr auto data(C &c) -> decltype(c.data()) <% return c.data(); %>
template <class C> constexpr auto data(const C &c) -> decltype(c.data()) <% return c.data(); %>
template <class T, size_t N> constexpr T *data(T (&a)[N]) noexcept <% return a; %>
#endif
#if __cplusplus >= 202002L
template <class C> constexpr ptrdiff_t ssize(const C &c) <% return ptrdiff_t(c.size()); %>
#endif
template <class C> class back_insert_iterator <%
  C *container;
public:
  typedef output_iterator_tag iterator_category; typedef void value_type; typedef void difference_type; typedef void pointer; typedef void reference;
  typedef C container_type;
  explicit back_insert_iterator(C &c) : container(&c) <%%>
  back_insert_iterator &operator=(const typename C::value_type &v) <% container->push_back(v); return *this; %>
  back_insert_iterator &operator=(typename C::value_type &&v) <% container->push_back(static_cast<typename C::value_type &&>(v)); return *this; %>
  back_insert_iterator &operator*() <% return *this; %>
  back_insert_iterator &operator++() <% return *this; %>
  back_insert_iterator operator++(int) <% return *this; %>
%>;
template <class C> back_insert_iterator<C> back_inserter(C &c) <% return back_insert_iterator<C>(c); %>
template <class C> class front_insert_iterator <%
  C *container;
public:
  typedef output_iterator_tag iterator_category; typedef void value_type; typedef void difference_type; typedef void pointer; typedef void reference;
  explicit front_insert_iterator(C &c) : container(&c) <%%>
  front_insert_iterator &operator=(const typename C::value_type &v) <% container->push_front(v); return *this; %>
  front_insert_iterator &operator*() <% return *this; %>
  front_insert_iterator &operator++() <% return *this; %>
  front_insert_iterator operator++(int) <% return *this; %>
%>;
template <class C> front_insert_iterator<C> front_inserter(C &c) <% return front_insert_iterator<C>(c); %>
template <class C> class insert_iterator <%
  C *container;
  typename C::iterator place;
public:
  typedef output_iterator_tag iterator_category; typedef void value_type; typedef void difference_type; typedef void pointer; typedef void reference;
  insert_iterator(C &c, typename C::iterator i) : container(&c), place(i) <%%>
  insert_iterator &operator=(const typename C::value_type &v) <% place = container->insert(place, v); ++place; return *this; %>
  insert_iterator &operator*() <% return *this; %>
  insert_iterator &operator++() <% return *this; %>
  insert_iterator &operator++(int) <% return *this; %>
%>;
template <class C> insert_iterator<C> inserter(C &c, typename C::iterator i) <% return insert_iterator<C>(c, i); %>
template <class I> class move_iterator <%
  I current;
public:
  typedef typename iterator_traits<I>::iterator_category iterator_category;
  typedef typename iterator_traits<I>::value_type value_type;
  typedef typename iterator_traits<I>::difference_type difference_type;
  typedef I pointer;
  typedef value_type &&reference;
  explicit move_iterator(I i) : current(i) <%%>
  I base() const <% return current; %>
  reference operator*() const <% return static_cast<reference>(*current); %>
  move_iterator &operator++() <% ++current; return *this; %>
  move_iterator operator++(int) <% move_iterator t = *this; ++current; return t; %>
  move_iterator operator+(difference_type n) const <% return move_iterator(current + n); %>
  move_iterator &operator+=(difference_type n) <% current += n; return *this; %>
  friend bool operator==(const move_iterator &a, const move_iterator &b) <% return a.current == b.current; %>
  friend bool operator!=(const move_iterator &a, const move_iterator &b) <% return a.current != b.current; %>
  friend difference_type operator-(const move_iterator &a, const move_iterator &b) <% return a.current - b.current; %>
%>;
template <class I> move_iterator<I> make_move_iterator(I i) <% return move_iterator<I>(i); %>
template <class T> using __needs_iterator = typename iterator_traits<T>::iterator_category;
%>
"),

  ("iterator", "#pragma once
#include <__algorithm>
"),

  ("cmath", "#pragma once
#define __CMATH
#include <math.h>
#include <type_traits>
#include <cstdlib>
#undef __CMATH
namespace std <%
#define __F1(f) using ::f; inline float f(float x) <% return ::f##f(x); %> inline long double f(long double x) <% return ::f((double)x); %> \\
  template <class T> inline typename enable_if<is_integral<T>::value, double>::type f(T x) <% return ::f((double)x); %>
#define __F2(f) using ::f; inline float f(float x, float y) <% return ::f##f(x, y); %> inline long double f(long double x, long double y) <% return ::f((double)x, (double)y); %> \\
  template <class T, class U> inline typename enable_if<is_arithmetic<T>::value && is_arithmetic<U>::value && !is_same<T, U>::value, double>::type f(T x, U y) <% return ::f((double)x, (double)y); %> \\
  template <class T> inline typename enable_if<is_integral<T>::value, double>::type f(T x, T y) <% return ::f((double)x, (double)y); %>
__F1(acos) __F1(asin) __F1(atan) __F1(cos) __F1(sin) __F1(tan) __F1(acosh) __F1(asinh) __F1(atanh) __F1(cosh) __F1(sinh) __F1(tanh)
__F1(exp) __F1(exp2) __F1(expm1) __F1(log) __F1(log10) __F1(log1p) __F1(log2) __F1(logb) __F1(cbrt) __F1(fabs) __F1(sqrt)
__F1(erf) __F1(erfc) __F1(lgamma) __F1(tgamma) __F1(ceil) __F1(floor) __F1(nearbyint) __F1(rint) __F1(round) __F1(trunc)
__F2(atan2) __F2(hypot) __F2(pow) __F2(fmod) __F2(remainder) __F2(copysign) __F2(nextafter) __F2(fdim) __F2(fmax) __F2(fmin)
#undef __F1
#undef __F2
using ::float_t; using ::double_t;
using ::frexp; using ::ldexp; using ::modf; using ::scalbn; using ::scalbln; using ::ilogb; using ::remquo; using ::nan;
inline float frexp(float x, int *e) <% return ::frexpf(x, e); %>
inline float ldexp(float x, int e) <% return ::ldexpf(x, e); %>
inline float modf(float x, float *p) <% return ::modff(x, p); %>
using ::lrint; using ::llrint; using ::lround; using ::llround; using ::fma;
inline long lround(float x) <% return ::lroundf(x); %>
inline long long llround(float x) <% return ::llroundf(x); %>
inline float fma(float x, float y, float z) <% return ::fmaf(x, y, z); %>
using ::abs;
template <class T> constexpr typename enable_if<is_arithmetic<T>::value, bool>::type isnan(T x) <% return __builtin_isnan((double)x); %>
template <class T> constexpr typename enable_if<is_arithmetic<T>::value, bool>::type isinf(T x) <% return __builtin_isinf((double)x); %>
template <class T> constexpr typename enable_if<is_arithmetic<T>::value, bool>::type isfinite(T x) <% return __builtin_isfinite((double)x); %>
template <class T> constexpr typename enable_if<is_arithmetic<T>::value, bool>::type signbit(T x) <% return __builtin_signbit((double)x) != 0; %>
template <class T> constexpr typename enable_if<is_arithmetic<T>::value, bool>::type isnormal(T x) <% return __builtin_isfinite((double)x) && __builtin_fabs((double)x) >= (sizeof(T) == 4 ? 1.17549435082228750797e-38 : 2.22507385850720138309e-308); %>
template <class T> constexpr typename enable_if<is_arithmetic<T>::value, int>::type fpclassify(T x) <% return isnan(x) ? FP_NAN : isinf(x) ? FP_INFINITE : x == 0 ? FP_ZERO : isnormal(x) ? FP_NORMAL : FP_SUBNORMAL; %>
inline double hypot(double x, double y, double z) <% return ::sqrt(x * x + y * y + z * z); %>
#if __cplusplus >= 202002L
constexpr double lerp(double a, double b, double t) noexcept <% return a + t * (b - a); %>
#endif
%>
")]

end ModuleForge.Host.Native.Headers
