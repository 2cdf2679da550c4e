/-!
# What every program starts with

Declarations that are read before a program: the list of arguments without names, and for C++ the
functions that carry exceptions to their handlers and find the parts of objects while the program
runs.
-/
namespace ModuleForge.Host.Native

namespace Prelude

/-- Where the arguments of a function without names are found. -/
def common : String := "
typedef struct __va_list_tag <%
  unsigned int gp_offset;
  unsigned int fp_offset;
  void *overflow_arg_area;
  void *reg_save_area;
%> __builtin_va_list[1];
"

/-- Exceptions: a handler is a record in the frame of a function, linked to the one around it; an
object that is thrown has a record before it. -/
def exceptions : String := "
extern \"C\" <%
void *__support_room(unsigned long) __asm__(\"malloc\");
void __support_free(void *) __asm__(\"free\");
void __support_stop() __asm__(\"abort\");
long __support_write(int, const void *, unsigned long) __asm__(\"write\");
struct __support_handler <%
  __support_handler *outer;
  void *frame;
  void *address;
%>;
struct __support_object <%
  __support_object *next;
  const void *const *kind;
  void (*destroy)(void *);
  unsigned long uses;
%>;
inline __support_handler *__support_top = 0;
inline __support_object *__support_flying = 0;
inline __support_object *__support_caught = 0;
inline void __support_say(const char *text) <%
  unsigned long n = 0;
  while (text[n]) n++;
  __support_write(2, text, n);
%>
inline void __support_name(const char *name) <%
  if (name[0] == 'i' && !name[1]) __support_say(\"int\");
  else if (name[0] == 'c' && !name[1]) __support_say(\"char\");
  else if (name[0] == 'd' && !name[1]) __support_say(\"double\");
  else if (name[0] == 'l' && !name[1]) __support_say(\"long\");
  else if (name[0] == 'P' && name[1] == 'K' && name[2] == 'c') __support_say(\"char const*\");
  else <%
    if (name[0] == 'S' && name[1] == 't') <% __support_say(\"std::\"); name += 2; %>
    unsigned long n = 0;
    while (*name >= '0' && *name <= '9') n = n * 10 + (*name++ - '0');
    if (n) __support_write(2, name, n); else __support_say(name);
  %>
%>
inline void __support_end() <%
  if (__support_flying) <%
    __support_say(\"terminate called after throwing an instance of '\");
    __support_name((const char *)__support_flying->kind[0]);
    __support_say(\"'\\n\");
  %> else __support_say(\"terminate called without an active exception\\n\");
  __support_stop();
%>
inline void *__support_offer(unsigned long size, const void *kind, void (*destroy)(void *)) <%
  __support_object *o = (__support_object *)__support_room(size + 32);
  o->next = 0;
  o->kind = (const void *const *)kind;
  o->destroy = destroy;
  o->uses = 1;
  return o + 1;
%>
inline void __support_go() <%
  __support_handler *h = __support_top;
  if (!h) __support_end();
  __support_top = h->outer;
  __builtin_leap(h->frame, h->address);
%>
inline void __support_raise(void *p) <%
  __support_flying = (__support_object *)p - 1;
  __support_go();
%>
inline bool __support_same(const void *const *a, const void *const *b) <%
  if (a == b) return true;
  const char *x = (const char *)a[0];
  const char *y = (const char *)b[0];
  while (*x && *x == *y) <% x++; y++; %>
  return *x == *y;
%>
inline void *__support_find(const void *const *kind, const void *const *wanted, char *at) <%
  if (__support_same(kind, wanted)) return at;
  unsigned long n = (unsigned long)kind[1];
  for (unsigned long i = 0; i < n; i++) <%
    void *p = __support_find((const void *const *)kind[2 + 2 * i], wanted, at + (unsigned long)kind[3 + 2 * i]);
    if (p) return p;
  %>
  return 0;
%>
inline void *__support_match(const void *kind) <%
  return __support_find(__support_flying->kind, (const void *const *)kind, (char *)(__support_flying + 1));
%>
inline void __support_enter() <%
  __support_object *o = __support_flying;
  o->next = __support_caught;
  __support_caught = o;
  __support_flying = 0;
%>
inline void __support_leave() <%
  __support_object *o = __support_caught;
  __support_caught = o->next;
  if (--o->uses == 0) <%
    if (o->destroy) o->destroy(o + 1);
    __support_free(o);
  %>
%>
inline void __support_again() <%
  __support_object *o = __support_caught;
  if (!o) __support_end();
  o->uses++;
  __support_flying = o;
  __support_go();
%>
inline void *__support_whole(void *p) <%
  if (!p) return 0;
  return (char *)p + (*(long **)p)[-2];
%>
inline void *__support_cast(void *p, const void *kind) <%
  if (!p) return 0;
  long *table = *(long **)p;
  return __support_find((const void *const *)table[-1], (const void *const *)kind, (char *)p + table[-2]);
%>
inline void *__support_cast_reference(void *p, const void *kind) <%
  void *q = __support_cast(p, kind);
  if (!q) <%
    __support_say(\"terminate called after throwing an instance of 'std::bad_cast'\\n  what():  std::bad_cast\\n\");
    __support_stop();
  %>
  return q;
%>
%>
"

end Prelude
end ModuleForge.Host.Native
