import ModuleForge.Host.Native.Compiling
import ModuleForge.Host.Native.Condition

/-!
# Reading tokens

Takes tokens one after the other, looks ahead, and sets tokens aside that are read later.
-/
namespace ModuleForge.Host.Native

namespace Lexeme

def isSign (t : Lexeme) (s : String) : Bool := t.token == .sign s

def opens (t : Lexeme) : Bool := t.isSign "(" || t.isSign "[" || t.isSign "\x7b"

def closes (t : Lexeme) : Bool := t.isSign ")" || t.isSign "]" || t.isSign "\x7d"

/-- The tokens up to the sign that closes what is open, from their end, and what comes behind the
sign. -/
def upToClosing : Nat → List Lexeme → List Lexeme → Option (List Lexeme × List Lexeme)
  | _, _, [] => none
  | depth, read, t :: rest =>
    if t.opens then upToClosing (depth + 1) (t :: read) rest
    else if t.closes then
      match depth with
      | 0 => some (read, rest)
      | depth + 1 => upToClosing depth (t :: read) rest
    else upToClosing depth (t :: read) rest

/-- The tokens within brackets that have been opened, and what comes behind them. -/
def inside? (ts : List Lexeme) : Option (List Lexeme × List Lexeme) :=
  (upToClosing 0 [] ts).map fun (read, rest) => (read.reverse, rest)

/-- The tokens up to a token outside of brackets that has a property, from their end, and that token
with what follows. Brackets of templates count if `angles` says so. -/
def upTo (stop : Lexeme → Bool) (angles : Bool) : Nat → Nat → List Lexeme → List Lexeme →
    List Lexeme × List Lexeme
  | _, _, read, [] => (read, [])
  | depth, angle, read, t :: rest =>
    if depth = 0 && angle = 0 && stop t then (read, t :: rest)
    else if t.opens then upTo stop angles (depth + 1) angle (t :: read) rest
    else if t.closes then
      match depth with
      | 0 => (read, t :: rest)
      | depth + 1 => upTo stop angles depth angle (t :: read) rest
    else if angles && depth = 0 && t.isSign "<" then upTo stop angles depth (angle + 1) (t :: read) rest
    else if angles && depth = 0 && t.isSign ">" then upTo stop angles depth (angle - 1) (t :: read) rest
    else if angles && depth = 0 && t.isSign ">>" then upTo stop angles depth (angle - 2) (t :: read) rest
    else upTo stop angles depth angle (t :: read) rest

def tokens (ts : List Lexeme) : List Token := ts.map (·.token)

/-- The words among tokens. -/
def words (ts : List Lexeme) : List String := ts.filterMap fun t => match t.token with
  | .word w => some w
  | _ => none

end Lexeme

namespace Compile

def fail {α : Type} (message : String) : Compile α := throw message

def undeclared (x : String) : String := "'" ++ x ++ "' was not declared in this scope"

/-- The next token; at the end it is an empty sign. -/
def peek : Compile Token := return match (← get).tokens with
  | t :: _ => t.token
  | [] => .sign ""

/-- The token so many places ahead. -/
def ahead (n : Nat) : Compile Token := return match (← get).tokens.drop n with
  | t :: _ => t.token
  | [] => .sign ""

def advance : Compile Unit := modify fun s => { s with tokens := s.tokens.tail }

def setTokens (ts : List Lexeme) : Compile Unit := modify fun s => { s with tokens := ts }

def isSign (x : String) : Compile Bool := return (← peek) == .sign x

def isWord (x : String) : Compile Bool := return (← peek) == .word x

def acceptSign (x : String) : Compile Bool := do
  if ← isSign x then advance; return true else return false

def acceptWord (x : String) : Compile Bool := do
  if ← isWord x then advance; return true else return false

def acceptWords (xs : List String) : Compile Bool := do
  match ← peek with
  | .word w => if xs.contains w then advance; return true else return false
  | _ => return false

def expected (x : String) : Compile Unit := do
  fail ("expected '" ++ x ++ "' before '" ++ (← peek).write ++ "'")

def expectSign (x : String) : Compile Unit := do
  if !(← acceptSign x) then expected x

/-- Takes a closing sign of a template's brackets, which may be part of a longer sign. -/
def expectAngle : Compile Unit := do
  match (← get).tokens with
  | t :: rest => match t.token with
    | .sign ">" => setTokens rest
    | .sign ">>" => setTokens ({ t with token := .sign ">" } :: rest)
    | .sign ">=" => setTokens ({ t with token := .sign "=" } :: rest)
    | .sign ">>=" => setTokens ({ t with token := .sign ">=" } :: rest)
    | _ => expected ">"
  | [] => expected ">"

def isAngle : Compile Bool := return match ← peek with
  | .sign ">" | .sign ">>" | .sign ">=" | .sign ">>=" => true
  | _ => false

/-- The words that cannot be names. -/
def commonKeywords : List String :=
  ["auto", "break", "case", "char", "const", "continue", "default", "do", "double", "else", "enum",
   "extern", "float", "for", "goto", "if", "inline", "int", "long", "register", "return", "short",
   "signed", "sizeof", "static", "struct", "switch", "typedef", "union", "unsigned", "void", "volatile",
   "while", "__attribute__", "__asm__", "__extension__", "__restrict", "__typeof__", "typeof", "asm"]

def keywordsOfC : List String :=
  ["restrict", "_Alignas", "_Alignof", "_Bool", "_Generic", "_Noreturn", "_Static_assert",
   "_Thread_local"]

def keywordsOfCpp : List String :=
  ["bool", "catch", "class", "const_cast", "delete", "dynamic_cast", "explicit", "export", "false",
   "friend", "mutable", "namespace", "new", "operator", "private", "protected", "public",
   "reinterpret_cast", "static_cast", "template", "this", "throw", "true", "try", "typeid", "typename",
   "using", "virtual", "wchar_t"]

def laterKeywordsOfCpp : List String :=
  ["alignas", "alignof", "char16_t", "char32_t", "constexpr", "decltype", "noexcept", "nullptr",
   "static_assert", "thread_local"]

def isKeyword (reading : Reading) (w : String) : Bool :=
  commonKeywords.contains w || match reading.language with
    | .c => keywordsOfC.contains w
    | .cpp => keywordsOfCpp.contains w || (2011 ≤ reading.standard && laterKeywordsOfCpp.contains w)
        || (2020 ≤ reading.standard && ["char8_t", "concept", "requires", "consteval", "constinit",
          "co_await", "co_return", "co_yield"].contains w)

/-- The next token if it is a name. -/
def peekName? : Compile (Option String) := do
  match ← peek with
  | .word w => return if isKeyword (← get).reading w then none else some w
  | _ => return none

def expectName : Compile String := do
  match ← peekName? with
  | some w => advance; return w
  | none => fail ("expected unqualified-id before '" ++ (← peek).write ++ "'")

def isCpp : Compile Bool := return (← get).reading.language = .cpp

/-- Takes the tokens up to the sign that closes what has just been opened. -/
def takeInside : Compile (List Lexeme) := do
  match Lexeme.inside? (← get).tokens with
  | some (inner, rest) => setTokens rest; return inner
  | none => fail "expected closing bracket at end of input"

/-- Takes the tokens up to one outside of brackets. -/
def takeUpTo (stop : Lexeme → Bool) (angles : Bool) : Compile (List Lexeme) := do
  let (read, rest) := Lexeme.upTo stop angles 0 0 [] (← get).tokens
  setTokens rest
  return read.reverse

/-- Reads other tokens, all of them, and comes back. -/
def reading (ts : List Lexeme) (m : Compile α) : Compile α := do
  let before := (← get).tokens
  setTokens ts
  let a ← m
  match (← get).tokens with
  | [] => setTokens before; return a
  | t :: _ => fail ("expected end before '" ++ t.token.write ++ "'")

/-- Tries to read something; if it cannot be read, nothing has happened. -/
def attempt (m : Compile α) : Compile (Option α) := fun s => match m s with
  | .ok (a, s) => .ok (some a, s)
  | .error _ => .ok (none, s)

/-- Looks whether something could be read. -/
def could (m : Compile α) : Compile Bool := fun s => match m s with
  | .ok _ => .ok (true, s)
  | .error _ => .ok (false, s)

/-- Does something, and takes back all that it did. -/
def probe (m : Compile α) : Compile (Option α) := fun s => match m s with
  | .ok (a, _) => .ok (some a, s)
  | .error _ => .ok (none, s)

def warn (kind : String) : Compile Unit := do
  if (← get).isOwn then modify fun s => { s with warnings := kind :: s.warnings }

/-! ## Scopes -/

def newScope (kind : ScopeKind) (parent : Nat) : Compile Nat := modifyGet fun s =>
  (s.scopes.size, { s with scopes := s.scopes.push { kind, parent := some parent } })

def scope (id : Nat) : Compile Scope := return (← get).scopes[id]?.getD default

/-- Does something in another scope. -/
def inside (id : Nat) (m : Compile α) : Compile α := do
  let before := (← get).here
  modify fun s => { s with here := id }
  let a ← m
  modify fun s => { s with here := before }
  return a

/-- Does something in a new scope within the current one. -/
def inNew (kind : ScopeKind) (m : Compile α) : Compile α := do
  let id ← newScope kind (← get).here
  inside id m

def bindIn (id : Nat) (name : String) (b : Binding) : Compile Unit := modify fun s =>
  { s with scopes := s.scopes.modify id fun c =>
      { c with names := c.names.insert name (b :: (c.names[name]?.getD [])) } }

def bind (name : String) (b : Binding) : Compile Unit := do bindIn (← get).here name b

/-- The name under which a tag is kept. -/
def tagName (name : String) : String := "tag " ++ name

/-! ## Tables -/

def getRecord (id : Nat) : Compile Record := return (← get).records[id]?.getD default

def getFunction (id : Nat) : Compile Function := return (← get).functions[id]?.getD default

def getVariable (id : Nat) : Compile Variable := return (← get).variableTable[id]?.getD default

def getTemplate (id : Nat) : Compile Template := return (← get).templates[id]?.getD default

def getEnum (id : Nat) : Compile Enum := return (← get).enums[id]?.getD default

def changeRecord (id : Nat) (f : Record → Record) : Compile Unit := modify fun s =>
  { s with records := s.records.modify id f }

def changeFunction (id : Nat) (f : Function → Function) : Compile Unit := modify fun s =>
  { s with functions := s.functions.modify id f }

def changeVariable (id : Nat) (f : Variable → Variable) : Compile Unit := modify fun s =>
  { s with variableTable := s.variableTable.modify id f }

def changeTemplate (id : Nat) (f : Template → Template) : Compile Unit := modify fun s =>
  { s with templates := s.templates.modify id f }

def addRecord (r : Record) : Compile Nat := modifyGet fun s =>
  (s.records.size, { s with records := s.records.push { r with isOwn := s.isOwn } })

def addFunction (f : Function) : Compile Nat := modifyGet fun s =>
  (s.functions.size, { s with functions := s.functions.push { f with isOwn := s.isOwn, emptyPacks := s.emptyPacks } })

def addVariable (v : Variable) : Compile Nat := modifyGet fun s =>
  (s.variableTable.size, { s with variableTable := s.variableTable.push v })

def addTemplate (t : Template) : Compile Nat := modifyGet fun s =>
  (s.templates.size, { s with templates := s.templates.push t })

def addEnum (e : Enum) : Compile Nat := modifyGet fun s =>
  (s.enums.size, { s with enums := s.enums.push e })

def fresh : Compile Nat := modifyGet fun s => (s.counter, { s with counter := s.counter + 1 })

/-! ## Steps -/

def changeMaking (f : Making → Making) : Compile Unit := modify fun s => { s with making := f s.making }

def newPlace (size alignment : Nat) : Compile Nat := modifyGet fun s =>
  (s.making.places.size, { s with making := { s.making with
    places := s.making.places.push (size, alignment) } })

def newLabel : Compile Nat := modifyGet fun s =>
  (s.making.labels, { s with making := { s.making with labels := s.making.labels + 1 } })

def emit (step : Step) : Compile Unit := changeMaking fun m =>
  { m with
    steps := m.steps.push step
    reached := match step with
      | .label _ | .landing => true
      | .jump _ | .leave .. | .leap .. => false
      | _ => m.reached }

def emitValue (a : Core) : Compile Unit := match a with
  | .nothing => return
  | a => emit (.value a)

/-- The steps of something, which are not added to those of the function. -/
def stepsOf (m : Compile α) : Compile (α × List Step) := do
  let before := (← get).making.steps
  changeMaking fun s => { s with steps := #[] }
  let a ← m
  let steps := (← get).making.steps
  changeMaking fun s => { s with steps := before }
  return (a, steps.toList)

/-- Reads something for its types only: it leaves no steps, places, or objects behind. -/
def typesOnly (m : Compile α) : Compile α := do
  let before := (← get).making
  changeMaking fun s => { s with onlyTypes := true }
  let a ← m
  changeMaking fun s => { before with labels := s.labels, places := s.places }
  return a

/-- Does something in a function of its own. -/
def inMaking (fresh : Making) (m : Compile α) : Compile (α × Making) := do
  let before := (← get).making
  modify fun s => { s with making := fresh }
  let a ← m
  let made := (← get).making
  modify fun s => { s with making := before }
  return (a, made)

end Compile
end ModuleForge.Host.Native
